import EventTasks.Capability
import EventTasks.Script.Callable
import EventTasks.Script.Classes
import EventTasks.Script.Configuring
import EventTasks.Script.Recording

/-!
What each step of a session does and replies. A view is taken of a result before anything else
happens to it.
-/
namespace EventTasks.Script

def silent : Reply := .view .nothing

def reply (v : Value) : Act Reply := do pure (.view ((← get).view v))

def replyWith (h : Host) (v : Value) (emptied : Bool) : Act Reply := do
  let shown ← reply v
  if emptied then h.empty v
  pure shown

def replyNames (names : List Value) : Act Reply := do
  pure (.view (.list (names.map (← get).viewExactly)))

def makeListener (id : String) (routine : Routine Step) : Act Unit := do
  let info : ObjectInfo :=
    { cls := Library.listenerClass, label := some id, attributes := some (← newDictPlace {})
      behaviour := some { routine } }
  define id (.object (← newObject info))

def restore (id : String) (former : Option Value) : Act Unit :=
  modify fun w =>
    let others := w.names.filter fun p => p.1 ≠ id
    { w with names := match former with
      | some v => (id, v) :: others
      | none => others }

def makesOwnWay : Value → Bool
  | .ref (.subject _) | .ref (.part _ _) | .options _ _ _ => false
  | _ => true

def makeNamed (h : Host) (id : String) (cls : Value) (args : List Value)
    (fields : List (String × Value)) : Act Unit := do
  if makesOwnWay cls then
    let kind := (← get).kindOf cls
    throw (.notClass kind kind)
  let v ← h.call (← h.attr cls "__new__") [cls] []
  let former := (← get).names.lookup id
  define id v
  label id v
  match ← attempt (do h.call (← h.attr v "__init__") args fields) with
  | .ok _ => pure ()
  | .error f =>
    restore id former
    throw f

def attributeNames (h : Host) (v : Value) : Act (List Value) := do
  let names ← h.items (← h.ownEntries v)
  let isPublic (name : Value) : Act Bool := do
    pure !(← h.truth (← h.send name "startswith" [.word "_"]))
  let found ← names.filterM isPublic
  pure ((Text.Sorted.ofList (found.filterMap Value.text?)).map .word)

def dumpEvents (h : Host) (v : Value) (withListeners : Bool) : List Value → Act (List View)
  | [] => pure []
  | event :: rest => do
    let shown := (← get).view event
    let count ← h.send v "listener_count" [event]
    let line := [shown, (← get).view count]
    let line ← if withListeners then do
        let listeners ← h.send v "listeners" [event]
        pure (line ++ [(← get).view listeners])
      else pure line
    pure (.list line :: (← dumpEvents h v withListeners rest))

def dump (h : Host) (id : String) (withListeners : Bool) : Act Reply := do
  let v ← named id
  let events ← h.send v "event_names" []
  pure (.view (.list (← dumpEvents h v withListeners (← h.items events))))

def showSettings : Act Reply := do
  let (reading, settings) ← around Surroundings.sharedSettings
  let seen := (← get).seen
  modify fun w => { w with seen := some reading }
  pure (.sharedSettings (seen == some reading) settings)

/-- Carries out a step about settings and logging. -/
def configure (h : Host) : Step → Act Reply
  | .setVariable name value => do
    let name ← evaluate h name
    setVariable name (← evaluate h value)
    pure silent
  | .setFile text => do
    setFile text
    pure silent
  | .settings fields => do pure (.settings (← settingsOf h (← evaluateFields h fields)))
  | .sharedSettings => showSettings
  | .resetSettings => do
    around Surroundings.resetSettings
    pure silent
  | .applySettings fields => do
    let given ← match fields with
      | some fields => do pure (some (← settingsOf h (← evaluateFields h fields)))
      | none => pure none
    around (Surroundings.applySettings given)
    pure (.status (← status))
  | .setLevel t => do
    setLevel h (← evaluate h t)
    pure (.status (← status))
  | .logger name level => do
    let name ← evaluate h name
    let found ← findLogger h name (← evaluate h level)
    pure (.logger (.text found) (← status))
  | .handler => do
    around Surroundings.initialise
    pure (.handler (← get).around.root.console.isSome (← status))
  | .freshLogging => do
    around (Surroundings.modifyRoot Log.Root.forget)
    pure silent
  | .terminal t => do
    setTerminal h (← evaluate h t)
    pure silent
  | .file id level colors => do
    let level ← evaluate h level
    let file ← addFile h id level (← evaluate h colors)
    pure (.file file.level ((← get).view file.painted) true)
  | .record t => do
    let r ← recordOf h t
    around Surroundings.initialise
    let _ ← loggerNamed h r.name
    pure (.delivery (← r.deliver h))
  | _ => do pure (.status (← status))

/-- Carries out a step. -/
def perform (h : Host) : Step → Act Reply
  | .listener id routine => do
    makeListener id routine
    pure silent
  | .cls id bases body => do replyNames (← makeClass h id bases body)
  | .new id cls args fields => do
    let c ← named cls
    let args ← evaluateAll h args
    makeNamed h id c args (← evaluateFields h fields)
    pure silent
  | .call id method args emptied => do
    let f ← h.attr (← named id) method
    let args ← evaluateAll h args
    replyWith h (← h.call f args []) emptied
  | .get id attr emptied => do replyWith h (← h.attr (← named id) attr) emptied
  | .set id attr t => do
    let v ← named id
    h.assign v attr (← evaluate h t)
    pure silent
  | .delete id attr => do
    h.remove (← named id) attr
    pure silent
  | .has id attr => do pure (.view (.flag (← h.has (← named id) attr)))
  | .same a b => do
    let v ← evaluate h a
    let v' ← evaluate h b
    pure (.view (.flag (v.isSame v')))
  | .describe t => do
    let text ← h.describe (← evaluate h t)
    pure (.view (.text (Text.masked text)))
  | .isRunner t => do pure (.view (.flag (← Runner.accepts h (← evaluate h t))))
  | .attributes id => do replyNames (← attributeNames h (← named id))
  | .dump id => dump h id true
  | .counts id => dump h id false
  | .operations t => do replyNames (← Capability.operations h (← evaluate h t))
  | s => configure h s

end EventTasks.Script
