import EventTasks.Task.Basic
import EventTasks.Options
import EventTasks.Runner

/-!
Installing a task on a runner and taking it back. An install is checked first: the options, the
runner, then a handler for every entry of the registry. Only then is the runner kept and every
handler subscribed. Taking back uses the very pairs that were subscribed last.
-/
namespace EventTasks.Task

def isReadAsMapping (h : Host) (options : Value) : Act Bool := do
  match options with
  | .nothing | .options _ _ _ => pure true
  | v =>
    h.checkClass v
    pure v.isMapping

/-- `ConformanceTask._parse_options`. -/
def parseOptions (h : Host) (options : Value) : Act Value := do
  if ← isReadAsMapping h options then
    tryCatch (Options.parse h options) fun f =>
      match f with
      | .invalid report => throw (.invalidOptions report)
      | f => throw f
  else if ← h.has options runnerField then
    let runner ← h.attr options runnerField
    let flag ← h.attrOrNothing options Options.flagField
    Options.build h runner flag
  else throw (.unusableOptions ((← get).shortKindOf options))

def resolveEntry (h : Host) (self : Value) (found : List Value) (entry : Value × Value) :
    Act (List Value) := do
  let name ← handlerName h entry.1
  let f ← h.attrOrNothing self name
  if !(← get).isCallable f then
    let task ← h.attr self "name"
    throw (.missingHandler (.word name) task name (← h.formatted task))
  pure (found ++ [← newTuple [entry.2, f]])

/-- `ConformanceTask._resolve_handlers`. -/
def resolveHandlers (h : Host) (self : Value) : Act Value := do
  let events ← h.attr self "events"
  newList (← h.foldEntries events (resolveEntry h self) [])

def handOne (h : Host) (self : Value) (name : String) (_ : Unit) (pair : Value) : Act Unit := do
  let (event, f) ← h.pairOf pair
  let runner ← h.attr self runnerField
  let _ ← h.send runner name [event, f]

/-- The loops of `install` and `destroy`: a pair is taken apart only when its turn comes. -/
def handOver (h : Host) (self : Value) (name : String) (pairs : Value) : Act Unit :=
  h.foldItems pairs (handOne h self name) ()

def wantsLogger (h : Host) (self flag : Value) : Act Bool := do
  if !flag.isNothing then h.truth flag
  else
    let own ← h.attr self Options.flagField
    if !own.isNothing then h.truth own
    else pure (← around Surroundings.sharedSettings).2.attachLogger

def checkedRunner (h : Host) (options : Value) : Act Value := do
  let runner ← h.attr options runnerField
  if runner.isNothing then throw .noRunner
  if !(← Runner.accepts h runner) then throw (.notRunner (← h.describe runner))
  pure runner

/-- The part of `install` that changes nothing. -/
def checked (h : Host) (self options : Value) : Act (Value × Value × Value) := do
  let options ← h.send self "_parse_options" [options]
  let runner ← checkedRunner h options
  let pairs ← h.send self "_resolve_handlers" []
  pure (options, runner, pairs)

def warnIfInstalled (h : Host) (self : Value) : Act Unit := do
  let former ← h.attr self runnerField
  if !former.isNothing then
    let name ← nameText h self
    say .warning (s!"Task [{name}] installed again without destroy; " ++
      "its handlers will be subscribed twice")

/-- The part of `install` that sets the runner, hands it every pair and keeps the pairs. -/
def subscribe (h : Host) (self runner pairs : Value) : Act Unit := do
  h.assign self runnerField runner
  handOver h self "on" pairs
  h.assign self subscriptionsField pairs

def finish (h : Host) (self options : Value) : Act Unit := do
  let flag ← h.attr options Options.flagField
  if ← wantsLogger h self flag then
    let _ ← h.send self "_attach_logger" []
  let name ← nameText h self
  let count ← h.size (← h.attr self "events")
  say .debug s!"Installed task [{name}] with {count} events"

/-- `ConformanceTask.install`. -/
def install (h : Host) (self options : Value) : Act Value := do
  let (options, runner, pairs) ← checked h self options
  warnIfInstalled h self
  subscribe h self runner pairs
  finish h self options
  pure .nothing

def notInstalled (h : Host) (self : Value) : Act Fault := do
  let task ← h.attr self "name"
  pure (.notInstalled task (← h.formatted task))

def unsubscribe (h : Host) (self : Value) : Act Unit := do
  handOver h self "off" (← h.attr self subscriptionsField)
  h.assign self subscriptionsField (← newList [])
  h.assign self runnerField .nothing

def farewell (h : Host) (self : Value) : Act Value := do
  let name ← nameText h self
  say .debug s!"Destroyed task [{name}]"
  pure .nothing

/-- `ConformanceTask.destroy`. -/
def destroy (h : Host) (self : Value) : Act Value := do
  let runner ← h.attr self runnerField
  if runner.isNothing then throw (← notInstalled h self)
  unsubscribe h self
  farewell h self

end EventTasks.Task
