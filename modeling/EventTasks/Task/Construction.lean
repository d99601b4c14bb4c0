import EventTasks.Task.Basic
import EventTasks.Text.Sorted

/-!
How a task is made. The given handlers are named and kept; then the handlers of the class that can
be called are bound to the task, the given ones over them, and each is pinned as an attribute, so
that the object subscribed later is the one taken back.
-/
namespace EventTasks.Task

/-- One turn of the loop over `handlers` in `ConformanceTask.__init__`. -/
def takeOverride (h : Host) (self event f : Value) : Act Unit := do
  if !(← get).isCallable f then throw (.handlerNotCallable (← h.describe event))
  let overrides ← h.attr self overridesField
  let key ← registryKey h event
  let name ← handlerName h (.word key)
  h.storeItem overrides (.word name) f

/-- `ConformanceTask.__init__`. -/
def create (h : Host) (self name handlers : Value) : Act Value := do
  if !name.isNothing then h.assign self "name" name
  h.assign self runnerField .nothing
  h.assign self overridesField (← newDict {})
  if ← h.truth handlers then
    h.foldEntries handlers (fun _ p => takeOverride h self p.1 p.2) ()
  h.assign self handlersField .nothing
  h.assign self forwardersField (← newNames)
  h.assign self subscriptionsField (← newList [])
  let _ ← h.send self "init" []
  pure .nothing

def init (h : Host) (self : Value) : Act Value := do
  let bound ← h.attr self handlersField
  if bound.isNothing then
    let _ ← h.send self "_bind_handlers" []
  pure .nothing

/-- The names that `inspect.getmembers` goes through for a class. -/
def namesAlong (w : World) (order : List Nat) : List String :=
  Text.Sorted.ofList (order.flatMap fun c => (w.classInfo c).body.map Prod.fst)

def checkEntries (h : Host) (c : Nat) : Act Unit := do
  ((← get).classInfo c).body.forM fun p => do
    if p.2.objectPlace?.isSome then
      let _ ← h.attr? p.2 "__class__"

/-- What `inspect.getmembers` reads for a name of a class. -/
def entryOf (h : Host) (c : Nat) (name : String) : Act Value := do
  match ← h.attr? (.cls c) name with
  | some v => pure v
  | none => do pure (((← get).definition? c name).getD .nothing)

def handlersAmong (h : Host) (c : Nat) : List String → Act (List String)
  | [] => pure []
  | name :: rest => do
    let found ← entryOf h c name
    let isHandler := (← get).isCallable found && Naming.isHandlerName name
    let others ← handlersAmong h c rest
    pure (if isHandler then name :: others else others)

def handlerNames (h : Host) (self : Value) : Act Value := do
  let w ← get
  let c := w.classOf self
  (w.classInfo c).bases.forM (checkEntries h)
  let names ← handlersAmong h c (namesAlong w (w.orderOf c))
  newList (names.map .word)

def pin (h : Host) (self : Value) : List (Value × Value) → Act Unit
  | [] => pure ()
  | (name, f) :: rest => do
    h.assign self (← Host.nameOf name) f
    pin h self rest

/-- `ConformanceTask._bind_handlers`. -/
def bindHandlers (h : Host) (self : Value) : Act Value := do
  let names ← h.send self "_get_handlers" []
  let found ← h.foldItems names (fun table name => do
    let f ← h.attr self (← Host.nameOf name)
    h.storeIn name f table) {}
  let table ← h.addEntries (← h.attr self overridesField) found
  pin h self table.toPairs
  h.assign self handlersField (← newDict table)
  let name ← nameText h self
  say .debug s!"Bound {table.size} handlers for task [{name}]"
  pure .nothing

def describe (h : Host) (self : Value) : Act Value := do
  let name ← h.describe (← h.attr self "name")
  let installed ← h.formatted (← h.attr self "installed")
  let cls := (← get).shortKindOf self
  pure (.word s!"<{cls}(name={name}, installed={installed})>")

def installed (h : Host) (self : Value) : Act Value := do
  let runner ← h.attr self runnerField
  pure (.flag !runner.isNothing)

end EventTasks.Task
