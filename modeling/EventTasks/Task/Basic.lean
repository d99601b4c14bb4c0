import EventTasks.Mapping
import EventTasks.Naming

/-!
What the operations of a task share: the attributes in which a task keeps what it needs, the names
under which its handlers are looked up, and the logger that tasks write to.
-/
namespace EventTasks.Task

/-- The attributes of a task: its runner, the handlers given at construction, those bound at
construction, its log methods, and the pairs that the last install handed over. -/
def runnerField : String := "runner"
def overridesField : String := "_overrides"
def handlersField : String := "_handlers"
def forwardersField : String := "_forwarders"
def subscriptionsField : String := "_subscriptions"

def nameText (h : Host) (self : Value) : Act String := do h.formatted (← h.attr self "name")

def loggerName : String := "conformance.task"

def say (severity : Log.Severity) (message : String) : Act Unit :=
  around (Surroundings.say severity loggerName message)

def handlerName (h : Host) (key : Value) : Act String := do
  match key with
  | .text _ s =>
    match Naming.handlerName? s with
    | some name => pure name
    | none => throw .emptyEventKey
  | v =>
    if ← h.truth v then
      let lowered ← h.send v "lower" []
      pure (Naming.handlerWord ++ (← h.formatted lowered))
    else throw .emptyEventKey

def eventsByIdentifier : Dictionary :=
  .ofTexts (ParseEvent.all.map fun e => (e.identifier, .event e))

def eventEqualTo (h : Host) (v : Value) : List ParseEvent → Act (Option ParseEvent)
  | [] => pure none
  | e :: rest => do
    let equal ← match ← h.answer? v (.word e.identifier) with
      | some found => h.truth found
      | none => pure false
    if equal then pure (some e) else eventEqualTo h v rest

/-- `ParseEvent(value)`. -/
def eventOf (h : Host) (v : Value) : Act ParseEvent := do
  let unknown : Act ParseEvent := do throw (.unknownEvent (← h.describe v))
  match v with
  | .event e => pure e
  | v =>
    match ← attempt (h.findIn eventsByIdentifier v) with
    | .ok (some (.event e)) => pure e
    | .ok _ => unknown
    | .error f =>
      if f.kind = .key then unknown
      else if f.kind = .type then
        match ← eventEqualTo h v ParseEvent.all with
        | some e => pure e
        | none => unknown
      else throw f

/-- `event_key`. -/
def registryKey (h : Host) (event : Value) : Act String := do
  match event with
  | .text _ s => pure (Naming.registryKey s)
  | v =>
    if v.objectPlace?.isSome then
      let _ ← h.attr? v "__class__"
    match ← attempt (eventOf h v) with
    | .ok e => pure e.name
    | .error f =>
      if f.kind.isValue then do pure (Text.upper (← h.textOf v)) else throw f

end EventTasks.Task
