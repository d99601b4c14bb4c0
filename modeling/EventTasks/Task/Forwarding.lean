import EventTasks.Task.Install
import EventTasks.Task.Handlers
import EventTasks.Capability

/-!
Log forwarding. A task is given the log methods of its capability that its runner offers, except
those whose name means something to the task already. A forwarder calls the method of the runner
that the task has then, with the task's name in front of the arguments.
-/
namespace EventTasks.Task

/-- `ConformanceTask._log_prefix`. -/
def logPrefix (h : Host) (self : Value) : Act Value := do
  let settings := (← around Surroundings.sharedSettings).2
  let name ← nameText h self
  let text := "[" ++ name ++ "]"
  pure (.word (if settings.useColors then settings.prefixColor.paint text else text))

def makeForwarder (h : Host) (self method : Value) : Act Value := do
  let name ← match method.text? with
    | some s => pure s
    | none => throw .functionNameNotText
  let shown ← h.formatted method
  let w ← get
  let info : ForwarderInfo := ⟨self, method, name, w.shortKindOf self ++ "." ++ shown⟩
  set { w with forwarders := w.forwarders.push info }
  pure (.function (.forwarder w.forwarders.size))

/-- The body of the forwarder made by `_make_forwarder`. -/
def forward (h : Host) (info : ForwarderInfo) (args : List Value) : Act Value := do
  let runner ← h.attr info.task runnerField
  if runner.isNothing then throw (← notInstalled h info.task)
  let runner ← h.attr info.task runnerField
  let f ← h.attr runner info.name
  let front ← h.send info.task "_log_prefix" []
  h.call f (front :: args) []

/-- `hasattr(type(self), method) or method in vars(self)`. -/
def isTaken (h : Host) (self name : Value) : Act Bool := do
  let c := (← get).classOf self
  if ← h.has (.cls c) (← Host.nameOf name) then pure true
  else h.holds (← h.ownEntries self) name

def readTarget (h : Host) (self name : Value) : Act (Except Fault Value) :=
  attempt do
    let runner ← h.attr self runnerField
    h.attrOrNothing runner (← Host.nameOf name)

/-- One turn of the loop in `ConformanceTask._attach_logger`. -/
def attachOne (h : Host) (self name : Value) : Act Unit := do
  if ← h.holds (← h.attr self forwardersField) name then pure ()
  else if ← isTaken h self name then
    let task ← nameText h self
    let shown ← h.formatted name
    say .warning s!"Error attaching logging function to conformance task [{task}] :: {shown}"
  else
    match ← readTarget h self name with
    | .error f =>
      let task ← nameText h self
      say .error s!"Error accessing runner from conformance task [{task}] :: {f.message}"
    | .ok target =>
      if !(← get).isCallable target then
        let shown ← h.formatted name
        say .warning s!"Log method not found on conformance task runner :: {shown}"
      else
        let f ← h.send self "_make_forwarder" [name]
        h.assign self (← Host.nameOf name) f
        let _ ← h.send (← h.attr self forwardersField) "add" [name]

def attachLogger (h : Host) (self : Value) : Act Value := do
  let capability ← h.attr self "log_capability"
  (← Capability.operations h capability).forM (attachOne h self)
  pure .nothing

end EventTasks.Task
