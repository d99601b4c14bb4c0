import EventTasks.Script.Session

/-!
Single questions to the library, asked of a fresh world: how a handler is called, what an event
is, what the tables hold, how a record is laid out, what options or a fault come to.
-/
namespace EventTasks

open Script (Term RecordTerm)

inductive TaskFault where
  | general | install | missingHandler | notInstalled
deriving DecidableEq, Repr

namespace TaskFault

def kind : TaskFault → FaultKind
  | general => .task
  | install => .install
  | missingHandler => .missingHandler
  | notInstalled => .notInstalled

def name : TaskFault → String
  | general => "ConformanceTaskError"
  | install => "InstallError"
  | missingHandler => "MissingHandlerError"
  | notInstalled => "TaskNotInstalledError"

def signature? : TaskFault → Option Signature
  | missingHandler => some { parameters := ["self", "handler", "task"] }
  | notInstalled => some { parameters := ["self", "task"] }
  | _ => none

def ancestry : TaskFault → List FaultKind
  | general => [.task]
  | f => [f.kind, .task]

def messageOf (h : Host) : List Value → Act String
  | [] => pure ""
  | [v] => h.textOf v
  | args => do h.describe (← newTuple args)

end TaskFault

inductive Inquiry where
  | handlerName (key : Term)
  | registryKey (event : Term)
  | eventOf (identifier : Term)
  | eventNamed (name : Term)
  | registryEntries
  | registrySize
  | registryEntry (key : Term)
  | registryHas (key : Term)
  | registryChange (deletion : Bool)
  | paint (text color : Term)
  | tables
  | layout (colors terminal : Term) (record : RecordTerm)
  | options (value : Term)
  | fault (f : TaskFault) (args : List Term)

inductive Finding where
  | view (v : View)
  | event (e : ParseEvent) (description text : String)
  | tables
  | line (painted : View) (text : String)
  | options (same : Bool) (v : View)
  | fault (f : FaultView) (args : List View) (ancestry : List FaultKind)

namespace Inquiry

def eventFinding (h : Host) (e : ParseEvent) : Act Finding := do
  pure (.event e (← h.describe (.event e)) (← h.textOf (.event e)))

def findByText (h : Host) (v : Value) (find : String → Option α) : Act α := do
  match v.key with
  | .error kind => throw (.unhashable kind)
  | .ok [.text s] =>
    match find s with
    | some a => pure a
    | none => throw (.missingKey (← h.describe v))
  | .ok _ => throw (.missingKey (← h.describe v))

def makeFault (h : Host) (f : TaskFault) (args : List Value) : Act Finding := do
  match f.signature? with
  | none =>
    let message ← TaskFault.messageOf h args
    let w ← get
    pure (.fault ⟨f.kind, Text.masked message, []⟩ (args.map w.view) f.ancestry)
  | some s =>
    match s.bind (.nothing :: args) [] with
    | .error a => throw (.arity (f.name ++ ".__init__") a)
    | .ok _ =>
      let fault ← match f, args with
        | .missingHandler, [handler, task] => do
          let handlerText ← h.formatted handler
          pure (Fault.missingHandler handler task handlerText (← h.formatted task))
        | _, [task] => do pure (.notInstalled task (← h.formatted task))
        | _, _ => pure .noRunner
      let w ← get
      pure (.fault (w.viewFault fault) [.text (Text.masked fault.message)] f.ancestry)

def answer (h : Host) : Inquiry → Act Finding
  | handlerName key => do
    let name ← Task.handlerName h (← Script.evaluate h key)
    pure (.view (.text name))
  | registryKey event => do
    let key ← Task.registryKey h (← Script.evaluate h event)
    pure (.view (.text key))
  | eventOf t => do eventFinding h (← Task.eventOf h (← Script.evaluate h t))
  | eventNamed t => do
    eventFinding h (← findByText h (← Script.evaluate h t) ParseEvent.ofName?)
  | registryEntries => do pure (.view ((← get).view .registry))
  | registrySize => pure (.view (.int ParseEvent.registry.length))
  | registryEntry t => do
    let v ← Script.evaluate h t
    let identifier ← findByText h v fun s => ParseEvent.registry.lookup s
    pure (.view (.text identifier))
  | registryHas t => do
    match (← Script.evaluate h t).key with
    | .error kind => throw (.unhashable kind)
    | .ok k => pure (.view (.flag (Value.lookup? k Value.registryEntries).isSome))
  | registryChange deletion => throw (.readOnlyItem deletion)
  | paint text color => do
    let text ← Script.evaluate h text
    let c ← findByText h (← Script.evaluate h color) Log.Color.ofName?
    pure (.view (.text (c.paint (← h.textOf text))))
  | tables => pure .tables
  | layout colors terminal t => do
    Script.setTerminal h (← Script.evaluate h terminal)
    let painted ← Script.paintedOf h (← Script.evaluate h colors)
    let record ← Script.recordOf h t
    let text ← record.lineText h painted
    pure (.line ((← get).view painted) text)
  | options t => do
    let v ← Script.evaluate h t
    let found ← Options.parse h v
    pure (.options (found.isSame v) ((← get).view found))
  | fault f args => do makeFault h f (← Script.evaluateAll h args)

/-- The finding, or the fault, of an inquiry in a fresh world. -/
def ask (q : Inquiry) : Except FaultView Finding :=
  match answer (Host.ofDepth Host.sessionDepth) q World.start with
  | .ok found _ => .ok found
  | .error f w => .error (w.viewFault f)

end Inquiry

end EventTasks
