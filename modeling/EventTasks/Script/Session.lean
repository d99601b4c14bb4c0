import EventTasks.Script.Performing

/-!
Sessions. The host of depth zero refuses every call; each greater depth answers by the library's
operations over the host below it, so that scripted code may come back to the library as often as
the depth allows. A session runs its steps in order on one world; a fault ends its step and leaves
what was done. The answer to a step shows the outcome, what scripted callables did, and the log
records heard.
-/
namespace EventTasks

namespace Host

def exhausted : Host where
  call _ _ _ := throw .tooDeep
  property _ _ := throw .tooDeep
  describeRef _ := throw .tooDeep
  perform _ := throw .tooDeep

/-- The host that answers by the library's operations, which in turn ask `h`. -/
def layered (h : Host) : Host where
  call := Script.callValue h
  property := Script.readProperty h
  describeRef := h.describeHeld
  perform := Script.perform h

def ofDepth : Nat → Host
  | 0 => exhausted
  | depth + 1 => layered (ofDepth depth)

/-- How deep calls may be nested in a session. -/
def sessionDepth : Nat := 12000

end Host

structure FaultView where
  kind : FaultKind
  message : String
  details : List (String × View)

structure HeardView where
  level : View
  logger : View
  message : Except FaultKind String

structure Answer where
  outcome : Except FaultView Reply
  notes : List Note
  heard : List HeardView

namespace World

def faultDetails (w : World) : Fault → List (String × View)
  | .missingHandler handler task _ _ =>
    [("handler", w.viewPlainly handler), ("task", w.viewPlainly task)]
  | .notInstalled task _ => [("task", w.viewPlainly task)]
  | _ => []

def viewFault (w : World) (f : Fault) : FaultView :=
  ⟨f.kind, Text.masked f.message, w.faultDetails f⟩

def clear (w : World) : World :=
  { w with notes := [], around := { w.around with root := { w.around.root with heard := [] } } }

def viewHeard (w : World) (h : Log.Heard) : HeardView :=
  ⟨w.viewExactly h.level, w.viewExactly h.logger, h.message.map Text.masked⟩

def answer (w : World) (outcome : Except Fault Reply) : Answer :=
  { outcome := outcome.mapError w.viewFault
    notes := w.notes.reverse
    heard := w.around.root.heard.reverse.map w.viewHeard }

/-- Runs one step. -/
def step (h : Host) (w : World) (s : Script.Step) : Answer × World :=
  match h.perform s w.clear with
  | .ok reply w => (w.answer (.ok reply), w)
  | .error f w => (w.answer (.error f), w)

def run (h : Host) (w : World) : List Script.Step → List Answer
  | [] => []
  | s :: rest =>
    let (a, w) := w.step h s
    a :: run h w rest

end World

/-- The answers to the steps of a session, one for each. -/
def session (steps : List Script.Step) : List Answer :=
  World.start.run (Host.ofDepth Host.sessionDepth) steps

end EventTasks
