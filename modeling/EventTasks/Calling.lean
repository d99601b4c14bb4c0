import EventTasks.Emitter.Operations
import EventTasks.Task.Construction
import EventTasks.Task.Handlers
import EventTasks.Task.Forwarding
import EventTasks.Object
import EventTasks.Contract
import EventTasks.Holding
import EventTasks.Script.Running

/-!
Calling the library's functions: how arguments are matched with parameters, and which operation a
function carries out. Parameters left out are nothing.
-/
namespace EventTasks

namespace Signature

def argument? (s : Signature) (args : List Value) (named : List (String × Value)) (index : Nat) :
    Option Value :=
  match args[index]? with
  | some v => some v
  | none => (s.parameters[index]?).bind fun name => named.lookup name

def namedFault? (s : Signature) (given : Nat) (named : List (String × Value)) :
    Option ArityFault :=
  named.findSome? fun p =>
    match s.parameters.idxOf? p.1 with
    | none => if s.isOpen then none else some (.unexpectedName p.1)
    | some i => if i < given then some (.givenTwice p.1) else none

/-- Matches arguments with parameters; the arguments beyond them come second. -/
def bind (s : Signature) (args : List Value) (named : List (String × Value)) :
    Except ArityFault (List Value × List Value) :=
  let most := s.parameters.length
  let least := most - s.optional
  match s.namedFault? args.length named with
  | some f => .error f
  | none =>
    if most < args.length ∧ !s.variadic then .error (.tooMany least most args.length)
    else
      let found := (List.range most).map (s.argument? args named)
      let lacking := ((s.parameters.zip found).take least).filter fun p => p.2.isNone
      if lacking.isEmpty then .ok (found.map (·.getD .nothing), args.drop most)
      else .error (.missing (lacking.map Prod.fst))

end Signature

namespace Calling

def capabilityLogger : String := "conformance.task_logger"

/-- `ConformanceLogger.log` and its levels: one record of the arguments' texts, joined by spaces. -/
def log (h : Host) (op : LogOp) (args : List Value) : Act Value := do
  let texts ← h.textsOf args
  around (Surroundings.say op.severity capabilityLogger (String.intercalate " " texts))
  pure .nothing

def task (h : Host) (op : TaskOp) (self : Value) (args : List Value) : Act Value :=
  match op, args with
  | .create, [name, handlers] => Task.create h self name handlers
  | .describe, _ => Task.describe h self
  | .init, _ => Task.init h self
  | .handlerNames, _ => Task.handlerNames h self
  | .bindHandlers, _ => Task.bindHandlers h self
  | .parseOptions, [options] => Task.parseOptions h options
  | .resolveHandlers, _ => Task.resolveHandlers h self
  | .install, [options] => Task.install h self options
  | .destroy, _ => Task.destroy h self
  | .logPrefix, _ => Task.logPrefix h self
  | .makeForwarder, [method] => Task.makeForwarder h self method
  | .attachLogger, _ => Task.attachLogger h self
  | _, _ => pure .nothing

def listenerText (self : Value) : Act Value := do
  let w ← get
  match self.objectPlace? with
  | some i => pure (.word ("<fn " ++ ((w.objects[i]?.bind ObjectInfo.label).getD "") ++ ">"))
  | none => throw (w.missing self "__repr__")

def listener (h : Host) (op : ListenerOp) (self : Value) (args : List Value) : Act Value :=
  match op with
  | .create => pure .nothing
  | .call => Script.callListener h self args
  | .describe => listenerText self

def cls (h : Host) (op : ClassOp) (self : Value) (args extra : List Value)
    (named : List (String × Value)) : Act Value := do
  let w ← get
  match op, self.classPlace?, args with
  | .call, _, _ => h.call self extra named
  | .prepare, _, _ => newDict {}
  | .order, some c, _ => newList ((w.orderOf c).map .cls)
  | .subclasses, some c, _ =>
    newList (((List.range w.classes.size).filter fun k => c ∈ (w.classInfo k).bases).map .cls)
  | .isInstance, some c, [v] => pure (.flag (w.isUnder (w.classOf v) c))
  | .isSubclass, some c, [v] =>
    match v.classPlace? with
    | some d => pure (.flag (w.isUnder d c))
    | none => throw .classArgument
  | op, _, _ => throw (w.missing self op.name)

def operation (h : Host) (op : Operation) (self : Value) (args extra : List Value)
    (named : List (String × Value)) : Act Value :=
  match op with
  | .emitter op => Emitter.perform h op self args extra
  | .contract op => Contract.perform h op self args extra named
  | .log op => log h op extra
  | .task op => task h op self args
  | .object op => Object.perform h op self args extra named
  | .listener op => listener h op self extra
  | .cls op => cls h op self args extra named
  | .holding _ op => h.holdingMethod op self extra named
  | .text op => Host.textMethod op self extra named

def plain (h : Host) (op : Operation) (args : List Value) (named : List (String × Value)) :
    Act Value :=
  match op.signature.bind args named with
  | .error f => throw (.arity op.qualifiedName f)
  | .ok ([], _) => pure .nothing
  | .ok (self :: rest, extra) => operation h op self rest extra named

def shownName (w : World) (op : Operation) (v : Value) : String :=
  let c := v.classPlace?.getD (w.classOf v)
  (w.classInfo c).qualifiedName ++ "." ++ op.name

def withoutObject (op : Operation) : Fault :=
  match op, op.form with
  | .object .new, _ => .needsClass
  | _, .builtin => .needsSubject op.qualifiedName
  | _, _ => .needsObject op.name op.owner

def countFault (w : World) (op : Operation) (isBound : Bool) (self : Value) (wanted given : Nat) :
    Fault :=
  let name := if isBound then shownName w op self else op.qualifiedName
  match op.form, wanted with
  | .builtin, 0 => .exactlyNone name given
  | .builtin, _ => .exactlyOne name given
  | _, _ => .miscounted wanted given

def counted (h : Host) (op : Operation) (isBound : Bool) (args : List Value)
    (named : List (String × Value)) : Act Value := do
  let wanted := op.signature.parameters.length - 1
  match args, op.signature.variadic with
  | [], _ => throw (withoutObject op)
  | self :: extra, true => operation h op self [] extra named
  | self :: rest, false =>
    if rest.length = wanted then operation h op self rest [] named
    else throw (countFault (← get) op isBound self wanted rest.length)

/-- Calls a library function. -/
def library (h : Host) (op : Operation) (isBound : Bool) (args : List Value)
    (named : List (String × Value)) : Act Value :=
  match op.form with
  | .plain => plain h op args named
  | _ => counted h op isBound args named

end Calling

end EventTasks
