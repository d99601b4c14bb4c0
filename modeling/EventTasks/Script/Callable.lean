import EventTasks.Calling
import EventTasks.Script.Classes

/-!
Calling values and evaluating properties. A class makes an object, a method calls its function with
its subject in front, and a scripted callable does what its routine says.
-/
namespace EventTasks.Script

def readProperty (h : Host) (i : Nat) : PropertyRule → Act Value
  | .installed => Task.installed h (.object i)
  | .handlers => Task.handlers h (.object i)
  | .result t => evaluate h t
  | .failing raised => throw raised.fault

def callFunction (h : Host) (f : Function) (isBound : Bool) (args : List Value)
    (named : List (String × Value)) : Act Value := do
  match f with
  | .library op => Calling.library h op isBound args named
  | .scripted i =>
    match named, (← get).functions[i]? with
    | (name, _) :: _, some k =>
      let taken := !args.isEmpty && k.form.subject? == some name
      throw (.arity k.qualifiedName (if taken then .givenTwice name else .unexpectedName name))
    | _, _ => callScripted h i args
  | .forwarder i =>
    match (← get).forwarders[i]? with
    | some info => Task.forward h info args
    | none => pure .nothing

def allocate (h : Host) (c : Nat) (args : List Value) (named : List (String × Value)) :
    Act Value := do
  let w ← get
  match w.hook? c "__new__" with
  | some entry => do h.call (← h.fetch entry none c) (.cls c :: args) named
  | none =>
    if Object.isUsuallyCreated w c && !(args.isEmpty && named.isEmpty) then
      throw (.noArguments (w.className c))
    else Object.make h c

def prepare (h : Host) (v : Value) (args : List Value) (named : List (String × Value)) :
    Act Unit := do
  let w ← get
  let c := w.classOf v
  let result ← match w.definition? c "__init__" with
    | some (.ref (.function f)) => callFunction h f true (v :: args) named
    | some entry => do h.call (← h.fetch entry (some v) c) args named
    | none => pure .nothing
  if !result.isNothing then throw (.createReturned ((← get).kindOf result))

/-- `type.__call__`: `__new__`, then `__init__` if that gave an object of the class. -/
def makeObject (h : Host) (c : Nat) (args : List Value) (named : List (String × Value)) :
    Act Value := do
  let made ← allocate h c args named
  let w ← get
  if made.objectPlace?.isSome && w.isUnder (w.classOf made) c then prepare h made args named
  pure made

def callType (h : Host) (args : List Value) : Act Value := do
  let w ← get
  match args with
  | [v] => pure (.cls (w.classOf v))
  | [name, bases, body] =>
    match name.text?, bases, body with
    | none, _, _ => throw (.classPart 1 "str" (w.kindOf name))
    | some id, .tuple _ items, .ref (.dict p) => do
      let c ← reserveClass id
      let given := (w.dictAt p).toPairs.filterMap fun e => e.1.text?.map (·, e.2)
      makeFrom h c id items (withDefaults given [("__module__", .word "__main__")])
    | some _, .tuple _ _, v => throw (.classPart 3 "dict" (w.kindOf v))
    | some _, v, _ => throw (.classPart 2 "tuple" (w.kindOf v))
  | _ => throw .classParts

def callAbstractType (h : Host) (args : List Value) (named : List (String × Value)) :
    Act Value :=
  let signature : Signature :=
    { parameters := ["mcls", "name", "bases", "namespace"], isOpen := true }
  match signature.bind (.nothing :: args) named with
  | .error f => throw (.arity "ABCMeta.__new__" f)
  | .ok (parts, _) => callType h parts.tail

def callValue (h : Host) (v : Value) (args : List Value) (named : List (String × Value)) :
    Act Value := do
  let w ← get
  match v with
  | .ref (.subject (.object _)) =>
    match w.definition? (w.classOf v) "__call__" with
    | some (.ref (.function f)) => callFunction h f true (v :: args) named
    | some entry => do h.call (← h.fetch entry (some v) (w.classOf v)) args named
    | none => throw (.notCallable (w.kindOf v))
  | .ref (.subject (.cls c)) =>
    if c = Library.typeClass then callType h args
    else if w.isUnder c Library.abstractTypeClass then callAbstractType h args named
    else makeObject h c args named
  | .ref (.function f) | .ref (.staticMethod f) => callFunction h f false args named
  | .ref (.method _ self f) => callFunction h f true (.ref (.subject self) :: args) named
  | .ref (.bound p) =>
    match w.bound[p]? with
    | some (self, f) => callFunction h f true (self :: args) named
    | none => pure .nothing
  | v => throw (.notCallable (w.kindOf v))

end EventTasks.Script
