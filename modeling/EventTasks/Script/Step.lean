import EventTasks.Fault

/-!
The language of sessions. A term names a value that is made when a step needs it. A routine says
what a scripted callable does when it is called: it may raise from some call on, run steps, call
the next class's method, and give a result. A step makes an object, uses one, or changes what
surrounds them. Texts and numbers carry the place in the script where they are written, since one
that is used twice is the same thing both times.
-/
namespace EventTasks.Script

inductive Term where
  | nothing
  | flag (b : Bool)
  | int (place : Nat) (i : Int)
  | float (text : String)
  | text (place : Nat) (s : String)
  | list (items : List Term)
  | tuple (items : List Term)
  | dict (entries : List (Term × Term))
  | event (name : String)
  /-- Install options made from named values. -/
  | options (fields : List (String × Term))
  /-- What the session knows under a name. -/
  | named (id : String)
  /-- An attribute of a named object, read when the term is evaluated. -/
  | attributeOf (id name : String)
  /-- A new object without a class of its own, with these attributes. -/
  | plain (fields : List (String × Term))
  /-- A mapping with texts as keys. -/
  | mapping (entries : List (String × Term))
deriving Inhabited

structure Raised where
  kind : Except String FaultKind
  message : String

def Raised.fault (r : Raised) : Fault :=
  match r.kind with
  | .ok kind => .scripted kind r.message
  | .error name => .unknownId name

/-- From the call numbered `start` on, the callable raises. -/
structure Failure where
  start : Nat
  raised : Raised

structure Routine (σ : Type) where
  failure : Option Failure
  /-- Steps are run in the first `limit` calls. -/
  limit : Option Nat
  actions : List σ
  result : Option Term
  /-- Whether the next class's method is called with the same arguments. -/
  inherits : Bool
deriving Inhabited

inductive MemberTerm (σ : Type) where
  | method (r : Routine σ)
  | staticMethod (r : Routine σ)
  | classMethod (r : Routine σ)
  | property (result : Term)
  | failingProperty (raised : Raised)
  | value (t : Term)
deriving Inhabited

structure RecordTerm where
  name : Term
  level : Term
  path : Term
  line : Term
  message : Term
  args : List Term
  function : Term
  /-- Seconds since the start of 1970. -/
  created : Term
  /-- Whether the record carries a fault. -/
  failing : Bool

inductive Step where
  | listener (id : String) (routine : Routine Step)
  | cls (id : String) (bases : List String) (body : List (String × MemberTerm Step))
  | new (id cls : String) (args : List Term) (named : List (String × Term))
  /-- The result is emptied after it was looked at, if so asked. -/
  | call (id method : String) (args : List Term) (emptied : Bool)
  | get (id attr : String) (emptied : Bool)
  | set (id attr : String) (value : Term)
  | delete (id attr : String)
  | has (id attr : String)
  | same (a b : Term)
  | describe (value : Term)
  | isRunner (value : Term)
  | attributes (id : String)
  | dump (id : String)
  | counts (id : String)
  | operations (value : Term)
  | setVariable (name value : Term)
  | setFile (text : Option String)
  | settings (named : List (String × Term))
  | sharedSettings
  | resetSettings
  | levels
  | applySettings (named : Option (List (String × Term)))
  | setLevel (level : Term)
  | logger (name level : Term)
  | handler
  | freshLogging
  | terminal (value : Term)
  | file (id : String) (level colors : Term)
  | record (r : RecordTerm)
deriving Inhabited

end EventTasks.Script
