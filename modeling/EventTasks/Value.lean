import EventTasks.Number.Double
import EventTasks.ParseEvent

/-!
The values that events carry, attributes hold and callables take and give back. Plain data is held
in place. What has an identity of its own is held by reference: objects, classes, functions, the
methods made by reading a function from an object, and the collections that may change. What never
changes may still be made more than once: a stamp tells such things apart, and texts and whole
numbers have the place in a script where they are written.
-/
namespace EventTasks

inductive EmitterOp where
  | create | on | off | emit | listeners | listenerCount | eventNames | removeAllListeners
  | describe
deriving DecidableEq, Repr

inductive LogOp where
  | log | info | warn | error | debug
deriving DecidableEq, Repr

inductive TaskOp where
  | create | describe | init | handlerNames | bindHandlers | parseOptions | resolveHandlers
  | install | destroy | logPrefix | makeForwarder | attachLogger | handle (event : ParseEvent)
deriving DecidableEq, Repr

inductive ContractOp where
  | create | on | off | adopt | judge | abstain | isInstance | isSubclass | register
deriving DecidableEq, Repr

inductive ObjectOp where
  | create | describe | asText | hash | equal | unequal | less | lessEqual | greater | greaterEqual
  | read | assign | remove | format | directory | size | state | reduce | reduceFully | new
  | initSubclass | subclassHook
deriving DecidableEq, Repr

inductive ListenerOp where
  | create | call | describe
deriving DecidableEq, Repr

inductive ClassOp where
  | order | call | subclasses | prepare | isInstance | isSubclass
deriving DecidableEq, Repr

inductive HoldingOp where
  | append | add | get | keys | values | items | pop | clear | copy | item | length
deriving DecidableEq, Repr

inductive TextOp where
  | lower | upper | startsWith
deriving DecidableEq, Repr

inductive Holding where
  | list | dict | table | names | fixed
deriving DecidableEq, Repr

/-- The functions of the library. -/
inductive Operation where
  | emitter (op : EmitterOp)
  | contract (op : ContractOp)
  | log (op : LogOp)
  | task (op : TaskOp)
  | object (op : ObjectOp)
  | listener (op : ListenerOp)
  | cls (op : ClassOp)
  | holding (form : Holding) (op : HoldingOp)
  | text (op : TextOp)
deriving DecidableEq, Repr

/-- A library function, one written in a class body, or a log forwarder. The numbers are places in
the world's stores. -/
inductive Function where
  | library (op : Operation)
  | scripted (routine : Nat)
  | forwarder (index : Nat)
deriving DecidableEq, Repr

inductive Subject where
  | object (index : Nat)
  | cls (index : Nat)
deriving DecidableEq, Repr

inductive Aspect where
  | cls | attributes | weakReference
  | name | qualifiedName | place | doc | order | bases | base | body | annotations | abstract
  | signature | flags | size | itemSize | attributesOffset | weakOffset
deriving DecidableEq, Repr

inductive Part where
  | keys | values | items
deriving DecidableEq, Repr

/-- Something held by reference. The numbers are places in the world's stores. Each method read from
an object carries a new stamp, so two methods are identical only if they come from one reading. -/
inductive Ref where
  | subject (s : Subject)
  | function (f : Function)
  /-- A function that is not bound to the object it is read from. -/
  | staticMethod (f : Function)
  /-- A function that is bound to the class it is read from. -/
  | classMethod (f : Function)
  | method (stamp : Nat) (self : Subject) (f : Function)
  /-- A method of something that is neither an object nor a class. -/
  | bound (place : Nat)
  | property (index : Nat)
  /-- A reserved attribute of the objects of a class. -/
  | slot (index : Nat)
  /-- An attribute that tells something of the objects of a class. -/
  | aspect (owner : Nat) (a : Aspect)
  | list (place : Nat)
  | dict (place : Nat)
  /-- The subscriptions of an emitter. -/
  | table (place : Nat)
  /-- A set of names. -/
  | names (place : Nat)
  /-- The body of a class as a mapping that cannot be changed. -/
  | body (stamp : Nat) (cls : Nat)
  | part (p : Part) (mapping : Ref)
  /-- The default registry, which cannot be changed. -/
  | registry
deriving DecidableEq, Repr

inductive Value where
  | nothing
  | flag (b : Bool)
  | int (place : Nat) (i : Int)
  | float (stamp : Nat) (x : Double)
  | text (place : Nat) (s : String)
  | event (e : ParseEvent)
  | tuple (stamp : Nat) (items : List Value)
  /-- Decoded install options. -/
  | options (stamp : Nat) (runner : Value) (attach : Option Bool)
  /-- The answer of a comparison that does not know the other value. -/
  | undecided
  | ref (r : Ref)
deriving Repr, Inhabited

namespace Value

def word (s : String) : Value := .text 0 s

def number (i : Int) : Value := .int 0 i

def object (i : Nat) : Value := .ref (.subject (.object i))

def cls (c : Nat) : Value := .ref (.subject (.cls c))

def function (f : Function) : Value := .ref (.function f)

def isNothing : Value → Bool
  | nothing => true
  | _ => false

def text? : Value → Option String
  | text _ s => some s
  | event e => some e.identifier
  | _ => none

def int? : Value → Option Int
  | int _ i => some i
  | flag b => some (if b then 1 else 0)
  | _ => none

def isText : Value → Bool
  | text _ _ => true
  | _ => false

def objectPlace? : Value → Option Nat
  | ref (.subject (.object i)) => some i
  | _ => none

def classPlace? : Value → Option Nat
  | ref (.subject (.cls c)) => some c
  | _ => none

def registry : Value := .ref .registry

def isMapping : Value → Bool
  | ref (.dict _) | ref (.table _) | ref (.body _ _) | ref .registry => true
  | _ => false

def registryEntries : List (Value × Value) :=
  ParseEvent.registry.map fun p => (word p.1, word p.2)

def ofFlag? : Option Bool → Value
  | none => nothing
  | some b => flag b

mutual

/-- `is`. What a stamp tells apart is identical under the same stamp, and then in all its parts. -/
def isSame : Value → Value → Bool
  | nothing, nothing => true
  | flag a, flag b => a == b
  | int p a, int p' b => p == p' && a == b
  | float s x, float s' y => s == s' && x == y
  | text p a, text p' b => p == p' && a == b
  | event a, event b => a == b
  | tuple _ [], tuple _ [] => true
  | tuple s xs, tuple s' ys => s == s' && areSame xs ys
  | options s _ _, options s' _ _ => s == s'
  | undecided, undecided => true
  | ref a, ref b => a == b
  | _, _ => false

def areSame : List Value → List Value → Bool
  | [], [] => true
  | x :: xs, y :: ys => isSame x y && areSame xs ys
  | _, _ => false

end

end Value

end EventTasks
