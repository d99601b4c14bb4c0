import EventTasks.Dictionary
import EventTasks.Emitter
import EventTasks.Gathering
import EventTasks.Script.Step
import EventTasks.View

/-!
The world of objects that a session works on. Classes, objects, scripted functions, log forwarders,
properties, and all collections that may change stand in stores and are referred to by their place.
A class has a search order and a body; an object has a class and attributes in order of first
assignment.
-/
namespace EventTasks

open Script (Term Routine Step)

inductive PropertyRule where
  | installed
  | handlers
  | result (t : Term)
  | failing (raised : Script.Raised)

structure PropertyInfo where
  rule : PropertyRule
  name : Option String

structure SlotInfo where
  owner : Nat
  name : String

structure ClassInfo where
  name : String
  qualifiedName : String
  /-- The name under which a session knows the class. -/
  label : Option String := none
  bases : List Nat
  /-- The classes searched for an attribute, this one first. -/
  order : List Nat
  body : List (String × Value)
  /-- The class of the class. -/
  kind : Nat
  /-- What tells the tuples of its bases and of its search order apart from others. -/
  basesStamp : Nat := 0
  orderStamp : Nat := 0
  /-- Whether nobody can change the class. -/
  isFixed : Bool := false
  /-- Whether its objects have attributes of their own. -/
  isOpen : Bool := true
  /-- What its objects still need before any can be made. -/
  abstract : Option Value := none
  /-- What the contract, and the classes under it, have found of this class: whether its objects
  count as theirs. -/
  verdicts : List (Nat × Bool) := []
  /-- The classes whose objects count as those of this class because somebody said so. -/
  registered : List Nat := []
deriving Inhabited

structure Behaviour where
  routine : Routine Step
  runs : Nat := 0

structure ObjectInfo where
  cls : Nat
  /-- The name under which the session knows the object. -/
  label : Option String := none
  /-- The place of the mapping that holds its attributes, if it has any. -/
  attributes : Option Nat := none
  /-- The values of reserved attributes. -/
  slots : List (Nat × Value) := []
  /-- What a listener does when it is called. -/
  behaviour : Option Behaviour := none

/-- How a function of a class body is called: with an object, with nothing, or with a class. -/
inductive FunctionForm where
  | method | free | classwise
deriving DecidableEq

def FunctionForm.subject? : FunctionForm → Option String
  | method => some "self"
  | free => none
  | classwise => some "cls"

structure FunctionInfo where
  name : String
  owner : Nat
  qualifiedName : String
  form : FunctionForm
  behaviour : Behaviour

structure ForwarderInfo where
  task : Value
  method : Value
  name : String
  qualifiedName : String

/-- The table of an emitter with the slots by which an event is found. -/
structure Subscriptions where
  table : Table := []
  slots : Slots := {}

structure World where
  classes : Array ClassInfo
  objects : Array ObjectInfo := #[]
  functions : Array FunctionInfo := #[]
  forwarders : Array ForwarderInfo := #[]
  properties : Array PropertyInfo
  slots : Array SlotInfo := #[]
  /-- The methods of things that are neither objects nor classes. -/
  bound : Array (Value × Function) := #[]
  lists : Array (List Value) := #[]
  dicts : Array Dictionary := #[]
  tables : Array Subscriptions := #[]
  gatherings : Array Gathering := #[]
  /-- What the session's names stand for, the latest first. -/
  names : List (String × Value) := []
  /-- The number of things told apart by stamps so far. -/
  stamps : Nat := 0
  around : Surroundings := .start
  /-- What scripted callables did in this step, the latest first. -/
  notes : List Note := []
  /-- The collections whose description is under way. -/
  described : List Value := []
  /-- The reading of the shared settings that the session saw last. -/
  seen : Option Nat := none

/-- A computation on the world; what it did before a fault stays done. -/
abbrev Act := EStateM Fault World

def around (m : Surrounded α) : Act α := fun w =>
  match m w.around with
  | .ok a s => .ok a { w with around := s }
  | .error f s => .error f { w with around := s }

def liftExcept : Except Fault α → Act α
  | .ok a => pure a
  | .error f => throw f

def note (n : Note) : Act Unit := modify fun w => { w with notes := n :: w.notes }

def newStamp : Act Nat := modifyGet fun w => (w.stamps + 1, { w with stamps := w.stamps + 1 })

/-- A new method made by reading function `f` from `self`. -/
def bindMethod (self : Subject) (f : Function) : Act Value := do
  pure (.ref (.method (← newStamp) self f))

def bindTo (self : Value) (f : Function) : Act Value :=
  match self with
  | .ref (.subject s) => bindMethod s f
  | v => modifyGet fun w =>
    (.ref (.bound w.bound.size), { w with bound := w.bound.push (v, f) })

def newFloat (x : Double) : Act Value := do pure (.float (← newStamp) x)

def newTuple (items : List Value) : Act Value := do pure (.tuple (← newStamp) items)

def newOptions (runner : Value) (attach : Option Bool) : Act Value := do
  pure (.options (← newStamp) runner attach)

def newList (items : List Value) : Act Value :=
  modifyGet fun w => (.ref (.list w.lists.size), { w with lists := w.lists.push items })

def newDictPlace (d : Dictionary) : Act Nat :=
  modifyGet fun w => (w.dicts.size, { w with dicts := w.dicts.push d })

def newDict (d : Dictionary) : Act Value := do pure (.ref (.dict (← newDictPlace d)))

def newTable : Act Value :=
  modifyGet fun w => (.ref (.table w.tables.size), { w with tables := w.tables.push {} })

def newNames : Act Value :=
  modifyGet fun w =>
    (.ref (.names w.gatherings.size), { w with gatherings := w.gatherings.push {} })

def newObject (info : ObjectInfo) : Act Nat :=
  modifyGet fun w => (w.objects.size, { w with objects := w.objects.push info })

def modifyObject (i : Nat) (f : ObjectInfo → ObjectInfo) : Act Unit :=
  modify fun w => { w with objects := w.objects.modify i f }

def modifyClass (c : Nat) (f : ClassInfo → ClassInfo) : Act Unit :=
  modify fun w => { w with classes := w.classes.modify c f }

def modifyList (place : Nat) (f : List Value → List Value) : Act Unit :=
  modify fun w => { w with lists := w.lists.modify place f }

def modifyDict (place : Nat) (f : Dictionary → Dictionary) : Act Unit :=
  modify fun w => { w with dicts := w.dicts.modify place f }

def modifyTable (place : Nat) (f : Subscriptions → Subscriptions) : Act Unit :=
  modify fun w => { w with tables := w.tables.modify place f }

def modifyNames (place : Nat) (f : Gathering → Gathering) : Act Unit :=
  modify fun w => { w with gatherings := w.gatherings.modify place f }

namespace World

def listAt (w : World) (place : Nat) : List Value := w.lists[place]?.getD []

def dictAt (w : World) (place : Nat) : Dictionary := w.dicts[place]?.getD {}

def subscriptionsAt (w : World) (place : Nat) : Subscriptions := w.tables[place]?.getD {}

def tableAt (w : World) (place : Nat) : Table := (w.subscriptionsAt place).table

def namesAt (w : World) (place : Nat) : Gathering := w.gatherings[place]?.getD {}

end World

end EventTasks
