import EventTasks.Iteration
import EventTasks.Text.Identifier
import EventTasks.Text.Sorted

/-!
What a class reserves for its objects. Without a list of reserved names the objects of a class hold
any attributes, and can be referred to weakly. With one they hold the reserved attributes, those
that the classes above reserve, and others only if the list or a class above says so.
-/
namespace EventTasks

structure Reservation where
  names : List String := []
  /-- Whether its objects come to hold any attributes. -/
  attributes : Bool := false
  /-- Whether its objects come to be referred to weakly. -/
  reference : Bool := false

namespace Reservation

def add (w : World) (chief : Nat) (r : Reservation) (v : Value) : Except Fault Reservation :=
  match v.text? with
  | none => .error (.slots (.notText (w.kindOf v)))
  | some s =>
    if !Text.isIdentifier s then .error (.slots .notName)
    else if s = "__dict__" then
      if (w.classInfo chief).isOpen || r.attributes then .error (.slots .secondAttributes)
      else .ok { r with attributes := true }
    else if s = "__weakref__" then
      if w.isReferable chief || r.reference then .error (.slots .secondReference)
      else .ok { r with reference := true }
    else .ok { r with names := r.names ++ [s] }

def claim (cls : String) (body : List (String × Value)) (s : String) : Except Fault String :=
  let name := Text.ownName cls s
  if (body.lookup name).isSome && name != "__qualname__" then
    .error (.slots (.taken (Text.quoted name)))
  else .ok name

def ofItems (w : World) (chief : Nat) (bases : List Nat) (cls : String)
    (body : List (String × Value)) (items : List Value) : Except Fault Reservation := do
  let found ← items.foldlM (add w chief) {}
  let names ← found.names.mapM (claim cls body)
  let others := bases.filter (· ≠ chief)
  pure {
    names := Text.Sorted.ofList names
    attributes := found.attributes ||
      (!(w.classInfo chief).isOpen && others.any fun b => (w.classInfo b).isOpen)
    reference := found.reference || (!w.isReferable chief && others.any w.isReferable) }

/-- What a class body adds to the slots of the class above. -/
def ofBody (h : Host) (chief : Nat) (bases : List Nat) (cls : String)
    (body : List (String × Value)) : Act Reservation := do
  match body.lookup "__slots__" with
  | none => do
    let w ← get
    pure { attributes := !(w.classInfo chief).isOpen, reference := !w.isReferable chief }
  | some v =>
    let items ← if v.text?.isSome then pure [v] else h.items v
    liftExcept (ofItems (← get) chief bases cls body items)

def entries (c : Nat) (r : Reservation) : Act (List (String × Value)) := do
  let slots ← r.names.mapM fun name =>
    modifyGet fun w =>
      ((name, Value.ref (.slot w.slots.size)), { w with slots := w.slots.push ⟨c, name⟩ })
  let aspects := (Library.ownAspects c).filter fun p =>
    if p.1 = "__dict__" then r.attributes else r.reference
  pure (slots ++ aspects)

end Reservation

end EventTasks
