/-!
The order in which a class and its ancestors are searched. The orders of the bases and the list of
bases itself are merged: the next class is the first head that stands behind no other head. If
every head stands behind another one there is no order, and the heads are reported.
-/
namespace EventTasks.Linearization

variable {α : Type} [DecidableEq α]

def isBehind (a : α) (orders : List (List α)) : Bool :=
  orders.any fun order => decide (a ∈ order.tail)

def heads (orders : List (List α)) : List α := orders.filterMap List.head?

def advance (a : α) (orders : List (List α)) : List (List α) :=
  orders.map fun order => if order.head? = some a then order.tail else order

/-- The merge step of the linearization; `steps` bounds the classes still to be placed. -/
def merge : Nat → List (List α) → Except (List α) (List α)
  | 0, _ => .ok []
  | steps + 1, orders =>
    match heads orders with
    | [] => .ok []
    | candidates =>
      match candidates.find? fun a => !isBehind a orders with
      | none => .error candidates.eraseDups
      | some a => (merge steps (advance a orders)).map (a :: ·)

/-- The linearization of a new class, from its bases and their own orders. -/
def ofBases (new : α) (bases : List α) (order : α → List α) : Except (List α) (List α) :=
  let orders := bases.map order ++ [bases]
  (merge orders.flatten.length orders).map (new :: ·)

end EventTasks.Linearization
