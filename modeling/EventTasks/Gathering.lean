import EventTasks.Key

/-!
Sets of things, told apart by their keys. Members are spread over cells by their numbers and are
shown in the order of the cells. A member takes the first free cell among those that follow from
its number; when three fifths of the cells are taken, the members are spread over more of them.
-/
namespace EventTasks

structure Member where
  number : Int
  value : Value
  key : Key

structure Gathering where
  cells : Array (Option Member) := Array.replicate 8 none

namespace Gathering

def members (g : Gathering) : List Member := g.cells.toList.filterMap id

def toList (g : Gathering) : List Value := g.members.map Member.value

def neighbours : Nat := 9

/-- The cells to look at for a number, with the rest of the number that decides the next leap. -/
def placesFrom (size : Nat) : Nat → Nat → Nat → List Nat
  | 0, _, _ => []
  | leaps + 1, rest, place =>
    let near := if place + neighbours < size then neighbours else 0
    (List.range (near + 1)).map (place + ·) ++
      placesFrom size leaps (rest / 32) ((place * 5 + 1 + rest / 32) % size)

def places (g : Gathering) (number : Int) : List Nat :=
  let n := (number % Int.pow 2 64).toNat
  let size := g.cells.size
  placesFrom size (size + 14) n (n % size)

/-- The members met when one is looked for by a number, up to the first free cell. -/
def met (g : Gathering) (number : Int) : List Member :=
  let rec along : List Nat → List Member
    | [] => []
    | place :: rest =>
      match g.cells[place]?.getD none with
      | some m => m :: along rest
      | none => []
  (along (g.places number)).filter (·.number = number)

def put (g : Gathering) (m : Member) : Gathering :=
  match (g.places m.number).find? fun p => (g.cells[p]?.getD none).isNone with
  | some p => ⟨g.cells.setIfInBounds p (some m)⟩
  | none => g

def sizeAbove (least : Nat) : Nat :=
  let rec double : Nat → Nat → Nat
    | 0, size => size
    | steps + 1, size => if least < size then size else double steps (2 * size)
  double least 8

def spread (g : Gathering) : Gathering :=
  let members := g.members
  if members.length * 5 < (g.cells.size - 1) * 3 then g
  else members.foldl put ⟨Array.replicate (sizeAbove (4 * members.length)) none⟩

/-- Adds a member that is not there. -/
def add (g : Gathering) (m : Member) : Gathering := (g.put m).spread

end Gathering

end EventTasks
