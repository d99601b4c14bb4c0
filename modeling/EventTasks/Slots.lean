/-!
How a table finds its entries by number. Each entry has a row; the rows stand in the order in which
they were added, and a row that is taken away leaves a gap. Cells point to rows. The cells to look
at for a number follow from it alone, up to the first cell that was never used; a new row takes the
first cell among them that points to no row. When there is no room left the cells are laid out anew,
without gaps, and so they are when a table of texts gets its first other name.
-/
namespace EventTasks

inductive Cell where
  | free
  /-- Its row was taken away. -/
  | left
  | row (index : Nat)
deriving DecidableEq, Inhabited

structure Slots where
  cells : Array Cell := #[]
  /-- The number of each row; a row that was taken away has none. -/
  rows : Array (Option Int) := #[]
  /-- How many rows can be added before the cells are laid out anew. -/
  room : Nat := 0
  /-- Whether all names so far are texts. -/
  plain : Bool := true
  /-- How often the cells were laid out. -/
  turn : Nat := 0

namespace Slots

/-- The cells to look at, each with the rest of the number that decides the next one. After the
first few steps they run through all cells. -/
def placesFrom (size : Nat) : Nat → Nat → Nat → List Nat
  | 0, _, _ => []
  | steps + 1, rest, place =>
    place :: placesFrom size steps (rest / 32) ((place * 5 + rest / 32 + 1) % size)

def places (s : Slots) (number : Int) : List Nat :=
  let n := (number % Int.pow 2 64).toNat
  let size := s.cells.size
  placesFrom size (size + 14) n (n % size)

/-- The rows among some cells, up to the first cell that was never used. -/
def rowsAt (s : Slots) : List Nat → List Nat
  | [] => []
  | place :: rest =>
    match s.cells[place]?.getD .free with
    | .free => []
    | .left => rowsAt s rest
    | .row index => index :: rowsAt s rest

def position (s : Slots) (row : Nat) : Nat :=
  ((s.rows.toList.take row).filter Option.isSome).length

/-- The entries met when one is looked for by a number: the position of each and its own number. -/
def met (s : Slots) (number : Int) : List (Nat × Int) :=
  if s.cells.isEmpty then []
  else
    (s.rowsAt (s.places number)).filterMap fun row =>
      (s.rows[row]?.getD none).map fun n => (s.position row, n)

def place (s : Slots) (row : Nat) (number : Int) : Slots :=
  let isOpen (p : Nat) : Bool :=
    match s.cells[p]? with
    | some (.row _) => false
    | _ => true
  match (s.places number).find? isOpen with
  | some p => { s with cells := s.cells.setIfInBounds p (.row row) }
  | none => s

def roomIn (size : Nat) : Nat := 2 * size / 3

def sizeFor (least : Nat) : Nat :=
  let rec double : Nat → Nat → Nat
    | 0, size => size
    | steps + 1, size => if least ≤ size then size else double steps (2 * size)
  double least 8

/-- Lays the cells out anew for three times as many rows as there are. -/
def layOut (s : Slots) : Slots :=
  let numbers := s.rows.toList.filterMap id
  let size := sizeFor (3 * numbers.length)
  let blank : Slots :=
    { cells := Array.replicate size .free, rows := (numbers.map some).toArray,
      room := roomIn size - numbers.length, plain := s.plain, turn := s.turn + 1 }
  numbers.zipIdx.foldl (fun s p => s.place p.2 p.1) blank

def prepare (s : Slots) (isText : Bool) : Slots :=
  if s.plain && !isText then
    if s.cells.isEmpty then { s with plain := false } else { s with plain := false }.layOut
  else s

def add (s : Slots) (number : Int) : Slots :=
  let s := if s.room = 0 then s.layOut else s
  let row := s.rows.size
  { s with rows := s.rows.push (some number), room := s.room - 1 }.place row number

def rowOf (s : Slots) (position : Nat) : Option Nat :=
  ((s.rows.toList.zipIdx.filter fun p => p.1.isSome)[position]?).map Prod.snd

def drop (s : Slots) (position : Nat) : Slots :=
  match s.rowOf position with
  | none => s
  | some row =>
    { s with
      rows := s.rows.setIfInBounds row none
      cells := s.cells.map fun c => if c = .row row then .left else c }

def emptied (s : Slots) : Slots := { turn := s.turn + 1 }

def ofNumbers (plain : Bool) (numbers : List Int) : Slots :=
  numbers.foldl add { plain }

end Slots

end EventTasks
