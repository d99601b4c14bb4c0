import EventTasks.Equality

/-!
Going through values. A cursor stands between the items that were given and those to come; each item
is read when its turn comes, so what is done meanwhile to a list shows. A mapping must keep its size
and its names. Objects are asked for their items one by one.
-/
namespace EventTasks

inductive Cursor where
  /-- The items of something that never changes. -/
  | rest (items : List Value)
  | list (place index : Nat)
  /-- A mapping of `size` entries from a row on, with so many entries still to come. -/
  | rows (part : Part) (mapping : Ref) (size row left : Nat)
  /-- An object that gives the next item when asked. -/
  | walker (v : Value) (entry : Value)
  /-- An object that gives its items by their places. -/
  | places (v : Value) (entry : Value) (index : Nat)

namespace Host

def characters (s : String) : List Value :=
  s.toList.map fun c => .word (String.singleton c)

def entryOf (mapping : Ref) (position : Nat) : Act (Option (Value × Value)) := do
  let w ← get
  match mapping with
  | .dict p => pure (((w.dictAt p).entries[position]?).map Entry.toPair)
  | .table p =>
    match (w.tableAt p)[position]? with
    | some c => do pure (some (c.topic.event, ← newList (c.handlers.map .ref)))
    | none => pure none
  | .body _ c =>
    pure ((((w.classInfo c).body)[position]?).map fun p => (.word p.1, p.2))
  | .registry => pure (Value.registryEntries[position]?)
  | _ => pure none

def partOf (part : Part) (entry : Value × Value) : Act Value :=
  match part with
  | .keys => pure entry.1
  | .values => pure entry.2
  | .items => newTuple [entry.1, entry.2]

def slotsOf? (w : World) : Ref → Option Slots
  | .dict p => some (w.dictAt p).slots
  | .table p => some (w.subscriptionsAt p).slots
  | _ => none

def rowFrom (w : World) (mapping : Ref) (size row : Nat) : Option (Nat × Nat) :=
  match slotsOf? w mapping with
  | none => if row < size then some (row, row) else none
  | some s =>
    let isThere (r : Nat) : Bool := (s.rows[r]?.getD none).isSome
    ((List.range s.rows.size).find? fun r => row ≤ r && isThere r).map fun r => (r, s.position r)

def cursorOf (w : World) (part : Part) (mapping : Ref) : Cursor :=
  let size := ((w.namesOf? mapping).map List.length).getD 0
  .rows part mapping size 0 size

/-- `iter`: a cursor in front of the first item. -/
def iterate (h : Host) (v : Value) : Act Cursor := do
  let w ← get
  let refused : Act Cursor := throw (.notIterable (w.kindOf v))
  match v with
  | .tuple _ xs => pure (.rest xs)
  | .options _ runner attach =>
    let first ← newTuple [.word "runner", runner]
    let second ← newTuple [.word "attach_logger", .ofFlag? attach]
    pure (.rest [first, second])
  | .ref (.list p) => pure (.list p 0)
  | .ref (.names p) => pure (.rest (w.namesAt p).toList)
  | .ref (.part part r) => pure (cursorOf w part r)
  | .ref (.subject (.object _)) =>
    match w.hookOf? v "__iter__", w.hookOf? v "__getitem__" with
    | some .nothing, _ | none, none => refused
    | some entry, _ => do
      let walker ← h.callEntry v entry []
      match (← get).hookOf? walker "__next__" with
      | some next => pure (.walker walker next)
      | none => throw (.notIterator ((← get).kindOf walker))
    | none, some entry => pure (.places v entry 0)
  | .ref r => if (w.namesOf? r).isSome then pure (cursorOf w .keys r) else refused
  | v =>
    match v.text? with
    | some s => pure (.rest (characters s))
    | none => refused

/-- The next item and the cursor behind it. -/
def next (h : Host) (cursor : Cursor) : Act (Option (Value × Cursor)) := do
  let w ← get
  match cursor with
  | .rest [] => pure none
  | .rest (x :: xs) => pure (some (x, .rest xs))
  | .list p index =>
    pure (((w.listAt p)[index]?).map fun x => (x, .list p (index + 1)))
  | .rows part mapping size row left =>
    if ((w.namesOf? mapping).map List.length) ≠ some size then throw .sizeChanged
    else
      match rowFrom w mapping size row, left with
      | none, _ => pure none
      | some _, 0 => throw .keysChanged
      | some (r, position), left + 1 =>
        match ← entryOf mapping position with
        | some entry => do
          pure (some (← partOf part entry, .rows part mapping size (r + 1) left))
        | none => pure none
  | .walker v entry => do pure (some (← h.callEntry v entry [], cursor))
  | .places v entry index =>
    match ← attempt (h.callEntry v entry [.number index]) with
    | .ok x => pure (some (x, .places v entry (index + 1)))
    | .error f => if f.kind = .index then pure none else throw f

def ahead (w : World) : Cursor → Nat
  | .rest items => items.length
  | .list p index => (w.listAt p).length - index
  | .rows _ _ _ _ left => left
  | .walker _ _ | .places _ _ _ => 0

def mostItems : Nat := 1000000

def foldFrom (h : Host) (f : β → Value → Act β) : Nat → Cursor → β → Act β
  | 0, _, _ => throw .tooDeep
  | left + 1, cursor, b => do
    match ← h.next cursor with
    | none => pure b
    | some (x, cursor) => do foldFrom h f left cursor (← f b x)

def foldCursor (h : Host) (f : β → Value → Act β) (cursor : Cursor) (b : β) : Act β := do
  h.foldFrom f (ahead (← get) cursor + mostItems) cursor b

/-- A `for` loop over a value. -/
def foldItems (h : Host) (v : Value) (f : β → Value → Act β) (b : β) : Act β := do
  h.foldCursor f (← h.iterate v) b

def expect (h : Host) (v : Value) : Act Unit := do
  let passing (m : Act (Option Value)) : Act Bool := do
    match ← attempt m with
    | .ok found => pure found.isSome
    | .error f => if f.kind = .type then pure false else throw f
  let sized : Act (Option Value) := do
    pure ((← h.givenLength? v).map fun n => .number (n : Nat))
  if !(← passing sized) then
    let _ ← passing (h.ask? v "__length_hint__" [])

def items (h : Host) (v : Value) : Act (List Value) := do
  let w ← get
  match v with
  | .tuple _ xs => pure xs
  | .ref (.list p) => pure (w.listAt p)
  | v => do
    let cursor ← h.iterate v
    h.expect v
    let found ← h.foldCursor (fun found x => pure (x :: found)) cursor []
    pure found.reverse

def pairOf (h : Host) (v : Value) : Act (Value × Value) := do
  let cursor ← tryCatch (h.iterate v) fun f =>
    match f with
    | .notIterable kind => throw (.notUnpackable kind)
    | f => throw f
  match ← h.next cursor with
  | none => throw (.wrongUnpacking 2 (some 0))
  | some (a, cursor) =>
    match ← h.next cursor with
    | none => throw (.wrongUnpacking 2 (some 1))
    | some (b, cursor) =>
      match ← h.next cursor with
      | none => pure (a, b)
      | some _ => throw (.wrongUnpacking 2 none)

/-- A `for` loop over the `items()` of a mapping. -/
def foldEntries (h : Host) (v : Value) (f : β → Value × Value → Act β) (b : β) : Act β := do
  let found ← h.send v "items" []
  h.foldItems found (fun b v => do f b (← h.pairOf v)) b

def empty (h : Host) (v : Value) : Act Unit := do
  let _ ← h.send v "clear" []

end Host

end EventTasks
