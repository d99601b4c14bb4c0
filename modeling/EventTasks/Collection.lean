import EventTasks.Attribute

/-!
Values as collections and as numbers: whether a value counts as true, how many items it has, and
which whole number or fraction an object stands for.
-/
namespace EventTasks

namespace World

def namesOf? (w : World) : Ref → Option (List Value)
  | .dict p => some ((w.dictAt p).entries.map Entry.name)
  | .table p => some (w.tableAt p).events
  | .body _ c => some ((w.classInfo c).body.map fun p => .word p.1)
  | .registry => some (Value.registryEntries.map Prod.fst)
  | _ => none

def ownSize? (w : World) (v : Value) : Option Nat :=
  match v with
  | .tuple _ xs => some xs.length
  | .ref (.list p) => some (w.listAt p).length
  | .ref (.names p) => some (w.namesAt p).members.length
  | .ref (.part _ r) | .ref r => (w.namesOf? r).map List.length
  | v => v.text?.map String.length

end World

namespace Host

def index? (h : Host) (v : Value) : Act (Option Int) := do
  match v.int? with
  | some i => pure (some i)
  | none =>
    match ← h.ask? v "__index__" [] with
    | none => pure none
    | some found =>
      match found.int? with
      | some i => pure (some i)
      | none => throw (.notWhole "__index__" ((← get).kindOf found))

def index (h : Host) (v : Value) : Act Int := do
  match ← h.index? v with
  | some i => pure i
  | none => throw (.notInteger ((← get).kindOf v))

def fraction? (h : Host) (v : Value) : Act (Option Double) := do
  let ofInt (i : Int) : Act Double :=
    match Double.ofRatio (decide (i < 0)) i.natAbs 1 with
    | .infinite _ => throw (.format .tooGreatForFraction)
    | x => pure x
  match v, v.int? with
  | .float _ x, _ => pure (some x)
  | _, some i => some <$> ofInt i
  | v, none =>
    match ← h.ask? v "__float__" [] with
    | some (.float _ x) => pure (some x)
    | some found => do
      let w ← get
      throw (.notReal (w.kindOf v) (w.kindOf found))
    | none =>
      match ← h.index? v with
      | some i => some <$> ofInt i
      | none => pure none

def givenLength? (h : Host) (v : Value) : Act (Option Nat) := do
  match ← h.ask? v "__len__" [] with
  | none => pure none
  | some found =>
    let i ← h.index found
    if i < 0 then throw .lengthNegative
    else if Int.pow 2 63 ≤ i then throw .lengthTooGreat
    else pure (some i.toNat)

def size? (h : Host) (v : Value) : Act (Option Nat) := do
  match (← get).ownSize? v with
  | some n => pure (some n)
  | none => h.givenLength? v

/-- `len`. -/
def size (h : Host) (v : Value) : Act Nat := do
  match ← h.size? v with
  | some n => pure n
  | none => throw (.noLength ((← get).kindOf v))

/-- `bool`: the class's `__bool__`, else its `__len__`, else true. -/
def truth (h : Host) (v : Value) : Act Bool := do
  match v with
  | .nothing => pure false
  | .flag b => pure b
  | .int _ i => pure (i != 0)
  | .float _ x => pure !x.isZero
  | v =>
    match ← h.ask? v "__bool__" [] with
    | some (.flag b) => pure b
    | some found => throw (.truthNotFlag ((← get).kindOf found))
    | none => do pure ((← h.size? v).all (· != 0))

end Host

end EventTasks
