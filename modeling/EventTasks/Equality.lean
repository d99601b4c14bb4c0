import EventTasks.Collection
import EventTasks.Number.Residue

/-!
Which values count as the same. Values without definitions of their own are compared by their keys.
An object's class may give a number for it, and may decide whether it equals another value; it is
asked only about values with the same number.
-/
namespace EventTasks

namespace Residue

def ofPlace (place : Nat) : Int := Int.pow 2 40 + 16 * place

end Residue

def Ref.place : Ref → Nat
  | .subject (.object i) | .subject (.cls i) | .method _ (.object i) _ | .method _ (.cls i) _
  | .bound i | .property i | .slot i | .aspect i _ | .list i | .dict i | .table i | .names i
  | .body i _ => i
  | .function (.scripted i) | .function (.forwarder i) => i
  | _ => 0

def Atom.residue : Atom → Int
  | .number size => Residue.ofDyadic size
  | .infinite negative => Residue.ofInfinite negative
  | .nan stamp => Residue.ofPlace stamp
  | .text s => Text.Digest.ofText s
  | .ref r => Residue.ofPlace r.place
  | .method self f => Residue.ofPlace (Ref.method 0 self f).place
  | .numbered n _ => n
  | .nothing | .undecided | .opening | .closing => Residue.ofPlace 0

namespace Host

mutual

/-- `hash` of a value, with the key that it has as an event. -/
def numberOf (h : Host) : Value → Act (Int × Key)
  | .tuple _ items => do
    let (numbers, key) ← numbersOf h items
    pure (Residue.ofSequence numbers, .opening :: key ++ [.closing])
  | .ref (.subject (.object i)) => do
    let v := Value.object i
    match (← get).hookOf? v "__hash__" with
    | none => pure (Residue.ofPlace i, [.ref (.subject (.object i))])
    | some .nothing => throw (.unhashable ((← get).kindOf v))
    | some entry => do
      let found ← h.callEntry v entry []
      match found.int? with
      | some n => pure (Residue.ofGiven n, [.numbered (Residue.ofGiven n) i])
      | none => throw .hashNotNumber
  | v => do
    let k ← liftExcept (v.key.mapError .unhashable)
    pure ((k.head?.map Atom.residue).getD 0, k)

def numbersOf (h : Host) : List Value → Act (List Int × Key)
  | [] => pure ([], [])
  | v :: rest => do
    let (n, k) ← numberOf h v
    let (ns, ks) ← numbersOf h rest
    pure (n :: ns, k ++ ks)

end

def answer? (h : Host) (v other : Value) : Act (Option Value) := do
  match ← h.ask? v "__eq__" [other] with
  | some .undecided => pure none
  | found => pure found

def isAskedFirst (w : World) (a b : Value) : Bool :=
  match a.objectPlace?, b.objectPlace? with
  | some i, some j =>
    let c := w.objectClassOf i
    let d := w.objectClassOf j
    decide (c ≠ d) && w.isUnder d c
  | _, _ => false

def equalsSimply (h : Host) (a b : Value) : Act Bool := do
  let w ← get
  let (first, second) := if isAskedFirst w a b then (b, a) else (a, b)
  match ← h.answer? first second with
  | some found => h.truth found
  | none =>
    match ← h.answer? second first with
    | some found => h.truth found
    | none =>
      pure (match a.key.toOption, b.key.toOption with
        | some k, some k' => decide (k = k')
        | _, _ => a.isSame b)

mutual

/-- `is` or `==`, as a dictionary compares its keys. -/
def equals (h : Host) (a b : Value) : Act Bool := do
  if a.isSame b then pure true
  else
    match a, b with
    | .tuple _ xs, .tuple _ ys =>
      if xs.length = ys.length then equalsAll h xs ys else pure false
    | a, b => h.equalsSimply a b

def equalsAll (h : Host) : List Value → List Value → Act Bool
  | x :: xs, y :: ys => do
    if ← equals h x y then equalsAll h xs ys else pure false
  | _, _ => pure true

end

end Host

end EventTasks
