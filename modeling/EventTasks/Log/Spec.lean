import EventTasks.Number.Fixed

/-!
How texts and numbers are laid out at a place of a message: cut or rounded to a precision, filled up
to a width on either side, with signs and marks in front of digits.
-/
namespace EventTasks.Log

/-- A conversion of a message with its flags, width and precision. -/
structure Spec where
  left : Bool := false
  plus : Bool := false
  blank : Bool := false
  alternate : Bool := false
  zero : Bool := false
  width : Nat := 0
  precision : Option Nat := none

namespace Spec

def pad (spec : Spec) (body : List Char) : List Char :=
  let gap := List.replicate (spec.width - body.length) ' '
  if spec.left then body ++ gap else gap ++ body

def ofText (spec : Spec) (text : String) : List Char :=
  let cs := text.toList
  spec.pad (match spec.precision with
    | some n => cs.take n
    | none => cs)

def sign (spec : Spec) (negative : Bool) : List Char :=
  if negative then ['-'] else if spec.plus then ['+'] else if spec.blank then [' '] else []

def padNumber (spec : Spec) (front digits : List Char) : List Char :=
  if spec.zero && !spec.left then
    front ++ List.replicate (spec.width - front.length - digits.length) '0' ++ digits
  else spec.pad (front ++ digits)

def ofInt (spec : Spec) (mark : List Char) (base : Nat) (upper : Bool) (n : Int) : List Char :=
  let digits := Nat.toDigits base n.natAbs
  let digits := if upper then digits.map Char.toUpper else digits
  let digits := List.replicate (spec.precision.getD 0 - digits.length) '0' ++ digits
  spec.padNumber (spec.sign (n < 0) ++ if spec.alternate then mark else []) digits

def fractionDigits (spec : Spec) (letter : Char) (m : Nat) (e : Int) : List Char :=
  let precision := spec.precision.getD 6
  if letter = 'f' then Double.fixedText spec.alternate precision m e
  else if letter = 'e' then Double.scientificText spec.alternate precision m e
  else Double.generalText spec.alternate precision m e

def ofDouble (spec : Spec) (letter : Char) (upper : Bool) (x : Double) : List Char :=
  let dress (cs : List Char) : List Char := if upper then cs.map Char.toUpper else cs
  match x with
  | .finite negative m e =>
    spec.padNumber (spec.sign negative) (dress (spec.fractionDigits letter m e))
  | .infinite negative => spec.padNumber (spec.sign negative) (dress "inf".toList)
  | .nan => spec.padNumber (spec.sign false) (dress "nan".toList)

end Spec

end EventTasks.Log
