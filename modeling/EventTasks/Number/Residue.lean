/-!
Residues of numbers: a residue follows from the size of a number, whatever its form. A size counts
modulo the prime `2 ^ 61 - 1`; since `2 ^ 61` has residue one there, a power of two counts by
its exponent modulo 61. No residue is -1.
-/
namespace EventTasks.Residue

def modulus : Nat := Nat.pow 2 61 - 1

def signed (negative : Bool) (n : Nat) : Int :=
  let i : Int := if negative then -n else n
  if i = -1 then -2 else i

def ofInt (i : Int) : Int := signed (decide (i < 0)) (i.natAbs % modulus)

/-- The hash of `m * 2 ^ e`. -/
def ofBinary (negative : Bool) (m : Nat) (e : Int) : Int :=
  signed negative (m % modulus * Nat.pow 2 (e % 61).toNat % modulus)

def ofInfinite (negative : Bool) : Int := if negative then -314159 else 314159

def ofDyadic : Dyadic → Int
  | .zero => 0
  | .ofOdd n k _ => ofBinary (decide (n < 0)) n.natAbs (-k)

/-- The hash that a class's `__hash__` stands for: kept if 64 bits hold it, else reduced. -/
def ofGiven (i : Int) : Int :=
  if -Int.pow 2 63 ≤ i ∧ i < Int.pow 2 63 then (if i = -1 then -2 else i) else ofInt i

def ofSequence (members : List Int) : Int :=
  let size : Nat := Nat.pow 2 64
  let rotated (n : Nat) : Nat := n % Nat.pow 2 33 * Nat.pow 2 31 + n / Nat.pow 2 33
  let mixed := members.foldl (fun (acc : Nat) (lane : Int) =>
    rotated ((acc + (lane % size).toNat * 14029467366897019727) % size) * 11400714785074694791
      % size) 2870177450012600261
  let total := (mixed + (members.length ^^^ (2870177450012600261 ^^^ 3527539))) % size
  if total = size - 1 then 1546275796
  else if total < Nat.pow 2 63 then total else (total : Int) - size

end EventTasks.Residue
