import EventTasks.Number.Double

/-!
The decimal text of a floating-point number: the fewest digits that read back as the number, and
of two such decimals the nearer one. Sizes from `0.0001` up to `10 ^ 16` are written with a point,
all others with an exponent of at least two digits.
-/
namespace EventTasks.Double

def leadingZeros (num den : Nat) : Nat → Nat → Nat
  | 0, k => k
  | fuel + 1, k => if den ≤ num * Nat.pow 10 k then k else leadingZeros num den fuel (k + 1)

/-- The exponent `k` with `10 ^ k ≤ num / den < 10 ^ (k + 1)`. No number is below `10 ^ -324`. -/
def decimalExponent (num den : Nat) : Int :=
  if den ≤ num then ((Nat.toDigits 10 (num / den)).length : Int) - 1
  else -(leadingZeros num den 400 1 : Nat)

structure Decimal where
  digits : Nat
  power : Int

def onGrid? (m : Nat) (e power : Int) : Option Decimal :=
  let r := ratio m e
  let s : Nat × Nat :=
    if 0 ≤ power then (r.1, r.2 * Nat.pow 10 power.toNat)
      else (r.1 * Nat.pow 10 (-power).toNat, r.2)
  let low := s.1 / s.2
  let nearest := roundDiv s.1 s.2
  let other := if nearest = low then low + 1 else low
  let readsBack (n : Nat) : Bool := ofDecimal false n power == finite false m e
  if readsBack nearest then some ⟨nearest, power⟩
  else if readsBack other then some ⟨other, power⟩
  else none

/-- Tries one digit, two digits and so on; seventeen always suffice. -/
def shortestFrom (m : Nat) (e top : Int) : Nat → Decimal
  | 0 => (onGrid? m e (top - 16)).getD ⟨m, 0⟩
  | left + 1 =>
    match onGrid? m e (top - (16 - (left : Int) - 1)) with
    | some d => d
    | none => shortestFrom m e top left

def stripZeros : Nat → Decimal → Decimal
  | 0, d => d
  | fuel + 1, d =>
    if d.digits % 10 = 0 ∧ d.digits ≠ 0 then stripZeros fuel ⟨d.digits / 10, d.power + 1⟩ else d

def shortest (m : Nat) (e : Int) : Decimal :=
  let r := ratio m e
  stripZeros 20 (shortestFrom m e (decimalExponent r.1 r.2) 16)

def zeros (n : Int) : List Char := List.replicate n.toNat '0'

def positional (digits : List Char) (point : Int) : List Char :=
  if point ≤ 0 then '0' :: '.' :: zeros (-point) ++ digits
  else if (digits.length : Int) ≤ point then
    digits ++ zeros (point - digits.length) ++ ['.', '0']
  else digits.take point.toNat ++ '.' :: digits.drop point.toNat

def withExponent (digits : List Char) (exponent : Int) : List Char :=
  let mantissa := match digits with
    | [] => []
    | [d] => [d]
    | d :: rest => d :: '.' :: rest
  let size := Nat.toDigits 10 exponent.natAbs
  mantissa ++ 'e' :: (if exponent < 0 then '-' else '+') ::
    (if size.length < 2 then '0' :: size else size)

def decimalText (d : Decimal) : List Char :=
  let digits := Nat.toDigits 10 d.digits
  let point : Int := d.power + digits.length
  if -4 < point ∧ point ≤ 16 then positional digits point else withExponent digits (point - 1)

def text : Double → String
  | finite negative m e =>
    let body := if m = 0 then ['0', '.', '0'] else decimalText (shortest m e)
    String.ofList (if negative then '-' :: body else body)
  | infinite negative => if negative then "-inf" else "inf"
  | nan => "nan"

end EventTasks.Double
