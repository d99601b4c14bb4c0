/-!
Binary floating-point numbers with 53 significant bits, as exact data: a sign, a significand and a
power of two. A decimal is read by rounding the exact ratio to the nearest such number, a half
going to the even significand.
-/
namespace EventTasks

/-- `finite s m e` stands for `m * 2 ^ e`, negated if `s` holds. A significand below `2 ^ 52` occurs
only with the least exponent, so that each number has one form. -/
inductive Double where
  | finite (negative : Bool) (significand : Nat) (exponent : Int)
  | infinite (negative : Bool)
  | nan
deriving DecidableEq, Repr, Inhabited

namespace Double

def leastExponent : Int := -1074

def greatestExponent : Int := 971

def roundDiv (num den : Nat) : Nat :=
  let q := num / den
  let twice := 2 * (num % den)
  if twice < den then q else if den < twice then q + 1 else if q % 2 = 0 then q else q + 1

def scaled (num den : Nat) (e : Int) : Nat × Nat :=
  if 0 ≤ e then (num, den * Nat.pow 2 e.toNat) else (num * Nat.pow 2 (-e).toNat, den)

/-- The exponent `k` with `2 ^ k ≤ num / den < 2 ^ (k + 1)`, for positive arguments. -/
def binaryExponent (num den : Nat) : Int :=
  let k : Int := (num.log2 : Int) - (den.log2 : Int)
  let s := scaled num den k
  if s.1 < s.2 then k - 1 else k

/-- The double nearest to `num / den`. -/
def ofRatio (negative : Bool) (num den : Nat) : Double :=
  if num = 0 then finite negative 0 leastExponent
  else
    let e := max (binaryExponent num den - 52) leastExponent
    let s := scaled num den e
    let m := roundDiv s.1 s.2
    let r : Nat × Int := if m = Nat.pow 2 53 then (Nat.pow 2 52, e + 1) else (m, e)
    if greatestExponent < r.2 then infinite negative else finite negative r.1 r.2

def ofDecimal (negative : Bool) (digits : Nat) (power : Int) : Double :=
  if 0 ≤ power then ofRatio negative (digits * Nat.pow 10 power.toNat) 1
  else ofRatio negative digits (Nat.pow 10 (-power).toNat)

def ratio (significand : Nat) (exponent : Int) : Nat × Nat :=
  if 0 ≤ exponent then (significand * Nat.pow 2 exponent.toNat, 1)
  else (significand, Nat.pow 2 (-exponent).toNat)

def floor? : Double → Option Int
  | finite negative m e =>
    let r := ratio m e
    let size : Int := r.1
    some (Int.fdiv (if negative then -size else size) r.2)
  | _ => none

def truncate? : Double → Option Int
  | finite negative m e =>
    let r := ratio m e
    let size : Int := r.1 / r.2
    some (if negative then -size else size)
  | _ => none

def whole? (x : Double) : Option Int :=
  match x with
  | finite _ m e =>
    let r := ratio m e
    if r.1 % r.2 = 0 then x.truncate? else none
  | _ => none

def isZero : Double → Bool
  | finite _ m _ => m == 0
  | _ => false

end Double

end EventTasks
