import EventTasks.Number.Shortest

/-!
Decimal texts with a chosen number of digits: with so many places behind the point, with an
exponent behind so many digits, or in the shorter of the two forms with so many digits at most. The
exact size is rounded to the nearest such decimal, a half going to the even digit.
-/
namespace EventTasks.Double

/-- `m * 2 ^ e` in units of `10 ^ -places`, rounded. -/
def inUnits (m : Nat) (e places : Int) : Nat :=
  let r := ratio m e
  if 0 ≤ places then roundDiv (r.1 * Nat.pow 10 places.toNat) r.2
  else roundDiv r.1 (r.2 * Nat.pow 10 (-places).toNat)

def paddedDigits (least n : Nat) : List Char :=
  let digits := Nat.toDigits 10 n
  List.replicate (least - digits.length) '0' ++ digits

def withPoint (keepPoint : Bool) (places : Nat) (digits : List Char) : List Char :=
  let whole := digits.length - places
  if places = 0 then digits ++ (if keepPoint then ['.'] else [])
  else digits.take whole ++ '.' :: digits.drop whole

def fixedText (keepPoint : Bool) (places m : Nat) (e : Int) : List Char :=
  withPoint keepPoint places (paddedDigits (places + 1) (inUnits m e places))

def leadingDigits (places m : Nat) (e : Int) : List Char × Int :=
  if m = 0 then (List.replicate (places + 1) '0', 0)
  else
    let r := ratio m e
    let x := decimalExponent r.1 r.2
    let n := inUnits m e (places - x)
    if n = Nat.pow 10 (places + 1) then (paddedDigits 1 (n / 10), x + 1) else (paddedDigits 1 n, x)

def exponentText (x : Int) : List Char :=
  'e' :: (if x < 0 then '-' else '+') :: paddedDigits 2 x.natAbs

def scientificText (keepPoint : Bool) (places m : Nat) (e : Int) : List Char :=
  let d := leadingDigits places m e
  withPoint keepPoint (d.1.length - 1) d.1 ++ exponentText d.2

def dropZeros (digits : List Char) : List Char := (digits.reverse.dropWhile (· = '0')).reverse

/-- At most `count` digits, positional unless the exponent is below -4 or too great for them. Zeros
behind the point are dropped unless the point is to be kept. -/
def generalText (keepPoint : Bool) (count m : Nat) (e : Int) : List Char :=
  let count := max count 1
  let d := leadingDigits (count - 1) m e
  let kept (whole : Nat) (digits : List Char) : List Char :=
    if keepPoint then digits else digits.take whole ++ dropZeros (digits.drop whole)
  if -4 ≤ d.2 ∧ d.2 < count then
    let digits := List.replicate (-d.2).toNat '0' ++ d.1
    let whole := d.2.toNat + 1
    let digits := kept whole digits
    withPoint keepPoint (digits.length - whole) digits
  else
    let digits := kept 1 d.1
    withPoint keepPoint (digits.length - 1) digits ++ exponentText d.2

end EventTasks.Double
