import EventTasks.Number.Double

/-!
Reading a floating-point number from its decimal text: an optional sign, digits with an optional
point, an optional exponent; or one of the words for infinity and for no number.
-/
namespace EventTasks.Double

def digitsValue (cs : List Char) : Nat :=
  cs.foldl (fun n c => 10 * n + (c.toNat - 48)) 0

def splitSign : List Char → Bool × List Char
  | '-' :: rest => (true, rest)
  | '+' :: rest => (false, rest)
  | cs => (false, cs)

def readExponent? : List Char → Option Int
  | [] => some 0
  | c :: rest =>
    let (negative, digits) := splitSign rest
    if (c = 'e' ∨ c = 'E') ∧ digits ≠ [] ∧ digits.all Char.isDigit then
      some (if negative then -(digitsValue digits : Int) else digitsValue digits)
    else none

def ofText? (s : String) : Option Double :=
  let (negative, cs) := splitSign s.toList
  match (String.ofList (cs.map Char.toLower)) with
  | "inf" | "infinity" => some (infinite negative)
  | "nan" => some nan
  | _ =>
    let whole := cs.takeWhile Char.isDigit
    let afterWhole := cs.dropWhile Char.isDigit
    let (fraction, rest) := match afterWhole with
      | '.' :: more => (more.takeWhile Char.isDigit, more.dropWhile Char.isDigit)
      | more => ([], more)
    if whole = [] ∧ fraction = [] then none
    else
      match readExponent? rest with
      | some e => some (ofDecimal negative (digitsValue (whole ++ fraction)) (e - fraction.length))
      | none => none

end EventTasks.Double
