/-!
Halves of characters. A text from outside may hold half of a pair of 16-bit units without the other
half. Such a half is no character of its own; it is held as the private character that stands
`2 ^ 20` above its code, and shown by its code.
-/
namespace EventTasks.Text

def isHalfCode (code : Nat) : Bool := decide (0xd800 ≤ code) && decide (code ≤ 0xdfff)

def halfDistance : Nat := 0x100000

def isHalf (c : Char) : Bool := isHalfCode (c.toNat - halfDistance)

def codeOf (c : Char) : Nat := if isHalf c then c.toNat - halfDistance else c.toNat

/-- The character, or the surrogate, with a code. -/
def charOf (code : Nat) : Char :=
  Char.ofNat (if isHalfCode code then code + halfDistance else code)

def unencodable? (passing : Char → Bool) (s : String) : Option (Nat × Nat) :=
  let cs := s.toList.zipIdx
  (cs.find? fun p => isHalf p.1 && !passing p.1).map fun p =>
    (p.2, p.2 + ((cs.drop p.2).takeWhile fun q => isHalf q.1).length)

def isByteHalf (c : Char) : Bool := decide (0xdc80 ≤ codeOf c) && decide (codeOf c ≤ 0xdcff)

end EventTasks.Text
