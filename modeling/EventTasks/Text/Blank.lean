/-!
Blanks at the ends of a text: the spaces and the line and paragraph separators of the character
database, the white-space controls, and the four information separators.
-/
namespace EventTasks.Text

def blankRanges : List (Nat × Nat) := [(0x9, 0xd), (0x1c, 0x20), (0x85, 0x85), (0xa0, 0xa0),
  (0x1680, 0x1680), (0x2000, 0x200a), (0x2028, 0x2029), (0x202f, 0x202f), (0x205f, 0x205f),
  (0x3000, 0x3000)]

def isBlank (c : Char) : Bool :=
  blankRanges.any fun r => decide (r.1 ≤ c.toNat) && decide (c.toNat ≤ r.2)

def trimChars (cs : List Char) : List Char :=
  ((cs.dropWhile isBlank).reverse.dropWhile isBlank).reverse

def trim (s : String) : String := String.ofList (trimChars s.toList)

end EventTasks.Text
