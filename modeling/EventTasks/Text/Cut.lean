/-!
Names cut to a number of bytes. What is left of a character that the cut goes through is shown by
the replacement character.
-/
namespace EventTasks.Text

def replacement : Char := Char.ofNat 0xfffd

def startWithin (size : Nat) : List Char → List Char
  | [] => []
  | c :: rest => if c.utf8Size ≤ size then c :: startWithin (size - c.utf8Size) rest else []

def cutChars (size : Nat) : List Char → List Char
  | [] => []
  | c :: rest =>
    if c.utf8Size ≤ size then c :: cutChars (size - c.utf8Size) rest
    else if size = 0 then [] else [replacement]

def cut (size : Nat) (s : String) : String :=
  if s.utf8ByteSize ≤ size then s else String.ofList (cutChars size s.toList)

end EventTasks.Text
