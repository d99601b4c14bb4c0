import EventTasks.Text.Blank

/-!
What answers do not show of a text. The description of something without a text of its own ends with
the place where it is held; places differ from run to run, so answers show the same word for all of
them. Hints where to read more about a problem are left out.
-/
namespace EventTasks.Text

def somePlace : String := " at 0x7f0000000000"

def substituteFrom (found : List Char → Option (Nat × List Char)) : Nat → List Char → List Char
  | _, [] => []
  | skip + 1, _ :: rest => substituteFrom found skip rest
  | 0, c :: rest =>
    match found (c :: rest) with
    | some (size + 1, new) => new ++ substituteFrom found size rest
    | _ => c :: substituteFrom found 0 rest

def substitute (found : List Char → Option (Nat × List Char)) (s : String) : String :=
  String.ofList (substituteFrom found 0 s.toList)

def opening? (start : String) (isMore : Char → Bool) (new : String) (cs : List Char) :
    Option (Nat × List Char) :=
  let more := (cs.drop start.length).takeWhile isMore
  if start.toList.isPrefixOf cs && !more.isEmpty then
    some (start.length + more.length, new.toList)
  else none

def isPlaceDigit (c : Char) : Bool := c.isDigit || ('a' ≤ c && c ≤ 'f')

/-- The text with the same word in place of every address. -/
def masked (s : String) : String :=
  let unhinted := substitute (opening? "\n    For further information visit " (!isBlank ·) "") s
  substitute (opening? " at 0x" isPlaceDigit " at ADDR") unhinted

end EventTasks.Text
