import EventTasks.Text.CaseTable

/-!
Upper and lower case of whole texts. A character may become several; a capital sigma becomes the
final form when it closes a word, that is when the nearest character before it is a letter with
case and the nearest one after it is not, both counted without the ignorable ones.
-/
namespace EventTasks.Text

def inRanges (ranges : List (Nat × Nat)) (c : Char) : Bool :=
  ranges.any fun r => decide (r.1 ≤ c.toNat) && decide (c.toNat ≤ r.2)

def imageOf (texts : List (Nat × List Nat)) (runs : List CaseRun) (c : Char) : List Char :=
  match texts.find? (·.1 == c.toNat) with
  | some entry => entry.2.map Char.ofNat
  | none =>
    match runs.find? (·.covers c.toNat) with
    | some run => [Char.ofNat (run.image c.toNat)]
    | none => [c]

def lowerChar (c : Char) : List Char :=
  if c.toNat < 128 then [c.toLower] else imageOf lowerTexts lowerRuns c

def upperChar (c : Char) : List Char :=
  if c.toNat < 128 then [c.toUpper] else imageOf upperTexts upperRuns c

def meetsCased (cs : List Char) : Bool :=
  match cs.dropWhile (inRanges caseIgnorableRanges) with
  | [] => false
  | c :: _ => inRanges casedRanges c

/-- `before` holds the characters already read, the nearest first. -/
def lowerFrom (before : List Char) : List Char → List Char
  | [] => []
  | c :: rest =>
    (if c = 'Σ' then [if meetsCased before && !meetsCased rest then 'ς' else 'σ']
      else lowerChar c) ++ lowerFrom (c :: before) rest

def lower (s : String) : String := String.ofList (lowerFrom [] s.toList)

def upper (s : String) : String := String.ofList (s.toList.flatMap upperChar)

end EventTasks.Text
