import EventTasks.Settings.Report
import EventTasks.Text.Half

/-!
Which values are accepted as a truth value. Besides the truth values themselves these are zero and
one and a few words in any case; other texts and whole numbers of moderate size are called
unreadable, everything else is of the wrong kind.
-/
namespace EventTasks.Settings

def yesWords : List String := ["1", "on", "t", "true", "y", "yes"]

def noWords : List String := ["0", "off", "f", "false", "n", "no"]

def readWord (s : String) : Except Complaint Bool :=
  let word := String.ofList (s.toList.map Char.toLower)
  if s.toList.any Text.isHalf then .error .textBroken
  else if word ∈ yesWords then .ok true
  else if word ∈ noWords then .ok false
  else .error .flagUnreadable

def readNumber (i : Int) : Except Complaint Bool :=
  if i = 0 then .ok false
  else if i = 1 then .ok true
  else if -Int.pow 2 63 ≤ i ∧ i < Int.pow 2 63 then .error .flagUnreadable
  else .error .flagKind

def readFlag : Value → Except Complaint Bool
  | .flag b => .ok b
  | .int _ i => readNumber i
  | .float _ x =>
    match x.whole? with
    | some i => if i = -Int.pow 2 63 then .error .flagKind else readNumber i
    | none => .error .flagKind
  | .text _ s => readWord s
  | .event e => readWord e.identifier
  | _ => .error .flagKind

/-- As `readFlag`, but `None` is accepted too. -/
def readOptionalFlag : Value → Except Complaint (Option Bool)
  | .nothing => .ok none
  | v => (readFlag v).map some

end EventTasks.Settings
