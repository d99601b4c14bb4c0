import EventTasks.Value
import EventTasks.Text.Cut

/-!
Reports on input that was not accepted. A report counts the problems and then names, for each, the
field, what is wrong, and the input with its kind. A long input is shown by its two ends.
-/
namespace EventTasks.Settings

structure Input where
  value : Value
  kind : String

inductive Complaint where
  | flagUnreadable
  | flagKind
  | textKind
  /-- A text that holds half of a character. -/
  | textBroken
  | refused (reason : String)
deriving Repr

structure Problem where
  field : String
  complaint : Complaint
  input : Input

namespace Complaint

def tag : Complaint → String
  | flagUnreadable => "bool_parsing"
  | flagKind => "bool_type"
  | textKind => "string_type"
  | textBroken => "string_unicode"
  | refused _ => "value_error"

def text : Complaint → String
  | flagUnreadable => "Input should be a valid boolean, unable to interpret input"
  | flagKind => "Input should be a valid boolean"
  | textKind => "Input should be a valid string"
  | textBroken =>
    "Input should be a valid string, unable to parse raw data as a unicode string"
  | refused reason => "Value error, " ++ reason

end Complaint

/-- A text of more than 50 bytes is shown by 25 bytes of its start and 24 of its end. -/
def shortened (s : String) : String :=
  if s.utf8ByteSize ≤ 50 then s
  else String.ofList (Text.startWithin 25 s.toList) ++ "..." ++
    String.ofList (Text.startWithin 24 s.toList.reverse).reverse

def Problem.text (p : Problem) (described : String) : String :=
  "\n" ++ p.field ++ "\n  " ++ p.complaint.text ++ " [type=" ++ p.complaint.tag ++
    ", input_value=" ++ shortened described ++ ", input_type=" ++ p.input.kind ++ "]"

/-- The text of a `ValidationError`. -/
def report (subject : String) (problems : List (Problem × String)) : String :=
  let noun := if problems.length = 1 then "error" else "errors"
  s!"{problems.length} validation {noun} for {subject}" ++
    String.join (problems.map fun p => p.1.text p.2)

end EventTasks.Settings
