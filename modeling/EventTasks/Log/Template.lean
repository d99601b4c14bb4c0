import EventTasks.Fault
import EventTasks.Log.Spec

/-!
Messages with places for arguments. A percent sign opens a place: an optional key in parentheses,
flags, width, precision, a length letter that has no effect, and the letter that says what is put
there; two percent signs stand for one. A star takes width or precision from the arguments. Reading
a text gives directives, which are carried out in order up to the first one that fails.
-/
namespace EventTasks.Log

/-- What `%`-formatting does at a place of the message. -/
inductive Directive where
  | write (c : Char)
  /-- Keys can be used only with a mapping. -/
  | needMapping
  /-- The value under a key becomes the only argument. -/
  | select (key : String)
  /-- The next argument is the width of the next place. -/
  | width
  /-- The next argument is the precision of the next place. -/
  | precision
  /-- Puts the next argument in the way that a letter says. -/
  | put (spec : Spec) (letter : Char) (position : Nat)
  | fail (fault : FormatFault)

namespace Template

/-- Where the reader stands in the text. -/
inductive Stage where
  | plain
  | opened
  | key (depth : Nat) (read : List Char)
  | flags (spec : Spec)
  | width (spec : Spec)
  | afterWidth (spec : Spec)
  | point (spec : Spec)
  | precision (spec : Spec)
  | afterPrecision (spec : Spec)
  | letter (spec : Spec)

abbrev Reading := Except FormatFault (List Directive × Stage)

def digitOf (c : Char) : Nat := c.toNat - 48

def greatestWidth : Nat := Nat.pow 2 63 - 1

def greatestPrecision : Nat := Nat.pow 2 31 - 1

def wider (s : Spec) (c : Char) : Reading :=
  if (greatestWidth - digitOf c) / 10 < s.width then .error .widthTooBig
  else .ok ([], .width { s with width := 10 * s.width + digitOf c })

def morePrecise (s : Spec) (c : Char) : Reading :=
  let so := s.precision.getD 0
  if (greatestPrecision - digitOf c) / 10 < so then .error .precisionTooBig
  else .ok ([], .precision { s with precision := some (10 * so + digitOf c) })

def readLetter (position : Nat) (spec : Spec) (c : Char) : Reading :=
  .ok ([.put spec c position], .plain)

def readLength (position : Nat) (spec : Spec) (c : Char) : Reading :=
  if c = 'h' ∨ c = 'l' ∨ c = 'L' then .ok ([], .letter spec) else readLetter position spec c

def readPoint (position : Nat) (spec : Spec) (c : Char) : Reading :=
  if c = '.' then .ok ([], .point { spec with precision := some 0 })
  else readLength position spec c

def readFlag (position : Nat) (spec : Spec) (c : Char) : Reading :=
  if c = '-' then .ok ([], .flags { spec with left := true })
  else if c = '+' then .ok ([], .flags { spec with plus := true })
  else if c = ' ' then .ok ([], .flags { spec with blank := true })
  else if c = '#' then .ok ([], .flags { spec with alternate := true })
  else if c = '0' then .ok ([], .flags { spec with zero := true })
  else if c = '*' then .ok ([.width], .afterWidth spec)
  else if c.isDigit then wider spec c
  else readPoint position spec c

def readKey (depth : Nat) (read : List Char) (c : Char) : Reading :=
  if c = ')' ∧ depth = 1 then .ok ([.select (String.ofList read)], .flags {})
  else
    let depth := if c = ')' then depth - 1 else if c = '(' then depth + 1 else depth
    .ok ([], .key depth (read ++ [c]))

/-- One step of the reader, on the character at a position. -/
def readChar (position : Nat) (stage : Stage) (c : Char) : Reading :=
  match stage with
  | .plain => .ok (if c = '%' then ([], .opened) else ([.write c], .plain))
  | .opened =>
    if c = '(' then .ok ([.needMapping], .key 1 [])
    else if c = '%' then .ok ([.write c], .plain)
    else readFlag position {} c
  | .key depth read => readKey depth read c
  | .flags spec => readFlag position spec c
  | .width spec => if c.isDigit then wider spec c else readPoint position spec c
  | .afterWidth spec => readPoint position spec c
  | .point spec =>
    if c = '*' then .ok ([.precision], .afterPrecision spec)
    else if c.isDigit then morePrecise spec c
    else readLength position spec c
  | .precision spec => if c.isDigit then morePrecise spec c else readLength position spec c
  | .afterPrecision spec => readLength position spec c
  | .letter spec => readLetter position spec c

def atEnd : Stage → List Directive
  | .plain => []
  | .key _ _ => [.fail .incompleteKey]
  | _ => [.fail .incomplete]

def readFrom (position : Nat) (stage : Stage) : List Char → List Directive
  | [] => atEnd stage
  | c :: rest =>
    match readChar position stage c with
    | .error fault => [.fail fault]
    | .ok (found, next) => found ++ readFrom (position + 1) next rest

/-- The directives of a message. -/
def read (text : String) : List Directive := readFrom 0 .plain text.toList

end Template

end EventTasks.Log
