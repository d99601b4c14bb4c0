import EventTasks.Text.Blank
import EventTasks.Text.Quoted

/-!
Settings files: lines of the form name, equals sign, value. Blank lines and comments are skipped, a
word for export may stand in front, blanks around the equals sign and at the end do not count, and
a value may be quoted. A line that does not fit is passed over and reported by its number. A value
may refer to variables by a dollar sign and a name in braces, with a default behind the name.
-/
namespace EventTasks.Settings.Assignments

open Text (singleQuote doubleQuote backslash isBlank)

def isSpace (c : Char) : Bool := isBlank c && c != '\n'

def nextLine (cs : List Char) : List Char := (cs.dropWhile (· ≠ '\n')).drop 1

def splitQuoted (quote : Char) : List Char → Option (List Char × List Char)
  | [] => none
  | [c] => if c = quote then some ([], []) else none
  | c :: d :: rest =>
    if c = quote then some ([], d :: rest)
    else if c = backslash then (splitQuoted quote rest).map fun p => (c :: d :: p.1, p.2)
    else (splitQuoted quote (d :: rest)).map fun p => (c :: p.1, p.2)

def escaped? (c : Char) : Option Char :=
  if c = backslash ∨ c = singleQuote ∨ c = doubleQuote then some c
  else if c = 'a' then some (Char.ofNat 7)
  else if c = 'b' then some (Char.ofNat 8)
  else if c = 'f' then some (Char.ofNat 12)
  else if c = 'n' then some '\n'
  else if c = 'r' then some '\r'
  else if c = 't' then some '\t'
  else if c = 'v' then some (Char.ofNat 11)
  else none

def unescape (meaning : Char → Option Char) : List Char → List Char
  | [] => []
  | [c] => [c]
  | c :: d :: rest =>
    if c = backslash then
      match meaning d with
      | some e => e :: unescape meaning rest
      | none => c :: unescape meaning (d :: rest)
    else c :: unescape meaning (d :: rest)

def cutComment : List Char → List Char
  | [] => []
  | c :: rest =>
    if isBlank c && (rest.dropWhile isBlank).head? == some '#' then []
    else c :: cutComment rest

def trimEnd (cs : List Char) : List Char := (cs.reverse.dropWhile isBlank).reverse

def readValue : List Char → Option (List Char × List Char)
  | [] => some ([], [])
  | c :: rest =>
    if c = singleQuote then
      (splitQuoted singleQuote rest).map fun p =>
        (unescape (fun d => if d = backslash ∨ d = singleQuote then some d else none) p.1, p.2)
    else if c = doubleQuote then
      (splitQuoted doubleQuote rest).map fun p => (unescape escaped? p.1, p.2)
    else
      let line := (c :: rest).takeWhile (· ≠ '\n')
      some (trimEnd (cutComment line), (c :: rest).dropWhile (· ≠ '\n'))

def skipExport (cs : List Char) : List Char :=
  let rest := cs.drop 6
  if cs.take 6 = "export".toList ∧ rest.head?.any isSpace then rest.dropWhile isSpace else cs

def isNameChar (c : Char) : Bool := !(c == '=' || c == '#' || isBlank c)

def readName (cs : List Char) : Option (Option (List Char) × List Char) :=
  match cs with
  | [] => none
  | c :: rest =>
    if c = '#' then some (none, cs)
    else if c = singleQuote then
      let name := rest.takeWhile (· ≠ singleQuote)
      match rest.dropWhile (· ≠ singleQuote) with
      | _ :: more => if name = [] then none else some (some name, more)
      | [] => none
    else
      let name := cs.takeWhile isNameChar
      if name = [] then none else some (some name, cs.dropWhile isNameChar)

def endsLine (cs : List Char) : Bool :=
  match cs.dropWhile isSpace with
  | [] => true
  | c :: _ => c == '#' || c == '\n'

inductive Line where
  | comment
  | assignment (name : List Char) (value : Option (List Char))
  | unreadable

def lineOf (name : Option (List Char)) (value : Option (List Char)) : Line :=
  match name with
  | none => .comment
  | some name => .assignment name value

/-- The first line of `cs`, which does not start with a blank, and the lines behind it. -/
def readLine (cs : List Char) : Line × List Char :=
  let cs := skipExport cs
  match readName cs with
  | none => (.unreadable, nextLine cs)
  | some (name, rest) =>
    let rest := rest.dropWhile isSpace
    match rest with
    | '=' :: more =>
      let start := more.dropWhile isSpace
      if start.head? = some '#' ∧ more.head?.any isSpace then
        (lineOf name (some []), nextLine start)
      else
        match readValue start with
        | none => (.unreadable, nextLine start)
        | some (value, left) =>
          (if endsLine left then lineOf name (some value) else .unreadable, nextLine left)
    | _ => (if endsLine rest then lineOf name none else .unreadable, nextLine rest)

def readLines : Nat → Nat → List Char → List (Nat × Line)
  | 0, _, _ => []
  | fuel + 1, passed, cs =>
    match cs.dropWhile isBlank with
    | [] => []
    | start =>
      let (line, rest) := readLine start
      (passed, line) :: readLines fuel (passed + (cs.count '\n' - rest.count '\n')) rest

def normalized (cs : List Char) : List Char :=
  let rec lines : List Char → List Char
    | '\r' :: '\n' :: rest => '\n' :: lines rest
    | '\r' :: rest => '\n' :: lines rest
    | c :: rest => c :: lines rest
    | [] => []
  lines (if cs.head? = some (Char.ofNat 0xfeff) then cs.drop 1 else cs)

def linesOf (text : String) : List (Nat × Line) :=
  let cs := normalized text.toList
  readLines (cs.length + 1) 0 cs

def unreadable (text : String) : List Nat :=
  (linesOf text).filterMap fun p =>
    match p.2 with
    | .unreadable => some (p.1 + 1)
    | _ => none

inductive Piece where
  | literal (c : Char)
  | reference (name : String) (default : String)

def openBrace : Char := Char.ofNat 0x7b

def closeBrace : Char := Char.ofNat 0x7d

/-- The name and default of a reference `${NAME:-default}` behind its opening brace. -/
def readReference (cs : List Char) : Option (Piece × List Char) :=
  let isName (c : Char) : Bool := c != closeBrace && c != ':'
  let name := String.ofList (cs.takeWhile isName)
  match cs.dropWhile isName with
  | ':' :: '-' :: more =>
    match more.dropWhile (· ≠ closeBrace) with
    | _ :: rest => some (.reference name (String.ofList (more.takeWhile (· ≠ closeBrace))), rest)
    | [] => none
  | ':' :: _ => none
  | _ :: rest => some (.reference name "", rest)
  | [] => none

def piecesOf : Nat → List Char → List Piece
  | 0, _ => []
  | _, [] => []
  | _, [c] => [.literal c]
  | fuel + 1, c :: d :: rest =>
    if c = '$' ∧ d = openBrace then
      match readReference rest with
      | some (piece, left) => piece :: piecesOf fuel left
      | none => .literal c :: piecesOf fuel (d :: rest)
    else .literal c :: piecesOf fuel (d :: rest)

def Piece.text (known : String → Option (Option String)) : Piece → List Char
  | literal c => [c]
  | reference name default =>
    match known name with
    | some value => (value.getD "").toList
    | none => default.toList

/-- A value with its references resolved. -/
def expand (known : String → Option (Option String)) (value : List Char) : String :=
  String.ofList ((piecesOf (value.length + 1) value).flatMap (Piece.text known))

/-- The assignments of a file in order. References are to the assignments in front, or else to the
environment. -/
def parse (environment : List (String × String)) (text : String) : List (String × Option String) :=
  (linesOf text).foldl (fun found p =>
    match p.2 with
    | .assignment name value =>
      let known (n : String) : Option (Option String) :=
        (found.reverse.lookup n).or ((environment.lookup n).map some)
      found ++ [(String.ofList name, value.map (expand known))]
    | _ => found) []

end EventTasks.Settings.Assignments
