import EventTasks.Text.Printable

/-!
Texts that can name an attribute in the text of a program, and the private names of a class. A
private name starts with two underscores and does not end with two; the class then puts its own
name in front, so that classes above and below may use the same private name.
-/
namespace EventTasks.Text

def startsName (c : Char) : Bool :=
  c.isAlpha || c == '_' || (128 ≤ c.toNat && isPrintable c)

def isIdentifier (s : String) : Bool :=
  match s.toList with
  | [] => false
  | c :: rest => startsName c && rest.all fun d => startsName d || d.isDigit

def isPrivate (name : List Char) : Bool :=
  "__".toList.isPrefixOf name && !"__".toList.isSuffixOf name && !name.contains '.'

/-- A private name as a class holds it. -/
def ownName (cls name : String) : String :=
  match cls.toList.dropWhile (· = '_') with
  | [] => name
  | start => if isPrivate name.toList then "_" ++ String.ofList start ++ name else name

end EventTasks.Text
