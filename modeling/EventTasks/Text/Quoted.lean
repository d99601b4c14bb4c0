import EventTasks.Text.Half
import EventTasks.Text.Printable

/-!
Quoted texts. A text stands between single quotes, or between double quotes if it holds a single
one and no double one. The quote in use and the backslash are escaped by a backslash, and a
character that is not shown as itself is written by its number, as short as it fits.
-/
namespace EventTasks.Text

def singleQuote : Char := Char.ofNat 0x27

def doubleQuote : Char := Char.ofNat 0x22

def backslash : Char := Char.ofNat 0x5c

def hexDigits : Nat → Nat → List Char
  | 0, _ => []
  | places + 1, n => hexDigits places (n / 16) ++ [Nat.digitChar (n % 16)]

def quoteFor (cs : List Char) : Char :=
  if singleQuote ∈ cs ∧ doubleQuote ∉ cs then doubleQuote else singleQuote

def numbered (code : Nat) : List Char :=
  if code ≤ 0xff then backslash :: 'x' :: hexDigits 2 code
  else if code ≤ 0xffff then backslash :: 'u' :: hexDigits 4 code
  else backslash :: 'U' :: hexDigits 8 code

def escapeChar (quote c : Char) : List Char :=
  if c = quote ∨ c = backslash then [backslash, c]
  else if c = '\n' then [backslash, 'n']
  else if c = '\r' then [backslash, 'r']
  else if c = '\t' then [backslash, 't']
  else if isPrintable c then [c]
  else numbered (codeOf c)

def quoteChars (cs : List Char) : List Char :=
  let q := quoteFor cs
  q :: cs.flatMap (escapeChar q) ++ [q]

def quoted (s : String) : String := String.ofList (quoteChars s.toList)

def inAscii (s : String) : String :=
  String.ofList (s.toList.flatMap fun c => if c.toNat < 128 then [c] else numbered (codeOf c))

end EventTasks.Text
