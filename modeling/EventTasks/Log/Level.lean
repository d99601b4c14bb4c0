import EventTasks.Log.Palette
import EventTasks.Number.Double

/-!
Levels of importance. Five numbers have a severity; all other numbers are levels too. A level may
also be given as a truth value, which counts as one or zero. A record may be of any importance, also
between two levels.
-/
namespace EventTasks.Log

inductive Severity where
  | debug | info | warning | error | critical
deriving DecidableEq, Repr

namespace Severity

def all : List Severity := [debug, info, warning, error, critical]

def name : Severity → String
  | debug => "DEBUG"
  | info => "INFO"
  | warning => "WARNING"
  | error => "ERROR"
  | critical => "CRITICAL"

def number : Severity → Int
  | debug => 10
  | info => 20
  | warning => 30
  | error => 40
  | critical => 50

def ofName? (s : String) : Option Severity := all.find? fun v => v.name == s

def style : Severity → Color × Color
  | debug => (.cyan, .lightBlack)
  | info => (.green, .lightWhite)
  | warning => (.yellow, .yellow)
  | error => (.red, .boldRed)
  | critical => (.boldWhiteOnBoldRed, .boldWhiteOnBoldRed)

end Severity

inductive Level where
  | number (n : Int)
  | flag (b : Bool)
deriving DecidableEq, Repr

namespace Level

def rank : Level → Int
  | number n => n
  | flag b => if b then 1 else 0

/-- The names that `ConformanceConfig.log_level` accepts. -/
def settable : List (String × Int) := [("CRITICAL", 50), ("FATAL", 50), ("ERROR", 40),
  ("WARN", 30), ("WARNING", 30), ("INFO", 20), ("DEBUG", 10), ("NOTSET", 0)]

def ofName? (s : String) : Option Level := (settable.lookup s).map number

def nameOf? (n : Int) : Option String :=
  if n = 0 then some "NOTSET" else (Severity.all.find? fun v => v.number == n).map Severity.name

end Level

inductive Importance where
  | whole (n : Int)
  | fraction (x : Double)

namespace Importance

/-- Whether a record of this importance passes a level. -/
def reaches (level : Int) : Importance → Bool
  | whole n => decide (level ≤ n)
  | fraction (.infinite negative) => !negative
  | fraction x =>
    match x.floor? with
    | some n => decide (level ≤ n)
    | none => false

def isPositive : Importance → Bool
  | whole n => decide (0 < n)
  | fraction (.finite negative m _) => !negative && m != 0
  | fraction (.infinite negative) => !negative
  | fraction .nan => false

end Importance

end EventTasks.Log
