import EventTasks.Log.Level

/-!
The line of a log record: time, level, logger and message in columns, then where the record comes
from. A painted line has the codes of the level's style around each column and is otherwise the
same.
-/
namespace EventTasks.Log

/-- The texts of a line of `ConformanceFormatter` and the colours of its level and message. -/
structure Columns where
  time : String
  style : Color × Color
  level : String
  logger : String
  message : String
  origin : String

def fileName (path : String) : String :=
  String.ofList (path.toList.reverse.takeWhile (· ≠ '/')).reverse

def column (width : Nat) (s : String) : String :=
  s ++ String.ofList (List.replicate (width - s.length) ' ')

def levelStyles : List (String × String × String) :=
  [("DEBUG", "cyan", "light_black"), ("INFO", "green", "light_white"),
    ("WARNING", "yellow", "yellow"), ("ERROR", "red", "bold_red"),
    ("CRITICAL", "fg_bold_white_bg_bold_red", "fg_bold_white_bg_bold_red")]

/-- `LEVEL_STYLES.get`: levels without a style are not coloured. -/
def styleOf (name : String) : String × String := (levelStyles.lookup name).getD ("reset", "reset")

def ink (painted : Bool) (c : Color) (s : String) : String := if painted then c.paint s else s

def Columns.line (painted : Bool) (c : Columns) : String :=
  String.intercalate " | " [
    ink painted .lightBlack c.time,
    ink painted c.style.1 c.level,
    ink painted c.style.2 c.logger,
    ink painted c.style.2 c.message] ++ " " ++ ink painted .lightBlack c.origin

end EventTasks.Log
