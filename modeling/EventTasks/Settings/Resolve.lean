import EventTasks.Settings.Flag
import EventTasks.Settings.Assignments
import EventTasks.Entries
import EventTasks.Log.Level
import EventTasks.Text.Case
import EventTasks.Text.Quoted

/-!
The settings and where they come from. Each field is decided by the first source that has it: the
values given by name, the environment, the settings file, the default. The deciding value must be
acceptable; what other sources hold does not matter.
-/
namespace EventTasks

/-- The fields of a `ConformanceConfig`. -/
structure Settings where
  devMode : Bool := false
  logLevel : Log.Severity := .info
  attachLogger : Bool := true
  prefixColor : Log.Color := .lightBlack
  useColors : Bool := true
deriving DecidableEq, Repr

namespace Settings

/-- `ConformanceConfig.level`: in development everything from `DEBUG` on. -/
def level (s : Settings) : Int := if s.devMode then Log.Severity.debug.number else s.logLevel.number

inductive Field where
  | devMode | logLevel | attachLogger | prefixColor | useColors
deriving DecidableEq, Repr

def Field.name : Field → String
  | devMode => "dev_mode"
  | logLevel => "log_level"
  | attachLogger => "attach_logger"
  | prefixColor => "prefix_color"
  | useColors => "use_colors"

structure Search where
  /-- Whether the case of names counts. -/
  exact : Bool := false
  /-- Names of variables start with this word. -/
  word : String := "conformance_"
  /-- A value that stands for nothing. -/
  nothingWord : Option String := none
  /-- Whether empty values do not count. -/
  skipEmpty : Bool := true

/-- Keyword arguments, environment and settings file. The variables stand in order of creation. -/
structure Sources where
  given : List (String × Input)
  environment : List (String × String)
  file : Option String
  search : Search := {}

def Input.ofText (s : String) : Input := ⟨.word s, "str"⟩

def Input.nothing : Input := ⟨.nothing, "NoneType"⟩

namespace Search

def caseless (s : Search) (name : String) : String := if s.exact then name else Text.lower name

def inputOf (s : Search) (text : String) : Input :=
  if s.nothingWord = some text then .nothing else .ofText text

def valueOf? (s : Search) (f : Field) (vars : List (String × Option String)) : Option String :=
  let kept := vars.filter fun p => !(s.skipEmpty && p.2 == some "")
  let wanted := s.caseless (s.word ++ f.name)
  (kept.reverse.find? fun p => s.caseless p.1 == wanted).bind (·.2)

end Search

namespace Sources

def fileVariables (s : Sources) : List (String × Option String) :=
  match s.file with
  | some text => setEntries (Assignments.parse s.environment text) []
  | none => []

def given? (s : Sources) (f : Field) : Option Input :=
  (s.given.find? fun p => Text.lower p.1 == f.name).map Prod.snd

/-- The value that decides a field, unless it is left to the default. -/
def deciding? (s : Sources) (f : Field) : Option Input :=
  match s.given? f with
  | some input => some input
  | none =>
    match s.search.valueOf? f (s.environment.map fun p => (p.1, some p.2)) with
    | some text => some (s.search.inputOf text)
    | none => (s.search.valueOf? f s.fileVariables).map s.search.inputOf

end Sources

def severityOf? (text : String) : Option Log.Severity :=
  Log.Severity.ofName? (Text.upper (Text.trim text))

def unknownSeverity (described : String) : Complaint :=
  let names := String.intercalate ", " (Log.Severity.all.map Log.Severity.name)
  .refused s!"log_level must be one of {names}, got {described}"

def readSeverity (text : String) : Except Complaint Log.Severity :=
  match severityOf? text with
  | some v => .ok v
  | none => .error (unknownSeverity (Text.quoted text))

def readColorName (name : String) : Except Complaint Log.Color :=
  match Log.Color.ofName? name with
  | some c => .ok c
  | none => .error (.refused ("unknown prefix_color " ++ Text.quoted name))

def readColor (input : Input) : Except Complaint Log.Color :=
  match input.value.text? with
  | some s => readColorName s
  | none => .error .textKind

def field (s : Sources) (f : Field) (read : Input → Except Complaint α) (default : α) :
    Except Problem α :=
  match s.deciding? f with
  | none => .ok default
  | some input =>
    match read input with
    | .ok a => .ok a
    | .error c => .error ⟨f.name, c, input⟩

def problemsOf : Except Problem α → List Problem
  | .ok _ => []
  | .error p => [p]

structure Reading where
  flag : Field → Input → Except Complaint Bool
  level : Input → Except Complaint Log.Severity

/-- The settings of some sources, or the problems of all fields in order. -/
def resolveWith (read : Reading) (s : Sources) : Except (List Problem) Settings :=
  let devMode := field s .devMode (read.flag .devMode) false
  let logLevel := field s .logLevel read.level .info
  let attachLogger := field s .attachLogger (read.flag .attachLogger) true
  let prefixColor := field s .prefixColor readColor .lightBlack
  let useColors := field s .useColors (read.flag .useColors) true
  match devMode, logLevel, attachLogger, prefixColor, useColors with
  | .ok d, .ok l, .ok a, .ok p, .ok u => .ok ⟨d, l, a, p, u⟩
  | _, _, _, _, _ =>
    .error (problemsOf devMode ++ problemsOf logLevel ++ problemsOf attachLogger ++
      problemsOf prefixColor ++ problemsOf useColors)

def Input.text (i : Input) : String := i.value.text?.getD ""

def Reading.ofTexts : Reading where
  flag _ input := readFlag input.value
  level input := readSeverity input.text

/-- The settings of sources that hold texts alone. -/
def resolve (s : Sources) : Except (List Problem) Settings :=
  resolveWith .ofTexts s

end Settings

end EventTasks
