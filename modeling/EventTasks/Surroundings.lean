import EventTasks.Settings.Resolve
import EventTasks.Log.Root

/-!
What surrounds all objects: the variables and the file that settings are read from, the settings
read last, and the root of the loggers. The shared settings are read once and kept until they are
reset; a reading that fails is not kept. The console is opened and dressed when logging is first
needed. If the settings cannot be read then, the console stays open but undressed.
-/
namespace EventTasks

/-- The environment, the settings file, the cached settings and the logging system. -/
structure Surroundings where
  environment : List (String × String) := [("TZ", "UTC")]
  file : Option String := none
  /-- The shared settings with the number of their reading. -/
  shared : Option (Nat × Settings) := none
  /-- How often shared settings have been made. -/
  readings : Nat := 0
  root : Log.Root := {}

abbrev Surrounded := EStateM Fault Surroundings

namespace Surroundings

def settingsName : String := "ConformanceConfig"

def fileLogger : String := "dotenv.main"

def modifyRoot (f : Log.Root → Log.Root) : Surrounded Unit :=
  modify fun s => { s with root := f s.root }

def say (severity : Log.Severity) (logger message : String) : Surrounded Unit :=
  modifyRoot (·.say severity logger message)

def sources (s : Surroundings) (given : List (String × Settings.Input)) : Settings.Sources :=
  ⟨given, s.environment, s.file, {}⟩

def warnOfLines : List Nat → Surrounded Unit
  | [] => pure ()
  | n :: rest => do
    say .warning fileLogger s!"python-dotenv could not parse statement starting at line {n}"
    warnOfLines rest

def readSettings : Surrounded Settings := do
  let sources := (← get).sources []
  warnOfLines ((sources.file.map Settings.Assignments.unreadable).getD [])
  match Settings.resolve sources with
  | .ok settings => pure settings
  | .error problems =>
    throw (.invalid (Settings.report settingsName
      (problems.map fun p => (p, Text.quoted p.input.text))))

/-- `get_config`, with the number of the reading that made the settings. -/
def sharedSettings : Surrounded (Nat × Settings) := do
  match (← get).shared with
  | some kept => pure kept
  | none =>
    let settings ← readSettings
    modifyGet fun s =>
      ((s.readings, settings),
        { s with shared := some (s.readings, settings), readings := s.readings + 1 })

def resetSettings : Surrounded Unit := modify fun s => { s with shared := none }

def dress (settings : Settings) : Surrounded Unit :=
  modifyRoot fun r => (r.dress settings.useColors).setLevel (.number settings.level)

/-- `_initialize_logging`. -/
def initialise : Surrounded Unit := do
  if (← get).root.console.isNone then
    modifyRoot Log.Root.openConsole
    dress (← sharedSettings).2

/-- `apply_config`. -/
def applySettings (given : Option Settings) : Surrounded Unit := do
  let settings ← match given with
    | some settings => pure settings
    | none => do pure (← sharedSettings).2
  initialise
  dress settings

/-- `set_level`. -/
def setLevel (level : Log.Level) : Surrounded Unit := modifyRoot (·.setLevel level)

def addFile (file : Log.File) : Surrounded Unit := modifyRoot (·.addFile file)

/-- The state in which every session starts. -/
def start : Surroundings :=
  { root := ((({ : Log.Root }).openConsole.attach .journal).dress true).setLevel (.number 20) }

end Surroundings

end EventTasks
