import EventTasks.Options
import EventTasks.Record
import EventTasks.Settings.Encoding

/-!
Settings and logging as steps use them: which values given by name are settings and which say where
to look for them, how a level given as any value is read, and what the operations of logging reply.
-/
namespace EventTasks.Script

/-! Environment -/

def variableText (w : World) (v : Value) : Except Fault String :=
  match v.text? with
  | none => .error (.textExpected (w.kindOf v))
  | some s =>
    match Text.unencodable? Text.isByteHalf s with
    | some (start, stop) => .error (.unencodable s start stop)
    | none => .ok s

def checkVariable (name value : String) : Except Fault Unit :=
  let null := Char.ofNat 0
  if null ∈ name.toList ∨ null ∈ value.toList then .error .nullByte
  else if '=' ∈ name.toList then .error .variableName
  else if name = "" then .error .emptyVariableName
  else .ok ()

def setVariable (name value : Value) : Act Unit := do
  let w ← get
  let name ← liftExcept (variableText w name)
  let change (f : List (String × String) → List (String × String)) : Surrounded Unit :=
    modify fun s => { s with environment := f s.environment }
  if value.isNothing then around (change (dropEntry name))
  else
    let value ← liftExcept (variableText w value)
    liftExcept (checkVariable name value)
    around (change (setEntry name value))

def setFile (text : Option String) : Act Unit := do
  let put (file : Option String) : Act Unit := around (modify fun s => { s with file })
  match text.bind fun s => (Text.unencodable? (fun _ => false) s).map (s, ·) with
  | none => put text
  | some (s, start, stop) => do
    put (some "")
    throw (.unencodable s start stop)

/-! Settings -/

def settingsFile : String := ".env"

def isSettingsPath (path : String) : Bool :=
  !path.startsWith "/" &&
    (path.splitOn "/").filter (fun part => part != "" && part != ".") == [settingsFile]

def choice? (given : List (String × Value)) (name : String) : Option Value :=
  match given.lookup name with
  | some .nothing | none => none
  | some v => some v

def flagChoice (h : Host) (given : List (String × Value)) (name : String) (default : Bool) :
    Act Bool :=
  match choice? given name with
  | some v => h.truth v
  | none => pure default

def encodingOf (h : Host) (given : List (String × Value)) : Act Settings.Encoding := do
  match choice? given "_env_file_encoding" with
  | none => pure .utf8
  | some v =>
    if !(← h.truth v) then pure .utf8
    else
      match v.text? with
      | none => throw (.encodingKind ((← get).kindOf v))
      | some name =>
        match Settings.Encoding.ofName? name with
        | some e => pure e
        | none => throw (.unknownEncoding name)

/-- Reads the settings file, if there is one, and warns of lines that cannot be read. -/
def readFile (h : Host) (given : List (String × Value)) : Act (Option String) := do
  match (← get).around.file with
  | none => pure none
  | some text => do
    let decoded ← liftExcept ((← encodingOf h given).decode text)
    around (Surroundings.warnOfLines (Settings.Assignments.unreadable decoded))
    pure (some decoded)

def readPath (h : Host) (given : List (String × Value)) (found : Option String) (path : Value) :
    Act (Option String) := do
  match path.text? with
  | some s => if isSettingsPath s then readFile h given else pure found
  | none => throw (.pathExpected ((← get).kindOf path))

def fileOf (h : Host) (given : List (String × Value)) : Act (Option String) := do
  match given.lookup "_env_file" with
  | none => readFile h given
  | some .nothing => pure none
  | some v =>
    if v.text?.isSome then readPath h given none v
    else h.foldItems v (readPath h given) none

def wordOf (h : Host) (given : List (String × Value)) (usual : String) : Act (Option String) := do
  match choice? given "_env_prefix" with
  | none => pure (some usual)
  | some v => do
    let _ ← h.size v
    pure v.text?

def isWordUsed (given : List (String × Value)) : Bool :=
  match choice? given "_env_prefix_target" with
  | none => true
  | some v => v.text?.any fun s => s ∈ ["variable", "all"]

def checkPartCount (h : Host) (given : List (String × Value)) : Act Unit := do
  match choice? given "_env_nested_max_split" with
  | none | some (.float _ _) => pure ()
  | some v =>
    if v.int?.isNone && (← h.truth v) then throw (.unsubtractable ((← get).kindOf v))

def checkSecrets (h : Host) (given : List (String × Value)) : Act Unit := do
  let path (isFile : Bool) (v : Value) : Act Bool := do
    match v.text? with
    | some s => pure (isFile || (isSettingsPath s && (← get).around.file.isSome))
    | none => throw (.pathExpected ((← get).kindOf v))
  match choice? given "_secrets_dir" with
  | none => pure ()
  | some v =>
    let isFile ← if v.text?.isSome then path false v else h.foldItems v path false
    if isFile then throw .notDirectory

def sourcesOf (h : Host) (given : List (String × Value)) : Act Settings.Sources := do
  let usual : Settings.Search := {}
  let exact ← flagChoice h given "_case_sensitive" usual.exact
  let skipEmpty ← flagChoice h given "_env_ignore_empty" usual.skipEmpty
  checkPartCount h given
  let word ← wordOf h given usual.word
  let file ← fileOf h given
  let nothingWord := (choice? given "_env_parse_none_str").bind Value.text?
  let w ← get
  let inputs := given.map fun p => (p.1, Host.inputOf w p.2)
  match word, isWordUsed given with
  | none, true => throw (.unusableSource Settings.Field.devMode.name "EnvSettingsSource")
  | word, used =>
    checkSecrets h given
    let word := if used then word.getD "" else ""
    pure { w.around.sources inputs with file, search := { exact, word, nothingWord, skipEmpty } }

def readSeverity (h : Host) (v : Value) : Act (Except Settings.Complaint Log.Severity) := do
  let found ← attempt do
    match Settings.severityOf? (← h.textOf v) with
    | some severity => pure (.ok severity)
    | none => do pure (.error (Settings.unknownSeverity (← h.describe v)))
  match found with
  | .ok result => pure result
  | .error f => if f.kind.isValue then pure (.error (.refused f.message)) else throw f

def readFlag (h : Host) (s : Settings.Sources) (f : Settings.Field) :
    Act (Except Settings.Complaint Bool) := do
  match s.deciding? f with
  | some input => do pure (Settings.readFlag (← h.flagOf input.value))
  | none => pure (.error .flagKind)

/-- `ConformanceConfig(**given)`. The fields are validated in order. -/
def settingsOf (h : Host) (given : List (String × Value)) : Act Settings := do
  let sources ← sourcesOf h given
  let devMode ← readFlag h sources .devMode
  let level ← match sources.deciding? .logLevel with
    | some input => readSeverity h input.value
    | none => pure (.ok .info)
  let attachLogger ← readFlag h sources .attachLogger
  let useColors ← readFlag h sources .useColors
  let flag : Settings.Field → Except Settings.Complaint Bool
    | .devMode => devMode
    | .attachLogger => attachLogger
    | _ => useColors
  match Settings.resolveWith { flag := fun f _ => flag f, level := fun _ => level } sources with
  | .ok settings => pure settings
  | .error problems => throw (← h.invalid Surroundings.settingsName problems)

/-! Logging -/

def levelNames : Dictionary :=
  .ofTexts (Log.Level.settable.map fun p => (p.1, .number p.2))

def levelOf (h : Host) (v : Value) : Act Log.Level := do
  match v with
  | .int _ i => pure (.number i)
  | .flag b => pure (.flag b)
  | v => do
    h.checkClass v
    let text := Value.word (← h.textOf v)
    if ← h.equalsSimply text v then
      let known ← h.findIn levelNames v
      let found ← if known.isSome then h.findIn levelNames v else pure none
      match found.bind Value.int? with
      | some i => pure (.number i)
      | none => throw (.unknownLevel (← h.describe v))
    else throw (.levelNotNumber (← h.describe v))

def status : Act Log.Status := do pure (← get).around.root.status

def setTerminal (h : Host) (v : Value) : Act Unit := do
  let terminal ← if v.isNothing then pure none else some <$> h.truth v
  around (Surroundings.modifyRoot fun r => { r with terminal })

def setLevel (h : Host) (v : Value) : Act Unit := do
  around Surroundings.initialise
  let level ← levelOf h v
  around (Surroundings.modifyRoot (·.setConsoleLevel level))
  let level ← levelOf h v
  around (Surroundings.modifyRoot ({ · with level }))

def loggerNamed (h : Host) (name : Value) : Act String := do
  if ← h.truth name then
    h.checkClass name
    h.checkClass name
    match name.text? with
    | some s => pure s
    | none => throw .loggerName
  else pure "root"

/-- `get_logger`. -/
def findLogger (h : Host) (name level : Value) : Act String := do
  around Surroundings.initialise
  if !level.isNothing then setLevel h level
  loggerNamed h name

def paintedOf (h : Host) (colors : Value) : Act Value := do
  if ← h.truth colors then pure (.flag (← get).around.root.onTerminal) else pure colors

/-- `add_file_handler`. -/
def addFile (h : Host) (id : String) (level colors : Value) : Act Log.File := do
  around Surroundings.initialise
  let painted ← paintedOf h colors
  let level ← if level.isNothing then pure (.number 0) else levelOf h level
  let file : Log.File := ⟨id, level, painted⟩
  around (Surroundings.addFile file)
  pure file

end EventTasks.Script
