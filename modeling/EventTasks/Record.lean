import EventTasks.Rendering
import EventTasks.Log.Clock

/-!
Log records and what the sinks make of them. A record is handed to the sinks of the root in their
order. Each of them makes the text itself, since the values in a record may have texts of their own;
a sink that cannot make it writes nothing, except that a chain of calls that is too long is passed
on. A sink without a layout writes the bare message, and the fault that the record carries.
-/
namespace EventTasks

structure Record where
  name : Value
  level : Value
  path : Value
  line : Value
  message : Value
  args : Arguments
  function : Value
  created : Value
  /-- Whether the record carries a fault. -/
  failing : Bool

namespace Record

/-- A single mapping that is not empty is the source of keys; otherwise arguments go in order. -/
def argumentsOf (h : Host) (values : List Value) : Act Arguments := do
  match values with
  | [v] =>
    if v.isMapping then
      if ← h.truth v then pure (.byKey v) else pure (.inOrder values)
    else
      h.checkClass v
      pure (.inOrder values)
  | values => pure (.inOrder values)

def hasArguments (h : Host) (r : Record) : Act Bool :=
  match r.args with
  | .inOrder values => pure !values.isEmpty
  | .byKey v => h.truth v

/-- `LogRecord.getMessage`. -/
def text (h : Host) (r : Record) : Act String := do
  let message ← h.textOf r.message
  if ← r.hasArguments h then h.render message r.args else pure message

def levelName (h : Host) (level : Value) : Act Value := do
  let number? : Option Int := match level with
    | .float _ x => x.whole?
    | v => v.int?
  match number?.bind Log.Level.nameOf?, level.text?.bind fun s => Log.Level.settable.lookup s with
  | some name, _ => pure (.word name)
  | none, some n => pure (.number n)
  | none, none => do pure (.word ("Level " ++ (← h.textOf level)))

def importance (r : Record) : Act Log.Importance :=
  match r.level, r.level.int? with
  | .float _ x, _ => pure (.fraction x)
  | _, some n => pure (.whole n)
  | v, none => do throw (.notOrdered ">=" "int" ((← get).kindOf v))

def moment? (w : World) (created : Value) : Except Fault Log.Moment :=
  match created, created.int? with
  | _, some i => Log.Moment.ofSeconds? i
  | .float _ .nan, none => .error .timeNotNumber
  | .float _ x, none =>
    match x.floor? with
    | some i => Log.Moment.ofSeconds? i
    | none => .error .timeOutOfRange
  | v, none => .error (.notInteger (w.kindOf v))

def fileText (h : Host) (r : Record) : Act String :=
  match r.path.text? with
  | some s => pure (Log.fileName s)
  | none => h.formatted r.path

def levelWidth : Nat := 8
def loggerWidth : Nat := 20

def colorNamed (name : String) : Act Log.Color :=
  match Log.Color.ofName? name with
  | some c => pure c
  | none => throw (.missingKey (Text.quoted name))

def colorsFor (painted : Bool) (level : String) : Act (Log.Color × Log.Color) := do
  let names := Log.styleOf level
  if painted then
    let color ← colorNamed names.1
    pure (color, ← colorNamed names.2)
  else pure (.reset, .reset)

/-- `ConformanceFormatter.format`. -/
def lineText (h : Host) (painted : Value) (r : Record) : Act String := do
  let painted ← h.truth painted
  let name ← levelName h r.level
  let style ← colorsFor painted (name.text?.getD "")
  let time := (← liftExcept (moment? (← get) r.created)).stamp
  let function ← h.formatted r.function
  let file ← r.fileText h
  let line ← h.formatted r.line
  let level ← h.columnOf levelWidth name
  let logger ← h.columnOf loggerWidth r.name
  let message ← r.text h
  let origin := "- (" ++ function ++ " - " ++ file ++ ":" ++ line ++ ")"
  pure (Log.Columns.line painted { time, style, level, logger, message, origin })

def failureText : String := "ValueError: x"

def bareText (h : Host) (r : Record) : Act String := do
  let message ← r.text h
  if r.failing then
    let gap := if message.toList.getLast? = some '\n' then "" else "\n"
    pure (message ++ gap ++ failureText)
  else pure message

/-- What a handler of some level writes, if the record passes the level. -/
def written (importance : Log.Importance) (level : Log.Level) (line : Act String) :
    Act String := do
  if !importance.reaches level.rank then pure ""
  else
    match ← attempt line with
    | .ok s => pure (s ++ "\n")
    | .error f => if f.kind = .recursion then throw f else pure ""

def hear (h : Host) (r : Record) : Act Unit := do
  let message := (← attempt (r.text h)).mapError Fault.kind
  let heard : Log.Heard := ⟨← levelName h r.level, r.name, message⟩
  around (Surroundings.modifyRoot (·.hear heard))

structure Output where
  console : String := ""
  files : List (Nat × String) := []

def storable (s : String) : String :=
  if (Text.unencodable? (fun _ => false) s).isSome then "" else s

def takeTo (h : Host) (r : Record) (importance : Log.Importance) (out : Output)
    (o : Log.Outlet) : Act Output := do
  let root := (← get).around.root
  match o with
  | .journal => do
    r.hear h
    pure out
  | .console i =>
    match root.consoles[i]? with
    | none => pure out
    | some c =>
      let line := match c.painted with
        | some painted => r.lineText h (.flag painted)
        | none => r.bareText h
      pure { out with console := out.console ++ (← written importance c.level line) }
  | .file i =>
    match root.files[i]? with
    | none => pure out
    | some f =>
      let text ← written importance f.level (r.lineText h f.painted)
      pure { out with files := out.files ++ [(i, storable text)] }

/-- `Logger.handle` on the root logger. -/
def deliver (h : Host) (r : Record) : Act Delivery := do
  let importance ← r.importance
  let root := (← get).around.root
  let enabled := root.isEnabled importance
  let outlets := if enabled then root.outlets else []
  let out ← outlets.foldlM (r.takeTo h importance) {}
  let files := (← get).around.root.fileNames.map fun p => (p.1, (out.files.lookup p.2).getD "")
  pure ⟨enabled, out.console, files⟩

end Record

end EventTasks
