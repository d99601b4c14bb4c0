import EventTasks.Fault
import EventTasks.Log.Level

/-!
The root of all loggers: its level, the sinks attached to it, and the shared console sink. A record
is heard if its importance is positive and reaches the root's level; each attached sink then takes
it if the record reaches the sink's own level. Whether a sink paints is decided when it gets its
layout, from what is asked for and from the terminal at that time.
-/
namespace EventTasks.Log

/-- The handler made by `_initialize_logging`. Until it has a layout it writes bare messages. -/
structure Console where
  level : Level := .number 0
  painted : Option Bool := none

/-- A handler added by `add_file_handler`. -/
structure File where
  name : String
  level : Level
  painted : Value

inductive Outlet where
  | console (index : Nat)
  | journal
  | file (index : Nat)
deriving DecidableEq, Repr

structure Heard where
  level : Value
  logger : Value
  message : Except FaultKind String

/-- The root logger with its handlers. -/
structure Root where
  level : Level := .number 30
  /-- All console sinks ever made. -/
  consoles : Array Console := #[]
  /-- The place of the shared console sink, once there is one. -/
  console : Option Nat := none
  /-- All file sinks ever added. -/
  files : Array File := #[]
  /-- The sinks attached to the root, in order. -/
  outlets : List Outlet := []
  /-- Whether the error stream is a terminal; it may be unable to tell. -/
  terminal : Option Bool := some false
  /-- The records heard, the latest first. -/
  heard : List Heard := []

structure Status where
  root : Level
  console : Option Level
  painted : Option Bool
  attached : Nat

namespace Root

def onTerminal (r : Root) : Bool := r.terminal == some true

/-- `Logger.isEnabledFor`. -/
def isEnabled (r : Root) (importance : Importance) : Bool :=
  importance.isPositive && importance.reaches r.level.rank

def attach (r : Root) (o : Outlet) : Root :=
  if o ∈ r.outlets then r else { r with outlets := r.outlets ++ [o] }

/-- Makes and attaches the shared console handler, which has no layout yet. -/
def openConsole (r : Root) : Root :=
  { r with consoles := r.consoles.push {}, console := some r.consoles.size }.attach
    (.console r.consoles.size)

def shared? (r : Root) : Option Console := r.console.bind (r.consoles[·]?)

def modifyConsole (r : Root) (f : Console → Console) : Root :=
  match r.console with
  | some i => { r with consoles := r.consoles.modify i f }
  | none => r

def dress (r : Root) (asked : Bool) : Root :=
  r.modifyConsole fun c => { c with painted := some (asked && r.onTerminal) }

def setConsoleLevel (r : Root) (level : Level) : Root := r.modifyConsole ({ · with level })

def setLevel (r : Root) (level : Level) : Root := { r.setConsoleLevel level with level }

def addFile (r : Root) (f : File) : Root :=
  { r with files := r.files.push f }.attach (.file r.files.size)

def forget (r : Root) : Root :=
  { r with
    console := none
    level := .number 30
    outlets := r.outlets.filter fun o => r.console.map .console ≠ some o }

def status (r : Root) : Status :=
  { root := r.level
    console := r.shared?.map Console.level
    painted := r.shared?.bind Console.painted
    attached := r.console.elim 0 fun i => r.outlets.count (.console i) }

def hear (r : Root) (h : Heard) : Root := { r with heard := h :: r.heard }

def say (r : Root) (severity : Severity) (logger message : String) : Root :=
  if r.isEnabled (.whole severity.number) then
    r.hear ⟨.word severity.name, .word logger, .ok message⟩
  else r

def fileNames (r : Root) : List (String × Nat) :=
  let names := (r.files.toList.map File.name).eraseDups
  names.filterMap fun n =>
    ((r.files.toList.zipIdx.filter fun p => p.1.name == n).getLast?).map fun p => (n, p.2)

end Root

end EventTasks.Log
