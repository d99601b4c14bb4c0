import EventTasks.Key
import EventTasks.Slots
import EventTasks.Entries
import EventTasks.Text.Digest

/-!
Mappings that may change: entries in the order in which their names were first used, and the slots
by which a name is found. Each entry keeps its name's key. Attributes of objects are such mappings
whose names are texts; for these the key alone decides.
-/
namespace EventTasks

structure Entry where
  name : Value
  key : Key
  value : Value

namespace Entry

def toPair (e : Entry) : Value × Value := (e.name, e.value)

def ofText (name : String) (v : Value) : Entry := ⟨.word name, [.text name], v⟩

end Entry

structure Dictionary where
  entries : List Entry := []
  slots : Slots := {}

namespace Dictionary

def toPairs (d : Dictionary) : List (Value × Value) := d.entries.map Entry.toPair

def size (d : Dictionary) : Nat := d.entries.length

/-- The value under a key. -/
def find? (d : Dictionary) (k : Key) : Option Value :=
  (d.entries.find? fun e => e.key = k).map Entry.value

def text? (d : Dictionary) (name : String) : Option Value := d.find? [.text name]

def push (d : Dictionary) (e : Entry) (number : Int) : Dictionary :=
  ⟨d.entries ++ [e], (d.slots.prepare e.name.isText).add number⟩

def replace (d : Dictionary) (position : Nat) (v : Value) : Dictionary :=
  { d with entries := d.entries.modify position ({ · with value := v }) }

def dropAt (d : Dictionary) (position : Nat) : Dictionary :=
  ⟨d.entries.eraseIdx position, d.slots.drop position⟩

def setText (d : Dictionary) (name : String) (v : Value) : Dictionary :=
  match d.entries.findIdx? fun e => e.key = [.text name] with
  | some i => d.replace i v
  | none => d.push (.ofText name v) (Text.Digest.ofText name)

def dropText (d : Dictionary) (name : String) : Dictionary :=
  match d.entries.findIdx? fun e => e.key = [.text name] with
  | some i => d.dropAt i
  | none => d

def emptied (d : Dictionary) : Dictionary := ⟨[], d.slots.emptied⟩

def ofTexts (fields : List (String × Value)) : Dictionary :=
  fields.foldl (fun d p => d.setText p.1 p.2) {}

def textNames (d : Dictionary) : List String :=
  d.entries.filterMap fun e =>
    match e.key with
    | [.text s] => some s
    | _ => none

end Dictionary

end EventTasks
