import EventTasks.Equality

/-!
Finding, storing and taking away by name. The entries with the number of the name are looked at in
the order of the slots; the form in which a name was first met stays. A comparison may run scripted
code: if the entries are laid out anew meanwhile, the search starts again.
-/
namespace EventTasks

structure Known where
  names : List Value
  slots : Slots

namespace Known

def ofDictionary (d : Dictionary) : Known := ⟨d.entries.map Entry.name, d.slots⟩

def ofSubscriptions (s : Subscriptions) : Known := ⟨s.table.events, s.slots⟩

end Known

inductive Search where
  | found (position : Nat)
  | absent
  | disturbed

namespace Host

/-- Looks at entries one after the other, asking `==` of those with the number that is looked
for. -/
def searchAmong (h : Host) (current : Act Known) (v : Value) (number : Int) :
    List (Nat × Int) → Act Search
  | [] => pure .absent
  | (position, n) :: rest => do
    let before ← current
    match before.names[position]? with
    | none => pure .disturbed
    | some name =>
      if name.isSame v then pure (.found position)
      else if n ≠ number then searchAmong h current v number rest
      else
        let same ← h.equals name v
        let after ← current
        if after.slots.turn ≠ before.slots.turn ∨ !(after.names[position]?).any name.isSame then
          pure .disturbed
        else if same then pure (.found position)
        else searchAmong h current v number rest

def locate (h : Host) (current : Act Known) (v : Value) (number : Int) : Nat → Act (Option Nat)
  | 0 => throw .tooDeep
  | tries + 1 => do
    let known ← current
    match ← h.searchAmong current v number (known.slots.met number) with
    | .found position => pure (some position)
    | .absent => pure none
    | .disturbed => locate h current v number tries

def searches : Nat := 1000

/-! A mapping in the world, by its place. -/

def knownAt (place : Nat) : Act Known := do pure (.ofDictionary ((← get).dictAt place))

/-- The position and the value under a name. -/
def findAt (h : Host) (place : Nat) (name : Value) : Act (Option (Nat × Value)) := do
  let (number, _) ← h.numberOf name
  match ← h.locate (knownAt place) name number searches with
  | some p => do pure ((((← get).dictAt place).entries[p]?).map fun e => (p, e.value))
  | none => pure none

def storeAt (h : Host) (place : Nat) (name v : Value) : Act Unit := do
  let (number, key) ← h.numberOf name
  modifyDict place fun d => { d with slots := d.slots.prepare name.isText }
  match ← h.locate (knownAt place) name number searches with
  | some p => modifyDict place (·.replace p v)
  | none => modifyDict place (·.push ⟨name, key, v⟩ number)

def takeAt (h : Host) (place : Nat) (name : Value) : Act (Option Value) := do
  match ← h.findAt place name with
  | some (p, v) => do
    modifyDict place (·.dropAt p)
    pure (some v)
  | none => pure none

/-! A mapping under construction. -/

/-- `dict.get`. -/
def findIn (h : Host) (d : Dictionary) (name : Value) : Act (Option Value) := do
  let (number, _) ← h.numberOf name
  match ← h.locate (pure (.ofDictionary d)) name number searches with
  | some p => pure ((d.entries[p]?).map Entry.value)
  | none => pure none

def storeIn (h : Host) (name v : Value) (d : Dictionary) : Act Dictionary := do
  let (number, key) ← h.numberOf name
  let d := { d with slots := d.slots.prepare name.isText }
  match ← h.locate (pure (.ofDictionary d)) name number searches with
  | some p => pure (d.replace p v)
  | none => pure (d.push ⟨name, key, v⟩ number)

/-! The subscriptions of an emitter. -/

def knownIn (place : Nat) : Act Known := do pure (.ofSubscriptions ((← get).subscriptionsAt place))

/-- The hash of an event object, its topic, and the place of its channel if it has one. -/
def topicIn (h : Host) (place : Nat) (event : Value) : Act (Int × Topic × Option Nat) := do
  let (number, key) ← h.numberOf event
  match ← h.locate (knownIn place) event number searches with
  | some p => do
    let known := (((← get).tableAt place)[p]?).map fun c => c.topic.key
    pure (number, ⟨event, known.getD key⟩, some p)
  | none => pure (number, ⟨event, key⟩, none)

def growTable (place : Nat) (event : Value) (number : Int) (change : Table → Table) : Act Unit :=
  modifyTable place fun s =>
    let table := change s.table
    if table.length = s.table.length then { s with table }
    else ⟨table, (s.slots.prepare event.isText).add number⟩

def shrinkTable (place : Nat) (position : Nat) (change : Table → Table) : Act Unit :=
  modifyTable place fun s =>
    let table := change s.table
    if table.length = s.table.length then { s with table }
    else ⟨table, s.slots.drop position⟩

def clearTable (place : Nat) : Act Unit :=
  modifyTable place fun s => ⟨[], s.slots.emptied⟩

/-! Sets. -/

def isAmong (h : Host) (v : Value) : List Member → Act Bool
  | [] => pure false
  | m :: rest => do if ← h.equals m.value v then pure true else isAmong h v rest

def gather (h : Host) (place : Nat) (v : Value) : Act Unit := do
  let (number, key) ← h.numberOf v
  if !(← h.isAmong v (((← get).namesAt place).met number)) then
    modifyNames place (·.add ⟨number, v, key⟩)

def isGathered (h : Host) (place : Nat) (v : Value) : Act Bool := do
  let (number, _) ← h.numberOf v
  h.isAmong v (((← get).namesAt place).met number)

end Host

end EventTasks
