import EventTasks.Options
import EventTasks.Number.Reading

/-!
What terms stand for. A name must be known, an attribute is read at once, the keys of a mapping
must not change, and of equal keys the first stays with the last value.
-/
namespace EventTasks.Script

def named (id : String) : Act Value := do
  match (← get).names.lookup id with
  | some v => pure v
  | none => throw (.unknownId id)

def plainObject (attributes : List (String × Value)) : Act Value := do
  let place ← newDictPlace (.ofTexts attributes)
  pure (.object (← newObject { cls := Library.plainClass, attributes := some place }))

def optionsOf (h : Host) (fields : List (String × Value)) : Act Value :=
  Options.build h ((fields.lookup Options.runnerField).getD .nothing)
    ((fields.lookup Options.flagField).getD .nothing)

mutual

def evaluate (h : Host) : Term → Act Value
  | .nothing => pure .nothing
  | .flag b => pure (.flag b)
  | .int place i => pure (.int place i)
  | .float text => do
    match Double.ofText? text with
    | some x => newFloat x
    | none => throw (.notAFloat (Text.quoted text))
  | .text place s => pure (.text place s)
  | .list items => do newList (← evaluateAll h items)
  | .tuple items => do newTuple (← evaluateAll h items)
  | .dict entries => do newDict (← evaluateEntries h {} entries)
  | .event name => do
    match ParseEvent.ofName? name with
    | some e => pure (.event e)
    | none => throw (.missingKey (Text.quoted name))
  | .options fields => do optionsOf h (← evaluateFields h fields)
  | .named id => named id
  | .attributeOf id name => do
    let v ← named id
    h.attr v name
  | .plain fields => do plainObject (← evaluateFields h fields)
  | .mapping entries => do
    let fields ← evaluateFields h entries
    newDict (.ofTexts fields)

def evaluateAll (h : Host) : List Term → Act (List Value)
  | [] => pure []
  | t :: rest => do
    let v ← evaluate h t
    pure (v :: (← evaluateAll h rest))

def evaluateEntries (h : Host) (found : Dictionary) : List (Term × Term) → Act Dictionary
  | [] => pure found
  | (k, t) :: rest => do
    let name ← evaluate h k
    let v ← evaluate h t
    evaluateEntries h (← h.storeIn name v found) rest

def evaluateFields (h : Host) : List (String × Term) → Act (List (String × Value))
  | [] => pure []
  | (name, t) :: rest => do
    let v ← evaluate h t
    pure ((name, v) :: (← evaluateFields h rest))

end

end EventTasks.Script
