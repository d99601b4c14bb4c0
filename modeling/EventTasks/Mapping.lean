import EventTasks.Holding

/-!
Values read as mappings: a mapping as it is, something that gives keys by asking it for each of
them, and anything else as a sequence of pairs. Keys must not change, and of equal keys the first
one stays with the last value.
-/
namespace EventTasks.Host

def pairAt (h : Host) (index : Nat) (v : Value) : Act (Value × Value) := do
  let found ← tryCatch (h.items v) fun f =>
    if f.kind = .type then throw (.pairNotSequence index) else throw f
  match found with
  | [a, b] => pure (a, b)
  | xs => throw (.pairLength index xs.length)

def collectPairs (h : Host) (v : Value) (found : Dictionary) : Act Dictionary := do
  let (_, d) ← h.foldItems v (fun (index, d) pair => do
    let (name, value) ← h.pairAt index pair
    pure (index + 1, ← h.storeIn name value d)) (0, found)
  pure d

def keysBy (h : Host) (v f : Value) : Act (List Value) := do
  let given ← h.call f [] []
  let cursor ← tryCatch (h.iterate given) fun f => do
    let w ← get
    if f.kind = .type then throw (.keysNotIterable (w.kindOf v) (w.kindOf given)) else throw f
  match cursor with
  | .walker walker _ => h.items walker
  | cursor => do
    let found ← h.foldCursor (fun found x => pure (x :: found)) cursor []
    pure found.reverse

def collectKeys (h : Host) (v : Value) (found : Dictionary) : List Value → Act Dictionary
  | [] => pure found
  | key :: rest => do
    let value ← h.item v key
    collectKeys h v (← h.storeIn key value found) rest

def addEntries (h : Host) (v : Value) (found : Dictionary) : Act Dictionary := do
  let direct (r : Ref) : Act Dictionary := do
    (← entriesOf r).foldlM (fun d e => h.storeIn e.1 e.2 d) found
  match v with
  | .ref (.dict p) =>
    if found.entries.isEmpty then pure ((← get).dictAt p) else direct (.dict p)
  | .ref (.table p) => direct (.table p)
  | v =>
    match ← h.attr? v "keys" with
    | some f => do h.collectKeys v found (← h.keysBy v f)
    | none => h.collectPairs v found

/-- `dict(value)`. -/
def mappingOf (h : Host) (v : Value) : Act Dictionary := h.addEntries v {}

end EventTasks.Host
