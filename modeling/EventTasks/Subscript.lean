import EventTasks.Iteration
import EventTasks.Storing
import EventTasks.Wording

/-!
Items by place or by name: reading, storing and deleting them, and whether a value is among the
items of another. Lists, tuples and texts take whole numbers, counted from the end if they are below
zero; mappings take names, and a set of subscriptions makes an entry for a name that it lacks.
-/
namespace EventTasks.Host

def placeIn (h : Host) (holder : String) (size : Nat) (key : Value) : Act Nat := do
  match ← h.index? key with
  | none => throw (.placeKind holder ((← get).kindOf key))
  | some i =>
    let place := if i < 0 then i + size else i
    if 0 ≤ place ∧ place < size then pure place.toNat else throw (.placeRange holder)

def lacking (h : Host) (key : Value) : Act α := do throw (.missingKey (← h.describe key))

def fixedItem? (h : Host) (mapping : Ref) (key : Value) : Act (Option Value) := do
  let (_, k) ← h.numberOf key
  let w ← get
  let entries := match mapping with
    | .body _ c => (w.classInfo c).body.map fun p => (Value.word p.1, p.2)
    | .registry => Value.registryEntries
    | _ => []
  pure (Value.lookup? k entries)

def mappingItem? (h : Host) (mapping : Ref) (key : Value) : Act (Option Value) := do
  match mapping with
  | .dict p => do pure ((← h.findAt p key).map Prod.snd)
  | .table p =>
    let (_, _, position) ← h.topicIn p key
    match position with
    | some i => do pure ((← entryOf mapping i).map Prod.snd)
    | none => pure none
  | r => h.fixedItem? r key

def openChannel (h : Host) (place : Nat) (event : Value) : Act Unit := do
  let (number, topic, position) ← h.topicIn place event
  if position.isNone then growTable place event number (· ++ [⟨topic, []⟩])

def classItem (h : Host) (c : Nat) (key : Value) : Act Value := do
  match ← h.attr? (.cls c) "__class_getitem__" with
  | some f => if f.isNothing then refused else h.call f [key] []
  | none => refused
where
  refused : Act Value := do throw (.classNotSubscriptable ((← get).className c))

/-- `value[key]`. -/
def item (h : Host) (v key : Value) : Act Value := do
  let w ← get
  let ofSequence (holder : String) (xs : List Value) : Act Value := do
    let i ← h.placeIn holder xs.length key
    pure (xs[i]?.getD .nothing)
  match v with
  | .tuple _ xs => ofSequence "tuple" xs
  | .ref (.list p) => do
    let i ← h.placeIn "list" (w.listAt p).length key
    pure ((((← get).listAt p)[i]?).getD .nothing)
  | .ref (.table p) =>
    match ← h.mappingItem? (.table p) key with
    | some x => pure x
    | none => do
      h.openChannel p key
      newList []
  | .ref (.dict _) | .ref (.body _ _) | .ref .registry => do
    let r := match v with
      | .ref r => r
      | _ => .registry
    match ← h.mappingItem? r key with
    | some x => pure x
    | none => h.lacking key
  | .ref (.subject (.cls c)) => h.classItem c key
  | v =>
    match v.text? with
    | some s => ofSequence "string" (characters s)
    | none =>
      match ← h.ask? v "__getitem__" [key] with
      | some x => pure x
      | none => throw (.notSubscriptable (w.kindOf v))

/-- `value[key] = item`. -/
def storeItem (h : Host) (v key new : Value) : Act Unit := do
  let w ← get
  match v with
  | .ref (.dict p) => h.storeAt p key new
  | .ref (.list p) => do
    match ← h.index? key with
    | none => throw (.placeKind "list" (w.kindOf key))
    | some _ => do
      let i ← tryCatch (h.placeIn "list" (w.listAt p).length key) fun f =>
        match f with
        | .placeRange _ => throw (.placeRange "list assignment")
        | f => throw f
      modifyList p (·.set i new)
  | v =>
    match ← h.ask? v "__setitem__" [key, new] with
    | some _ => pure ()
    | none => throw (.noItemAssignment (w.kindOf v))

/-- `del value[key]`. -/
def dropItem (h : Host) (v key : Value) : Act Unit := do
  let w ← get
  match v with
  | .ref (.list p) => do
    let i ← tryCatch (h.placeIn "list" (w.listAt p).length key) fun f =>
      match f with
      | .placeRange _ => throw (.placeRange "list assignment")
      | f => throw f
    modifyList p (·.eraseIdx i)
  | .ref (.dict p) =>
    match ← h.takeAt p key with
    | some _ => pure ()
    | none => h.lacking key
  | v =>
    match ← h.ask? v "__delitem__" [key] with
    | some _ => pure ()
    | none =>
      if (w.hookOf? v "__setitem__").isSome then throw (.missingHook "__delitem__")
      else throw (.noItemDeletion (w.kindOf v))

def isPart (part whole : List Char) : Bool :=
  part.isPrefixOf whole ||
    match whole with
    | [] => false
    | _ :: rest => isPart part rest

def isAmongItems (h : Host) (v : Value) : Nat → Cursor → Act Bool
  | 0, _ => throw .tooDeep
  | left + 1, cursor => do
    match ← h.next cursor with
    | none => pure false
    | some (x, cursor) =>
      if ← h.equals x v then pure true else isAmongItems h v left cursor

/-- `in`. -/
def holds (h : Host) (container v : Value) : Act Bool := do
  let w ← get
  let byItems : Act Bool := do
    let cursor ← tryCatch (h.iterate container) fun f =>
      match f with
      | .notIterable kind => throw (.notContainer kind)
      | f => throw f
    h.isAmongItems v (ahead (← get) cursor + mostItems) cursor
  match container with
  | .ref (.names p) => h.isGathered p v
  | .ref (.dict _) | .ref (.table _) | .ref (.body _ _) | .ref .registry => do
    let r := match container with
      | .ref r => r
      | _ => .registry
    pure (← h.mappingItem? r v).isSome
  | .ref (.subject (.object _)) =>
    match w.hookOf? container "__contains__" with
    | some .nothing => throw (.notContainer (w.kindOf container))
    | some entry => do h.truth (← h.callEntry container entry [v])
    | none => byItems
  | container =>
    match container.text?, v.text? with
    | some s, some part => pure (isPart part.toList s.toList)
    | some _, none => throw (.textOperand (w.kindOf v))
    | none, _ => byItems

end EventTasks.Host
