import EventTasks.Text.Sorted
import EventTasks.Wording

/-!
The operations that every object has, as a session's class finds them behind its own: making,
describing, comparing, and reading and changing attributes in the usual way.
-/
namespace EventTasks.Object

def isUsuallyCreated (w : World) (c : Nat) : Bool :=
  match w.definition? c "__init__" with
  | some (.ref (.function (.library (.object .create)))) => true
  | _ => false

/-- `object.__init__`: further arguments are refused unless the class has its own `__new__`. -/
def create (self : Value) (extra : List Value) (named : List (String × Value)) : Act Value := do
  let w ← get
  let c := w.classOf self
  if extra.isEmpty && named.isEmpty then pure .nothing
  else
    match self with
    | .ref (.subject (.object _)) =>
      if !isUsuallyCreated w c then throw (.onlyTheObject (w.className Library.objectClass))
      else if (w.hook? c "__new__").isSome then pure .nothing
      else throw (.onlyTheObject (w.className c))
    | .ref (.function _) | .ref (.method _ _ _) | .ref (.bound _) => pure .nothing
    | .ref _ | .event _ | .options _ _ _ =>
      throw (.onlyTheObject (w.className Library.objectClass))
    | _ => pure .nothing

def equal (self other : Value) : Act Value :=
  pure (if self.isSame other then .flag true else .undecided)

def isComparable (a b : Value) : Bool :=
  match a, b with
  | .tuple _ _, .tuple _ _ | .float _ _, .float _ _ => true
  | .float _ _, b => b.int?.isSome
  | a, b => (a.text?.isSome && b.text?.isSome) || (a.int?.isSome && b.int?.isSome)

def unequal (h : Host) (self other : Value) : Act Value := do
  match ← h.answer? self other with
  | some found => do pure (.flag !(← h.truth found))
  | none =>
    if self.isSame other then pure (.flag false)
    else if isComparable self other then do pure (.flag !(← h.equals self other))
    else pure .undecided

def format (h : Host) (self spec : Value) : Act Value := do
  match spec, spec.text? with
  | _, some "" => do pure (.word (← h.textOf self))
  | _, some _ => throw (.formatUnsupported ((← get).kindOf self))
  | .nothing, none => throw (.formatSpec "None")
  | v, none => throw (.formatSpec ((← get).kindOf v))

def ownDescription (h : Host) (self : Value) : Act Value := do
  match ← h.ask? self "__repr__" [] with
  | some found => pure found
  | none => do pure (.word (← h.describe self))

def namesFrom (w : World) : Nat → Nat → List String
  | 0, _ => []
  | depth + 1, c =>
    let k := w.classInfo c
    k.body.map Prod.fst ++ k.bases.flatMap (namesFrom w depth)

/-- `dir` of an object. -/
def directory (self : Value) : Act Value := do
  let w ← get
  let own := (self.objectPlace?.map fun i => (w.attributesOf i).textNames).getD []
  let c := w.classOf self
  newList ((own ++ namesFrom w (w.orderOf c).length c).eraseDups.map .word)

def state (self : Value) : Act Value := do
  let w ← get
  match self.objectPlace? with
  | none => pure .nothing
  | some i =>
    let own := match w.attributes? i with
      | some (p, d) => if d.size = 0 then .nothing else .ref (.dict p)
      | none => .nothing
    let held := (w.objects[i]?.map ObjectInfo.slots).getD []
    let kept := (w.reserved (w.objectClassOf i)).filterMap fun p =>
      (held.lookup p.1).map (p.2, ·)
    if kept.isEmpty then pure own else do newTuple [own, ← newDict (.ofTexts kept)]

def isAbstract (h : Host) (k : ClassInfo) : Act Bool :=
  match k.abstract with
  | some lacking => h.truth lacking
  | none => pure false

def make (h : Host) (c : Nat) : Act Value := do
  let k := (← get).classInfo c
  if ← isAbstract h k then
    let lacking ← h.items (k.abstract.getD .nothing)
    throw (.abstract k.name (Text.Sorted.ofList (lacking.filterMap Value.text?)))
  else
    let attributes ← if k.isOpen then some <$> newDictPlace {} else pure none
    pure (.object (← newObject { cls := c, attributes }))

/-- `object.__new__`. -/
def new (h : Host) (cls : Value) (isAlone : Bool) : Act Value := do
  let w ← get
  match cls.classPlace? with
  | some c =>
    if isAlone then make h c
    else if (w.hook? c "__new__").isSome then throw .onlyTheClass
    else if isUsuallyCreated w c then throw (.noArguments (w.className c))
    else make h c
  | none => throw (.notClass (w.className Library.objectClass) (w.kindOf cls))

def perform (h : Host) (op : ObjectOp) (self : Value) (args extra : List Value)
    (named : List (String × Value)) : Act Value :=
  match op, args with
  | .create, _ => create self extra named
  | .describe, _ => do pure (.word ((← get).plainDescription self))
  | .asText, _ => ownDescription h self
  | .hash, _ => pure (.number (Residue.ofPlace (self.objectPlace?.getD 0)))
  | .equal, [other] => equal self other
  | .unequal, [other] => unequal h self other
  | .read, [name] => do h.usualAttribute self (← Host.nameOf name)
  | .assign, [name, v] => do
    h.change self (← Host.nameOf name) (some v)
    pure .nothing
  | .remove, [name] => do
    h.change self (← Host.nameOf name) none
    pure .nothing
  | .format, [spec] => format h self spec
  | .directory, _ => directory self
  | .state, _ => state self
  | .size, _ => do
    let w ← get
    pure (.number (w.measures (w.classOf self) .size))
  | .new, _ => new h self (extra.isEmpty && named.isEmpty)
  | .less, _ | .lessEqual, _ | .greater, _ | .greaterEqual, _ | .subclassHook, _ =>
    pure .undecided
  | _, _ => pure .nothing

end EventTasks.Object
