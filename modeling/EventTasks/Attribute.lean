import EventTasks.Host
import EventTasks.Linearization

/-!
Attributes: how a name is read from a value, set and deleted. An entry of the class that decides
about itself comes first, then the object's own attributes, then the other entries of the class;
functions found there become methods of the object. A session's class may put its own way of doing
so in place of this one, and may have a last resort for names that are missing.
-/
namespace EventTasks

/-! Reading -/

def ownFact? (v : Value) (name : String) : Option Value :=
  match v with
  | .event e =>
    if name = "name" then some (.word e.name)
    else if name = "value" then some (.word e.identifier)
    else if name = "handler" then some (.word e.handler)
    else none
  | .options _ runner attach =>
    if name = "runner" then some runner
    else if name = "attach_logger" then some (.ofFlag? attach)
    else none
  | _ => none

namespace Host

/-- `object.__getattribute__`: data descriptors of the class, own attributes, other class
entries. -/
def usualAttribute (h : Host) (v : Value) (name : String) : Act Value := do
  let w ← get
  let c := w.classOf v
  let own := match v.objectPlace?, v.classPlace? with
    | some i, _ => (w.attributesOf i).text? name
    | none, some k => (w.classInfo k).body.lookup name
    | none, none => ownFact? v name
  match w.definition? c name, own with
  | some entry, some found => if w.comesFirst entry then h.fetch entry (some v) c else pure found
  | some entry, none => h.fetch entry (some v) c
  | none, some found => pure found
  | none, none => throw (w.missing v name)

def classAttribute (h : Host) (c : Nat) (name : String) : Act Value := do
  let w ← get
  let kind := (w.classInfo c).kind
  let above := w.definition? kind name
  match above.filter w.comesFirst, w.definition? c name, above with
  | some entry, _, _ => h.fetch entry (some (.cls c)) kind
  | none, some entry, _ => h.fetch entry none c
  | none, none, some entry => h.fetch entry (some (.cls c)) kind
  | none, none, none => throw (w.missing (.cls c) name)

/-- `getattr` without a default. -/
def attr (h : Host) (v : Value) (name : String) : Act Value := do
  let w ← get
  match v with
  | .ref (.subject (.object i)) =>
    let c := w.objectClassOf i
    let found := match w.hook? c "__getattribute__" with
      | some entry => h.callEntry v entry [.word name]
      | none => h.usualAttribute v name
    match w.hook? c "__getattr__" with
    | some entry => orMissing found (h.callEntry v entry [.word name])
    | none => found
  | .ref (.subject (.cls c)) => h.classAttribute c name
  | v => h.usualAttribute v name

def attrOrNothing (h : Host) (v : Value) (name : String) : Act Value :=
  orMissing (h.attr v name) (pure .nothing)

def attr? (h : Host) (v : Value) (name : String) : Act (Option Value) :=
  orMissing (some <$> h.attr v name) (pure none)

def has (h : Host) (v : Value) (name : String) : Act Bool := do
  pure (← h.attr? v name).isSome

def checkClass (h : Host) (v : Value) : Act Unit := do
  if v.objectPlace?.isSome then
    match ← h.attr v "__class__" with
    | .ref (.subject (.cls _)) => pure ()
    | _ => throw .classArgument

def send (h : Host) (v : Value) (name : String) (args : List Value) : Act Value := do
  let f ← h.attr v name
  h.call f args []

end Host

/-! Setting and deleting: `new` is the value to set, or none if the attribute is to be deleted. -/

def World.reserved (w : World) (c : Nat) : List (Nat × String) :=
  (w.slots.toList.zipIdx.filter fun p => w.isUnder c p.1.owner).map fun p => (p.2, p.1.name)

def changeClass (v new : Value) : Act Unit := do
  let w ← get
  let former := w.classOf v
  match new.classPlace? with
  | none => throw (.classNotClass (w.kindOf new))
  | some c =>
    if (w.classInfo c).isFixed || (w.classInfo former).isFixed then throw .classFixed
    else if w.isBare c != w.isBare former then
      throw (.deallocatorDiffers (w.className former) (w.className c))
    else if !w.sameLayout former c then
      throw (.layoutDiffers (w.className former) (w.className c))
    else
      let slots := (w.reserved former).zip (w.reserved c)
      v.objectPlace?.forM fun i => modifyObject i fun o =>
        { o with
          cls := c
          slots := slots.filterMap fun p => (o.slots.lookup p.1.1).map (p.2.1, ·) }

def changeAttributes (v : Value) (new : Option Value) : Act Unit := do
  let w ← get
  match v.objectPlace?, new with
  | some i, some (.ref (.dict p)) => modifyObject i fun o => { o with attributes := some p }
  | some i, none => do
    let p ← newDictPlace {}
    modifyObject i fun o => { o with attributes := some p }
  | _, some other => throw (.attributesNotMapping (w.kindOf other))
  | none, none => throw (w.missing v "__dict__")

def rename (c : Nat) (name : String) (new : Option Value)
    (change : String → ClassInfo → ClassInfo) : Act Unit := do
  let w ← get
  let k := w.classInfo c
  match new with
  | none => throw (.immutableClass name k.name true)
  | some v =>
    match v.text? with
    | none => throw (.classNameNotText name k.name (w.kindOf v))
    | some s =>
      if name = "__name__" && s.toList.contains (Char.ofNat 0) then throw .classNameNull
      else modifyClass c (change s)

def repeated? : List Nat → Option Nat
  | [] => none
  | c :: rest => if c ∈ rest then some c else repeated? rest

/-- The method resolution order of class `c` over these bases. -/
def orderFor (w : World) (c : Nat) (bases : List Nat) : Except Fault (List Nat) :=
  match repeated? bases with
  | some b => .error (.repeatedBase (w.className b))
  | none =>
    (Linearization.ofBases c bases w.orderOf).mapError fun heads =>
      .inconsistentOrder (heads.map w.className)

def World.descendants (w : World) (c : Nat) : List Nat :=
  (List.range w.classes.size).filter fun d => d != c && w.isUnder d c

def reorder (c : Nat) (bases : List Nat) : Act Unit := do
  let before ← get
  let place (c : Nat) (bases : List Nat) : Act Unit := do
    match orderFor (← get) c bases with
    | .ok order => do
      let orderStamp ← newStamp
      modifyClass c fun k => { k with order, orderStamp }
    | .error f => do
      set before
      throw f
  let stamp ← newStamp
  modifyClass c fun k => { k with bases, basesStamp := stamp }
  place c bases
  (before.descendants c).forM fun d => do place d ((← get).classInfo d).bases

def changeBases (c : Nat) (new : Option Value) : Act Unit := do
  let w ← get
  let k := w.classInfo c
  match new with
  | none => throw (.immutableClass "__bases__" k.name true)
  | some (.tuple _ []) => throw (.bases (.empty k.name))
  | some (.tuple _ items) => do
    let bases ← items.mapM fun v =>
      match v.classPlace? with
      | none => throw (.bases (.notClass k.name (w.kindOf v)))
      | some b => if w.isUnder b c then throw (.bases .cycle) else pure b
    let former := (w.chief? k.bases).getD Library.objectClass
    let next := (w.chief? bases).getD Library.objectClass
    if w.isBare next != w.isBare former then
      throw (.bases (.deallocator (w.className former) (w.className next)))
    else if !w.sameLayout former next then
      throw (.bases (.layout (w.className former) (w.className next)))
    else reorder c bases
  | some v => throw (.bases (.notTuple k.name (w.kindOf v)))

def changeBody (c : Nat) (name : String) (new : Option Value) (absent : Fault) : Act Unit := do
  match new with
  | some v => modifyClass c fun k => { k with body := setEntry name v k.body }
  | none =>
    if (((← get).classInfo c).body.lookup name).isSome then
      modifyClass c fun k => { k with body := dropEntry name k.body }
    else throw absent

def changeClassAspect (c : Nat) (name : String) (a : Aspect) (new : Option Value) : Act Unit := do
  let w ← get
  let kept : Act Unit := do
    if new.isSome then changeBody c name new (.missingHook name)
    else throw (.immutableClass name (w.className c) true)
  match a with
  | .name => rename c name new fun s k => { k with name := s }
  | .qualifiedName => rename c name new fun s k => { k with qualifiedName := s }
  | .bases => changeBases c new
  | .place | .doc => kept
  | .annotations => changeBody c name new (.missingHook name)
  | .abstract => do
    changeBody c name new (.missingHook name)
    modifyClass c fun k => { k with abstract := new }
  | .body | .signature => throw (.aspectFixed name "type")
  | _ => throw .classEntryFixed

def changeAspect (v : Value) (name : String) (owner : Nat) (a : Aspect) (new : Option Value) :
    Act Unit := do
  match a, v with
  | .cls, v =>
    match new with
    | some c => changeClass v c
    | none => throw .classKept
  | .attributes, v => changeAttributes v new
  | .weakReference, _ =>
    throw (.aspectFixed name ((← get).className owner))
  | a, .ref (.subject (.cls c)) => changeClassAspect c name a new
  | _, v => throw ((← get).missing v name)

def changeSlot (v : Value) (s : Nat) (new : Option Value) : Act Unit := do
  let w ← get
  let info := w.slotInfo s
  let foreign : Act Unit :=
    throw (.foreignEntry info.name (w.className info.owner) (w.kindOf v))
  match v.objectPlace? with
  | none => foreign
  | some i =>
    if !w.isUnder (w.objectClassOf i) info.owner then foreign
    else
      match new with
      | some x => modifyObject i fun o =>
        { o with slots := (s, x) :: o.slots.filter fun p => p.1 ≠ s }
      | none =>
        if ((w.objects[i]?).bind fun o => o.slots.lookup s).isSome then
          modifyObject i fun o => { o with slots := o.slots.filter fun p => p.1 ≠ s }
        else throw (.slotEmpty info.name)

def fixedAttribute (w : World) (v : Value) (name : String) : Fault :=
  if (w.definition? (w.classOf v) name).isSome then .readOnly (w.kindOf v) name
  else .unsettable (w.kindOf v) name

def changeOwn (v : Value) (name : String) (new : Option Value) : Act Unit := do
  let w ← get
  match v.objectPlace?.bind w.attributes? with
  | none => throw (fixedAttribute w v name)
  | some (place, d) =>
    match new with
    | some x => modifyDict place (·.setText name x)
    | none =>
      if (d.text? name).isSome then modifyDict place (·.dropText name)
      else throw (.unsettable (w.kindOf v) name)

namespace Host

def changeEntry (h : Host) (entry v : Value) (name : String) (new : Option Value) : Act Unit := do
  let w ← get
  match entry with
  | .ref (.property p) =>
    let shown := Text.quoted (w.classInfo (w.classOf v)).qualifiedName
    let name := (w.propertyInfo p).name.map Text.quoted
    throw (.property name shown (if new.isSome then "setter" else "deleter"))
  | .ref (.slot s) => changeSlot v s new
  | .ref (.aspect owner a) => changeAspect v name owner a new
  | entry =>
    let hook := if new.isSome then "__set__" else "__delete__"
    match ← h.ask? entry hook (v :: new.toList) with
    | some _ => pure ()
    | none => throw (.missingHook hook)

/-- `object.__setattr__` and `object.__delattr__`. -/
def change (h : Host) (v : Value) (name : String) (new : Option Value) : Act Unit := do
  let w ← get
  match w.definition? (w.classOf v) name with
  | some entry =>
    if w.decidesChange entry then h.changeEntry entry v name new else changeOwn v name new
  | none => changeOwn v name new

def changeOfClass (h : Host) (c : Nat) (name : String) (new : Option Value) : Act Unit := do
  let w ← get
  let k := w.classInfo c
  if k.isFixed then throw (.immutableClass name k.name false)
  else
    match (w.definition? k.kind name).filter w.decidesChange with
    | some entry => h.changeEntry entry (.cls c) name new
    | none => changeBody c name new (.missingClassAttribute k.name name)

/-- `setattr`. -/
def assign (h : Host) (v : Value) (name : String) (new : Value) : Act Unit := do
  match v with
  | .ref (.subject (.object _)) =>
    match ← h.ask? v "__setattr__" [.word name, new] with
    | some _ => pure ()
    | none => h.change v name (some new)
  | .ref (.subject (.cls c)) => h.changeOfClass c name (some new)
  | v => h.change v name (some new)

/-- `delattr`. -/
def remove (h : Host) (v : Value) (name : String) : Act Unit := do
  match v with
  | .ref (.subject (.object _)) =>
    match ← h.ask? v "__delattr__" [.word name] with
    | some _ => pure ()
    | none => h.change v name none
  | .ref (.subject (.cls c)) => h.changeOfClass c name none
  | v => h.change v name none

end Host

end EventTasks
