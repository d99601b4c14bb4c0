import EventTasks.Lookup

/-!
What the operations of objects need from the world around them: to call a value, to evaluate a
property, to describe something held by reference, and to run a step. Each of these can run scripted
code, which can come back to any operation, so operations take a host as an argument. The host that
answers is made in the module that ties the two together.
-/
namespace EventTasks

/-- The operations that call written code; a host of some depth answers them by one of less
depth. -/
structure Host where
  /-- Calls a value with arguments in order and arguments by name. -/
  call : Value → List Value → List (String × Value) → Act Value
  /-- What a property gives for the object at a place. -/
  property : Nat → PropertyRule → Act Value
  describeRef : Ref → Act String
  perform : Script.Step → Act Reply

/-- Goes on with `recover` if an attribute is missing; other faults are passed on. -/
def orMissing (m : Act α) (recover : Act α) : Act α :=
  tryCatch m fun f => if f.isMissing then recover else throw f

/-- The result of a computation, or the fault that ended it. -/
def attempt (m : Act α) : Act (Except Fault α) :=
  tryCatch (do pure (.ok (← m))) fun f => pure (.error f)

namespace World

def decidesChange (w : World) (entry : Value) : Bool :=
  match entry with
  | .ref (.property _) | .ref (.slot _) | .ref (.aspect _ _) => true
  | v => (w.hookOf? v "__set__").isSome || (w.hookOf? v "__delete__").isSome

def comesFirst (w : World) (entry : Value) : Bool :=
  match entry.objectPlace? with
  | some _ => (w.hookOf? entry "__get__").isSome && w.decidesChange entry
  | none => w.decidesChange entry

def reservedBy (w : World) (c : Nat) : Nat :=
  (w.slots.toList.filter fun s => w.isUnder c s.owner).length

def measures (w : World) (c : Nat) (a : Aspect) : Int :=
  let pick (flags size item attributes weak : Int) : Int :=
    match a with
    | .flags => flags
    | .size => size
    | .itemSize => item
    | .attributesOffset => attributes
    | _ => weak
  if c = Library.objectClass then pick 529664 16 0 0 0
  else if c = Library.typeClass then pick 2148031744 904 40 264 368
  else
    let reserved : Int := 8 * w.reservedBy c
    if (w.classInfo c).isOpen then pick 22032 (24 + reserved) 0 (-48) (16 + reserved)
    else pick 22016 (16 + reserved) 0 0 0

end World

def annotationsOf (c : Nat) : Act Value := do
  let k := (← get).classInfo c
  if k.isFixed then throw (.missingClassAttribute k.name "__annotations__")
  else
    match k.body.lookup "__annotations__" with
    | some v => pure v
    | none =>
      let made ← newDict {}
      modifyClass c fun k => { k with body := setEntry "__annotations__" made k.body }
      pure made

def classAspect (c : Nat) (a : Aspect) : Act Value := do
  let w ← get
  let k := w.classInfo c
  match a with
  | .name => pure (.word k.name)
  | .qualifiedName => pure (.word k.qualifiedName)
  | .bases => pure (.tuple k.basesStamp (k.bases.map .cls))
  | .order => pure (.tuple k.orderStamp (k.order.map .cls))
  | .base => pure (((w.chief? k.bases).map .cls).getD .nothing)
  | .body => do pure (.ref (.body (← newStamp) c))
  | .annotations => annotationsOf c
  | .abstract =>
    match k.body.lookup "__abstractmethods__" with
    | some v => pure v
    | none => throw (.missingHook "__abstractmethods__")
  | .place =>
    match k.body.lookup "__module__" with
    | some v => pure v
    | none =>
      if k.isFixed then pure (.word "builtins") else throw (.missingHook "__module__")
  | .doc => pure ((k.body.lookup "__doc__").getD .nothing)
  | .flags | .size | .itemSize | .attributesOffset | .weakOffset =>
    pure (.number (w.measures c a))
  | .signature => pure (if c = Library.objectClass then .word "()" else .nothing)
  | .cls => pure (.cls k.kind)
  | .attributes | .weakReference => pure .nothing

def aspectOf (v : Value) (a : Aspect) : Act Value := do
  let w ← get
  match a, v with
  | .cls, v => pure (.cls (w.classOf v))
  | .attributes, .ref (.subject (.object i)) =>
    match w.attributes? i with
    | some (place, _) => pure (.ref (.dict place))
    | none => throw (w.missing v "__dict__")
  | .weakReference, _ => pure .nothing
  | a, .ref (.subject (.cls c)) => classAspect c a
  | _, v => throw (w.missing v "__dict__")

def slotValue (v : Value) (s : Nat) : Act Value := do
  let w ← get
  let info := w.slotInfo s
  let foreign : Act Value :=
    throw (.foreignEntry info.name (w.className info.owner) (w.kindOf v))
  match v.objectPlace? with
  | none => foreign
  | some i =>
    if w.isUnder (w.objectClassOf i) info.owner then
      match (w.objects[i]?).bind fun o => o.slots.lookup s with
      | some found => pure found
      | none => throw (.slotUnset (w.kindOf v) info.name)
    else foreign

namespace Host

def fetchHeld (h : Host) (entry : Value) (owner : Option Value) (c : Nat) : Act Value := do
  match entry, owner with
  | .ref (.function f), some v => bindTo v f
  | .ref (.staticMethod f), _ => pure (.function f)
  | .ref (.classMethod f), _ => bindMethod (.cls c) f
  | .ref (.property p), some (.ref (.subject (.object i))) => do
    h.property i ((← get).propertyInfo p).rule
  | .ref (.slot s), some v => slotValue v s
  | .ref (.subject (.object _)), owner =>
    match (← get).hookOf? entry "__get__" with
    | some f => h.call f [entry, owner.getD .nothing, .cls c] []
    | none => pure entry
  | v, _ => pure v

/-- The value of an entry of class `c` read from an owner, or from the class itself: `__get__` of
the entry, if its class defines it. -/
def fetch (h : Host) (entry : Value) (owner : Option Value) (c : Nat) : Act Value := do
  match entry, owner with
  | .ref (.aspect _ a), some v =>
    let found ← aspectOf v a
    match a, v.classPlace? with
    | .doc, some k => h.fetchHeld found none k
    | _, _ => pure found
  | _, _ => h.fetchHeld entry owner c

def callEntry (h : Host) (v : Value) (entry : Value) (args : List Value) : Act Value := do
  match entry with
  | .ref (.function f) => h.call (.function f) (v :: args) []
  | entry =>
    let f ← h.fetch entry (some v) ((← get).classOf v)
    h.call f args []

def ask? (h : Host) (v : Value) (name : String) (args : List Value) : Act (Option Value) := do
  match (← get).hookOf? v name with
  | some entry => some <$> h.callEntry v entry args
  | none => pure none

end Host

end EventTasks
