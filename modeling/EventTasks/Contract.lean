import EventTasks.Runner
import EventTasks.Wording

/-!
Classes under the contract of a runner. Such a class is no contract itself unless it says so, and
then all its bases must be contracts. The contract itself has no objects. A class under it that has
no way of its own to make its objects takes over the next one in its search order, when its first
object is made.
-/
namespace EventTasks.Contract

def isOwnCreate : Value → Bool
  | .ref (.function (.library (.contract .create))) => true
  | _ => false

def nextCreate (w : World) (order : List Nat) : Option Value :=
  order.findSome? fun c =>
    ((w.classInfo c).body.lookup "__init__").filter fun entry => !isOwnCreate entry

def create (h : Host) (self : Value) (args : List Value) (named : List (String × Value)) :
    Act Value := do
  let c := (← get).classOf self
  if ← h.truth (← h.classAttribute c "_is_protocol") then throw .protocolObject
  let w ← get
  if !(w.definition? c "__init__").any isOwnCreate then pure .nothing
  else
    match nextCreate w (w.orderOf c) with
    | some entry =>
      modifyClass c fun k => { k with body := setEntry "__init__" entry k.body }
      let f ← h.fetch entry none c
      let _ ← h.call f (self :: args) named
      pure .nothing
    | none => pure .nothing

def isContract (h : Host) (c : Nat) : Act Bool := do
  h.truth (← h.classAttribute c "_is_protocol")

def mayInherit (h : Host) (base : Nat) : Act Bool := do
  if base = Library.objectClass ∨ base = Library.genericClass then pure true
  else if (← get).isUnder base Library.genericClass then isContract h base
  else pure false

def setDefault (c : Nat) (name : String) (v : Value) : Act Unit :=
  modifyClass c fun k =>
    if (k.body.lookup name).isSome then k else { k with body := setEntry name v k.body }

/-- `Protocol.__init_subclass__` for a new class under the `Runner` protocol. -/
def adopt (h : Host) (c : Nat) (args : List Value) (named : List (String × Value)) :
    Act Unit := do
  let w ← get
  let behind := ((w.orderOf c).dropWhile (· ≠ Library.protocolClass)).drop 1
  match w.findEntry behind "__init_subclass__" with
  | some (_, entry) => do
    let _ ← h.call (← h.fetch entry none c) args named
  | none => pure ()
  modifyClass c fun k => { k with body := setEntry "__parameters__" (.tuple 0 []) k.body }
  let k := (← get).classInfo c
  let declared ← h.truth ((k.body.lookup "_is_protocol").getD .nothing)
  if !declared then
    let direct := k.bases.contains Library.protocolClass
    modifyClass c fun k => { k with body := setEntry "_is_protocol" (.flag direct) k.body }
  setDefault c "__subclasshook__" (.function (.library (.contract .abstain)))
  if ← isContract h c then
    k.bases.forM fun base => do
      if !(← mayInherit h base) then throw (.contractBase (← h.describe (.cls base)))

def judge (other : Value) : Act Value :=
  match other.classPlace? with
  | some c => Runner.ruleOn c
  | none => throw .classArgument

/-- What the operations of the `Runner` protocol and of classes under it answer about subclasses. -/
def answer (h : Host) (op : ContractOp) (k : Nat) (v : Value) : Act Value := do
  match op, v.classPlace? with
  | .isInstance, _ => .flag <$> Runner.isInstance h k v
  | .register, _ => Runner.register h k v
  | _, some c => .flag <$> Runner.isSubclass h k c
  | _, none => throw .classArgument

def perform (h : Host) (op : ContractOp) (self : Value) (args extra : List Value)
    (named : List (String × Value)) : Act Value := do
  match op with
  | .create => create h self extra named
  | .on | .off => pure .nothing
  | .adopt => do
    self.classPlace?.forM fun c => adopt h c extra named
    pure .nothing
  | .judge => judge self
  | .abstain => pure .undecided
  | .isInstance | .isSubclass | .register =>
    match self.classPlace?, args with
    | some k, [v] => answer h op k v
    | _, _ => throw ((← get).missing self op.name)

end EventTasks.Contract
