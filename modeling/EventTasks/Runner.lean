import EventTasks.Collection

/-!
What counts as a runner. A class that declares itself one does, and so does a class whose search
order defines both ways of subscribing, the deciding definitions not being nothing. A class under
the contract may judge in a way of its own, and others may be declared its own. What a class is
found to be when it is first asked about stays so. An object of any other class counts if it has
both attributes itself and neither is nothing. Whether they can be called is not asked.
-/
namespace EventTasks.Runner

def ways : List String := ["off", "on"]

def defines (name : String) : List Nat → Act Bool
  | [] => pure false
  | c :: rest => do
    match ((← get).classInfo c).body.lookup name with
    | some v => pure !v.isNothing
    | none => do
      let _ ← attempt (annotationsOf c)
      defines name rest

def definesAll (order : List Nat) : List String → Act Bool
  | [] => pure true
  | name :: rest => do if ← defines name order then definesAll order rest else pure false

/-- What the protocol rule says of a class: whether it defines every method. -/
def ruleOn (c : Nat) : Act Value := do
  pure (if ← definesAll ((← get).orderOf c) ways then .flag true else .undecided)

def firstWord (h : Host) (k c : Nat) : Act Value := do
  let w ← get
  match w.definition? k "__subclasshook__" with
  | some (.ref (.function (.library (.contract .judge)))) => ruleOn c
  | some (.ref (.function (.library (.contract .abstain)))) => pure .undecided
  | _ => do h.call (← h.classAttribute k "__subclasshook__") [.cls c] []

def directlyUnder (w : World) (c : Nat) : List Nat :=
  (List.range w.classes.size).filter fun k => c ∈ (w.classInfo k).bases

def isJudge (w : World) (k : Nat) : Bool :=
  w.isUnder (w.classInfo k).kind Library.abstractTypeClass

def anyOf (f : Nat → Act Bool) : List Nat → Act Bool
  | [] => pure false
  | k :: rest => do if ← f k then pure true else anyOf f rest

/-- `issubclass`: the classes under `k` are asked in turn, as far down as there are classes. -/
def countsAs (h : Host) : Nat → Nat → Nat → Act Bool
  | 0, _, _ => pure false
  | depth + 1, k, c => do
    let w ← get
    if !isJudge w k then pure (w.isUnder c k)
    else
      match (w.classInfo c).verdicts.lookup k with
      | some found => pure found
      | none =>
        let among (w : World) : Act Bool :=
          if w.isUnder c k then pure true
          else
            anyOf (fun k => countsAs h depth k c)
              ((w.classInfo k).registered ++ directlyUnder w k)
        let found ← match ← firstWord h k c with
          | .flag b => pure b
          | .undecided => do among (← get)
          | _ => throw .hookAnswer
        modifyClass c fun info => { info with verdicts := (k, found) :: info.verdicts }
        pure found

def isSubclass (h : Host) (k c : Nat) : Act Bool := do
  countsAs h ((← get).classes.size + 1) k c

def offers (h : Host) (v : Value) : List String → Act Bool
  | [] => pure true
  | name :: rest => do
    if ← h.has v name then
      let found ← h.attr v name
      if found.isNothing then pure false else offers h v rest
    else pure false

def namedClass (h : Host) (v : Value) : Act Nat := do
  match (← h.attr v "__class__").classPlace? with
  | some c => pure c
  | none => throw .classArgument

/-- `isinstance` for the protocol `Runner` and classes under it. -/
def isInstance (h : Host) (k : Nat) (v : Value) : Act Bool := do
  let asked ← h.classAttribute k "_is_protocol"
  if ← isSubclass h k (← namedClass h v) then pure true
  else if ← (do if ← h.truth asked then offers h v ways else pure false) then pure true
  else
    let c ← namedClass h v
    let real := (← get).classOf v
    if ← isSubclass h k c then pure true
    else if c = real then pure false
    else isSubclass h k real

/-- `isinstance(value, Runner)`, the check of `install`. -/
def accepts (h : Host) (v : Value) : Act Bool := do
  if (← get).classOf v = Library.contractClass then pure true
  else isInstance h Library.contractClass v

/-- `Runner.register`: what was found before may change then. -/
def register (h : Host) (k : Nat) (v : Value) : Act Value := do
  match v.classPlace? with
  | none => throw .onlyClasses
  | some c =>
    if ← isSubclass h k c then pure v
    else if ← isSubclass h c k then throw .circle
    else
      modifyClass k fun info => { info with registered := info.registered ++ [c] }
      modify fun w => { w with classes := w.classes.map fun info =>
        { info with verdicts := info.verdicts.filter Prod.snd } }
      pure v

end EventTasks.Runner
