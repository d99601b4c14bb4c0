import EventTasks.Subscript

/-!
The operations that a capability class offers: the public names defined as something that can be
called in one of its classes, in the order of their first definition when the classes are gone
through from the most general one on. The root class does not count. Anything that has a search
order and whose members have entries can stand for a class.
-/
namespace EventTasks

namespace Host

def foldPlaces (h : Host) (v entry : Value) (f : β → Value → Act β) : Nat → β → Act β
  | 0, b => pure b
  | left + 1, b => do
    match ← attempt (h.callEntry v entry [.number (left : Nat)]) with
    | .ok x => do foldPlaces h v entry f left (← f b x)
    | .error fault => if fault.kind = .index then pure b else throw fault

def foldBackwards (h : Host) (v : Value) (f : β → Value → Act β) (b : β) : Act β := do
  let w ← get
  let refused : Act β := throw (.notReversible (w.kindOf v))
  match v with
  | .ref (.subject (.object _)) =>
    match w.hookOf? v "__reversed__", w.hookOf? v "__getitem__" with
    | some .nothing, _ | none, none => refused
    | some entry, _ => do h.foldItems (← h.callEntry v entry []) f b
    | none, some entry => do h.foldPlaces v entry f (← h.size v) b
  | .ref (.names _) | .options _ _ _ => refused
  | v =>
    if (w.ownSize? v).isNone then refused
    else do (← h.items v).reverse.foldlM f b

def ownEntries (h : Host) (v : Value) : Act Value := do
  match ← h.attr? v "__dict__" with
  | some entries => pure entries
  | none => throw .noAttributes

end Host

namespace Capability

/-- `inspect.isfunction or callable`, as `logger_methods` asks it of a class entry. -/
def isOperation (h : Host) (v : Value) : Act Bool := do
  let w ← get
  match v with
  | .ref (.staticMethod _) | .ref (.classMethod _) => pure true
  | v =>
    if w.isCallable v then pure true
    else
      if v.objectPlace?.isSome then
        let _ ← h.attr? v "__class__"
        let _ ← h.attr? v "__class__"
      pure false

def isAmong (h : Host) (v : Value) : List Value → Act Bool
  | [] => pure false
  | x :: rest => do if ← h.equals x v then pure true else isAmong h v rest

def addOperation (h : Host) (names : List Value) (entry : Value × Value) : Act (List Value) := do
  let isPrivate ← h.truth (← h.send entry.1 "startswith" [.word "_"])
  if isPrivate then pure names
  else if ← isAmong h entry.1 names then pure names
  else if ← isOperation h entry.2 then pure (names ++ [entry.1])
  else pure names

/-- `logger_methods`: the public operations of a class, those of its bases first. -/
def operations (h : Host) (v : Value) : Act (List Value) := do
  let order ← h.attr v "__mro__"
  h.foldBackwards order (fun names c => do
    if c.isSame (.cls Library.objectClass) then pure names
    else h.foldEntries (← h.ownEntries c) (addOperation h) names) []

end Capability

end EventTasks
