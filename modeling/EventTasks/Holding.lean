import EventTasks.Subscript
import EventTasks.Text.Case

/-!
The methods of lists, mappings, sets and texts. Each counts its arguments, and none takes names.
-/
namespace EventTasks.Host

def takingNothing (name : String) (args : List Value) (m : Act Value) : Act Value :=
  if args.isEmpty then m else throw (.exactlyNone name args.length)

def takingOne (name : String) (args : List Value) (m : Value → Act Value) : Act Value :=
  match args with
  | [v] => m v
  | args => throw (.exactlyOne name args.length)

def takingTwo (name : String) (args : List Value) (m : Value → Value → Act Value) : Act Value :=
  match args with
  | [] => throw (.atLeast name 1 0)
  | [v] => m v .nothing
  | [v, other] => m v other
  | args => throw (.atMost name 2 args.length)

def popFrom (h : Host) (p : Nat) (args : List Value) : Act Value := do
  let xs := (← get).listAt p
  let take (i : Int) : Act Value := do
    if xs.isEmpty then throw .popEmpty
    let place := if i < 0 then i + xs.length else i
    if 0 ≤ place ∧ place < xs.length then
      modifyList p (·.eraseIdx place.toNat)
      pure (xs[place.toNat]?.getD .nothing)
    else throw .popRange
  match args with
  | [] => take (-1)
  | [v] => do take (← h.index v)
  | args => throw (.atMost "pop" 1 args.length)

def listMethod (h : Host) (p : Nat) (op : HoldingOp) (args : List Value) : Act Value :=
  match op with
  | .append => takingOne "list.append" args fun v => do
    modifyList p (· ++ [v])
    pure .nothing
  | .clear => takingNothing "list.clear" args do
    modifyList p fun _ => []
    pure .nothing
  | .copy => takingNothing "list.copy" args do newList ((← get).listAt p)
  | .pop => h.popFrom p args
  | .item => takingOne "list.__getitem__" args (h.item (.ref (.list p)))
  | _ =>
    if args.isEmpty then do pure (.number (((← get).listAt p).length : Nat))
    else throw (.miscounted 0 args.length)

def takeOff (h : Host) (mapping : Ref) (key : Value) : Act (Option Value) := do
  match mapping with
  | .dict p =>
    if ((← get).dictAt p).entries.isEmpty then pure none else h.takeAt p key
  | .table p =>
    if ((← get).tableAt p).isEmpty then pure none
    else
      let (_, topic, position) ← h.topicIn p key
      match position with
      | none => pure none
      | some i =>
        let found ← entryOf mapping i
        shrinkTable p i (Table.close topic.key)
        pure (found.map Prod.snd)
  | _ => pure none

def clearMapping (mapping : Ref) : Act Unit :=
  match mapping with
  | .dict p => modifyDict p Dictionary.emptied
  | .table p => clearTable p
  | _ => pure ()

def mappingMethod (h : Host) (mapping : Ref) (kind : String) (op : HoldingOp)
    (args : List Value) : Act Value :=
  let name := kind ++ "." ++ op.name
  let part (p : Part) : Act Value := takingNothing name args (pure (.ref (.part p mapping)))
  match op with
  | .keys => part .keys
  | .values => part .values
  | .items => part .items
  | .get => takingTwo "get" args fun key default => do
    pure ((← h.mappingItem? mapping key).getD default)
  | .pop =>
    match args with
    | [key] => do
      match ← h.takeOff mapping key with
      | some v => pure v
      | none => h.lacking key
    | args => takingTwo "pop" args fun key default => do
      pure ((← h.takeOff mapping key).getD default)
  | .clear => takingNothing name args do
    clearMapping mapping
    pure .nothing
  | .copy => takingNothing name args do
    match mapping with
    | .dict p => do newDict ((← get).dictAt p)
    | r => do
      let found ← entriesOf r
      newDict (← found.foldlM (fun d e => h.storeIn e.1 e.2 d) {})
  | .item => takingOne name args (h.item (.ref mapping))
  | _ =>
    if args.isEmpty then do pure (.number ((← entriesOf mapping).length : Nat))
    else throw (.miscounted 0 args.length)

def setMethod (h : Host) (p : Nat) (op : HoldingOp) (args : List Value) : Act Value :=
  match op with
  | .add => takingOne "set.add" args fun v => do
    h.gather p v
    pure .nothing
  | .clear => takingNothing "set.clear" args do
    modifyNames p fun _ => {}
    pure .nothing
  | .copy => takingNothing "set.copy" args do
    modifyGet fun w =>
      (.ref (.names w.gatherings.size),
        { w with gatherings := w.gatherings.push (w.namesAt p) })
  | _ =>
    if args.isEmpty then do pure (.number (((← get).namesAt p).members.length : Nat))
    else throw (.miscounted 0 args.length)

/-- A method of a list, mapping or set. -/
def holdingMethod (h : Host) (op : HoldingOp) (self : Value) (args : List Value)
    (named : List (String × Value)) : Act Value := do
  let kind := (← get).shortKindOf self
  if !named.isEmpty && op ≠ .length then throw (.noNames (kind ++ "." ++ op.name))
  match self with
  | .ref (.list p) => h.listMethod p op args
  | .ref (.names p) => h.setMethod p op args
  | .ref r => h.mappingMethod r "dict" op args
  | v => throw ((← get).missing v op.name)

def textMethod (op : TextOp) (self : Value) (args : List Value)
    (named : List (String × Value)) : Act Value := do
  if !named.isEmpty then throw (.noNames ("str." ++ op.name))
  let s := self.text?.getD ""
  match op with
  | .lower => takingNothing "str.lower" args (pure (.word (Text.lower s)))
  | .upper => takingNothing "str.upper" args (pure (.word (Text.upper s)))
  | .startsWith =>
    match args with
    | [v] =>
      match v.text? with
      | some start => pure (.flag (start.toList.isPrefixOf s.toList))
      | none => throw (.startKind ((← get).kindOf v))
    | args => throw (.startCount args.length)

end EventTasks.Host
