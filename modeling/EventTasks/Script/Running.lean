import EventTasks.Script.Evaluation
import EventTasks.Viewing

/-!
What scripted callables do when they are called. A call is counted and noted with its arguments as
they are then. A function of a class body may call the next class's definition of its name, which is
looked up before the call is noted.
-/
namespace EventTasks.Script

def behind? (owner : Nat) (order : List Nat) : Option (List Nat) :=
  match order.dropWhile (· ≠ owner) with
  | [] => none
  | _ :: rest => some rest

/-- `super().name`: the next definition of `name` behind class `owner`. -/
def inherited (h : Host) (owner : Nat) (self : Value) (name : String) : Act Value := do
  let w ← get
  let next (c : Nat) (rest : List Nat) (subject : Option Value) : Act Value :=
    match w.findEntry rest name with
    | some (_, entry) => h.fetch entry subject c
    | none => throw (.missingInherited name)
  let own := self.classPlace?.bind fun c => (behind? owner (w.orderOf c)).map (c, ·)
  let c := w.classOf self
  match self, own, behind? owner (w.orderOf c) with
  | .nothing, _, _ => throw (.missingInherited name)
  | _, some (d, rest), _ => next d rest none
  | _, none, some rest => next c rest (some self)
  | _, none, none => throw .foreignSelf

def runActions (h : Host) : List Step → Act Unit
  | [] => pure ()
  | s :: rest => do
    let reply ← h.perform s
    note (.action reply)
    runActions h rest

/-- Runs a routine in its call number `run`. -/
def runRoutine (h : Host) (r : Routine Step) (run : Nat) (next : Option Value)
    (args : List Value) : Act Value := do
  match r.failure with
  | some f => if f.start ≤ run then throw f.raised.fault
  | none => pure ()
  let above ← match next with
    | some f => h.call f args []
    | none => pure .nothing
  if r.limit.all fun limit => decide (run ≤ limit) then runActions h r.actions
  match r.result with
  | some t => evaluate h t
  | none => pure above

def Behaviour.called (b : Behaviour) : Behaviour := { b with runs := b.runs + 1 }

def callListener (h : Host) (self : Value) (args : List Value) : Act Value := do
  let w ← get
  match self with
  | .ref (.subject (.object i)) =>
    match w.objects[i]?.bind fun o => o.behaviour.map fun b => (o.label.getD "", b) with
    | none => throw (w.missing self "__call__")
    | some (label, b) =>
      modifyObject i fun o => { o with behaviour := o.behaviour.map Behaviour.called }
      note (.listener label (args.map w.view))
      runRoutine h b.routine (b.runs + 1) none args
  | v => throw (w.missing v "__call__")

def callScripted (h : Host) (i : Nat) (args : List Value) : Act Value := do
  match (← get).functions[i]? with
  | none => pure .nothing
  | some k =>
    match k.form, args with
    | .free, args => do
      let run ← countRun i
      let w ← get
      note (.method k.qualifiedName none (args.map w.view))
      runRoutine h k.behaviour.routine run none args
    | form, [] => throw (.arity k.qualifiedName (.missing form.subject?.toList))
    | form, self :: rest => do
      let next ← if k.behaviour.routine.inherits then some <$> inherited h k.owner self k.name
        else pure none
      let run ← countRun i
      let w ← get
      let shown := if form = .method then some (w.view self) else none
      note (.method k.qualifiedName shown (rest.map w.view))
      runRoutine h k.behaviour.routine run next rest
where
  countRun (i : Nat) : Act Nat := modifyGet fun w =>
    let run := ((w.functions[i]?).map fun k => k.behaviour.runs).getD 0 + 1
    (run, { w with functions := w.functions.modify i fun k =>
      { k with behaviour := Behaviour.called k.behaviour } })

end EventTasks.Script
