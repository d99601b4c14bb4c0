import EventTasks.Proofs.Opening
import EventTasks.Proofs.EventLawOperations

/-!
Delivery of an event to listeners that may do anything: subscribe and unsubscribe at the emitter,
close its channels, emit again, install and destroy tasks on it, or fail. The host stands for what
they do, so everything here is said of every host. Who is called is settled when the delivery
begins; each call starts in the world that the one before has left, and the first that fails ends
the delivery.
-/
namespace EventTasks

open Act

namespace Emitter

variable {h : Host} {args fs called : List Value} {outcome : Option Fault} {w w' : World}

/-- How the calls of an `emit` go: one function after the other on the same arguments, up to and
with the first that fails. -/
inductive Delivers (h : Host) (args : List Value) :
    List Value → World → List Value → Option Fault → World → Prop where
  | done (w : World) : Delivers h args [] w [] none w
  | failed {f : Value} {fs : List Value} {fault : Fault} {w w' : World}
    (call : h.call f args [] w = .error fault w') :
    Delivers h args (f :: fs) w [f] (some fault) w'
  | passed {f v : Value} {fs called : List Value} {outcome : Option Fault} {w u w' : World}
    (call : h.call f args [] w = .ok v u) (rest : Delivers h args fs u called outcome w') :
    Delivers h args (f :: fs) w (f :: called) outcome w'

def answer (snapshot : List Value) (outcome : Option Fault) (w : World) :
    EStateM.Result Fault World Value :=
  match outcome with
  | none => .ok (.flag !snapshot.isEmpty) w
  | some fault => .error fault w

namespace Delivers

theorem isPrefix (delivers : Delivers h args fs w called outcome w') : called <+: fs := by
  induction delivers with
  | done w => exact List.prefix_rfl
  | failed call => exact List.prefix_append [_] _
  | passed call rest ih => exact (List.prefix_cons_inj _).2 ih

theorem all (delivers : Delivers h args fs w called none w') : called = fs := by
  generalize ending : (none : Option Fault) = outcome at delivers
  induction delivers with
  | done w => rfl
  | failed call => cases ending
  | passed call rest ih => rw [ih ending]

theorem unique {called' : List Value} {outcome' : Option Fault} {w'' : World}
    (delivers : Delivers h args fs w called outcome w')
    (other : Delivers h args fs w called' outcome' w'') :
    called' = called ∧ outcome' = outcome ∧ w'' = w' := by
  induction delivers generalizing called' with
  | done w =>
    cases other
    exact ⟨rfl, rfl, rfl⟩
  | failed call =>
    cases other with
    | failed call' =>
      obtain ⟨rfl, rfl⟩ := EStateM.Result.error.inj (call.symm.trans call')
      exact ⟨rfl, rfl, rfl⟩
    | passed call' rest => cases call.symm.trans call'
  | passed call rest ih =>
    cases other with
    | failed call' => cases call.symm.trans call'
    | passed call' rest' =>
      obtain ⟨rfl, rfl⟩ := EStateM.Result.ok.inj (call.symm.trans call')
      obtain ⟨rfl, rfl, rfl⟩ := ih rest'
      exact ⟨rfl, rfl, rfl⟩

end Delivers

theorem callEach_delivers (h : Host) (args fs : List Value) (w : World) :
    ∃ called outcome w', Delivers h args fs w called outcome w' ∧
      callEach h args fs w = match outcome with
        | none => .ok () w'
        | some fault => .error fault w' := by
  induction fs generalizing w with
  | nil => exact ⟨[], none, w, .done w, rfl⟩
  | cons f fs ih =>
    have first := callEach_cons h args f fs w
    cases call : h.call f args [] w with
    | error fault w' =>
      exact ⟨[f], some fault, w', .failed call, first.trans (bind_of_error call)⟩
    | ok v u =>
      obtain ⟨called, outcome, w', rest, run⟩ := ih u
      exact ⟨f :: called, outcome, w', .passed call rest,
        (first.trans (bind_of_ok call)).trans run⟩

/-- `list(self._listeners.get(event, ()))`. -/
def snapshot (h : Host) (self event : Value) : Act (List Value) := do
  h.items (← handlersOf h self event)

theorem listeners_eq (h : Host) (self event : Value) (w : World) :
    listeners h self event w = (snapshot h self event >>= newList) w := by
  rw [listeners, snapshot, bind_assoc]

theorem emit_eq (h : Host) (self event : Value) (args : List Value) (w : World) :
    emit h self event args w = (snapshot h self event >>= fun found =>
      callEach h args found >>= fun _ => pure (.flag !found.isEmpty)) w := by
  rw [emit, snapshot, bind_assoc]
  rfl

/-- At an emitter in order, looking up the listeners of a plain event changes nothing. -/
theorem snapshot_eq {r e p : Nat} {event : Value} {k : Key} (serves : w.Serves r e p)
    (plain : event.Plain w) (key : event.key = .ok k) :
    snapshot h (.object r) event w = .ok (((w.tableAt p).listeners k).map .ref) w := by
  rw [snapshot, bind_of_ok (handlersOf_eq serves plain key)]
  rfl

/-- Under a law, looking up the listeners of an event leaves the emitter as it is. -/
theorem snapshot_law {r e p : Nat} {event : Value} {n : Int} {law : Law r e p}
    (order : law.InOrder w) (host : law.hosts h) (covered : law.covers event)
    (number : law.number event = some n) :
    ∃ u, snapshot h (.object r) event w =
        .ok ((law.listeners (w.subscriptionsAt p) event).map .ref) u ∧
      law.InOrder u ∧ u.tableAt p = w.tableAt p := by
  obtain ⟨u, found, within⟩ := Law.handlersOf_law order host covered number
  refine ⟨u, ?_, order.aside within, congrArg Subscriptions.table within.same⟩
  rw [snapshot, bind_of_ok found]
  rfl

/-- `emit` in a world in which `listeners` gives `found` and leaves the world `u`. -/
structure Emission (h : Host) (emitter event : Value) (args : List Value) (w : World)
    (found : List Value) (u : World) : Prop where
  listed : listeners h emitter event w =
    .ok (.ref (.list u.lists.size)) { u with lists := u.lists.push found }
  delivered : ∃ called outcome w', Delivers h args found u called outcome w' ∧
    called <+: found ∧ (outcome = none → called = found) ∧
    emit h emitter event args w = answer found outcome w'
  nobody : found = [] → emit h emitter event args w = .ok (.flag false) u

theorem emission_of_snapshot {self event : Value} {found : List Value} {u : World}
    (look : snapshot h self event w = .ok found u) (args : List Value) :
    Emission h self event args w found u := by
  obtain ⟨called, outcome, w', delivers, run⟩ := callEach_delivers h args found u
  have emitted : emit h self event args w =
      (callEach h args found >>= fun _ => pure (Value.flag !found.isEmpty)) u := by
    rw [emit_eq, bind_of_ok look]
  refine ⟨?_, ⟨called, outcome, w', delivers, delivers.isPrefix, ?_, ?_⟩, ?_⟩
  · rw [listeners_eq, bind_of_ok look]
    rfl
  · rintro rfl
    exact delivers.all
  · rw [emitted]
    cases outcome with
    | none => exact bind_of_ok run
    | some fault => exact bind_of_error run
  · rintro rfl
    rw [emitted]
    rfl

/-- `emit` calls the listeners that `listeners` gives when it is called, in order, with exactly its
own arguments, up to and with the first that fails. At an emitter in order these are the listeners
in its table: also if its events have `__hash__` and `__eq__` of their own, as long as these abide
by a law. Looking them up fails for `emit` only where it does for `listeners`. -/
theorem emit_snapshot (h : Host) (self event : Value) (args : List Value) (w : World) :
    (∀ {r e p k}, self = .object r → w.Serves r e p → event.Plain w → event.key = .ok k →
      Emission h self event args w (((w.tableAt p).listeners k).map .ref) w) ∧
    (∀ {r e p n} {law : Law r e p}, self = .object r → law.InOrder w → law.hosts h →
      law.covers event → law.number event = some n → ∃ u, law.InOrder u ∧
        u.tableAt p = w.tableAt p ∧ Emission h self event args w
          ((law.listeners (w.subscriptionsAt p) event).map .ref) u) ∧
    ((∃ found u, Emission h self event args w found u) ∨
      ∃ fault u, listeners h self event w = .error fault u ∧
        emit h self event args w = .error fault u) := by
  refine ⟨?_, ?_, ?_⟩
  · rintro r e p k rfl serves plain key
    exact emission_of_snapshot (snapshot_eq serves plain key) args
  · rintro r e p n law rfl order host covered number
    obtain ⟨u, look, order', table⟩ := snapshot_law order host covered number
    exact ⟨u, order', table, emission_of_snapshot look args⟩
  · cases look : snapshot h self event w with
    | ok found u => exact .inl ⟨found, u, emission_of_snapshot look args⟩
    | error fault u =>
      refine .inr ⟨fault, u, ?_, ?_⟩
      · rw [listeners_eq]
        exact bind_of_error look
      · rw [emit_eq]
        exact bind_of_error look

end Emitter

namespace Opening

def closing : Ref := .method 0 (.object emitter) (.library (.emitter .removeAllListeners))

def emitting : Ref := .method 1 (.object emitter) (.library (.emitter .emit))

def reenter : Act Value := do
  let _ ← Emitter.on .exhausted (.object emitter) (.event .rule) (.ref closing)
  Emitter.on .exhausted (.object emitter) (.event .rule) (.ref emitting)

def reentrant : World := reenter.after (World.opening {})

theorem serves_reentrant : reentrant.Serves emitter 2 0 ∧
    ∀ k, (Value.event .rule).key = .ok k →
      (reentrant.tableAt 0).listeners k = [closing, emitting] := by
  have plain (w : World) : (Value.event .rule).Plain w := Value.plain_event .rule w
  obtain ⟨k, key⟩ : ∃ k, (Value.event .rule).key = .ok k := ⟨_, rfl⟩
  obtain ⟨w₁, first, -, serves₁, table₁⟩ :=
    Emitter.on_eq (h := .exhausted) reachable.serves (plain _) key (f := closing) rfl 0
  obtain ⟨w₂, second, -, serves₂, table₂⟩ :=
    Emitter.on_eq (h := .exhausted) serves₁ (plain _) key (f := emitting) rfl 0
  have run : reenter (World.opening {}) = .ok (.object emitter) w₂ :=
    (bind_of_ok first).trans second
  have same : reentrant = w₂ := after_of_ok run
  refine ⟨same ▸ serves₂, fun l key' => ?_⟩
  obtain rfl := Except.ok.inj (key.symm.trans key')
  have empty : ((World.opening {}).tableAt 0).listeners k = [] := rfl
  simp [same, table₂, table₁, Table.listeners_subscribe, empty]

end Opening

namespace Emitter

/-- The first listener closes all channels, and the second emits the event again, to nobody. -/
theorem emit_snapshot_reentrant : ∃ w',
    emit (Host.ofDepth 5) (.object Opening.emitter) (.event .rule) [.event .rule]
      Opening.reentrant = .ok (.flag true) w' ∧
    Delivers (Host.ofDepth 5) [.event .rule] [.ref Opening.closing, .ref Opening.emitting]
      Opening.reentrant [.ref Opening.closing, .ref Opening.emitting] none w' ∧
    w'.tableAt 0 = [] := by
  obtain ⟨serves, listed⟩ := Opening.serves_reentrant
  obtain ⟨k, key⟩ : ∃ k, (Value.event .rule).key = .ok k := ⟨_, rfl⟩
  obtain ⟨emission, -⟩ := emit_snapshot (Host.ofDepth 5) (.object Opening.emitter) (.event .rule)
    [.event .rule] Opening.reentrant
  obtain ⟨called, outcome, w', delivers, -, all, run⟩ :=
    (emission rfl serves (Value.plain_event .rule _) key).delivered
  rw [listed k key] at delivers all run
  obtain ⟨_, u, evaluated⟩ : ∃ v u, (do
      let _ ← emit (Host.ofDepth 5) (.object Opening.emitter) (.event .rule) [.event .rule]
      if ((← get).tableAt 0).isEmpty then pure () else throw .noRunner : Act Unit)
        Opening.reentrant = .ok v u := exists_of_succeeds (by decide +kernel)
  obtain ⟨v, w₁, emitted, checked⟩ := bind_eq_ok.1 evaluated
  rw [bind_of_ok (get_run w₁)] at checked
  cases outcome with
  | some fault => cases emitted.symm.trans run
  | none =>
    obtain rfl := all rfl
    obtain ⟨rfl, rfl⟩ := EStateM.Result.ok.inj (emitted.symm.trans run)
    refine ⟨w₁, run, delivers, ?_⟩
    cases empty : (w₁.tableAt 0).isEmpty with
    | true => exact List.isEmpty_iff.1 empty
    | false => simp [empty] at checked

end Emitter

end EventTasks
