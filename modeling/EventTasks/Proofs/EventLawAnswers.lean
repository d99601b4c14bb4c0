import EventTasks.Proofs.Answering
import EventTasks.Proofs.Undoing
import Mathlib.Data.List.Find

/-!
What an emitter answers under a law of events, so also for events whose class has scripted code to
number and compare them. At all times it names events of which no two are the same, an event has
listeners exactly if one that is the same is named, and what is asked, emitted to nobody, taken back
in vain or refused leaves the subscriptions alone.
-/
namespace EventTasks

open Act

namespace Emitter

namespace Law

variable {r e p : Nat} {law : Law r e p} {h : Host} {s : Subscriptions} {w : World}
  {u v : Value}

theorem listeners_of_same (orders : law.Orders s) (equivalence : law.IsEquivalence)
    (hu : law.covers u) (hv : law.covers v) (same : law.same u v = true) :
    law.listeners s u = law.listeners s v := by
  have agree : ∀ c ∈ s.table, law.same c.topic.event u = law.same c.topic.event v := by
    intro c inside
    have covered := (orders.names c inside).covered
    exact Bool.eq_iff_iff.2 ⟨fun here => equivalence.trans covered hu hv here same,
      fun here => equivalence.trans covered hv hu here (equivalence.symm hu hv same)⟩
  rw [listeners_eq_find orders equivalence hu, listeners_eq_find orders equivalence hv,
    List.find?_congr agree]

/-- An event has listeners exactly if there is a channel of one that is the same. -/
theorem listeners_ne_nil (order : law.InOrder w) :
    law.listeners (w.subscriptionsAt p) v ≠ [] ↔
      ∃ name ∈ (w.tableAt p).events, law.same name v = true := by
  cases key : law.key? (w.subscriptionsAt p) v with
  | none =>
    have apart : ∀ c ∈ w.tableAt p, law.same c.topic.event v = false :=
      (key?_eq_none order.orders).1 key
    simp +contextual [listeners, key, Table.events, apart]
  | some k =>
    obtain ⟨c, inside, same, rfl⟩ := key?_eq_some key
    refine ⟨fun _ => ⟨c.topic.event, List.mem_map_of_mem inside, same⟩, fun _ => ?_⟩
    rw [listeners, key, Option.map_some, Option.getD_some,
      Table.handlers_eq_listeners order.orders.distinct inside]
    exact order.filled c inside

theorem takenBack_of_not_mem {handler : Value}
    (absent : ∀ f, handler = .ref f → f ∉ law.listeners s v) :
    law.takenBack s v handler = s.table := by
  cases handler with
  | ref f =>
    have absent := absent f rfl
    cases key : law.key? s v with
    | none => simp [takenBack, key]
    | some k =>
      rw [listeners, key] at absent
      simpa [takenBack, key] using Table.unsubscribe_of_not_mem absent
  | _ => simp [takenBack]

theorem asks_within {call : Act Value} {x : World} (asks : Asks r p v w call h x)
    (within : law.Within s w) : law.Within s x := by
  cases asks with
  | close => exact within.pushBound _ _
  | _ => exact within

/-- What an emitter that names these events answers. -/
structure Answers (law : Law r e p) (w : World) (names : List Value) : Prop where
  told : ∀ h, TellsEvents h w r names
  hashed : ∀ v ∈ names, law.covers v ∧ (law.number v).isSome
  distinct : names.Pairwise fun u v => law.same u v = false
  /-- An event has listeners if and only if one is named that is the same, and they are counted. -/
  listed : ∀ h v, law.hosts h → law.covers v → (law.number v).isSome → ∃ found u,
    Tells h w r v found ∧ (found ≠ [] ↔ ∃ name ∈ names, law.same name v = true) ∧
    listenerCount h (.object r) v w = .ok (.number found.length) u ∧
    law.Within (w.subscriptionsAt p) u
  /-- Events that are the same have the same listeners. -/
  equal : law.IsEquivalence → ∀ h u v, law.hosts h → law.covers u → law.covers v →
    law.same u v = true → ∃ found, Tells h w r u found ∧ Tells h w r v found
  asking : ∀ h v, law.hosts h → law.covers v →
    law.Within (w.subscriptionsAt p) ((Emitter.listeners h (.object r) v).after w) ∧
    law.Within (w.subscriptionsAt p) ((eventNames h (.object r)).after w)
  unheard : ∀ h v args, law.hosts h → law.covers v → (law.number v).isSome →
    (∀ name ∈ names, law.same name v = false) →
    ∃ u, Emitter.emit h (.object r) v args w = .ok (.flag false) u ∧
      law.Within (w.subscriptionsAt p) u
  unmatched : ∀ h v handler found, law.hosts h → law.covers v → (law.number v).isSome →
    Tells h w r v found → (∀ f, handler = .ref f → f ∉ found) →
    ∃ u, off h (.object r) v handler w = .ok (.object r) u ∧ u.tableAt p = w.tableAt p
  /-- Where an event has no hash, the call fails. -/
  refused : ∀ h v call x, law.hosts h → law.covers v → law.number v = none →
    Asks r p v w call h x → ∃ fault u, call w = .error fault u ∧
      law.Within (w.subscriptionsAt p) u

theorem Tells.unique {found found' : List Ref} (tells : Tells h w r v found)
    (tells' : Tells h w r v found') : found = found' := by
  obtain ⟨place, u, run, there⟩ := tells
  obtain ⟨place', u', run', there'⟩ := tells'
  obtain ⟨same, rfl⟩ := EStateM.Result.ok.inj (run.symm.trans run')
  cases same
  exact List.map_injective_iff.2 (fun _ _ same => Value.ref.inj same)
    (Option.some.inj (there.symm.trans there'))

theorem InOrder.answers (order : law.InOrder w) (standard : w.Standard) :
    law.Answers w (w.tableAt p).events where
  told h := tellsEvents order.within.emitter
  hashed v inside := by
    obtain ⟨c, found, rfl⟩ := List.mem_map.1 inside
    obtain ⟨covered, n, number, -⟩ := order.orders.names c found
    exact ⟨covered, Option.isSome_iff_exists.2 ⟨n, number⟩⟩
  distinct := List.pairwise_map.2 order.orders.apart
  listed h v host covered numbered := by
    obtain ⟨n, number⟩ := Option.isSome_iff_exists.1 numbered
    obtain ⟨u, found, within⟩ := handlersOf_law order host covered number
    refine ⟨_, u, tells_law order host covered number, listeners_ne_nil order, ?_, within⟩
    rw [listenerCount, bind_of_ok found]
    simp [Host.size, Host.size?, World.ownSize?, bind_run]
  equal equivalence h u v host hu hv same := by
    obtain ⟨n, number, number', -⟩ := same_eq_true.1 same
    refine ⟨_, tells_law order host hu number, ?_⟩
    rw [listeners_of_same order.orders equivalence hu hv same]
    exact tells_law order host hv number'
  asking h v host covered := by
    constructor
    · cases number : law.number v with
      | none =>
        obtain ⟨fault, u, failed, within⟩ := law.refuses host covered number order.within
        rwa [after_of_error
          (Asks.listeners.fails standard order.within.emitter failed)]
      | some n =>
        obtain ⟨u, found, within⟩ := handlersOf_law order host covered number
        rw [Emitter.listeners, after_bind_of_ok found]
        exact within.pushList _
    · rw [after_of_ok (eventNames_run order.within.emitter)]
      exact order.within.pushList _
  unheard h v args host covered numbered nobody := by
    obtain ⟨n, number⟩ := Option.isSome_iff_exists.1 numbered
    obtain ⟨u, found, within⟩ := handlersOf_law order host covered number
    have empty : law.listeners (w.subscriptionsAt p) v = [] := by
      by_contra full
      obtain ⟨name, inside, same⟩ := (listeners_ne_nil order).1 full
      simp [nobody name inside] at same
    have look : snapshot h (.object r) v w = .ok [] u := by
      rw [snapshot, bind_of_ok found, empty]
      rfl
    exact ⟨u, (emission_of_snapshot look args).nobody rfl, within⟩
  unmatched h v handler found host covered numbered tells absent := by
    obtain ⟨n, number⟩ := Option.isSome_iff_exists.1 numbered
    obtain rfl := Tells.unique tells (tells_law order host covered number)
    obtain ⟨u, run, -, table⟩ := off_law order host covered number handler
    exact ⟨u, run, table.trans (takenBack_of_not_mem absent)⟩
  refused h v call x host covered number asks := by
    obtain ⟨fault, u, failed, within⟩ :=
      law.refuses host covered number (asks_within asks order.within)
    exact ⟨fault, u, asks.fails standard order.within.emitter failed, within⟩

/-- At all times an emitter answers so. -/
theorem Reaches.answers (reaches : law.Reaches w) (standard : w.Standard) :
    ∃ names, law.Answers w names :=
  ⟨_, reaches.inOrder.answers standard⟩

end Law

end Emitter

end EventTasks
