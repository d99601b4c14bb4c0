import EventTasks.Proofs.Interference
import EventTasks.Proofs.EventLawInstances
import EventTasks.Proofs.EventLawOperations
import Mathlib.Data.List.Nodup

/-!
Taking handlers back in any order, and right after they were subscribed. Under a law of events by
which counting as the same is an equivalence, every event has one channel at most. What is taken
back from several events is then taken back from channels that are known beforehand, so the order
does not matter. A handler that was just subscribed is found where it was put, so taking it back
leaves the table as it was, whether or not counting as the same is an equivalence. Where it is none,
the order may matter.
-/
namespace EventTasks

open Act

theorem Table.mem_topics_unsubscribeAll {t : Table} {pairs : List Table.Subscription} {c : Channel}
    (found : c ∈ t.unsubscribeAll pairs) : ∃ d ∈ t, d.topic = c.topic := by
  induction pairs generalizing t with
  | nil => exact ⟨c, found, rfl⟩
  | cons q pairs ih =>
    obtain ⟨d, inside, topic⟩ := ih (t := t.unsubscribe q.1.key q.2) found
    obtain ⟨d', inside', topic'⟩ := Table.mem_topics_unsubscribe inside
    exact ⟨d', inside', topic'.trans topic⟩

namespace Emitter

variable {r e p : Nat}

def tryOff (h : Host) (r : Nat) (event handler : Value) : Act Bool := do
  match ← attempt (off h (.object r) event handler) with
  | .ok _ => pure true
  | .error _ => pure false

/-- `off` for several pairs, one after the other, with whether each succeeded. -/
def offAll (h : Host) (r : Nat) (pairs : List (Value × Value)) : Act (List Bool) :=
  pairs.mapM fun q => tryOff h r q.1 q.2

def onThenOff (h : Host) (r : Nat) (event handler : Value) : Act Value := do
  let _ ← on h (.object r) event handler
  off h (.object r) event handler

namespace Law

variable {law : Law r e p} {h : Host} {s s' : Subscriptions} {w w' : World} {v : Value}
  {n : Int} {k : Key}

/-- Between two worlds the emitter has the same channels in the same order, with the same event
objects and handlers. -/
structure SameState (law : Law r e p) (w w' : World) : Prop where
  table : w'.tableAt p = w.tableAt p
  names : ∀ h, ∃ events, TellsEvents h w r events ∧ TellsEvents h w' r events
  listeners : law.IsEquivalence → ∀ h v, law.hosts h → law.covers v → (law.number v).isSome →
    ∃ found, Tells h w r v found ∧ Tells h w' r v found

/-! One channel for each event -/

theorem Orders.unique (orders : law.Orders s) (equivalence : law.IsEquivalence)
    (covered : law.covers v)
    {i j : Nat} {c d : Channel} (hc : s.table[i]? = some c) (hd : s.table[j]? = some d)
    (same : law.same c.topic.event v = true) (same' : law.same d.topic.event v = true) : c = d := by
  have apart {i j : Nat} {c d : Channel} (hc : s.table[i]? = some c) (hd : s.table[j]? = some d)
      (same : law.same c.topic.event v = true) (same' : law.same d.topic.event v = true) :
          ¬ i < j := by
    intro less
    obtain ⟨hi, rfl⟩ := List.getElem?_eq_some_iff.1 hc
    obtain ⟨hj, rfl⟩ := List.getElem?_eq_some_iff.1 hd
    have first := (orders.names _ (List.getElem_mem hi)).covered
    have second := (orders.names _ (List.getElem_mem hj)).covered
    have both := equivalence.trans first covered second same (equivalence.symm second covered same')
    simp [List.pairwise_iff_getElem.1 orders.apart i j hi hj less] at both
  have position : i = j := by
    have := apart hc hd same same'
    have := apart hd hc same' same
    omega
  exact Option.some.inj (hc.symm.trans (position ▸ hd))

theorem key?_eq_find (orders : law.Orders s) (equivalence : law.IsEquivalence)
    (covered : law.covers v) :
    law.key? s v =
      (s.table.find? fun c => law.same c.topic.event v).map fun c => c.topic.key := by
  cases found : s.table.find? fun c => law.same c.topic.event v with
  | none => exact (key?_eq_none
    orders).2 fun c inside => by simpa using List.find?_eq_none.1 found c inside
  | some c =>
    have same := (List.find?_eq_some_iff_append.1 found).1
    obtain ⟨i, at_i⟩ := List.mem_iff_getElem?.1 (List.mem_of_find?_eq_some found)
    cases key : law.key? s v with
    | none =>
      have apart := (key?_eq_none orders).1 key c (List.mem_of_find?_eq_some found)
      simp [apart] at same
    | some k =>
      obtain ⟨d, inside, same', rfl⟩ := key?_eq_some key
      obtain ⟨j, at_j⟩ := List.mem_iff_getElem?.1 inside
      rw [orders.unique equivalence covered at_i at_j same same', Option.map_some]

theorem listeners_eq_find (orders : law.Orders s) (equivalence : law.IsEquivalence)
    (covered : law.covers v) :
    law.listeners s v = (((s.table.find? fun c => law.same c.topic.event v).map fun c =>
      c.topic.key).map s.table.listeners).getD [] := by
  rw [listeners, key?_eq_find orders equivalence covered]

/-! Asking -/

/-- What is told of an event are the handlers of the channel at which it is found. -/
theorem tells_law (order : law.InOrder w) (host : law.hosts h) (covered : law.covers v)
    (number : law.number v = some n) :
    Tells h w r v (law.listeners (w.subscriptionsAt p) v) := by
  obtain ⟨u, asked, -⟩ := handlersOf_law order host covered number
  obtain ⟨l, shown⟩ : ∃ l : List Value, l =
      (law.listeners (w.subscriptionsAt p) v).map .ref := ⟨_, rfl⟩
  rw [← shown] at asked
  refine ⟨u.lists.size, { u with lists := u.lists.push l }, ?_, shown ▸ Array.getElem?_push_size⟩
  rw [Emitter.listeners, bind_of_ok asked]
  rfl

theorem sameState (order : law.InOrder w) (order' : law.InOrder w')
    (table : w'.tableAt p = w.tableAt p) : law.SameState w w' where
  table := table
  names h := ⟨_, tellsEvents order.within.emitter, table ▸ tellsEvents order'.within.emitter⟩
  listeners equivalence h v host covered numbered := by
    obtain ⟨n, number⟩ := Option.isSome_iff_exists.1 numbered
    have agree : law.listeners (w'.subscriptionsAt p) v =
        law.listeners (w.subscriptionsAt p) v := by
      rw [listeners_eq_find order'.orders equivalence covered,
        listeners_eq_find order.orders equivalence covered,
        show (w'.subscriptionsAt p).table = (w.subscriptionsAt p).table from table]
    exact ⟨_, tells_law order host covered number, agree ▸ tells_law order' host covered number⟩

/-! Taking back in any order -/

def aims (law : Law r e p) (t : Table) (pairs : List (Value × Value)) : List Table.Subscription :=
  pairs.filterMap fun q =>
    match t.find? fun c => law.same c.topic.event q.1, q.2 with
    | some c, .ref f => some (c.topic, f)
    | _, _ => none

/-- What is taken back from an event is what the pair names in a table that had at least the
channels there are now. -/
theorem takenBack_eq (orders : law.Orders s) (former : law.Orders s')
    (equivalence : law.IsEquivalence)
    (fewer : ∀ c ∈ s.table, ∃ d ∈ s'.table, d.topic = c.topic) (covered : law.covers v)
    (handler : Value) :
    law.takenBack s v handler = s.table.unsubscribeAll (law.aims s'.table [(v, handler)]) := by
  cases handler with
  | ref f =>
    cases found : s'.table.find? fun c => law.same c.topic.event v with
    | none =>
      have unknown : law.key? s v = none := (key?_eq_none orders).2 fun c inside => by
        obtain ⟨d, inside', topic⟩ := fewer c inside
        simpa [topic] using List.find?_eq_none.1 found d inside'
      simp [takenBack, unknown, aims, found, Table.unsubscribeAll]
    | some d =>
      have same := (List.find?_eq_some_iff_append.1 found).1
      have inside := List.mem_of_find?_eq_some found
      obtain ⟨i, at_i⟩ := List.mem_iff_getElem?.1 inside
      have named : s.table.unsubscribeAll (law.aims s'.table [(v, .ref f)]) =
          s.table.unsubscribe d.topic.key f := by
        simp [aims, found, Table.unsubscribeAll]
      rw [named]
      cases key : law.key? s v with
      | some k =>
        obtain ⟨c, there, same', rfl⟩ := key?_eq_some key
        obtain ⟨d', inside', topic⟩ := fewer c there
        obtain ⟨j, at_j⟩ := List.mem_iff_getElem?.1 inside'
        have one := former.unique equivalence covered at_i at_j same (topic ▸ same')
        simp [takenBack, key, one, topic]
      | none =>
        have gone : d.topic.key ∉ s.table.map fun c => c.topic.key := by
          intro old
          obtain ⟨c, there, at_key⟩ := List.mem_map.1 old
          obtain ⟨d', inside', topic⟩ := fewer c there
          have one : d' = d := List.inj_on_of_nodup_map former.distinct inside' inside
            (by rw [topic, at_key])
          have apart := (key?_eq_none orders).1 key c there
          rw [← topic, one, same] at apart
          cases apart
        have absent : f ∉ s.table.listeners d.topic.key := by
          simp [Table.listeners_of_not_mem gone]
        rw [Table.unsubscribe_of_not_mem absent]
        simp [takenBack, key]
  | _ =>
    cases found : s'.table.find? fun c => law.same c.topic.event v <;> cases key : law.key? s v <;>
      simp [takenBack, aims, found, key, Table.unsubscribeAll]

theorem aims_cons (t : Table) (q : Value × Value) (pairs : List (Value × Value)) :
    law.aims t (q :: pairs) = law.aims t [q] ++ law.aims t pairs := by
  rw [aims, ← List.singleton_append, List.filterMap_append]
  rfl

theorem same_of_refused (number : law.number v = none) (u : Value) : law.same u v = false := by
  by_contra counts
  obtain ⟨n, -, numbered, -⟩ := same_eq_true.1 (by simpa using counts)
  simp [number] at numbered

theorem tryOff_law (order : law.InOrder w) (former : law.Orders s) (equivalence : law.IsEquivalence)
    (host : law.hosts h) (fewer : ∀ c ∈ w.tableAt p, ∃ d ∈ s.table, d.topic = c.topic)
    (covered : law.covers v) (handler : Value) :
    ∃ w', tryOff h r v handler w = .ok (law.number v).isSome w' ∧ law.InOrder w' ∧
      w'.tableAt p = (w.tableAt p).unsubscribeAll (law.aims s.table [(v, handler)]) := by
  rw [tryOff, bind_run, attempt_eq]
  cases number : law.number v with
  | none =>
    obtain ⟨fault, w', refused, within⟩ := off_refused order host covered number handler
    have absent : s.table.find? (fun c => law.same c.topic.event v) = none :=
      List.find?_eq_none.2 fun c _ => by simp [same_of_refused number]
    have nothing : law.aims s.table [(v, handler)] = [] := by simp [aims, absent]
    refine ⟨w', by simp [refused], order.aside within, ?_⟩
    rw [nothing, World.tableAt, within.same]
    rfl
  | some n =>
    obtain ⟨w', run, order', table⟩ := off_law order host covered number handler
    exact ⟨w', by simp [run], order',
      table.trans (takenBack_eq order.orders former equivalence fewer covered handler)⟩

/-- Whatever their order, several pairs take back what they named when all began. -/
theorem offAll_law (order : law.InOrder w) (former : law.Orders s) (equivalence : law.IsEquivalence)
    (host : law.hosts h) (fewer : ∀ c ∈ w.tableAt p, ∃ d ∈ s.table, d.topic = c.topic)
    {pairs : List (Value × Value)} (covered : ∀ q ∈ pairs, law.covers q.1) :
    ∃ w', offAll h r pairs w = .ok (pairs.map fun q => (law.number q.1).isSome) w' ∧
      law.InOrder w' ∧
      w'.tableAt p = (w.tableAt p).unsubscribeAll (law.aims s.table pairs) := by
  induction pairs generalizing w with
  | nil => exact ⟨w, rfl, order, rfl⟩
  | cons q pairs ih =>
    obtain ⟨w₁, first, order₁, table₁⟩ :=
      tryOff_law order former equivalence host fewer (covered q (by simp)) q.2
    have fewer₁ : ∀ c ∈ w₁.tableAt p, ∃ d ∈ s.table, d.topic = c.topic := by
      intro c inside
      rw [table₁] at inside
      obtain ⟨c', inside', topic⟩ := Table.mem_topics_unsubscribeAll inside
      obtain ⟨d, found, topic'⟩ := fewer c' inside'
      exact ⟨d, found, topic'.trans topic⟩
    obtain ⟨w₂, rest, order₂, table₂⟩ := ih order₁ fewer₁ fun q found => covered q (by simp [found])
    refine ⟨w₂, ?_, order₂, ?_⟩
    · rw [offAll, List.mapM_cons, bind_of_ok first]
      exact bind_of_ok rest
    · rw [table₂, table₁, aims_cons s.table q pairs, Table.unsubscribeAll_append]

/-- The order in which handlers are taken back does not matter. -/
theorem offAll_perm (order : law.InOrder w) (equivalence : law.IsEquivalence) (host : law.hosts h)
    {pairs pairs' : List (Value × Value)} (perm : pairs.Perm pairs')
    (covered : ∀ q ∈ pairs, law.covers q.1) :
    ∃ w₁ w₂, offAll h r pairs w = .ok (pairs.map fun q => (law.number q.1).isSome) w₁ ∧
      offAll h r pairs' w = .ok (pairs'.map fun q => (law.number q.1).isSome) w₂ ∧
      law.SameState w₁ w₂ := by
  have fewer : ∀ c ∈ w.tableAt p, ∃ d ∈ (w.subscriptionsAt p).table, d.topic = c.topic :=
    fun c inside => ⟨c, inside, rfl⟩
  have covered' : ∀ q ∈ pairs', law.covers q.1 := fun q found => covered q (perm.mem_iff.2 found)
  obtain ⟨w₁, run₁, order₁, table₁⟩ := offAll_law order order.orders equivalence host fewer covered
  obtain ⟨w₂, run₂, order₂, table₂⟩ := offAll_law order order.orders equivalence host fewer covered'
  have named : (law.aims (w.subscriptionsAt p).table pairs).Perm
      (law.aims (w.subscriptionsAt p).table pairs') := perm.filterMap _
  refine ⟨w₁, w₂, run₁, run₂, sameState order₁ order₂ ?_⟩
  rw [table₁, table₂, Table.unsubscribeAll_perm order.sound named]

/-! Taking back at once -/

/-- A handler that is taken back right after it was subscribed leaves no trace. Both succeed exactly
if the event has a hash. -/
theorem onThenOff_law (order : law.InOrder w) (host : law.hosts h) (covered : law.covers v)
    {handler : Value} (callable : w.isCallable handler = true) :
    (onThenOff h r v handler).succeeds w = (law.number v).isSome ∧
      law.SameState w ((onThenOff h r v handler).after w) := by
  obtain ⟨f, rfl⟩ := World.exists_ref_of_isCallable callable
  cases number : law.number v with
  | none =>
    obtain ⟨fault, w', refused, within⟩ := on_refused order host covered number callable
    have failed : onThenOff h r v (.ref f) w = .error fault w' := bind_of_error refused
    rw [after_of_error failed]
    exact ⟨by simp [Act.succeeds, failed],
      sameState order (order.aside within) (congrArg Subscriptions.table within.same)⟩
  | some n =>
    obtain ⟨k, w₁, subscribed, order₁, table₁, key⟩ := on_law order host covered number callable
    obtain ⟨w₂, done, order₂, table₂⟩ := off_law order₁ host covered number (.ref f)
    have run : onThenOff h r v (.ref f) w = .ok (.object r) w₂ := (bind_of_ok subscribed).trans done
    have back : w₂.tableAt p = w.tableAt p := by
      have taken : law.takenBack (w₁.subscriptionsAt p) v (.ref f) =
          (w₁.tableAt p).unsubscribe k f := by
        simp only [takenBack, key]
        rfl
      rw [table₂, taken, table₁]
      exact Table.unsubscribe_subscribe order.sound ⟨v, k⟩ f
    rw [after_of_ok run]
    exact ⟨by simp [Act.succeeds, run], sameState order order₂ back⟩

/-- Under a law that makes an equivalence of being equal, the order of several `off` does not
matter, whatever the pairs are, subscribed or not, and however often they occur. Under any law, `on`
followed by `off` leaves no trace, also if the handler was subscribed before. Only events without a
hash are refused. -/
theorem off_commutes_and_undoes (law : Law r e p) (reaches : law.Reaches w) (host : law.hosts h) :
    (law.IsEquivalence → ∀ pairs pairs' : List (Value × Value), pairs.Perm pairs' →
      (∀ q ∈ pairs, law.covers q.1) → ∃ w₁ w₂,
        offAll h r pairs w = .ok (pairs.map fun q => (law.number q.1).isSome) w₁ ∧
        offAll h r pairs' w = .ok (pairs'.map fun q => (law.number q.1).isSome) w₂ ∧
        law.SameState w₁ w₂) ∧
    ∀ event handler, law.covers event → w.isCallable handler = true →
      (onThenOff h r event handler).succeeds w = (law.number event).isSome ∧
        law.SameState w ((onThenOff h r event handler).after w) :=
  ⟨fun equivalence _ _ perm covered => offAll_perm reaches.inOrder equivalence host perm covered,
    fun _ _ covered callable => onThenOff_law reaches.inOrder host covered callable⟩

end Law

/-! Events that do not abide by a law -/

/-- An emitter that was just made, and objects of three classes with a constant `__hash__`. Those at
6 and 7 equal nothing else, those at 8 and 9 take everything for equal, and the one at 10 raises
from its third hashing on. -/
def lopsided : World :=
  let start := World.opening Opening.rules
  let first := start.classes.size
  let made (c : Nat) (name : String) (body : List (String × Value)) : ClassInfo :=
    { name := name, qualifiedName := name, bases := [Library.objectClass],
      order := [c, Library.objectClass], kind := Library.typeClass, body := body }
  let gives (owner : Nat) (name : String) (failure : Option Script.Failure) (result : Script.Term) :
      FunctionInfo :=
    { name := name, owner := owner, qualifiedName := name, form := .method
      behaviour := { routine := {
        failure := failure, limit := none, actions := [], result :=
          some result, inherits := false } } }
  { start with
    classes := start.classes ++ #[
      made first "X" [("__hash__", .function (.scripted 0))],
      made (first + 1) "Y"
        [("__hash__", .function (.scripted 1)), ("__eq__", .function (.scripted 2))],
      made (first + 2) "Z" [("__hash__", .function (.scripted 3))]]
    functions := #[gives first "__hash__" none (.int 0 1),
      gives (first + 1) "__hash__" none (.int 0 1),
      gives (first + 1) "__eq__" none (.flag true),
      gives (first + 2) "__hash__" (some ⟨3, ⟨.ok .value, "x"⟩⟩) (.int 0 1)]
    objects := start.objects ++ #[{ cls := first }, { cls := first }, { cls := first + 1 },
      { cls := first + 1 }, { cls := first + 2 }] }

theorem isEmitter_lopsided : lopsided.IsEmitter Opening.emitter 2 0 where
  usual := ⟨by decide +kernel, by decide +kernel⟩
  holds := ⟨rfl, by decide +kernel⟩
  table := .of_own rfl
    (show lopsided.definition? Library.emitterClass Emitter.tableName = none by decide +kernel)
  inside := by decide +kernel
  on := ⟨rfl, rfl⟩
  off := ⟨rfl, rfl⟩
  cls := rfl

def lopsidedHandler : Value := .ref (.function (.library (.emitter .describe)))

def lopsidedLaw : Law Opening.emitter 2 0 :=
  .uniform Opening.emitter 2 0 [8, 9] ((World.opening Opening.rules).classes.size + 1) 1 2 1

theorem uniform_lopsided : lopsidedLaw.inForce lopsided where
  cls := by decide +kernel
  hashes := by rfl
  compares := by rfl
  number := ⟨_, rfl, rfl, rfl⟩
  equal := ⟨_, rfl, rfl, rfl⟩

/-- Two objects that are equal. A handler is subscribed to both of them, so twice to the one event
that they are, and taken back from both in either order. Plain events have a law of their own. -/
theorem off_commutes_and_undoes_lopsided :
    (∃ w w₁ w₂,
      lopsidedLaw.Reaches w ∧ (w.tableAt 0).map (fun c => c.handlers.length) = [2] ∧
      offAll (Host.ofDepth 5) Opening.emitter
        [(.object 8, lopsidedHandler), (.object 9, lopsidedHandler)] w = .ok [true, true] w₁ ∧
      offAll (Host.ofDepth 5) Opening.emitter
        [(.object 9, lopsidedHandler), (.object 8, lopsidedHandler)] w = .ok [true, true] w₂ ∧
      lopsidedLaw.SameState w₁ w₂ ∧
      lopsidedLaw.SameState w
        ((onThenOff (Host.ofDepth 5) Opening.emitter (.object 9) lopsidedHandler).after w)) ∧
    (Law.plain Opening.emitter 2 0 fun v => v.Plain lopsided).IsEquivalence ∧
    (Law.plain Opening.emitter 2 0 fun v => v.Plain lopsided).SameState lopsided
      ((onThenOff (Host.ofDepth 5) Opening.emitter (.event .rule) lopsidedHandler).after
          lopsided) := by
  have host : lopsidedLaw.hosts (Host.ofDepth 5) := ⟨4, rfl⟩
  have covers : lopsidedLaw.covers (.object 8) ∧ lopsidedLaw.covers (.object 9) :=
    ⟨⟨8, by simp, rfl⟩, ⟨9, by simp, rfl⟩⟩
  have opened : lopsidedLaw.Reaches lopsided := .opened uniform_lopsided isEmitter_lopsided rfl
  have callable : ∀ w : World, w.isCallable lopsidedHandler = true := fun _ => rfl
  have once := opened.subscribed host covers.1 (callable _)
  have twice := once.subscribed host covers.2 (callable _)
  have both := Law.off_commutes_and_undoes lopsidedLaw twice host
  obtain ⟨w₁, w₂, run₁, run₂, same⟩ := both.1 (Law.isEquivalence_uniform _ _ _ _ _)
    [(.object 8, lopsidedHandler), (.object 9, lopsidedHandler)] _ (List.Perm.swap _ _ _) (by
      intro q found
      rcases List.mem_cons.1 found with rfl | found
      · exact covers.1
      · exact List.mem_singleton.1 found ▸ covers.2)
  have plain : (Law.plain Opening.emitter 2 0 fun v => v.Plain lopsided).Reaches lopsided :=
    .opened (fun _ => id) isEmitter_lopsided rfl
  exact ⟨⟨_, w₁, w₂, twice, by decide +kernel, run₁, run₂, same,
      (both.2 (.object 9) lopsidedHandler covers.2 rfl).2⟩,
    Law.isEquivalence_plain _,
      ((Law.off_commutes_and_undoes _ plain trivial).2 (.event .rule) lopsidedHandler
      (Value.plain_event .rule lopsided) rfl).2⟩

theorem eq_singleton_of_areSame {l : List Value} {f : Ref}
    (same : Value.areSame l [.ref f] = true) :
    l = [.ref f] := by
  cases l with
  | nil => simp [Value.areSame] at same
  | cons v rest =>
    simp only [Value.areSame, Bool.and_eq_true] at same
    cases rest with
    | nil => rw [Value.eq_of_isSame_ref same.1]
    | cons x rest => simp [Value.areSame] at same

/-- Events under no law, or whose `==` is no equivalence. An object that equals two others is found
at the channel of either of them, so the order matters; and one whose `__hash__` raises from the
third time on can be subscribed to but not taken back from. -/
theorem off_depends_on_order : ∃ v w u₁ u₂ fault u₃,
    lopsided.IsEmitter Opening.emitter 2 0 ∧ lopsided.subscriptionsAt 0 = {} ∧
    (do let _ ← on (Host.ofDepth 5) (.object Opening.emitter) (.object 6) lopsidedHandler
        on (Host.ofDepth 5) (.object Opening.emitter) (.object 7) lopsidedHandler :
        Act Value) lopsided =
      .ok v w ∧
    offAll (Host.ofDepth 5) Opening.emitter
      [(.object 6, lopsidedHandler), (.object 8, lopsidedHandler)] w = .ok [true, true] u₁ ∧
    offAll (Host.ofDepth 5) Opening.emitter
      [(.object 8, lopsidedHandler), (.object 6, lopsidedHandler)] w = .ok [true, true] u₂ ∧
    u₁.tableAt 0 = [] ∧ (u₂.tableAt 0).events = [.object 7] ∧
    onThenOff (Host.ofDepth 5) Opening.emitter (.object 10) lopsidedHandler lopsided =
      .error fault u₃ ∧
    (u₃.tableAt 0).events = [.object 10] := by
  obtain ⟨v, w, run⟩ : ∃ v w,
      (do let _ ← on (Host.ofDepth 5) (.object Opening.emitter) (.object 6) lopsidedHandler
          on (Host.ofDepth 5) (.object Opening.emitter) (.object 7) lopsidedHandler :
            Act Value) lopsided =
        .ok v w := exists_of_succeeds (by decide +kernel)
  obtain ⟨fault, u₃, failed⟩ : ∃ fault u,
      onThenOff (Host.ofDepth 5) Opening.emitter (.object 10) lopsidedHandler lopsided =
          .error fault u :=
    exists_of_not_succeeds (by decide +kernel)
  have start := after_of_ok run
  have left := after_of_error failed
  refine ⟨v, w, _, _, fault, u₃, isEmitter_lopsided, rfl, run, value?_eq_some.1 ?_,
    value?_eq_some.1 ?_,
    List.isEmpty_iff.1 ?_, eq_singleton_of_areSame ?_, failed, eq_singleton_of_areSame ?_⟩
  all_goals subst start left
  all_goals decide +kernel

end Emitter

end EventTasks
