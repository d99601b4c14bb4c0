import EventTasks.Proofs.Company
import EventTasks.Proofs.Creating
import EventTasks.Proofs.Exposing
import EventTasks.Proofs.Interference

/-!
What a task can come to. It is made, of whatever is given for its handlers; its handlers are set,
cleared and deleted, and its registry is replaced; it is installed and destroyed, and others go
about their business meanwhile. Through all of that nothing written stands in its way, its table
keeps the handlers that were bound, and what it has of its own under the name of a handler is what
is read there.
-/
namespace EventTasks

open Act

namespace Task

variable {h : Host} {s : Scope} {w w' u : World} {i d r e p q k m : Nat} {reg reg' : Ref}
  {l l' : Listing} {options name : Value} {n text : String} {pairs : List (Value × Ref)}

/-! An install on an emitter -/

structure Hosts (k : Nat) (w : World) (d : Nat) (options : Value) (r e p : Nat) : Prop where
  decodes : ∃ stamp attach v, Decodes k w options stamp (.object r) attach v ∧ Untouched w.later v
  serves : w.Serves r e p
  distinct : e ≠ d
  consultable : Consultable w d p r

theorem Hosts.accepted (hosts : Hosts k w d options r e p) (standard : w.Standard) :
    ∃ stamp attach v v', Decodes k w options stamp (.object r) attach v ∧ Untouched w.later v ∧
      Runner.accepts (Host.ofDepth (k + 1)) (.object r) v = .ok true v' ∧ Untouched v v' := by
  obtain ⟨stamp, attach, v, decodes, same⟩ := hosts.decodes
  have kept := ((Untouched.later.trans same : Untouched w v) e).toKeeps
  obtain ⟨v', accepted, same'⟩ := Runner.accepts_emitter (h := Host.ofDepth (k + 1))
    (kept.standard standard) (kept.isEmitter (Scope.spares_nothing e e) hosts.serves.emitter)
  exact ⟨stamp, attach, v, v', decodes, same, accepted, same'⟩

theorem Hosts.asks (hosts : Hosts k w d options r e p) (standard : w.Standard) :
    Asks k w options := by
  obtain ⟨stamp, attach, v, v', decodes, same, accepted, same'⟩ := hosts.accepted standard
  refine ⟨by rwa [after_of_ok
    decodes], fun _ _ _ _ decodes' _ => ?_, fun _ _ _ _ u' decodes' _ refused => ?_⟩
  · obtain ⟨rfl, rfl, rfl, rfl⟩ := decodes.unique decodes'
    rwa [after_of_ok accepted]
  · obtain ⟨rfl, rfl, rfl, rfl⟩ := decodes.unique decodes'
    cases accepted.symm.trans refused

/-- On such an emitter `install` rejects a registry without a handler for some entry, and nothing
else. -/
theorem Hosts.rejects_iff (hosts : Hosts k w d options r e p) (standard : w.Standard) {f : Fault} :
    Rejects k w i options name text l f ↔
      Lacks (Host.ofDepth k) w i name text l.entries f := by
  obtain ⟨stamp, attach, v, v', decodes, -, accepted, -⟩ := hosts.accepted standard
  refine ⟨fun rejects => ?_, fun lacks => .lacking decodes rfl accepted lacks⟩
  cases rejects with
  | undecoded failed => cases Eq.trans (Eq.symm decodes) failed
  | noRunner decoded => cases (decodes.unique decoded).2.1
  | refused decoded _ refuses =>
    obtain ⟨rfl, rfl, rfl, rfl⟩ := decodes.unique decoded
    cases refuses with
    | unlike asked | unasked asked | untold asked => cases accepted.symm.trans asked
  | lacking _ _ _ lacks => exact lacks

structure HandsOver (k : Nat) (w u : World) (i d : Nat) (l : Listing) (r e p : Nat)
    (pairs : List (Value × Ref)) : Prop where
  taken : List.Forall₂ (Takes (Host.ofDepth k) w i) l.entries pairs
  keeps : Keeps (.books d p) w u
  engaged : Engaged u i d r e p
  table : u.tableAt p = (w.tableAt p).subscribeAll (handed pairs)

/-- An install on an emitter that is not rejected ends at an identifier that cannot be looked up,
and the books of pairs are as before; or the task keeps the pairs in its books and gains log
methods, and nothing but invalid settings can end that. -/
theorem Hosts.installs (hosts : Hosts (k + 1) w d options r e p)
    (internals : DefaultInternals w i d reg l)
    (readOnly : ChecksReadOnly (k + 1) w i d reg l options name text)
    (former : ∃ v, w.Shows i runnerField v)
    (passes : ∀ f, ¬ Rejects (k + 1) w i options name text l f) :
    ∃ u pairs, HandsOver (k + 1) w u i d l r e p pairs ∧
      match refused pairs with
      | some kind =>
          install (Host.ofDepth (k + 2)) (.object i) options w = .error (.unhashable kind) u ∧
          ∀ v, w.Shows i subscriptionsField v → u.Shows i subscriptionsField v
      | none => Installed u i d r e p pairs ∧ ∃ u', Gains u i d u' ∧
          (install (Host.ofDepth (k + 2)) (.object i) options w = .ok .nothing u' ∨
            ¬ (∃ settings, w.around.Gives settings) ∧ ∃ report,
              install (Host.ofDepth (k + 2)) (.object i) options w =
                  .error (.invalid report) u') := by
  obtain ⟨stamp, attach, v, decodes, -⟩ := hosts.decodes
  obtain ⟨stamp', runner, attach', place, items, pairs, w₁, same, passed, ⟨v', decodes'⟩, -, list,
    arePairs, taken⟩ := taken_of_not_rejects readOnly passes
  obtain ⟨rfl, rfl, rfl, rfl⟩ := decodes.unique decodes'
  have kept : Keeps (.nothing d) w w₁ := (same d).toKeeps
  have internals₁ : DefaultInternals w₁ i d reg l :=
    internals.of_keeps kept internals.apart fun _ _ => .inr id
  have serves₁ := hosts.serves.of_keeps kept (Scope.spares_nothing d e) id
  have each {q : Value × Ref} (hq : q ∈ pairs) :
      q.1.Plain w₁ ∧ w₁.isCallable (.ref q.2) = true := by
    obtain ⟨entry, inside, ⟨event, callable⟩, -⟩ := exists_of_forall₂ taken hq
    rw [event, kept.isCallable]
    exact ⟨kept.plain.2 (internals.plain entry inside), callable⟩
  obtain ⟨w₂, books, engaged, table, outcome⟩ := engage_decides internals₁ serves₁ hosts.distinct
    (fun depth u n since => hosts.consultable depth u n (same.keeps.trans since))
    (former.imp fun _ => kept.shows internals.holds (.inr id) (by decide)) list arePairs
    (fun q hq => (each hq).1) (fun q hq => (each hq).2) stamp attach (k + 1)
  have table₁ : w₁.tableAt p = w.tableAt p :=
    congrArg Subscriptions.table (kept.subscriptionsAt hosts.serves.emitter.inside id)
  refine ⟨w₂, pairs, ⟨taken, same.keeps.trans books, engaged, table₁ ▸ table⟩, ?_⟩
  rw [install_of_checked passed]
  cases refusal : refused pairs with
  | some kind =>
    rw [refusal] at outcome
    exact ⟨outcome.1, fun v shows =>
      outcome.2 v (kept.shows internals.holds (.inr id) (by decide) shows)⟩
  | none =>
    rw [refusal] at outcome
    obtain ⟨installed, u, gains, run | ⟨f, run, bad, invalid⟩⟩ := outcome
    · exact ⟨installed, u, gains, .inl run⟩
    · obtain ⟨report, rfl⟩ := invalid (by omega)
      refine ⟨installed, u, gains, .inr ⟨fun given => bad ⟨by omega, ?_⟩, report, run⟩⟩
      rwa [(same d).around]

/-! The task -/

/-- A task that has bound its handlers, and what it has of its own under the name of a handler is
what is read there. -/
structure Viewable (w : World) (i d : Nat) (reg : Ref) (l : Listing) : Prop extends
    DefaultInternals w i d reg l where
  bound : ∃ q, Bound w i d q
  own : ∀ n x, Naming.isHandlerName n = true → (w.attributesOf i).text? n = some x → w.Shows i n x

structure Books (w : World) (i d : Nat) : Prop where
  runner : w.Shows i runnerField .nothing ∨
    ∃ r e p, e ≠ d ∧ w.Shows i runnerField (.object r) ∧ w.Serves r e p
  pairs : ∃ place items pairs, w.Shows i subscriptionsField (.ref (.list place)) ∧
    w.lists[place]? = some items ∧ ArePairs items pairs ∧ (∀ q ∈ pairs, q.1.Plain w) ∧
    refused pairs = none

theorem Bound.of_keeps (bound : Bound w i d q) (holds : w.Holds i d) (kept : Keeps s w w')
    (place : s.place = d) (outside : ¬ s.names handlersField) : Bound w' i d q := by
  have same : w'.dictAt q = w.dictAt q := kept.dictAt bound.inside (place ▸ bound.apart)
  exact {
    shows := kept.shows holds (.inr outside) (by decide) bound.shows
    apart := bound.apart
    inside := Nat.lt_of_lt_of_le bound.inside kept.dictsSize
    textual := same ▸ bound.textual
    handlers := same ▸ bound.handlers }

/-- What leaves a task its default internals, its table alone, and what it changes of its handlers
to be read, leaves the task viewable. -/
theorem Viewable.of_internals (viewable : Viewable w i d reg l) (kept : Keeps s w w')
    (internals : DefaultInternals w' i d reg' l') (place : s.place = d)
    (outside : ¬ s.names handlersField)
    (own : ∀ n x, Naming.isHandlerName n = true → s.names n →
      (w'.attributesOf i).text? n = some x → w'.Shows i n x) : Viewable w' i d reg' l' where
  toDefaultInternals := internals
  bound := viewable.bound.imp fun _ bound => bound.of_keeps viewable.holds kept place outside
  own n x handler found := by
    by_cases inside : s.names n
    · exact own n x handler inside found
    · rw [kept.own viewable.holds (.inr inside)] at found
      exact kept.shows viewable.holds (.inr inside) (Naming.isHandlerName_ne handler (by decide))
        (viewable.own n x handler found)

/-- In particular what changes none of the attributes that an install reads, and nothing of the
handlers. -/
theorem Viewable.of_keeps (viewable : Viewable w i d reg l) (kept : Keeps s w w')
    (place : s.place = d) (outside : ∀ n, s.names n → n ∉ handlersField :: essentials)
    (other : ∀ n, s.names n → Naming.isHandlerName n = false) : Viewable w' i d reg l := by
  have internals : DefaultInternals w' i d reg l :=
    viewable.toDefaultInternals.of_keeps kept (place ▸ viewable.apart)
    fun n hn => .inr fun inside => outside n inside (List.mem_cons_of_mem _ hn)
  refine viewable.of_internals kept internals place (fun inside => outside _ inside (by simp))
    fun n x handler inside => ?_
  simp [other n inside] at handler

theorem Books.of_keeps (books : Books w i d) (holds : w.Holds i d) (kept : Keeps s w w')
    (outside : ∀ n ∈ [runnerField, subscriptionsField], ¬ s.names n)
    (serves : ∀ r e p, e ≠ d → w.Serves r e p → w'.Serves r e p) : Books w' i d where
  runner := by
    rcases books.runner with idle | ⟨r, e, p, apart, shows, order⟩
    · exact .inl (kept.shows holds (.inr (outside _ (by simp))) (by decide) idle)
    · exact .inr ⟨r, e, p, apart, kept.shows holds (.inr (outside _ (by simp))) (by decide) shows,
        serves r e p apart order⟩
  pairs := by
    obtain ⟨place, items, pairs, shows, list, arePairs, plain, keyed⟩ := books.pairs
    exact ⟨place, items, pairs, kept.shows holds (.inr (outside _ (by simp))) (by decide) shows,
      kept.lists _ _ id list, arePairs, fun q hq => kept.plain.2 (plain q hq), keyed⟩

theorem serves_of_keeps (kept : Keeps s w w') (place : s.place = d) (tables : ∀ p, ¬ s.tables p)
    (r e p : Nat) (apart : e ≠ d) (serves : w.Serves r e p) : w'.Serves r e p :=
  serves.of_keeps kept (.inl (place ▸ apart)) (tables p)

theorem Idle.books (idle : Idle w i) : Books w i d := by
  obtain ⟨place, shows, list⟩ := idle.kept
  exact ⟨.inl idle.runner, place, [], [], shows, list, .nil, by simp, rfl⟩

theorem Installed.books (installed : Installed w i d r e p pairs) (apart : e ≠ d) :
    Books w i d := by
  obtain ⟨place, items, shows, list, arePairs⟩ := installed.kept
  exact ⟨.inr ⟨r, e, p, apart, installed.runner, installed.toServes⟩, place, items,
    pairs, shows, list,
    arePairs, installed.plain, installed.keyed⟩

theorem Books.former (books : Books w i d) : ∃ v, w.Shows i runnerField v := by
  rcases books.runner with idle | ⟨r, -, -, -, shows, -⟩
  · exact ⟨_, idle⟩
  · exact ⟨_, shows⟩

theorem Books.installed (books : Books w i d) (internals : DefaultInternals w i d reg l)
    (shows : w.Shows i runnerField (.object r)) (serves : w.Serves r e p) :
    ∃ pairs, Installed w i d r e p pairs := by
  obtain ⟨place, items, pairs, shows', list, arePairs, plain, keyed⟩ := books.pairs
  exact ⟨pairs, { serves with
    usual := internals.usual
    holds := internals.holds
    settable := internals.settable
    runner := shows
    kept := ⟨place, items, shows', list, arePairs⟩
    plain := plain
    keyed := keyed }⟩

/-! The steps -/

theorem Made.viewable {given : List (String × Value)} (made : Made k w w' i d name given)
    (isNew : NewObject k w i d) (outfit : Outfit w i d reg l) (simple : name.IsSimple)
    (named : name = .nothing → IsNamed w i) : Viewable w' i d reg l ∧ Books w' i d := by
  obtain ⟨q, shows, apart, inside, textual, table⟩ := made.table
  refine ⟨{ made.internals isNew outfit simple named with
    bound := ⟨q, shows, apart, inside, textual, fun n found => ?_⟩
    own := made.shows }, (made.idle isNew).books⟩
  have there := Dictionary.mem_textNames.1 found
  rw [table n] at there
  by_contra other
  simp [other] at there

theorem Viewable.of_handler (viewable : Viewable w i d reg l) (books : Books w i d)
    (handler : Naming.isHandlerName n = true) (settable : w.Settable i n)
    (kept : Keeps ⟨d, (· = n), fun _ => False⟩ w w') : Viewable w' i d reg l ∧ Books w' i d := by
  obtain ⟨essential, book⟩ := Company.not_essential handler
  have internals : DefaultInternals w' i d reg l :=
    viewable.toDefaultInternals.of_keeps kept viewable.apart
    fun m hm => .inr fun same => essential (same ▸ hm)
  refine ⟨viewable.of_internals kept internals rfl
      (fun same => Naming.isHandlerName_ne handler (by decide) same.symm)
        fun m x _ same found => ?_,
    books.of_keeps viewable.holds kept (fun m hm same => book (same ▸ hm))
      (serves_of_keeps kept rfl fun _ => id)⟩
  obtain rfl : m = n := same
  exact (kept.settable (Naming.isHandlerName_ne handler (by decide)) settable).shows found

theorem Viewable.assigned (viewable : Viewable w i d reg l) (books : Books w i d)
    (handler : Naming.isHandlerName n = true) (settable : w.Settable i n) (v : Value) :
    Viewable ((h.assign (.object i) n v).after w) i d reg l ∧
      Books ((h.assign (.object i) n v).after w) i d := by
  rw [after_of_ok (Host.assign_settable viewable.holds settable)]
  exact viewable.of_handler books handler settable (.putText rfl v)

theorem Viewable.deleted (viewable : Viewable w i d reg l) (books : Books w i d)
    (handler : Naming.isHandlerName n = true) (removable : w.Removable i n) :
    Viewable ((h.remove (.object i) n).after w) i d reg l ∧
      Books ((h.remove (.object i) n).after w) i d := by
  rcases Host.remove_removable (h := h) viewable.holds removable with run | ⟨f, run⟩
  · rw [after_of_ok run]
    exact viewable.of_handler books handler ⟨viewable.sets, removable.above⟩ (.dropText rfl)
  · rw [after_of_error run]
    exact ⟨viewable, books⟩

theorem Viewable.replaced (viewable : Viewable w i d reg l) (books : Books w i d)
    (settable : w.Settable i "events") (registers : Registers w d reg' l') :
    Viewable ((h.assign (.object i) "events" (.ref reg')).after w) i d reg' l' ∧
      Books ((h.assign (.object i) "events" (.ref reg')).after w) i d := by
  have kept : Keeps ⟨d, (· = "events"), fun _ => False⟩ w (w.putText d "events" (.ref reg')) :=
    .putText rfl _
  rw [after_of_ok (Host.assign_settable viewable.holds settable)]
  obtain ⟨name, simple, shows⟩ := viewable.named
  have internals : DefaultInternals (w.putText d "events" (.ref reg')) i d reg' l' :=
    viewable.toDefaultInternals.of_keeps_register kept (fun _ _ _ other => .inr other)
      ⟨name, simple,
        kept.shows viewable.holds (.inr (show "name" ≠ "events" by decide)) (by decide) shows⟩
      (World.shows_putText viewable.holds settable _) (registers.of_keeps kept registers.apart)
  refine ⟨viewable.of_internals kept internals rfl (show handlersField ≠ "events" by decide)
      fun m x handler same => ?_, books.of_keeps viewable.holds kept
        (show ∀ n ∈ [runnerField, subscriptionsField], n ≠ "events" by decide)
        (serves_of_keeps kept rfl fun _ => id)⟩
  exact absurd same (Naming.isHandlerName_ne handler (by decide))

theorem Viewable.of_books (viewable : Viewable w i d reg l) (kept : Keeps (.books d p) w w') :
    Viewable w' i d reg l := by
  refine viewable.of_keeps kept rfl (fun n inside found => ?_) fun n inside => ?_
  · have outside : ∀ m ∈ handlersField :: essentials, m ≠ runnerField ∧ m ≠ subscriptionsField := by
      decide
    exact inside.elim (outside n found).1 (outside n found).2
  · rcases inside with rfl | rfl <;> decide

theorem Viewable.gaining (viewable : Viewable w i d reg l) (gains : Gains w i d u) :
    Viewable u i d reg l := by
  obtain ⟨q, bound⟩ := viewable.bound
  refine viewable.of_internals gains.toKeeps (viewable.toDefaultInternals.gaining gains) rfl
    ((outside_fresh bound.shows).resolve_left (· rfl)) fun n x handler fresh found =>
      .inl ⟨found, ?_⟩
  intro e entry
  rw [gains.toKeeps.objectClassOf, gains.toKeeps.definition? fresh.1, fresh.2.2] at entry
  simp at entry

/-- An install, however it ends: rejected it has changed nothing, and otherwise the runner is in
order. -/
theorem Viewable.installed (viewable : Viewable w i d reg l) (books : Books w i d)
    (readOnly : ChecksReadOnly (k + 1) w i d reg l options name text)
    (hosts : (∀ f, ¬ Rejects (k + 1) w i options name text l f) →
      ∃ r e p, Hosts (k + 1) w d options r e p) :
    Viewable ((install (Host.ofDepth (k + 2)) (.object i) options).after w) i d reg l ∧
      Books ((install (Host.ofDepth (k + 2)) (.object i) options).after w) i d := by
  by_cases rejected : ∃ f, Rejects (k + 1) w i options name text l f
  · obtain ⟨f, rejects⟩ := rejected
    obtain ⟨w', failed, same⟩ := rejects.install_fails readOnly
    have kept : Keeps (.nothing d) w w' := (same d).toKeeps
    rw [after_of_error failed]
    exact ⟨viewable.of_keeps kept rfl (fun _ => False.elim) fun _ => False.elim,
      books.of_keeps viewable.holds kept (fun _ _ => id) (serves_of_keeps kept rfl fun _ => id)⟩
  · obtain ⟨r, e, p, hosts⟩ := hosts fun f rejects => rejected ⟨f, rejects⟩
    obtain ⟨u, pairs, handsOver, outcome⟩ :=
      hosts.installs viewable.toDefaultInternals readOnly books.former
      fun f rejects => rejected ⟨f, rejects⟩
    have viewable' : Viewable u i d reg l := viewable.of_books handsOver.keeps
    cases refusal : refused pairs with
    | some kind =>
      rw [refusal] at outcome
      rw [after_of_error outcome.1]
      obtain ⟨place, items, pairs', shows, list, arePairs, plain, keyed⟩ := books.pairs
      exact ⟨viewable', .inr ⟨r, e, p, hosts.distinct, handsOver.engaged.runner,
        handsOver.engaged.toServes⟩, place, items, pairs', outcome.2 _ shows,
        handsOver.keeps.lists _ _ id list, arePairs,
          fun q hq => handsOver.keeps.plain.2 (plain q hq),
        keyed⟩
    | none =>
      rw [refusal] at outcome
      obtain ⟨installed, u', gains, run⟩ := outcome
      have after : (install (Host.ofDepth (k + 2)) (.object i) options).after w = u' := by
        rcases run with run | ⟨-, report, run⟩
        · exact after_of_ok run
        · exact after_of_error run
      rw [after]
      exact ⟨viewable'.gaining gains, (installed.gaining hosts.distinct gains).books hosts.distinct⟩

theorem Viewable.destroyed (viewable : Viewable w i d reg l) (books : Books w i d) (k : Nat) :
    Viewable ((destroy (Host.ofDepth (k + 1)) (.object i)).after w) i d reg l ∧
      Books ((destroy (Host.ofDepth (k + 1)) (.object i)).after w) i d := by
  rcases books.runner with idle | ⟨r, e, p, apart, shows, serves⟩
  · obtain ⟨_, _, failed⟩ :=
      Company.destroy_idle (h := Host.ofDepth (k + 1)) viewable.usual viewable.named idle
    rw [after_of_error failed]
    exact ⟨viewable, books⟩
  · obtain ⟨pairs, installed⟩ := books.installed viewable.toDefaultInternals shows serves
    obtain ⟨w', run, kept, idle, -⟩ := destroy_ok installed apart viewable.named k
    rw [after_of_ok run]
    exact ⟨viewable.of_books kept, idle.books⟩

/-! Careers -/

/-- How the object at `i` became a task with this registry: it was made, handlers were set and
deleted, its `events` were replaced, it was installed and destroyed, and other tasks and emitters
did anything meanwhile. -/
inductive Career (i d : Nat) : World → Ref → Listing → Prop where
  | made {w w' : World} {reg : Ref} {l : Listing} {name handlers : Value}
    {entries : List (Value × Value)} {shown key : Value → String} {k : Nat}
      (isNew : NewObject k w i d)
    (outfit : Outfit w i d reg l) (given : Given w d handlers entries) (simple : name.IsSimple)
    (named : name = .nothing → IsNamed w i)
    (legible : ∀ e ∈ entries, Legible (Host.ofDepth (k + 3)) d w e.1 (shown e.1) (key e.1))
    (settable : ∀ e ∈ entries, w.Settable i (namedFor key e).1)
    (run : create (Host.ofDepth (k + 3)) (.object i) name handlers w = .ok .nothing w') :
    Career i d w' reg l
  | assigned {w : World} {reg : Ref} {l : Listing} {h : Host} {n : String} {v : Value}
    (career : Career i d w reg l) (handler : Naming.isHandlerName n = true)
    (settable : w.Settable i n) : Career i d ((h.assign (.object i) n v).after w) reg l
  | deleted {w : World} {reg : Ref} {l : Listing} {h : Host} {n : String}
    (career : Career i d w reg l) (handler : Naming.isHandlerName n = true)
    (removable : w.Removable i n) : Career i d ((h.remove (.object i) n).after w) reg l
  | replaced {w : World} {reg reg' : Ref} {l l' : Listing} {h : Host} (career : Career i d w reg l)
    (settable : w.Settable i "events") (registers : Registers w d reg' l') :
    Career i d ((h.assign (.object i) "events" (.ref reg')).after w) reg' l'
  | installed {w : World} {reg : Ref} {l : Listing} {options name : Value} {text : String} {k : Nat}
    (career : Career i d w reg l) (readOnly : ChecksReadOnly (k + 1) w i d reg l options name text)
    (hosts : (∀ f, ¬ Rejects (k + 1) w i options name text l f) →
      ∃ r e p, Hosts (k + 1) w d options r e p) :
    Career i d ((install (Host.ofDepth (k + 2)) (.object i) options).after w) reg l
  | destroyed {w : World} {reg : Ref} {l : Listing} (career : Career i d w reg l) (k : Nat) :
    Career i d ((destroy (Host.ofDepth (k + 1)) (.object i)).after w) reg l
  | aside {w w' : World} {reg : Ref} {l : Listing} {tables : Nat → Prop}
    (career : Career i d w reg l)
    (kept : Keeps ⟨d, fun _ => False, tables⟩ w w')
    (serves : ∀ r e p, e ≠ d → w.Serves r e p → w'.Serves r e p) : Career i d w' reg l

/-- Through all of its career a task can be viewed, and its pairs are in order. -/
theorem Career.viewable (career : Career i d w reg l) : Viewable w i d reg l ∧ Books w i d := by
  induction career with
  | made isNew outfit given simple named legible settable run =>
    exact (made_of_create isNew given simple named legible settable run).viewable
      isNew outfit simple
      named
  | assigned _ handler settable now => exact now.1.assigned now.2 handler settable _
  | deleted _ handler removable now => exact now.1.deleted now.2 handler removable
  | replaced _ settable registers now => exact now.1.replaced now.2 settable registers
  | installed _ readOnly hosts now => exact now.1.installed now.2 readOnly hosts
  | destroyed _ k now => exact now.1.destroyed now.2 k
  | aside _ kept serves now =>
    exact ⟨now.1.of_keeps kept rfl (fun _ => False.elim) fun _ => False.elim,
      now.2.of_keeps now.1.holds kept (fun _ _ => id) serves⟩

end Task

end EventTasks
