import EventTasks.Proofs.Withdrawal

/-!
The ledger of installs. It lists what each install subscribed, the latest one first, and marks those
that were undone; undoing means the most recent install of a task, and no other. A table that is
changed as the ledger is hears, of every handler, as many copies as the installs not undone
subscribed; and if different tasks have different handlers, it hears these installs one after the
other.
-/
namespace EventTasks

open Table

structure Enrolment where
  task : Nat
  table : Nat
  pairs : List Subscription
  undone : Bool := false

/-- The installs that succeeded, the latest one first. -/
abbrev Ledger := List Enrolment

namespace Ledger

def latest? (i : Nat) (l : Ledger) : Option Enrolment := l.find? fun e => e.task = i

def undo (i : Nat) : Ledger → Ledger
  | [] => []
  | e :: rest => if e.task = i then { e with undone := true } :: rest else e :: undo i rest

/-- The installs at a table that were not undone, in order. -/
def standing (p : Nat) (l : Ledger) : List Enrolment :=
  (l.filter fun e => e.table = p ∧ e.undone = false).reverse

def subscribed (p : Nat) (l : Ledger) : List Subscription := (l.standing p).flatMap Enrolment.pairs

def Apart (l : Ledger) : Prop :=
  ∀ e ∈ l, ∀ e' ∈ l, e.task ≠ e'.task → ∀ q ∈ e.pairs, ∀ q' ∈ e'.pairs, q.2 ≠ q'.2

variable {l l' : Ledger} {i j p : Nat} {e : Enrolment}

theorem latest?_cons (e : Enrolment) (l : Ledger) :
    latest? i (e :: l) = if e.task = i then some e else l.latest? i := by
  by_cases h : e.task = i <;> simp [latest?, h]

theorem undo_cons (e : Enrolment) (l : Ledger) :
    undo i (e :: l) =
      if e.task = i then { e with undone := true } :: l else e :: l.undo i := rfl

theorem undone_of_latest?_undo (found : (l.undo i).latest? i = some e) : e.undone = true := by
  induction l with
  | nil => simp [undo, latest?] at found
  | cons first l ih =>
    rw [undo_cons] at found
    by_cases here : first.task = i
    · rw [if_pos here, latest?_cons, if_pos here] at found
      exact Option.some.inj found ▸ rfl
    · rw [if_neg here, latest?_cons, if_neg here] at found
      exact ih found

theorem latest?_undo_of_ne (other : j ≠ i) : (l.undo i).latest? j = l.latest? j := by
  induction l with
  | nil => rfl
  | cons first l ih =>
    rw [undo_cons, latest?_cons]
    by_cases here : first.task = i
    · have apart : first.task ≠ j := fun same => other (same ▸ here)
      rw [if_pos here, latest?_cons, if_neg apart, if_neg apart]
    · rw [if_neg here, latest?_cons, ih]

theorem standing_cons (e : Enrolment) (l : Ledger) (p : Nat) :
    standing p (e :: l) =
      if e.table = p ∧ e.undone = false then l.standing p ++ [e] else l.standing p := by
  by_cases h : e.table = p ∧ e.undone = false <;> simp [standing, h]

/-- Undoing an install takes it out of those that stand; what stands behind it is not the task's. -/
theorem standing_undo (found : l.latest? i = some e) (live : e.undone = false)
    (here : e.table = p) :
    ∃ before after, l.standing p = before ++ e :: after ∧
      (l.undo i).standing p = before ++ after ∧ ∀ b ∈ after, b ∈ l ∧ b.task ≠ i := by
  induction l with
  | nil => simp [latest?] at found
  | cons first l ih =>
    rw [latest?_cons] at found
    by_cases same : first.task = i
    · obtain rfl : first = e := by simpa [same] using found
      refine ⟨standing p l, [], ?_, ?_, by simp⟩
      · rw [standing_cons, if_pos ⟨here, live⟩]
      · rw [undo_cons, if_pos same, standing_cons, if_neg (by simp), List.append_nil]
    · obtain ⟨before, after, stands, undone, others⟩ := ih (by simpa [same] using found)
      rw [standing_cons, undo_cons, if_neg same, standing_cons, stands, undone]
      by_cases mine : first.table = p ∧ first.undone = false
      · refine ⟨before, after ++ [first], ?_, ?_, ?_⟩
        · rw [if_pos mine, List.append_assoc, List.cons_append]
        · rw [if_pos mine, List.append_assoc]
        · intro b hb
          rcases List.mem_append.1 hb with hb | hb
          · exact ⟨List.mem_cons_of_mem _ (others b hb).1, (others b hb).2⟩
          · obtain rfl := List.mem_singleton.1 hb
            exact ⟨by simp, same⟩
      · rw [if_neg mine, if_neg mine]
        exact ⟨before, after, rfl, rfl, fun b hb =>
          ⟨List.mem_cons_of_mem _ (others b hb).1, (others b hb).2⟩⟩

theorem standing_undo_elsewhere (found : l.latest? i = some e) (elsewhere : e.table ≠ p) :
    (l.undo i).standing p = l.standing p := by
  induction l with
  | nil => rfl
  | cons first l ih =>
    rw [latest?_cons] at found
    rw [undo_cons, standing_cons]
    by_cases same : first.task = i
    · obtain rfl : first = e := by simpa [same] using found
      rw [if_pos same, standing_cons, if_neg (by simp [elsewhere]), if_neg (by simp [elsewhere])]
    · rw [if_neg same, standing_cons, ih (by simpa [same] using found)]

theorem mem_of_mem_standing (found : e ∈ l.standing p) : e ∈ l ∧ e.undone = false := by
  obtain ⟨inside, stands⟩ := List.mem_filter.1 (List.mem_reverse.1 found)
  exact ⟨inside, (by simpa using stands : e.table = p ∧ e.undone = false).2⟩

theorem mem_of_latest? (found : l.latest? i = some e) : e ∈ l ∧ e.task = i :=
  ⟨List.mem_of_find?_eq_some found, by simpa using List.find?_some found⟩

/-! Tables that change as the ledger does -/

inductive Turn (p : Nat) : Ledger → Table → Ledger → Table → Prop where
  | entered {l : Ledger} {t : Table} {e : Enrolment} (live : e.undone = false) :
    Turn p l t (e :: l) (if e.table = p then t.subscribeAll e.pairs else t)
  | undone {l : Ledger} {t : Table} {i : Nat} {e : Enrolment} (latest : l.latest? i = some e)
    (live : e.undone = false) :
    Turn p l t (l.undo i) (if e.table = p then t.unsubscribeAll e.pairs else t)
  | aside {l : Ledger} {t : Table} : Turn p l t l t

/-- The table holds as many copies of every handler as the standing installs subscribed. -/
def Balances (p : Nat) (l : Ledger) (t : Table) : Prop :=
  ∀ k h, (t.listeners k).count h = (l.subscribed p).countP fun q => q.1.key = k ∧ q.2 = h

/-- The table lists the standing installs one after the other. -/
def Routes (p : Nat) (l : Ledger) (t : Table) : Prop :=
  ∀ k, t.listeners k = (l.standing p).flatMap fun e => handlersFor e.pairs k

variable {t t' : Table}

theorem count_handlersFor (pairs : List Subscription) (k : Key) (h : Ref) :
    (handlersFor pairs k).count h = pairs.countP fun q => q.1.key = k ∧ q.2 = h := by
  rw [handlersFor, List.count, List.countP_map, List.countP_filter]
  refine List.countP_congr fun q _ => ?_
  simp [and_comm]

theorem Balances.turn (balances : Balances p l t) (turn : Turn p l t l' t') : Balances p l' t' := by
  intro k h
  cases turn with
  | aside => exact balances k h
  | @entered e live =>
    rw [subscribed, standing_cons]
    by_cases here : e.table = p
    · rw [if_pos here, if_pos ⟨here, live⟩, listeners_subscribeAll, List.count_append, balances k h,
        count_handlersFor, subscribed, List.flatMap_append, List.countP_append, List.flatMap_cons,
        List.flatMap_nil, List.append_nil]
    · rw [if_neg here, if_neg (by simp [here])]
      exact balances k h
  | @undone i e latest live =>
    by_cases here : e.table = p
    · obtain ⟨before, after, stands, undone, -⟩ := standing_undo latest live here
      have now := balances k h
      rw [subscribed, stands, List.flatMap_append, List.flatMap_cons, List.countP_append,
        List.countP_append] at now
      rw [if_pos here, listeners_unsubscribeAll, count_removeAll, count_handlersFor,
        now, subscribed,
        undone, List.flatMap_append, List.countP_append]
      omega
    · rw [if_neg here, subscribed, standing_undo_elsewhere latest here]
      exact balances k h

theorem Routes.turn (routes : Routes p l t) (apart : l.Apart) (turn : Turn p l t l' t') :
    Routes p l' t' := by
  intro k
  cases turn with
  | aside => exact routes k
  | @entered e live =>
    rw [standing_cons]
    by_cases here : e.table = p
    · rw [if_pos here, if_pos ⟨here, live⟩, listeners_subscribeAll, routes k]
      simp
    · rw [if_neg here, if_neg (by simp [here])]
      exact routes k
  | @undone i e latest live =>
    by_cases here : e.table = p
    · obtain ⟨before, after, stands, undone, others⟩ := standing_undo latest live here
      obtain ⟨inside, same⟩ := mem_of_latest? latest
      -- what stands behind the install has no handler of its task
      have free : ∀ h ∈ handlersFor e.pairs k, h ∉ after.flatMap fun b =>
          handlersFor b.pairs k := by
        intro h found again
        obtain ⟨topic, subscribed, -⟩ := mem_handlersFor.1 found
        obtain ⟨b, hb, found⟩ := List.mem_flatMap.1 again
        obtain ⟨topic', subscribed', -⟩ := mem_handlersFor.1 found
        obtain ⟨there, other⟩ := others b hb
        exact apart e inside b there (same ▸ Ne.symm other) _ subscribed _ subscribed' rfl
      rw [if_pos here, listeners_unsubscribeAll, routes k, stands, undone, List.flatMap_append,
        List.flatMap_cons, List.flatMap_append, ← List.append_assoc,
        removeAll_append_of_disjoint _ free, removeAll_append_self]
    · rw [if_neg here, standing_undo_elsewhere latest here]
      exact routes k

theorem mem_undo (found : e ∈ l) :
    ∃ e' ∈ l.undo i, e'.task = e.task ∧ e'.pairs = e.pairs := by
  induction l with
  | nil => simp at found
  | cons first l ih =>
    rw [undo_cons]
    by_cases same : first.task = i
    · rw [if_pos same]
      rcases List.mem_cons.1 found with rfl | found
      · exact ⟨{ e with undone := true }, by simp, rfl, rfl⟩
      · exact ⟨e, by simp [found], rfl, rfl⟩
    · rw [if_neg same]
      rcases List.mem_cons.1 found with rfl | found
      · exact ⟨_, by simp, rfl, rfl⟩
      · obtain ⟨e', inside, task, pairs⟩ := ih found
        exact ⟨e', by simp [inside], task, pairs⟩

theorem Apart.before (apart : l'.Apart) (turn : Turn p l t l' t') : l.Apart := by
  cases turn with
  | aside => exact apart
  | entered live => exact fun e he e' he' => apart e (by simp [he]) e' (by simp [he'])
  | undone latest live =>
    intro e he e' he' other q hq q' hq'
    obtain ⟨u, hu, task, pairs⟩ := mem_undo he
    obtain ⟨u', hu', task', pairs'⟩ := mem_undo he'
    exact apart u hu u' hu' (by rwa [task, task']) q (pairs ▸ hq) q' (pairs' ▸ hq')

/-- The handlers of a task all of whose installs were undone are not heard. -/
theorem Routes.silent (routes : Routes p l t) (apart : l.Apart)
    (undone : ∀ e ∈ l, e.task = i → e.undone = true) (found : e ∈ l) (task : e.task = i)
    {q : Subscription} (subscribed : q ∈ e.pairs) (k : Key) : q.2 ∉ t.listeners k := by
  rw [routes k]
  intro heard
  obtain ⟨b, stands, again⟩ := List.mem_flatMap.1 heard
  obtain ⟨topic, subscribed', -⟩ := mem_handlersFor.1 again
  obtain ⟨inside, live⟩ := mem_of_mem_standing stands
  have other : e.task ≠ b.task := by
    intro same
    rw [undone b inside (same ▸ task)] at live
    simp at live
  exact apart e found b inside other _ subscribed _ subscribed' rfl

end Ledger

end EventTasks
