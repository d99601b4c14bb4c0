import EventTasks.Proofs.Answering
import EventTasks.Proofs.Telling

/-!
Tables that mirror each other: channel by channel they have the same key and the same handlers,
while each channel shows the event object that it was opened with. Every operation on tables
respects this, since events count by their keys alone. Events that count as the same are described
in their own ways, but describing what refers to nothing never fails.
-/
namespace EventTasks

open Act

/-! Events that count as the same -/

namespace Value

variable {v v' : Value} {k k' : Key}

def Alike (v v' : Value) : Prop := ∀ k, v.key = .ok k ↔ v'.key = .ok k

theorem Alike.symm (alike : v.Alike v') : v'.Alike v := fun k => (alike k).symm

theorem Alike.cases (alike : v.Alike v') : (∃ k, v.key = .ok k ∧ v'.key = .ok k) ∨
    ∃ kind kind', v.key = .error kind ∧ v'.key = .error kind' := by
  cases key : v.key with
  | ok k => exact .inl ⟨k, rfl, (alike k).1 key⟩
  | error kind =>
    cases key' : v'.key with
    | ok k => simp [(alike k).2 key'] at key
    | error kind' => exact .inr ⟨kind, kind', rfl, rfl⟩

/-- Tuples count as the same if their members do, one by one. -/
theorem Alike.tuple {items items' : List Value} (alike : List.Forall₂ Alike items items')
    (stamp stamp' : Nat) : (Value.tuple stamp items).Alike (.tuple stamp' items') := by
  have along (e : Except String Key) (f : Key → Key) : (e.map f).toOption = e.toOption.map f := by
    cases e <;> rfl
  have known (v : Value) (k : Key) : v.key = .ok k ↔ v.key.toOption = some k := by
    cases v.key <;> simp [Except.toOption]
  have members : (keys items).toOption = (keys items').toOption := by
    induction alike with
    | nil => rfl
    | cons first rest ih =>
      rcases first.cases with ⟨k, key, key'⟩ | ⟨kind, kind', key, key'⟩
      · simp only [keys, key, key', along, ih]
      · simp only [keys, key, key', Except.toOption]
  intro k
  rw [known, known, key, key, along, along, members]

theorem isNothing_iff_key : v.isNothing = true ↔ v.key = .ok [.nothing] := by
  cases v with
  | tuple stamp items => cases found : keys items <;> simp [isNothing, key, found, Except.map]
  | float stamp x => cases x <;> simp [isNothing, key, Double.atom]
  | ref r =>
    have other : r.atom ≠ .ok .nothing := by
      unfold Ref.atom
      split <;> simp
    cases found : r.atom with
    | error kind => simp [isNothing, key, found, Except.map]
    | ok a =>
      have apart : a ≠ .nothing := fun same => other (same ▸ found)
      simp [isNothing, key, found, Except.map, apart]
  | _ => simp [isNothing, key]

theorem Alike.isNothing (alike : v.Alike v') : v.isNothing = v'.isNothing := by
  rw [Bool.eq_iff_iff, isNothing_iff_key, isNothing_iff_key]
  exact alike [.nothing]

/-! Events that refer to nothing -/

mutual

def isLiteral : Value → Bool
  | tuple _ items => areLiteral items
  | options _ runner _ => isLiteral runner
  | ref _ => false
  | _ => true

def areLiteral : List Value → Bool
  | [] => true
  | v :: rest => isLiteral v && areLiteral rest

end

end Value

namespace Host

open Value

theorem whileDescribed_run {m : Act String} {w : World} (v : Value) (hint : String)
    (inner : ∀ u : World, ∃ s, m u = .ok s u) : ∃ s, whileDescribed v hint m w = .ok s w := by
  rw [whileDescribed, bind_of_ok (get_run w)]
  split
  · exact ⟨hint, rfl⟩
  · obtain ⟨s, run⟩ := inner { w with described := v :: w.described }
    refine ⟨s, ?_⟩
    simp only [bind_run, set_run, attempt_eq, run, modify_run, List.drop_succ_cons, List.drop_zero]
    rfl

mutual

/-- `repr` of a value that refers to nothing changes nothing. -/
theorem describe_literal (h : Host) (v : Value) (literal : v.isLiteral = true) (w : World) :
    ∃ s, h.describe v w = .ok s w := by
  cases v with
  | tuple stamp items =>
    rw [describe]
    apply whileDescribed_run
    intro u
    obtain ⟨s, run⟩ := describeAll_literal h items literal u
    exact ⟨_, bind_of_ok run⟩
  | options stamp runner attach =>
    obtain ⟨s, run⟩ := describe_literal h runner literal w
    rw [describe]
    exact ⟨_, bind_of_ok run⟩
  | ref r => simp [isLiteral] at literal
  | _ => exact ⟨_, by rw [describe]; rfl⟩

theorem describeAll_literal (h : Host) (vs : List Value) (literal : areLiteral vs = true)
    (w : World) : ∃ s, h.describeAll vs w = .ok s w := by
  cases vs with
  | nil => exact ⟨_, by rw [describeAll]; rfl⟩
  | cons v rest =>
    simp only [areLiteral, Bool.and_eq_true] at literal
    obtain ⟨s, run⟩ := describe_literal h v literal.1 w
    obtain ⟨ss, runs⟩ := describeAll_literal h rest literal.2 w
    refine ⟨s :: ss, ?_⟩
    rw [describeAll, bind_of_ok run, bind_of_ok runs]
    rfl

end

end Host

/-! Tables -/

structure Channel.Mirrors (c c' : Channel) : Prop where
  key : c.topic.key = c'.topic.key
  handlers : c.handlers = c'.handlers

namespace Table

/-- Two tables with the same channels in the same order, up to the event objects that they show. -/
abbrev Mirrors (t t' : Table) : Prop := List.Forall₂ Channel.Mirrors t t'

def Shows (t : Table) (shown : Key → Value) : Prop := ∀ c ∈ t, c.topic.event = shown c.topic.key

variable {t t' : Table} {topic topic' : Topic} {k : Key} {shown : Key → Value}

theorem Mirrors.keys (mirrors : t.Mirrors t') :
    (t.map fun c => c.topic.key) = t'.map fun c => c.topic.key := by
  induction mirrors with
  | nil => rfl
  | cons first _ ih => rw [List.map_cons, List.map_cons, first.key, ih]

theorem Mirrors.isEmpty (mirrors : t.Mirrors t') : List.isEmpty t = List.isEmpty t' := by
  cases mirrors <;> rfl

theorem Mirrors.listeners (mirrors : t.Mirrors t') (k : Key) : t.listeners k = t'.listeners k := by
  induction mirrors with
  | nil => rfl
  | cons first _ ih => rw [listeners_cons, listeners_cons, first.key, first.handlers, ih]

theorem Mirrors.subscribe (mirrors : t.Mirrors t') (same : topic.key = topic'.key) (f : Ref) :
    (t.subscribe topic f).Mirrors (t'.subscribe topic' f) := by
  induction mirrors with
  | nil => exact .cons ⟨same, rfl⟩ .nil
  | @cons c c' t t' first rest ih =>
    unfold Table.subscribe
    rw [first.key, same]
    split
    · exact .cons ⟨first.key, by rw [first.handlers]⟩ rest
    · exact .cons first ih

theorem Mirrors.withdraw (mirrors : t.Mirrors t') (k : Key) (f : Ref) :
    (t.withdraw k f).Mirrors (t'.withdraw k f) := by
  induction mirrors with
  | nil => exact .nil
  | @cons c c' t t' first rest ih =>
    unfold Table.withdraw
    rw [first.key]
    split
    · exact .cons ⟨first.key, by rw [first.handlers]⟩ rest
    · exact .cons first ih

theorem Mirrors.close (mirrors : t.Mirrors t') (k : Key) : (t.close k).Mirrors (t'.close k) := by
  induction mirrors with
  | nil => exact .nil
  | @cons c c' t t' first rest ih =>
    unfold Table.close at ih ⊢
    by_cases here : c'.topic.key = k
    · have gone : c.topic.key = k := first.key.trans here
      rwa [List.filter_cons_of_neg (by simpa using gone),
        List.filter_cons_of_neg (by simpa using here)]
    · have stays : c.topic.key ≠ k := first.key ▸ here
      rw [List.filter_cons_of_pos (by simpa using stays),
        List.filter_cons_of_pos (by simpa using here)]
      exact .cons first ih

theorem Mirrors.unsubscribe (mirrors : t.Mirrors t') (k : Key) (f : Ref) :
    (t.unsubscribe k f).Mirrors (t'.unsubscribe k f) := by
  have withdrawn := mirrors.withdraw k f
  unfold Table.unsubscribe Table.settle
  rw [mirrors.listeners k, withdrawn.listeners k]
  split
  · exact mirrors
  · split
    · exact withdrawn.close k
    · exact withdrawn

/-- A channel that is opened shows the event that opened it; no other channel shows anything
else. -/
theorem Shows.subscribe (shows : t.Shows shown) (sound : t.Sound) (topic : Topic) (f : Ref) :
    (t.subscribe topic f).Shows fun l =>
      if topic.key = l ∧ t.listeners l = [] then topic.event else shown l := by
  have others : ∀ c ∈ t, (if topic.key = c.topic.key ∧ t.listeners c.topic.key = []
      then topic.event else shown c.topic.key) = shown c.topic.key := by
    intro c found
    apply if_neg
    intro both
    exact (mem_keys_iff sound.filled).1 (List.mem_map_of_mem found) both.2
  intro c found
  by_cases old : topic.key ∈ t.map fun c => c.topic.key
  · have inside : c.topic ∈ t.map Channel.topic :=
      topics_subscribe_of_mem topic f old ▸ List.mem_map_of_mem found
    obtain ⟨d, there, same⟩ := List.mem_map.1 inside
    rw [← same]
    exact (shows d there).trans (others d there).symm
  · rw [subscribe_of_not_mem f old] at found
    rcases List.mem_append.1 found with there | new
    · exact (shows c there).trans (others c there).symm
    · obtain rfl := List.mem_singleton.1 new
      exact (if_pos ⟨rfl, listeners_of_not_mem old⟩).symm

theorem Shows.unsubscribe (shows : t.Shows shown) (k : Key) (f : Ref) :
    (t.unsubscribe k f).Shows shown := by
  intro c found
  obtain ⟨d, there, same⟩ := mem_topics_unsubscribe found
  exact same ▸ shows d there

theorem Shows.close (shows : t.Shows shown) (k : Key) : (t.close k).Shows shown :=
  fun c found => shows c (List.mem_filter.1 found).1

theorem Shows.events (shows : t.Shows shown) :
    t.events = (t.map fun c => c.topic.key).map shown := by
  rw [Table.events, List.map_map]
  exact List.map_congr_left shows

end Table

end EventTasks
