import EventTasks.Emitter

/-!
What subscribing, taking back and closing keep true of a subscription table: each key has one
channel at most, and no channel is empty.
-/
namespace EventTasks.Table

/-- Every key has one channel at most, and no channel is empty. -/
structure Sound (t : Table) : Prop where
  distinct : (t.map fun c => c.topic.key).Nodup
  filled : ∀ c ∈ t, c.handlers ≠ []

theorem sound_nil : Sound [] := ⟨List.nodup_nil, by simp⟩

theorem sound_cons {c : Channel} {t : Table} :
    Sound (c :: t) ↔ (c.topic.key ∉ t.map fun c => c.topic.key) ∧ c.handlers ≠ [] ∧ t.Sound := by
  constructor
  · intro ⟨distinct, filled⟩
    simp only [List.map_cons, List.nodup_cons] at distinct
    exact ⟨distinct.1, filled c (by simp), distinct.2, fun d hd => filled d (by simp [hd])⟩
  · intro ⟨new, full, distinct, filled⟩
    exact ⟨by simpa only [List.map_cons, List.nodup_cons] using ⟨new, distinct⟩, by
      simpa using ⟨full, filled⟩⟩

theorem keys_subscribe (t : Table) (topic : Topic) (h : Ref) (k : Key) :
    (k ∈ (t.subscribe topic h).map fun c => c.topic.key) ↔
      k = topic.key ∨ k ∈ t.map fun c => c.topic.key := by
  induction t with
  | nil => simp [subscribe]
  | cons c rest ih =>
    by_cases hc : c.topic.key = topic.key
    · simp [subscribe, hc]
    · simp only [subscribe, hc, if_false, List.map_cons, List.mem_cons, ih]
      exact or_left_comm

theorem sound_subscribe {t : Table} (topic : Topic) (h : Ref) (sound : t.Sound) :
    (t.subscribe topic h).Sound := by
  induction t with
  | nil => exact sound_cons.2 ⟨by simp, by simp, sound_nil⟩
  | cons c rest ih =>
    obtain ⟨new, full, tail⟩ := sound_cons.1 sound
    by_cases hc : c.topic.key = topic.key
    · simpa [subscribe, hc] using sound_cons.2 ⟨by simpa [hc] using new, by simp, tail⟩
    · rw [subscribe, if_neg hc]
      refine sound_cons.2 ⟨?_, full, ih tail⟩
      rw [keys_subscribe, not_or]
      exact ⟨hc, new⟩

theorem keys_withdraw (t : Table) (k : Key) (h : Ref) :
    ((t.withdraw k h).map fun c => c.topic.key) = t.map fun c => c.topic.key := by
  induction t with
  | nil => rfl
  | cons c rest ih => by_cases hc : c.topic.key = k <;> simp [withdraw, hc, ih]

theorem mem_withdraw {t : Table} {k : Key} {h : Ref} {c : Channel} (found : c ∈ t.withdraw k h)
    (other : c.topic.key ≠ k) : c ∈ t := by
  induction t with
  | nil => simp [withdraw] at found
  | cons d rest ih =>
    unfold withdraw at found
    split at found
    · rename_i same
      rcases List.mem_cons.1 found with rfl | found
      · exact absurd same other
      · exact List.mem_cons_of_mem _ found
    · rcases List.mem_cons.1 found with rfl | found
      · exact List.mem_cons_self
      · exact List.mem_cons_of_mem _ (ih found)

theorem handlers_eq_listeners {t : Table} {c : Channel}
    (distinct : (t.map fun c => c.topic.key).Nodup) (found : c ∈ t) :
    t.listeners c.topic.key = c.handlers := by
  induction t with
  | nil => simp at found
  | cons d rest ih =>
    simp only [List.map_cons, List.nodup_cons] at distinct
    rw [listeners_cons]
    rcases List.mem_cons.1 found with rfl | found
    · simp
    · rw [if_neg, ih distinct.2 found]
      intro same
      exact distinct.1 (same ▸ List.mem_map_of_mem found)

theorem sound_unsubscribe {t : Table} (k : Key) (h : Ref) (sound : t.Sound) :
    (t.unsubscribe k h).Sound := by
  unfold unsubscribe
  split
  · exact sound
  · have distinct : ((t.withdraw k h).map fun c => c.topic.key).Nodup := by
      rw [keys_withdraw]
      exact sound.distinct
    unfold settle
    split
    · refine ⟨(List.filter_sublist.map _).nodup distinct, fun c found => ?_⟩
      obtain ⟨inside, other⟩ := List.mem_filter.1 found
      exact sound.filled c (mem_withdraw inside (of_decide_eq_true other))
    · rename_i full
      refine ⟨distinct, fun c found empty => ?_⟩
      by_cases same : c.topic.key = k
      · subst same
        rw [handlers_eq_listeners distinct found, empty] at full
        exact full rfl
      · exact sound.filled c (mem_withdraw found same) empty

end EventTasks.Table
