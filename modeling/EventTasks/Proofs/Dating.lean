import EventTasks.Proofs.Subscribing

/-!
The channels of a table in the order of time: each is dated by the subscription that opened it.
Subscribing to an event without a channel puts a new one last; taking back and closing leave the
others where they are.
-/
namespace EventTasks

namespace Table

variable {t t' : Table} {opened : Key → Nat} {now later : Nat} {k : Key} {f : Ref}

structure Dated (opened : Key → Nat) (now : Nat) (t : Table) : Prop where
  past : ∀ k ∈ t.map fun c => c.topic.key, opened k < now
  sorted : (t.map fun c => c.topic.key).Pairwise fun k l => opened k < opened l

theorem Dated.of_sublist (dated : t.Dated opened now)
    (fewer : (t'.map fun c => c.topic.key).Sublist (t.map fun c => c.topic.key))
    (passes : now ≤ later) : t'.Dated opened later where
  past k found := Nat.lt_of_lt_of_le (dated.past k (fewer.subset found)) passes
  sorted := dated.sorted.sublist fewer

theorem keys_close_sublist (t : Table) (k : Key) :
    ((t.close k).map fun c => c.topic.key).Sublist (t.map fun c => c.topic.key) :=
  List.filter_sublist.map _

theorem keys_unsubscribe_sublist (t : Table) (k : Key) (f : Ref) :
    ((t.unsubscribe k f).map fun c => c.topic.key).Sublist (t.map fun c => c.topic.key) := by
  unfold unsubscribe
  split
  · exact List.Sublist.refl _
  · have less : (((t.withdraw k f).settle k).map fun c => c.topic.key).Sublist
        ((t.withdraw k f).map fun c => c.topic.key) := by
      unfold settle
      split
      · exact keys_close_sublist _ k
      · exact List.Sublist.refl _
    rwa [keys_withdraw] at less

theorem unsubscribe_of_not_mem (absent : f ∉ t.listeners k) : t.unsubscribe k f = t := by
  have same : t.withdraw k f = t := by
    induction t with
    | nil => rfl
    | cons c rest ih =>
      rw [listeners_cons] at absent
      unfold withdraw
      split
      · rename_i here
        rw [if_pos here] at absent
        rw [removeLast_of_not_mem absent]
      · rename_i other
        rw [if_neg other] at absent
        rw [ih absent]
  unfold unsubscribe
  split
  · rfl
  · rename_i full
    unfold settle
    rw [same, if_neg full]

theorem mem_keys_iff (filled : ∀ c ∈ t, c.handlers ≠ []) :
    k ∈ (t.map fun c => c.topic.key) ↔ t.listeners k ≠ [] := by
  constructor
  · intro found
    induction t with
    | nil => simp at found
    | cons c rest ih =>
      rw [listeners_cons]
      split
      · exact filled c (by simp)
      · rename_i other
        refine ih (fun d hd => filled d (by simp [hd])) ?_
        simpa [Ne.symm other] using found
  · intro full
    by_contra absent
    exact full (listeners_of_not_mem absent)

structure Fewer (t' t : Table) : Prop where
  keys : (t'.map fun c => c.topic.key).Sublist (t.map fun c => c.topic.key)
  handlers : ∀ k, ∀ f ∈ t'.listeners k, f ∈ t.listeners k

theorem Fewer.refl (t : Table) : Fewer t t := ⟨List.Sublist.refl _, fun _ _ => id⟩

theorem fewer_nil (t : Table) : Fewer [] t :=
  ⟨List.nil_sublist _, fun _ _ found => absurd found List.not_mem_nil⟩

theorem fewer_close (t : Table) (k : Key) : Fewer (t.close k) t where
  keys := keys_close_sublist t k
  handlers l f found := by
    rw [listeners_close] at found
    split at found
    · exact absurd found List.not_mem_nil
    · exact found

theorem fewer_unsubscribe (t : Table) (k : Key) (f : Ref) : Fewer (t.unsubscribe k f) t where
  keys := keys_unsubscribe_sublist t k f
  handlers l g found := by
    rw [listeners_unsubscribe] at found
    split at found
    · exact List.mem_reverse.1 (List.mem_of_mem_erase (List.mem_reverse.1 found))
    · exact found

/-- A channel that is opened stands last, and it is the only one whose date changes. -/
theorem Dated.subscribe (dated : t.Dated opened now) (filled : ∀ c ∈ t, c.handlers ≠ [])
    (topic : Topic) (f : Ref) :
    (t.subscribe topic f).Dated
      (fun l => if topic.key = l ∧ t.listeners l = [] then now else opened l) (now + 1) := by
  have kept : ∀ l ∈ t.map (fun c => c.topic.key),
      (if topic.key = l ∧ t.listeners l = [] then now else opened l) = opened l := by
    intro l found
    rw [if_neg]
    exact fun both => (mem_keys_iff filled).1 found both.2
  have old : t.Dated (fun l => if topic.key = l ∧ t.listeners l = [] then now else opened l) now :=
    ⟨fun l found => (kept l found).symm ▸ dated.past l found,
      dated.sorted.imp_of_mem fun ha hb before => by rwa [kept _ ha, kept _ hb]⟩
  by_cases known : topic.key ∈ t.map fun c => c.topic.key
  · have keys : ((t.subscribe topic f).map fun c => c.topic.key) = t.map fun c => c.topic.key := by
      have topics := congrArg (List.map Topic.key) (topics_subscribe_of_mem topic f known)
      simpa [Function.comp_def] using topics
    exact old.of_sublist (keys ▸ List.Sublist.refl _) (Nat.le_succ _)
  · have keys : ((t.subscribe topic f).map fun c => c.topic.key) =
        (t.map fun c => c.topic.key) ++ [topic.key] := by
      rw [subscribe_of_not_mem f known, List.map_append]
      rfl
    have date : (if topic.key = topic.key ∧ t.listeners topic.key = [] then now
        else opened topic.key) = now := if_pos ⟨rfl, listeners_of_not_mem known⟩
    constructor
    · intro l found
      rw [keys] at found
      rcases List.mem_append.1 found with found | found
      · exact Nat.lt_succ_of_lt (old.past l found)
      · obtain rfl := List.mem_singleton.1 found
        rw [date]
        exact Nat.lt_succ_self now
    · rw [keys, List.pairwise_append]
      refine ⟨old.sorted, List.pairwise_singleton _ _, fun a ha b hb => ?_⟩
      obtain rfl := List.mem_singleton.1 hb
      rw [date]
      exact old.past a ha

end Table

end EventTasks
