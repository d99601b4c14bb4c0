import EventTasks.Emitter.Sound
import Mathlib.Data.List.Induction
import Mathlib.Data.List.Perm.Basic

/-!
Several subscriptions made one after the other, and taken back one after the other. On a sound table
taking back is one pass over the channels, so the order of the pairs does not matter; the pairs of a
run of subscriptions, taken back in any order, leave the table with which the run began. What a key
hears is followed through both, and so is the number of copies of each handler.
-/
namespace EventTasks

/-- Removes the last copy of each handler, one after the other. -/
def removeAll (hs l : List Ref) : List Ref := hs.foldl (fun l h => removeLast h l) l

theorem removeLast_comm (a b : Ref) (l : List Ref) :
    removeLast a (removeLast b l) = removeLast b (removeLast a l) := by
  simp only [removeLast, List.reverse_reverse]
  rw [List.erase_comm]

theorem removeLast_append_of_not_mem {a : Ref} {r : List Ref} (l : List Ref) (h : a ∉ r) :
    removeLast a (l ++ r) = removeLast a l ++ r := by
  have hr : a ∉ r.reverse := by simpa using h
  simp [removeLast, List.erase_append_right _ hr]

@[simp]
theorem removeAll_nil (l : List Ref) : removeAll [] l = l := rfl

@[simp]
theorem removeAll_cons (h : Ref) (hs l : List Ref) :
    removeAll (h :: hs) l = removeAll hs (removeLast h l) := rfl

theorem removeAll_append (hs hs' l : List Ref) :
    removeAll (hs ++ hs') l = removeAll hs' (removeAll hs l) := List.foldl_append

@[simp]
theorem removeAll_empty (hs : List Ref) : removeAll hs [] = [] := by
  induction hs with
  | nil => rfl
  | cons h hs ih => simpa [removeLast] using ih

theorem removeAll_perm {hs hs' : List Ref} (p : hs.Perm hs') (l : List Ref) :
    removeAll hs l = removeAll hs' l :=
  p.foldl_eq' (fun _ _ _ _ l => removeLast_comm _ _ l) l

/-- Copies that stand at the end are the ones that go, whatever stands in front of them. -/
theorem removeAll_append_self (l hs : List Ref) : removeAll hs (l ++ hs) = l := by
  rw [removeAll_perm (List.reverse_perm hs).symm]
  induction hs using List.reverseRecOn with
  | nil => simp
  | append_singleton hs h ih =>
    rw [List.reverse_append, List.reverse_singleton, List.singleton_append, removeAll_cons,
      ← List.append_assoc, removeLast_append_self, ih]

theorem removeAll_append_of_disjoint {hs r : List Ref} (l : List Ref) (h : ∀ a ∈ hs, a ∉ r) :
    removeAll hs (l ++ r) = removeAll hs l ++ r := by
  induction hs generalizing l with
  | nil => rfl
  | cons a hs ih =>
    rw [removeAll_cons, removeLast_append_of_not_mem l (h a (by simp)), removeAll_cons]
    exact ih _ fun b hb => h b (by simp [hb])

theorem count_removeAll (hs l : List Ref) (a : Ref) :
    (removeAll hs l).count a = l.count a - hs.count a := by
  induction hs generalizing l with
  | nil => simp
  | cons h hs ih =>
    rw [removeAll_cons, ih, count_removeLast, List.count_cons]
    by_cases same : h = a
    · simp only [same, beq_self_eq_true, if_true]
      omega
    · simp [same]

def firstCopies (quota : Ref → Nat) (l : List Ref) : List Ref :=
  (l.zipIdx.filter fun q => (l.take q.2).count q.1 < quota q.1).map Prod.fst

theorem firstCopies_sublist (quota : Ref → Nat) (l : List Ref) :
    (firstCopies quota l).Sublist l := by
  have whole : l.zipIdx.map Prod.fst = l := List.zipIdx_map_fst 0 l
  conv_rhs => rw [← whole]
  exact List.filter_sublist.map Prod.fst

theorem firstCopies_append_singleton (quota : Ref → Nat) (l : List Ref) (a : Ref) :
    firstCopies quota (l ++ [a]) =
      firstCopies quota l ++ if l.count a < quota a then [a] else [] := by
  have front : ∀ q ∈ l.zipIdx, (l ++ [a]).take q.2 = l.take q.2 := fun q hq =>
    List.take_append_of_le_length (Nat.le_of_lt (by simpa using (List.mem_zipIdx hq).2.1))
  have same : (l.zipIdx.filter fun q => ((l ++ [a]).take q.2).count q.1 < quota q.1) =
      l.zipIdx.filter fun q => (l.take q.2).count q.1 < quota q.1 :=
    List.filter_congr fun q hq => by rw [front q hq]
  rw [firstCopies, List.zipIdx_append, List.filter_append, same, List.map_append, firstCopies]
  by_cases below : l.count a < quota a <;> simp [below]

theorem firstCopies_congr {quota quota' : Ref → Nat} {l : List Ref}
    (same : ∀ a, min (quota a) (l.count a) = min (quota' a) (l.count a)) :
    firstCopies quota l = firstCopies quota' l := by
  unfold firstCopies
  congr 1
  refine List.filter_congr fun q hq => ?_
  obtain ⟨a, j⟩ := q
  obtain ⟨-, inside, here⟩ := List.mem_zipIdx hq
  have inside : j < l.length := by simpa using inside
  have here : a = l[j] := by simpa using here
  have less : (l.take j).count a < l.count a := by
    have split : (l.take j ++ a :: l.drop (j + 1)).count a = l.count a := by simp [here]
    rw [List.count_append, List.count_cons_self] at split
    omega
  have := same a
  simp only [decide_eq_decide]
  omega

/-- Taking handlers back leaves of each one the first copies, as many as there are more of it than
are taken back. -/
theorem removeAll_eq_firstCopies (hs l : List Ref) :
    removeAll hs l = firstCopies (fun a => l.count a - hs.count a) l := by
  induction l using List.reverseRecOn generalizing hs with
  | nil => simp [firstCopies]
  | append_singleton l a ih =>
    rw [firstCopies_append_singleton]
    have more (b : Ref) : (l ++ [a]).count b = l.count b + if a = b then 1 else 0 := by
      rw [List.count_append, List.count_singleton]
      simp only [beq_iff_eq]
    by_cases named : a ∈ hs
    · -- the copy at the end goes, and one of the handlers with it
      have once : 0 < hs.count a := List.count_pos_iff.2 named
      have last : ¬ l.count a < (l ++ [a]).count a - hs.count a := by
        rw [more, if_pos rfl]
        omega
      rw [if_neg last, List.append_nil, removeAll_perm (List.perm_cons_erase named), removeAll_cons,
        removeLast_append_self, ih]
      congr 1
      funext b
      rw [more]
      by_cases same : a = b
      · rw [if_pos same, ← same, List.count_erase_self]
        omega
      · rw [if_neg same, List.count_erase_of_ne (Ne.symm same), Nat.add_zero]
    · have none : hs.count a = 0 := List.count_eq_zero.2 named
      have last : l.count a < (l ++ [a]).count a - hs.count a := by
        rw [more, if_pos rfl, none]
        omega
      have apart : ∀ b ∈ hs, b ∉ [a] := fun b hb same => named (List.mem_singleton.1 same ▸ hb)
      rw [if_pos last, removeAll_append_of_disjoint l apart, ih]
      congr 1
      refine firstCopies_congr fun b => ?_
      rw [more]
      by_cases same : a = b
      · rw [if_pos same, ← same, none]
        omega
      · rw [if_neg same, Nat.add_zero]

namespace Table

abbrev Subscription := Topic × Ref

def handlersFor (pairs : List Subscription) (k : Key) : List Ref :=
  (pairs.filter fun p => p.1.key = k).map Prod.snd

def subscribeAll (t : Table) (pairs : List Subscription) : Table :=
  pairs.foldl (fun t p => t.subscribe p.1 p.2) t

def unsubscribeAll (t : Table) (pairs : List Subscription) : Table :=
  pairs.foldl (fun t p => t.unsubscribe p.1.key p.2) t

@[simp]
theorem handlersFor_nil (k : Key) : handlersFor [] k = [] := rfl

theorem handlersFor_cons (p : Subscription) (pairs : List Subscription) (k : Key) :
    handlersFor (p :: pairs) k =
      if p.1.key = k then p.2 :: handlersFor pairs k else handlersFor pairs k := by
  by_cases h : p.1.key = k <;> simp [handlersFor, h]

theorem handlersFor_append (pairs pairs' : List Subscription) (k : Key) :
    handlersFor (pairs ++ pairs') k = handlersFor pairs k ++ handlersFor pairs' k := by
  simp [handlersFor]

theorem mem_handlersFor {pairs : List Subscription} {k : Key} {h : Ref} :
    h ∈ handlersFor pairs k ↔ ∃ topic, (topic, h) ∈ pairs ∧ topic.key = k := by
  simp [handlersFor]

theorem subscribeAll_append (t : Table) (pairs pairs' : List Subscription) :
    t.subscribeAll (pairs ++ pairs') = (t.subscribeAll pairs).subscribeAll pairs' :=
  List.foldl_append

theorem unsubscribeAll_append (t : Table) (pairs pairs' : List Subscription) :
    t.unsubscribeAll (pairs ++ pairs') = (t.unsubscribeAll pairs).unsubscribeAll pairs' :=
  List.foldl_append

theorem listeners_subscribeAll (t : Table) (pairs : List Subscription) (k : Key) :
    (t.subscribeAll pairs).listeners k = t.listeners k ++ handlersFor pairs k := by
  induction pairs generalizing t with
  | nil => simp [subscribeAll]
  | cons p pairs ih =>
    have h := ih (t.subscribe p.1 p.2)
    rw [listeners_subscribe] at h
    rw [handlersFor_cons]
    by_cases hk : p.1.key = k <;> simp_all [subscribeAll]

theorem listeners_unsubscribeAll (t : Table) (pairs : List Subscription) (k : Key) :
    (t.unsubscribeAll pairs).listeners k = removeAll (handlersFor pairs k) (t.listeners k) := by
  induction pairs generalizing t with
  | nil => rfl
  | cons p pairs ih =>
    have h := ih (t.unsubscribe p.1.key p.2)
    rw [listeners_unsubscribe] at h
    rw [handlersFor_cons]
    by_cases hk : p.1.key = k <;> simp_all [unsubscribeAll]

theorem sound_subscribeAll {t : Table} (sound : t.Sound) (pairs : List Subscription) :
    (t.subscribeAll pairs).Sound := by
  induction pairs generalizing t with
  | nil => exact sound
  | cons p pairs ih => exact ih (sound_subscribe p.1 p.2 sound)

/-! Taking back as one pass -/

def lessen (pairs : List Subscription) (c : Channel) : Channel :=
  { c with handlers := removeAll (handlersFor pairs c.topic.key) c.handlers }

/-- The channels with handlers. -/
def trim (t : Table) : Table := t.filter fun c => !c.handlers.isEmpty

theorem trim_of_sound {t : Table} (sound : t.Sound) : t.trim = t :=
  List.filter_eq_self.2 fun c found => by simpa using sound.filled c found

theorem trim_map_trim (pairs : List Subscription) (t : Table) :
    trim (t.trim.map (lessen pairs)) = trim (t.map (lessen pairs)) := by
  induction t with
  | nil => rfl
  | cons c t ih =>
    by_cases h : c.handlers = []
    · simpa [trim, h, lessen] using ih
    · by_cases h' : (lessen pairs c).handlers = [] <;> simpa [trim, h, h'] using ih

theorem withdraw_eq_map {t : Table} (distinct : (t.map fun c => c.topic.key).Nodup)
    (topic : Topic) (h : Ref) : t.withdraw topic.key h = t.map (lessen [(topic, h)]) := by
  induction t with
  | nil => rfl
  | cons c t ih =>
    simp only [List.map_cons, List.nodup_cons] at distinct
    have pass := ih distinct.2
    by_cases hc : c.topic.key = topic.key
    · have others : t.map (lessen [(topic, h)]) = t := by
        conv_rhs => rw [← List.map_id t]
        refine List.map_congr_left fun d hd => ?_
        have other : topic.key ≠ d.topic.key := fun same =>
          distinct.1 (hc ▸ same ▸ List.mem_map_of_mem hd)
        simp [lessen, handlersFor_cons, other]
      simp [withdraw, hc, others, lessen, handlersFor_cons]
    · simp [withdraw, hc, pass, lessen, handlersFor_cons, Ne.symm hc]

theorem settle_eq_trim {t : Table} {k : Key} (distinct : (t.map fun c => c.topic.key).Nodup)
    (others : ∀ c ∈ t, c.topic.key ≠ k → c.handlers ≠ []) : t.settle k = t.trim := by
  unfold settle
  split
  · rename_i empty
    refine List.filter_congr fun c hc => ?_
    by_cases same : c.topic.key = k
    · have : c.handlers = [] := by
        rw [← handlers_eq_listeners distinct hc, same]
        exact List.isEmpty_iff.1 empty
      simp [same, this]
    · simp [same, others c hc same]
  · rename_i full
    refine (List.filter_eq_self.2 fun c hc => ?_).symm
    by_cases same : c.topic.key = k
    · rw [← handlers_eq_listeners distinct hc, same]
      simpa using full
    · simpa using others c hc same

theorem unsubscribe_eq_trim {t : Table} (sound : t.Sound) (topic : Topic) (h : Ref) :
    t.unsubscribe topic.key h = trim (t.map (lessen [(topic, h)])) := by
  have distinct := sound.distinct
  unfold unsubscribe
  split
  · rename_i empty
    have pass : t.map (lessen [(topic, h)]) = t := by
      conv_rhs => rw [← List.map_id t]
      refine List.map_congr_left fun c hc => ?_
      have other : topic.key ≠ c.topic.key := by
        intro same
        rw [same, handlers_eq_listeners distinct hc] at empty
        exact sound.filled c hc (List.isEmpty_iff.1 empty)
      simp [lessen, handlersFor_cons, other]
    rw [pass, trim_of_sound sound]
  · rw [← withdraw_eq_map distinct]
    refine settle_eq_trim (by rw [keys_withdraw]; exact distinct) fun c hc other => ?_
    exact sound.filled c (mem_withdraw hc other)

theorem lessen_lessen (pairs pairs' : List Subscription) (c : Channel) :
    lessen pairs' (lessen pairs c) = lessen (pairs ++ pairs') c := by
  simp [lessen, handlersFor_append, removeAll_append]

/-- Taking handlers back is one pass over the channels, however many they are. -/
theorem unsubscribeAll_eq_trim {t : Table} (sound : t.Sound) (pairs : List Subscription) :
    t.unsubscribeAll pairs = trim (t.map (lessen pairs)) := by
  induction pairs generalizing t with
  | nil =>
    have : t.map (lessen []) = t := by
      conv_rhs => rw [← List.map_id t]
      exact List.map_congr_left fun c _ => rfl
    rw [this, trim_of_sound sound]
    rfl
  | cons p pairs ih =>
    have step : t.unsubscribeAll (p :: pairs) =
        (t.unsubscribe p.1.key p.2).unsubscribeAll pairs := rfl
    rw [step, ih (sound_unsubscribe _ _ sound), unsubscribe_eq_trim sound, trim_map_trim,
      List.map_map]
    congr 1
    refine List.map_congr_left fun c _ => ?_
    exact lessen_lessen [p] pairs c

/-- The events that are left when handlers are taken back are those that still have a listener. -/
theorem events_unsubscribeAll {t : Table} (sound : t.Sound)
    (keyed : ∀ c ∈ t, c.topic.event.key = .ok c.topic.key) (pairs : List Subscription) :
    (t.unsubscribeAll pairs).events = t.events.filter fun event =>
      event.key.toOption.any fun k => !((t.unsubscribeAll pairs).listeners k).isEmpty := by
  have left : ∀ c ∈ t, (event : Value) → c.topic.event = event →
      (event.key.toOption.any fun k => !((t.unsubscribeAll pairs).listeners k).isEmpty) =
        !(lessen pairs c).handlers.isEmpty := by
    rintro c inside _ rfl
    rw [keyed c inside]
    show (!((t.unsubscribeAll pairs).listeners c.topic.key).isEmpty) = _
    rw [listeners_unsubscribeAll, handlers_eq_listeners sound.distinct inside]
    rfl
  have events : (t.unsubscribeAll pairs).events =
      (t.filter fun c => !(lessen pairs c).handlers.isEmpty).map fun c => c.topic.event := by
    rw [unsubscribeAll_eq_trim sound, events, trim, List.filter_map, List.map_map]
    rfl
  rw [events, Table.events, List.filter_map]
  congr 1
  exact List.filter_congr fun c inside => (left c inside _ rfl).symm

/-- The order in which handlers are taken back does not matter. -/
theorem unsubscribeAll_perm {t : Table} (sound : t.Sound) {pairs pairs' : List Subscription}
    (p : pairs.Perm pairs') : t.unsubscribeAll pairs = t.unsubscribeAll pairs' := by
  rw [unsubscribeAll_eq_trim sound, unsubscribeAll_eq_trim sound]
  congr 1
  refine List.map_congr_left fun c _ => ?_
  have sameHandlers := (p.filter fun q => q.1.key = c.topic.key).map Prod.snd
  simp only [lessen, handlersFor, removeAll_perm sameHandlers]

/-! Undoing -/

theorem unsubscribe_cons_of_ne {c : Channel} {k : Key} (t : Table) (h : Ref)
    (other : c.topic.key ≠ k) : unsubscribe k h (c :: t) = c :: t.unsubscribe k h := by
  simp only [unsubscribe, settle, listeners_cons, other, withdraw, if_false]
  split
  · rfl
  · split <;> simp [close, other]

theorem unsubscribe_subscribe {t : Table} (sound : t.Sound) (topic : Topic) (h : Ref) :
    (t.subscribe topic h).unsubscribe topic.key h = t := by
  induction t with
  | nil => simp [subscribe, unsubscribe, listeners, withdraw, settle, close, removeLast]
  | cons c t ih =>
    obtain ⟨new, full, tail⟩ := sound_cons.1 sound
    by_cases hc : c.topic.key = topic.key
    · simp [subscribe, unsubscribe, hc, listeners_cons, withdraw, settle, removeLast_append_self,
        full]
    · rw [subscribe, if_neg hc, unsubscribe_cons_of_ne _ _ hc, ih tail]

/-- What was subscribed and is taken back in the same order leaves no trace: handlers, channels and
their event objects are as before. -/
theorem unsubscribeAll_subscribeAll {t : Table} (sound : t.Sound) (pairs : List Subscription) :
    (t.subscribeAll pairs).unsubscribeAll pairs = t := by
  rw [unsubscribeAll_perm (sound_subscribeAll sound pairs) (List.reverse_perm pairs).symm]
  induction pairs using List.reverseRecOn with
  | nil => rfl
  | append_singleton pairs p ih =>
    rw [List.reverse_append, List.reverse_singleton, unsubscribeAll_append, subscribeAll_append]
    have last : ((t.subscribeAll pairs).subscribeAll [p]).unsubscribeAll [p] =
        t.subscribeAll pairs := unsubscribe_subscribe (sound_subscribeAll sound pairs) p.1 p.2
    rw [last, ih]

end Table

end EventTasks
