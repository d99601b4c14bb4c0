import EventTasks.Emitter.Operations
import EventTasks.Proofs.Finding
import EventTasks.Proofs.Withdrawal

/-!
What subscribing a handler and taking it back do to the subscriptions of an emitter, when its events
are plain: the table changes as a subscription table does, its channels can still be found, and
nothing else happens to the world. An event without a key is refused.
-/
namespace EventTasks

open Act

/-! Tables -/

namespace Table

theorem topics_subscribe_of_mem {t : Table} (topic : Topic) (h : Ref)
    (found : topic.key ∈ t.map fun c => c.topic.key) :
    (t.subscribe topic h).map Channel.topic = t.map Channel.topic := by
  induction t with
  | nil => simp at found
  | cons c t ih =>
    by_cases same : c.topic.key = topic.key
    · simp [subscribe, same]
    · have further : topic.key ∈ t.map fun c => c.topic.key := by
        simpa [Ne.symm same] using found
      simp [subscribe, same, ih further]

theorem subscribe_of_not_mem {t : Table} {topic : Topic} (h : Ref)
    (new : topic.key ∉ t.map fun c => c.topic.key) : t.subscribe topic h = t ++ [⟨topic, [h]⟩] := by
  induction t with
  | nil => rfl
  | cons c t ih =>
    simp only [List.map_cons, List.mem_cons, not_or] at new
    simp [subscribe, Ne.symm new.1, ih new.2]

theorem topics_withdraw (t : Table) (k : Key) (h : Ref) :
    (t.withdraw k h).map Channel.topic = t.map Channel.topic := by
  induction t with
  | nil => rfl
  | cons c t ih => by_cases same : c.topic.key = k <;> simp [withdraw, same, ih]

theorem close_eq_eraseIdx {t : Table} {k : Key} {i : Nat}
    (distinct : (t.map fun c => c.topic.key).Nodup)
    (at_i : (t.map fun c => c.topic.key)[i]? = some k) : t.close k = t.eraseIdx i := by
  induction t generalizing i with
  | nil => simp at at_i
  | cons c t ih =>
    simp only [List.map_cons, List.nodup_cons] at distinct
    cases i with
    | zero =>
      obtain rfl : c.topic.key = k := by simpa using at_i
      have others : t.filter (fun d => d.topic.key ≠ c.topic.key) = t :=
        List.filter_eq_self.2 fun d found => decide_eq_true fun same =>
          distinct.1 (same ▸ List.mem_map_of_mem found)
      simpa [close] using others
    | succ i =>
      have later : (t.map fun c => c.topic.key)[i]? = some k := by simpa using at_i
      have other : c.topic.key ≠ k := fun same =>
        distinct.1 (same ▸ List.mem_of_getElem? later)
      have pass := ih distinct.2 later
      unfold close at pass ⊢
      rw [List.filter_cons_of_pos (by simpa using other), List.eraseIdx_cons_succ, pass]

variable {t t' : Table} {k : Key} {i : Nat}

/-- What is made of the topics alone is the same for tables with the same topics. -/
theorem map_of_topics (topics : t'.map Channel.topic = t.map Channel.topic) (f : Topic → α) :
    (t'.map fun c => f c.topic) = t.map fun c => f c.topic := by
  simpa [Function.comp_def] using congrArg (List.map f) topics

theorem exists_of_topics (topics : t'.map Channel.topic = t.map Channel.topic) {c : Channel}
    (found : c ∈ t') : ∃ d ∈ t, d.topic = c.topic :=
  List.mem_map.1 (topics ▸ List.mem_map_of_mem found)

theorem nodup_open {topic : Topic} (distinct : (t.map fun c => c.topic.key).Nodup)
    (new : topic.key ∉ t.map fun c => c.topic.key) (h : Ref) :
    ((t ++ [(⟨topic, [h]⟩ : Channel)]).map fun c => c.topic.key).Nodup := by
  simpa [List.nodup_append, distinct] using fun c found same =>
    new (List.mem_map.2 ⟨c, found, same⟩)

/-- Where a channel is closed, its row goes, whatever the rows are numbered by. -/
theorem sound_drop {slots : Slots} {f : Topic → Int}
    (sound : slots.Sound (t.map fun c => f c.topic))
    (distinct : (t.map fun c => c.topic.key).Nodup)
    (at_i : (t.map fun c => c.topic.key)[i]? = some k) :
    (slots.drop i).Sound ((t.close k).map fun c => f c.topic) := by
  have inside : i < t.length := by
    simpa using (List.getElem?_eq_some_iff.1 at_i).1
  have dropped := Slots.sound_drop sound (j := i) (by simpa using inside)
  simpa only [close_eq_eraseIdx distinct at_i, List.eraseIdx_map] using dropped

end Table

/-! Subscriptions -/

namespace Subscriptions

structure Keyed (s : Subscriptions) : Prop where
  distinct : (s.table.map fun c => c.topic.key).Nodup
  keyed : ∀ c ∈ s.table, c.topic.event.key = .ok c.topic.key
  slots : s.slots.Sound (s.table.map fun c => c.topic.event.residue)

structure Sound (s : Subscriptions) : Prop extends Keyed s where
  filled : ∀ c ∈ s.table, c.handlers ≠ []

theorem Sound.table {s : Subscriptions} (sound : s.Sound) : s.table.Sound :=
  ⟨sound.distinct, sound.filled⟩

theorem Keyed.known {s : Subscriptions} (keyed : s.Keyed) :
    (Known.ofSubscriptions s).Sound (s.table.map fun c => c.topic.key) where
  keyed := by
    simp only [Known.ofSubscriptions, Table.events, List.map_map]
    exact List.map_congr_left keyed.keyed
  distinct := keyed.distinct
  slots := by simpa [Known.ofSubscriptions, Table.events, Function.comp_def] using keyed.slots

theorem Keyed.of_topics {s : Subscriptions} (keyed : s.Keyed) {table : Table}
    (topics : table.map Channel.topic = s.table.map Channel.topic) :
    Keyed { s with table } := by
  refine ⟨?_, fun c found => ?_, ?_⟩
  · simpa only [Table.map_of_topics topics Topic.key] using keyed.distinct
  · obtain ⟨d, hd, same⟩ := Table.exists_of_topics topics found
    exact same ▸ keyed.keyed d hd
  · simpa only [Table.map_of_topics topics fun topic => topic.event.residue] using keyed.slots

theorem Keyed.open {s : Subscriptions} (keyed : s.Keyed) (topic : Topic) (h : Ref)
    (key : topic.event.key = .ok topic.key) (new : topic.key ∉ s.table.map fun c => c.topic.key) :
    Keyed ⟨s.table.subscribe topic h,
      (s.slots.prepare topic.event.isText).add topic.event.residue⟩ := by
  simp only [Table.subscribe_of_not_mem h new]
  refine ⟨Table.nodup_open keyed.distinct new h, fun c found => ?_, ?_⟩
  · rcases List.mem_append.1 found with found | found
    · exact keyed.keyed c found
    · obtain rfl := List.mem_singleton.1 found
      exact key
  · simpa using Slots.sound_add (Slots.sound_prepare keyed.slots topic.event.isText)
      topic.event.residue

theorem Keyed.close {s : Subscriptions} (keyed : s.Keyed) {k : Key} {i : Nat}
    (at_i : (s.table.map fun c => c.topic.key)[i]? = some k) :
    Keyed ⟨s.table.close k, s.slots.drop i⟩ where
  distinct := (List.filter_sublist.map _).nodup keyed.distinct
  keyed c found := keyed.keyed c (List.mem_filter.1 found).1
  slots := Table.sound_drop (f := fun topic => topic.event.residue) keyed.slots keyed.distinct at_i

end Subscriptions

namespace World

def putTable (w : World) (p : Nat) (s : Subscriptions) : World :=
  { w with tables := w.tables.setIfInBounds p s }

variable {w : World} {p q : Nat} {s : Subscriptions}

theorem subscriptionsAt_putTable (inside : p < w.tables.size) :
    (w.putTable p s).subscriptionsAt p = s := by
  simp [putTable, subscriptionsAt, inside]

theorem putTable_self : w.putTable p (w.subscriptionsAt p) = w := by
  by_cases inside : p < w.tables.size
  · have same : w.tables.setIfInBounds p w.tables[p] = w.tables := by
      simp [Array.setIfInBounds, inside]
    simp [putTable, subscriptionsAt, inside, same]
  · simp [putTable, Array.setIfInBounds, inside]

@[simp]
theorem putTable_putTable (s' : Subscriptions) :
    (w.putTable p s).putTable p s' = w.putTable p s' := by
  simp [putTable]

def EventsPlain (w : World) (p : Nat) : Prop := ∀ c ∈ w.tableAt p, c.topic.event.Plain w

end World

theorem modifyTable_run (inside : p < w.tables.size) (f : Subscriptions → Subscriptions) :
    modifyTable p f w = .ok () (w.putTable p (f (w.subscriptionsAt p))) := by
  have same : w.tables.modify p f = w.tables.setIfInBounds p (f (w.subscriptionsAt p)) := by
    refine Array.ext_getElem? fun i => ?_
    rw [Array.getElem?_modify, Array.getElem?_setIfInBounds]
    by_cases at_p : p = i
    · subst at_p
      simp [World.subscriptionsAt, inside]
    · simp [at_p]
  rw [modifyTable, modify_run, World.putTable, same]

namespace Host

variable {h : Host} {w : World} {p : Nat} {event : Value}

/-- A plain event is found by its key. -/
theorem topicIn_eq (keyed : (w.subscriptionsAt p).Keyed) (events : w.EventsPlain p)
    (plain : event.Plain w) {k : Key} (key : event.key = .ok k) :
    h.topicIn p event w =
      .ok (event.residue, ⟨event, k⟩,
        ((w.tableAt p).map fun c => c.topic.key).findIdx? fun l => l = k) w := by
  have names : ∀ v ∈ (Known.ofSubscriptions (w.subscriptionsAt p)).names, v.Plain w := by
    intro v found
    obtain ⟨c, hc, rfl⟩ := List.mem_map.1 found
    exact events c hc
  have found := locate_eq (h := h) (knownIn p) rfl keyed.known names plain key 999
  rw [topicIn, bind_run, numberOf_plain event plain, numbered, key]
  simp only [bind_run]
  rw [show searches = 999 + 1 from rfl, found]
  cases hi : ((w.subscriptionsAt p).table.map fun c => c.topic.key).findIdx? fun l => l = k with
  | none => simp [World.tableAt, hi]
  | some i =>
    obtain ⟨lt, same, -⟩ := List.findIdx?_eq_some_iff_getElem.1 hi
    have known : ((w.subscriptionsAt p).table[i]?).map (fun c => c.topic.key) = some k := by
      rw [← List.getElem?_map]
      exact List.getElem?_eq_some_iff.2 ⟨lt, of_decide_eq_true same⟩
    simp [bind_run, World.tableAt, hi, known]

theorem numberOf_unhashable (plain : event.Plain w) {kind : String}
    (key : event.key = .error kind) : h.numberOf event w = .error (.unhashable kind) w := by
  rw [numberOf_plain event plain, numbered, key]

/-- What cannot be hashed is not looked for. -/
theorem topicIn_unhashed {fault : Fault} {u : World}
    (failed : h.numberOf event w = .error fault u) : h.topicIn p event w = .error fault u :=
  bind_of_error failed

end Host

namespace Emitter

open Host

variable {h : Host} {w : World} {p : Nat} {event : Value} {k : Key}

/-- Subscribing to a plain event. -/
theorem subscribeIn_eq (inside : p < w.tables.size) (sound : (w.subscriptionsAt p).Sound)
    (events : w.EventsPlain p) (plain : event.Plain w) (key : event.key = .ok k) (r : Ref) :
    ∃ s : Subscriptions, s.Sound ∧ s.table = (w.tableAt p).subscribe ⟨event, k⟩ r ∧
      subscribeIn h p event r w = .ok () (w.putTable p s) := by
  have found := topicIn_eq (h := h) sound.toKeyed events plain key
  have filled := (Table.sound_subscribe ⟨event, k⟩ r sound.table).filled
  rw [subscribeIn, bind_run, found]
  cases hi : ((w.tableAt p).map fun c => c.topic.key).findIdx? fun l => l = k with
  | none =>
    have new : k ∉ (w.tableAt p).map fun c => c.topic.key := by
      intro inside
      simpa using List.findIdx?_eq_none_iff.1 hi k inside
    refine ⟨_, ⟨sound.toKeyed.open ⟨event, k⟩ r key new, filled⟩, rfl, ?_⟩
    rw [hi] at found
    have longer : ((w.tableAt p).subscribe ⟨event, k⟩ r).length ≠ (w.tableAt p).length := by
      rw [Table.subscribe_of_not_mem r new]
      simp
    simp only [bind_run, found, growTable, modifyTable_run inside]
    exact congrArg (fun s => EStateM.Result.ok () (w.putTable p s)) (if_neg longer)
  | some i =>
    have old : k ∈ (w.tableAt p).map fun c => c.topic.key := by
      obtain ⟨lt, same, -⟩ := List.findIdx?_eq_some_iff_getElem.1 hi
      exact of_decide_eq_true same ▸ List.getElem_mem lt
    refine ⟨_, ⟨sound.toKeyed.of_topics (Table.topics_subscribe_of_mem ⟨event, k⟩ r old),
      filled⟩, rfl, ?_⟩
    exact modifyTable_run inside _

theorem shrinkTable_eq (inside : p < w.tables.size)
    (distinct : ((w.tableAt p).map fun c => c.topic.key).Nodup) {i : Nat}
    (at_i : ((w.tableAt p).map fun c => c.topic.key)[i]? = some k) :
    shrinkTable p i (Table.close k) w =
      .ok () (w.putTable p ⟨(w.tableAt p).close k, (w.subscriptionsAt p).slots.drop i⟩) := by
  have lt : i < (w.tableAt p).length := by
    simpa using (List.getElem?_eq_some_iff.1 at_i).1
  have shorter : ((w.tableAt p).close k).length ≠ (w.tableAt p).length := by
    have erased : (w.tableAt p).close k = (w.tableAt p).eraseIdx i :=
      Table.close_eq_eraseIdx distinct at_i
    rw [erased, List.length_eraseIdx_of_lt lt]
    omega
  rw [shrinkTable, modifyTable_run inside]
  exact congrArg (fun s => EStateM.Result.ok () (w.putTable p s)) (if_neg shorter)

/-- A channel that has lost its last handler is found once more and closed; any other stays. -/
theorem settleIn_eq (inside : p < w.tables.size) (keyed : (w.subscriptionsAt p).Keyed)
    (events : w.EventsPlain p) (plain : event.Plain w) (key : event.key = .ok k) {i : Nat}
    (hi : ((w.tableAt p).map fun c => c.topic.key).findIdx? (fun l => l = k) = some i) :
    ∃ s : Subscriptions, s.Keyed ∧ s.table = (w.tableAt p).settle k ∧
      (do if (((← get).tableAt p).listeners k).isEmpty then
            let (_, topic, position) ← h.topicIn p event
            position.forM fun i => shrinkTable p i (Table.close topic.key) : Act Unit) w =
        .ok () (w.putTable p s) := by
  have at_i := getElem?_of_findIdx? hi
  simp only [bind_run, get_run]
  cases empty : ((w.tableAt p).listeners k).isEmpty with
  | true =>
    refine ⟨_, keyed.close at_i, (if_pos empty).symm, ?_⟩
    rw [if_pos rfl, bind_run, topicIn_eq keyed events plain key, hi]
    exact shrinkTable_eq inside keyed.distinct at_i
  | false =>
    refine ⟨_, keyed, (if_neg (by simp [empty])).symm, ?_⟩
    rw [World.putTable_self]
    rfl

/-- Taking back from a plain event. -/
theorem unsubscribeIn_eq (inside : p < w.tables.size) (sound : (w.subscriptionsAt p).Sound)
    (events : w.EventsPlain p) (plain : event.Plain w) (key : event.key = .ok k) (r : Ref) :
    ∃ s : Subscriptions, s.Sound ∧ s.table = (w.tableAt p).unsubscribe k r ∧
      unsubscribeIn h p event (.ref r) w = .ok () (w.putTable p s) := by
  have found := topicIn_eq (h := h) sound.toKeyed events plain key
  have filled := (Table.sound_unsubscribe k r sound.table).filled
  have unchanged (empty : (w.tableAt p).listeners k = []) :
      w.tableAt p = (w.tableAt p).unsubscribe k r := by
    simp [Table.unsubscribe, empty]
  rw [unsubscribeIn, bind_run, found]
  cases hi : ((w.tableAt p).map fun c => c.topic.key).findIdx? fun l => l = k with
  | none =>
    have new : k ∉ (w.tableAt p).map fun c => c.topic.key := by
      intro inside
      simpa using List.findIdx?_eq_none_iff.1 hi k inside
    refine ⟨_, sound, unchanged (Table.listeners_of_not_mem new), ?_⟩
    rw [World.putTable_self]
    rfl
  | some i =>
    cases hl : (w.tableAt p).listeners k with
    | nil =>
      refine ⟨_, sound, unchanged hl, ?_⟩
      rw [World.putTable_self]
      simp [bind_run, hl]
    | cons first others =>
      obtain ⟨s, hs⟩ : ∃ s : Subscriptions,
          s = { w.subscriptionsAt p with table := (w.tableAt p).withdraw k r } := ⟨_, rfl⟩
      have topics : s.table.map Channel.topic = (w.tableAt p).map Channel.topic :=
        hs ▸ Table.topics_withdraw (w.tableAt p) k r
      have keyed : s.Keyed := hs ▸ sound.toKeyed.of_topics (Table.topics_withdraw (w.tableAt p) k r)
      have now : (w.putTable p s).subscriptionsAt p = s := World.subscriptionsAt_putTable inside
      have events' : (w.putTable p s).EventsPlain p := fun c found => by
        rw [World.tableAt, now] at found
        obtain ⟨d, hd, same⟩ := Table.exists_of_topics topics found
        exact same ▸ events d hd
      have withdrawn : modifyTable p (fun s => { s with table := s.table.withdraw k r }) w =
          .ok () (w.putTable p s) := by
        rw [modifyTable_run inside, hs]
        rfl
      obtain ⟨s', keyed', settled, run⟩ := settleIn_eq (h := h) (w := w.putTable p s)
        (by simpa [World.putTable]) (by rwa [now]) events' plain key
        (by rwa [World.tableAt, now, Table.map_of_topics topics Topic.key])
      have table : s'.table = (w.tableAt p).unsubscribe k r := by
        rw [settled, World.tableAt, now, hs]
        simp [Table.unsubscribe, hl]
      refine ⟨s', ⟨keyed', fun c found => filled c (table ▸ found)⟩, table, ?_⟩
      rw [World.putTable_putTable] at run
      simpa only [bind_run, get_run, hl, withdrawn] using run

end Emitter

end EventTasks
