import EventTasks.Key

/-!
The subscription table of an emitter. Each event with a listener has one channel, in the order in
which the channels were opened; a channel shows the event object it was opened with and lists its
handlers in the order of subscription. Handlers are told apart by identity. Taking a handler back
removes its latest copy, and closes the channel if that leaves it without handlers.
-/
namespace EventTasks

/-- An event object and its key. -/
structure Topic where
  event : Value
  key : Key

/-- The entry of one event in `EventEmitter._listeners`. -/
structure Channel where
  topic : Topic
  handlers : List Ref

abbrev Table := List Channel

/-- Removes the last copy of `a`, if there is one. -/
def removeLast [DecidableEq α] (a : α) (l : List α) : List α := (l.reverse.erase a).reverse

theorem removeLast_append_self [DecidableEq α] (a : α) (l : List α) :
    removeLast a (l ++ [a]) = l := by
  simp [removeLast]

theorem removeLast_of_not_mem [DecidableEq α] {a : α} {l : List α} (h : a ∉ l) :
    removeLast a l = l := by
  simp [removeLast, List.erase_of_not_mem, h]

theorem count_removeLast [DecidableEq α] (a b : α) (l : List α) :
    (removeLast a l).count b = l.count b - if a = b then 1 else 0 := by
  simp [removeLast, List.count_erase]

namespace Table

def listeners (t : Table) (k : Key) : List Ref :=
  match t.find? fun c => c.topic.key = k with
  | some c => c.handlers
  | none => []

def count (t : Table) (k : Key) : Nat := (t.listeners k).length

def events (t : Table) : List Value := t.map fun c => c.topic.event

def subscribe (topic : Topic) (h : Ref) : Table → Table
  | [] => [⟨topic, [h]⟩]
  | c :: rest =>
    if c.topic.key = topic.key then { c with handlers := c.handlers ++ [h] } :: rest
    else c :: subscribe topic h rest

def withdraw (k : Key) (h : Ref) : Table → Table
  | [] => []
  | c :: rest =>
    if c.topic.key = k then { c with handlers := removeLast h c.handlers } :: rest
    else c :: withdraw k h rest

def close (k : Key) (t : Table) : Table := t.filter fun c => c.topic.key ≠ k

def settle (k : Key) (t : Table) : Table :=
  if (t.listeners k).isEmpty then t.close k else t

/-- `EventEmitter.off`: takes back the latest subscription of `h` to `k` and closes a channel that
this leaves empty. -/
def unsubscribe (k : Key) (h : Ref) (t : Table) : Table :=
  if (t.listeners k).isEmpty then t else (t.withdraw k h).settle k

theorem listeners_cons (c : Channel) (t : Table) (k : Key) :
    listeners (c :: t) k = if c.topic.key = k then c.handlers else t.listeners k := by
  unfold listeners
  by_cases h : c.topic.key = k <;> simp [h]

theorem listeners_subscribe (t : Table) (topic : Topic) (h : Ref) (k : Key) :
    (t.subscribe topic h).listeners k =
      t.listeners k ++ if topic.key = k then [h] else [] := by
  induction t with
  | nil => by_cases hk : topic.key = k <;> simp [subscribe, listeners, hk]
  | cons c rest ih =>
    by_cases hc : c.topic.key = topic.key <;> by_cases hk : topic.key = k <;>
      simp_all [subscribe, listeners_cons]

theorem listeners_close (t : Table) (k k' : Key) :
    (t.close k).listeners k' = if k = k' then [] else t.listeners k' := by
  induction t with
  | nil => simp [close, listeners]
  | cons c rest ih =>
    by_cases hc : c.topic.key = k <;> by_cases hk : k = k' <;>
      simp_all [close, listeners_cons]

theorem listeners_withdraw (t : Table) (k : Key) (h : Ref) (k' : Key) :
    (t.withdraw k h).listeners k' =
      if k = k' then removeLast h (t.listeners k') else t.listeners k' := by
  induction t with
  | nil => simp [withdraw, listeners, removeLast]
  | cons c rest ih =>
    by_cases hc : c.topic.key = k <;> by_cases hk : k = k' <;>
      simp_all [withdraw, listeners_cons]

theorem listeners_settle (t : Table) (k k' : Key) :
    (t.settle k).listeners k' = t.listeners k' := by
  unfold settle
  split
  · rename_i empty
    rw [listeners_close]
    split
    · rename_i same
      subst same
      exact (List.isEmpty_iff.1 empty).symm
    · rfl
  · rfl

/-- Taking a handler back changes what one key hears and nothing else. -/
theorem listeners_unsubscribe (t : Table) (k : Key) (h : Ref) (k' : Key) :
    (t.unsubscribe k h).listeners k' =
      if k = k' then removeLast h (t.listeners k') else t.listeners k' := by
  unfold unsubscribe
  split
  · rename_i empty
    split
    · rename_i same
      subst same
      rw [List.isEmpty_iff.1 empty]
      rfl
    · rfl
  · rw [listeners_settle, listeners_withdraw]

theorem listeners_of_not_mem {t : Table} {k : Key}
    (h : k ∉ t.map fun c => c.topic.key) : t.listeners k = [] := by
  induction t with
  | nil => rfl
  | cons c rest ih =>
    simp only [List.map_cons, List.mem_cons, not_or] at h
    rw [listeners_cons, if_neg (Ne.symm h.1), ih h.2]

end Table

end EventTasks
