import EventTasks.Proofs.Answering
import EventTasks.Proofs.Opening

/-!
An emitter over its whole life: handlers are subscribed and taken back, events are delivered to
listeners that may use the emitter again, it is asked, its channels are closed, and any of these may
be refused. A moment notes when each event last came to have a listener. At all times the emitter
tells exactly the events that have one, in that order.
-/
namespace EventTasks

open Act

/-- A world in the life of an emitter, the number of subscriptions so far, and when each event last
came to have a listener. -/
structure Moment where
  world : World
  now : Nat
  opened : Key → Nat

namespace Moment

def goOn (m : Moment) (w : World) : Moment := { m with world := w }

def subscribed (m : Moment) (p : Nat) (event : Value) (w : World) : Moment where
  world := w
  now := m.now + 1
  opened k :=
    if event.key.toOption = some k ∧ (m.world.tableAt p).listeners k = [] then m.now
    else m.opened k

end Moment

namespace Emitter

variable {h : Host} {w w' : World} {r e p : Nat} {event : Value} {k : Key} {m m' : Moment}

structure Aside (r e p : Nat) (w w' : World) : Prop where
  emitter : w'.IsEmitter r e p
  standard : w'.Standard
  same : w'.subscriptionsAt p = w.subscriptionsAt p
  plain : w'.EventsPlain p
  callable : ∀ c ∈ w.tableAt p, ∀ f ∈ c.handlers, w.isCallable (.ref f) = true →
    w'.isCallable (.ref f) = true

/-- The lives of an emitter between two moments: `on`, `off`, `emit` and `remove_all_listeners` in
any order, each of which may be refused. Each listener of an emission may do whatever is part of a
life before the next one is called, and so may the `__hash__` of an event that ends in failure. -/
inductive Life (r e p : Nat) : Moment → Moment → Prop where
  | still (m : Moment) : Life r e p m m
  | next {a b c : Moment} (first : Life r e p a b) (second : Life r e p b c) : Life r e p a c
  | aside {m : Moment} {w' : World} (aside : Aside r e p m.world w') : Life r e p m (m.goOn w')
  | subscribe {m : Moment} {h : Host} {event handler : Value} (plain : event.Plain m.world)
    (callable : m.world.isCallable handler = true) :
    Life r e p m (m.subscribed p event ((on h (.object r) event handler).after m.world))
  | refuse {m m' : Moment} {h : Host} {event handler : Value}
    (refused : m.world.isCallable handler = false)
    (describing : Life r e p m (m'.goOn ((h.describe event).after m.world))) :
    Life r e p m (m'.goOn ((on h (.object r) event handler).after m.world))
  | takeBack {m : Moment} {h : Host} {event handler : Value} (plain : event.Plain m.world) :
    Life r e p m (m.goOn ((off h (.object r) event handler).after m.world))
  | emit {h : Host} {event : Value} {k : Key} {args : List Value} {moments : Nat → Moment}
    (plain : event.Plain (moments 0).world) (key : event.key = .ok k)
    (called : ∀ j, (moments j).world = (callEach h args
      ((((moments 0).world.tableAt p).listeners k).map .ref |>.take j)).after (moments 0).world)
    (calls : ∀ j < ((moments 0).world.tableAt p).count k,
      Life r e p (moments j) (moments (j + 1))) :
    Life r e p (moments 0) ((moments (((moments 0).world.tableAt p).count k)).goOn
      ((Emitter.emit h (.object r) event args).after (moments 0).world))
  | emitNothing {m : Moment} {h : Host} {event : Value} {kind : String} {args : List Value}
    (plain : event.Plain m.world) (key : event.key = .error kind) :
    Life r e p m (m.goOn ((Emitter.emit h (.object r) event args).after m.world))
  | listen {m : Moment} {h : Host} {event : Value} (plain : event.Plain m.world) :
    Life r e p m (m.goOn ((listeners h (.object r) event).after m.world))
  | count {m : Moment} {h : Host} {event : Value} (plain : event.Plain m.world) :
    Life r e p m (m.goOn ((listenerCount h (.object r) event).after m.world))
  | name {m : Moment} {h : Host} :
    Life r e p m (m.goOn ((eventNames h (.object r)).after m.world))
  | close {m : Moment} {event : Value} {depth : Nat} (plain : event.Plain m.world) :
    Life r e p m
      (m.goOn ((removeAllListeners (Host.ofDepth depth) (.object r) event).after m.world))
  | closeNothing {m : Moment} {event : Value} {depth : Nat} (something : event.isNothing = false)
    (empty : (m.world.tableAt p).isEmpty = true) :
    Life r e p m
      (m.goOn ((removeAllListeners (Host.ofDepth (depth + 1)) (.object r) event).after m.world))
  | unhashed {m m' : Moment} {h : Host} {event : Value} {call : Act Value} {v u : World}
    {fault : Fault} (asks : Asks r p event m.world call h v)
    (failed : h.numberOf event v = .error fault u) (hashing : Life r e p (m.goOn v) (m'.goOn u)) :
    Life r e p m (m'.goOn (call.after m.world))

structure InOrder (r e p : Nat) (m : Moment) : Prop where
  standard : m.world.Standard
  serves : m.world.Serves r e p
  callable : ∀ k, ∀ f ∈ (m.world.tableAt p).listeners k, m.world.isCallable (.ref f) = true
  dated : (m.world.tableAt p).Dated m.opened m.now

namespace InOrder

theorem fewer (order : InOrder r e p m) (kept : Keeps (.table 0 p) m.world w')
    (serves : w'.Serves r e p) (fewer : (w'.tableAt p).Fewer (m.world.tableAt p)) :
    InOrder r e p (m.goOn w') where
  standard := kept.standard order.standard
  serves := serves
  callable k f found := (kept.isCallable _).trans (order.callable k f (fewer.handlers k f found))
  dated := order.dated.of_sublist fewer.keys (Nat.le_refl _)

theorem unchanged (order : InOrder r e p m) : InOrder r e p (m.goOn m.world) := order

theorem pushList (order : InOrder r e p m) (l : List Value) :
    InOrder r e p (m.goOn { m.world with lists := m.world.lists.push l }) :=
  order.fewer (.pushList l)
    (order.serves.of_keeps (s := .nothing e) (.pushList l) (Scope.spares_nothing e e) id)
    (.refl _)

theorem popping (order : InOrder r e p m) : InOrder r e p (m.goOn (popping m.world p)) :=
  order.fewer (.pushBound _ _)
    (order.serves.of_keeps (s := .nothing e) (.pushBound _ _) (Scope.spares_nothing e e) id)
    (.refl _)

theorem asks {call : Act Value} {v : World} (order : InOrder r e p m)
    (asks : Asks r p event m.world call h v) : InOrder r e p (m.goOn v) := by
  cases asks with
  | close something full => exact order.popping
  | _ => exact order.unchanged

theorem aside (order : InOrder r e p m) (aside : Aside r e p m.world w') :
    InOrder r e p (m.goOn w') := by
  have table : w'.tableAt p = m.world.tableAt p := congrArg Subscriptions.table aside.same
  refine ⟨aside.standard, ⟨aside.emitter, aside.same ▸ order.serves.sound, aside.plain⟩,
    fun k f found => ?_, ?_⟩
  · change f ∈ (w'.tableAt p).listeners k at found
    rw [table] at found
    obtain ⟨c, inside, rfl⟩ : ∃ c ∈ m.world.tableAt p, c.topic.key = k := by
      have listed : k ∈ (m.world.tableAt p).map fun c => c.topic.key := by
        by_contra absent
        rw [Table.listeners_of_not_mem absent] at found
        exact List.not_mem_nil found
      exact List.mem_map.1 listed
    have callable := order.callable _ f found
    rw [Table.handlers_eq_listeners (t := m.world.tableAt p) order.serves.sound.distinct inside]
      at found
    exact aside.callable c inside f found callable
  · exact (show (w'.tableAt p).Dated _ _ from table ▸ order.dated)

theorem subscribe (order : InOrder r e p m) {handler : Value} (plain : event.Plain m.world)
    (callable : m.world.isCallable handler = true) :
    InOrder r e p (m.subscribed p event ((on h (.object r) event handler).after m.world)) := by
  obtain ⟨f, rfl⟩ := World.exists_ref_of_isCallable callable
  cases key : event.key with
  | error kind =>
    have failed := on_unhashable (h := h) order.serves.emitter plain key callable
    rw [after_of_error failed]
    refine ⟨order.standard, order.serves, order.callable, ?_⟩
    have dates : (m.subscribed p event m.world).opened = m.opened := by
      funext l
      simp [Moment.subscribed, key, Except.toOption]
    have later := order.dated.of_sublist (List.Sublist.refl _) (Nat.le_succ m.now)
    rwa [← dates] at later
  | ok k =>
    obtain ⟨w', run, kept, serves', table⟩ := on_eq (h := h) order.serves plain key callable 0
    rw [after_of_ok run]
    refine ⟨kept.standard order.standard, serves', fun l g found => ?_, ?_⟩
    · change g ∈ (w'.tableAt p).listeners l at found
      rw [table, Table.listeners_subscribe] at found
      refine (kept.isCallable _).trans ?_
      rcases List.mem_append.1 found with old | new
      · exact order.callable l g old
      · split at new
        · obtain rfl := List.mem_singleton.1 new
          exact callable
        · exact absurd new List.not_mem_nil
    · have dated := order.dated.subscribe order.serves.sound.filled ⟨event, k⟩ f
      have dates : (m.subscribed p event w').opened =
          fun l => if k = l ∧ (m.world.tableAt p).listeners l = [] then m.now else m.opened l := by
        funext l
        simp [Moment.subscribed, key, Except.toOption]
      rw [← table, ← dates] at dated
      exact dated

theorem takeBack (order : InOrder r e p m) {handler : Value} (plain : event.Plain m.world) :
    InOrder r e p (m.goOn ((off h (.object r) event handler).after m.world)) := by
  cases key : event.key with
  | error kind =>
    rw [after_of_error (off_unhashable order.serves.emitter plain key handler)]
    exact order.unchanged
  | ok k =>
    by_cases shape : ∃ f, handler = .ref f
    · obtain ⟨f, rfl⟩ := shape
      obtain ⟨w', run, kept, serves', table⟩ := off_eq (h := h) order.serves plain key f 0
      rw [after_of_ok run]
      exact order.fewer kept serves' (table ▸ Table.fewer_unsubscribe _ k f)
    · rw [after_of_ok (off_not_ref order.serves plain key fun f same => shape ⟨f, same⟩)]
      exact order.unchanged

theorem close (order : InOrder r e p m) (plain : event.Plain m.world) (depth : Nat) :
    InOrder r e p
      (m.goOn ((removeAllListeners (Host.ofDepth depth) (.object r) event).after m.world)) := by
  obtain ⟨w', ends, kept, serves', closes⟩ := closes order.standard order.serves plain depth 0
  rw [ends]
  exact order.fewer kept serves' closes.fewer

theorem listen (order : InOrder r e p m) (plain : event.Plain m.world) :
    InOrder r e p (m.goOn ((listeners h (.object r) event).after m.world)) := by
  cases key : event.key with
  | error kind =>
    rw [after_of_error (listeners_unhashable order.serves.emitter plain key)]
    exact order.unchanged
  | ok k =>
    rw [after_of_ok (listeners_run order.serves plain key)]
    exact order.pushList _

theorem count (order : InOrder r e p m) (plain : event.Plain m.world) :
    InOrder r e p (m.goOn ((listenerCount h (.object r) event).after m.world)) := by
  cases key : event.key with
  | error kind =>
    rw [after_of_error (listenerCount_unhashable order.serves.emitter plain key)]
    exact order.unchanged
  | ok k =>
    rw [after_of_ok (listenerCount_run order.serves plain key)]
    exact order.unchanged

end InOrder

/-- An emitter in order stays so for life. -/
theorem Life.inOrder (life : Life r e p m m') (order : InOrder r e p m) : InOrder r e p m' := by
  induction life with
  | still m => exact order
  | next first second ih₁ ih₂ => exact ih₂ (ih₁ order)
  | aside aside => exact order.aside aside
  | subscribe plain callable => exact order.subscribe plain callable
  | refuse refused describing ih =>
    rw [after_on_not_callable refused]
    exact ih order
  | takeBack plain => exact order.takeBack plain
  | @emit h event k args moments plain key called calls ih =>
    -- the order goes from each call of a listener to the next
    have each : ∀ j ≤ ((moments 0).world.tableAt p).count k, InOrder r e p (moments j) := by
      intro j
      induction j with
      | zero => exact fun _ => order
      | succ j before => exact fun inside => ih j inside (before (Nat.le_of_lt inside))
    have last := each _ (Nat.le_refl _)
    have all := called (((moments 0).world.tableAt p).count k)
    rw [List.take_of_length_le (by simp [Table.count])] at all
    rw [after_emit order.serves plain key, ← all]
    exact last
  | emitNothing plain key =>
    rw [after_of_error (emit_unhashable order.serves.emitter plain key _)]
    exact order.unchanged
  | listen plain => exact order.listen plain
  | count plain => exact order.count plain
  | name =>
    rw [after_of_ok (eventNames_run order.serves.emitter)]
    exact order.pushList _
  | close plain => exact order.close plain _
  | closeNothing something empty =>
    rw [after_of_ok (removeOne_empty order.standard order.serves.emitter something empty _)]
    exact order.popping
  | unhashed asks failed hashing ih =>
    rw [after_of_error (asks.fails order.standard order.serves.emitter failed)]
    exact ih (order.asks asks)

def Names (h : Host) (w : World) (r : Nat) (keys : List Key) : Prop :=
  ∃ place w' names, eventNames h (.object r) w = .ok (.ref (.list place)) w' ∧
    w'.lists[place]? = some names ∧ names.map Value.key = keys.map .ok

/-- What `listeners`, `listener_count`, `event_names` and `emit` answer at a moment, and that asking
leaves the emitter alone. -/
structure Represents (r p : Nat) (m : Moment) : Prop where
  /-- It names the events that have a listener, one for each key, in the order of the subscriptions
  that gave each of them its first listener. -/
  names : ∀ h : Host, ∃ keys : List Key, Names h m.world r keys ∧ keys.Nodup ∧
    keys.Pairwise (fun k l => m.opened k < m.opened l) ∧
    ∀ event k, event.Plain m.world → event.key = .ok k → (k ∈ keys ↔ ∃ n : Nat, 0 < n ∧
      listenerCount h (.object r) event m.world = .ok (.number n) m.world)
  /-- It counts as many listeners of an event as it lists. -/
  counts : ∀ (h : Host) event k, event.Plain m.world → event.key = .ok k → ∃ place w' found,
    listeners h (.object r) event m.world = .ok (.ref (.list place)) w' ∧
    w'.lists[place]? = some found ∧
    listenerCount h (.object r) event m.world = .ok (.number found.length) m.world
  /-- What listens can be called. -/
  callable : ∀ c ∈ m.world.tableAt p, ∀ f ∈ c.handlers, m.world.isCallable (.ref f) = true
  /-- Asking changes nothing. -/
  asking : ∀ (h : Host) event, event.Plain m.world →
    ((listeners h (.object r) event).after m.world).tableAt p = m.world.tableAt p ∧
    (listenerCount h (.object r) event).after m.world = m.world ∧
    ((eventNames h (.object r)).after m.world).tableAt p = m.world.tableAt p
  /-- An emission without listeners changes nothing. -/
  unheard : ∀ (h : Host) event k args, event.Plain m.world → event.key = .ok k →
    listenerCount h (.object r) event m.world = .ok (.number 0) m.world →
    Emitter.emit h (.object r) event args m.world = .ok (.flag false) m.world
  /-- Taking back what does not listen changes nothing. -/
  unmatched : ∀ (h : Host) event k handler, event.Plain m.world → event.key = .ok k →
    (∀ f, handler = .ref f → f ∉ (m.world.tableAt p).listeners k) →
    ∃ w', off h (.object r) event handler m.world = .ok (.object r) w' ∧
      w'.tableAt p = m.world.tableAt p
  /-- A refused handler changes nothing, save what the description of the event does. -/
  refused : ∀ (h : Host) event handler, m.world.isCallable handler = false →
    (¬ (on h (.object r) event handler).succeeds m.world) ∧
    (on h (.object r) event handler).after m.world = (h.describe event).after m.world
  /-- An event that has no key changes nothing. -/
  unhashable : ∀ (h : Host) event kind, event.Plain m.world → event.key = .error kind →
    (∀ handler, m.world.isCallable handler = true →
      on h (.object r) event handler m.world = .error (.unhashable kind) m.world) ∧
    (∀ handler, off h (.object r) event handler m.world = .error (.unhashable kind) m.world) ∧
    (∀ args, Emitter.emit h (.object r) event args m.world =
      .error (.unhashable kind) m.world) ∧
    listeners h (.object r) event m.world = .error (.unhashable kind) m.world ∧
    listenerCount h (.object r) event m.world = .error (.unhashable kind) m.world
  /-- Where the hash of an event fails, the call fails, and nothing but the hash was asked for. -/
  unhashed : ∀ (h : Host) event call v fault u, Asks r p event m.world call h v →
    h.numberOf event v = .error fault u → call m.world = .error fault u
  /-- If closing a channel is refused, none is closed. -/
  closing : ∀ depth event, event.Plain m.world → ∀ fault w',
    removeAllListeners (Host.ofDepth depth) (.object r) event m.world = .error fault w' →
    w'.tableAt p = m.world.tableAt p

theorem InOrder.names (order : InOrder r e p m) (h : Host) :
    ∃ keys : List Key, Names h m.world r keys ∧ keys.Nodup ∧
    keys.Pairwise (fun k l => m.opened k < m.opened l) ∧
    ∀ event k, event.Plain m.world → event.key = .ok k → (k ∈ keys ↔ ∃ n : Nat, 0 < n ∧
      listenerCount h (.object r) event m.world = .ok (.number n) m.world) := by
  have sound := order.serves.sound
  refine ⟨(m.world.tableAt p).map fun c => c.topic.key,
    ⟨_, _, _, eventNames_run order.serves.emitter, Array.getElem?_push_size, ?_⟩, sound.distinct,
    order.dated.sorted, fun event k plain key => ?_⟩
  · rw [Table.events, List.map_map, List.map_map]
    exact List.map_congr_left sound.keyed
  · rw [Table.mem_keys_iff (t := m.world.tableAt p) sound.filled,
      listenerCount_run order.serves plain key]
    constructor
    · exact fun full => ⟨_, List.length_pos_iff.2 full, rfl⟩
    · rintro ⟨n, positive, same⟩
      have length : ((((m.world.tableAt p).listeners k).length : Nat) : Int) = n :=
        (Value.int.inj (EStateM.Result.ok.inj same).1).2
      exact List.length_pos_iff.1 (by omega)

theorem InOrder.asking (order : InOrder r e p m) (h : Host) (plain : event.Plain m.world) :
    ((listeners h (.object r) event).after m.world).tableAt p = m.world.tableAt p ∧
    (listenerCount h (.object r) event).after m.world = m.world ∧
    ((eventNames h (.object r)).after m.world).tableAt p = m.world.tableAt p := by
  have names : ((eventNames h (.object r)).after m.world).tableAt p = m.world.tableAt p := by
    rw [after_of_ok (eventNames_run order.serves.emitter)]
    rfl
  cases key : event.key with
  | error kind =>
    have uncounted := listenerCount_unhashable (h := h) order.serves.emitter plain key
    refine ⟨?_, after_of_error uncounted, names⟩
    rw [after_of_error (listeners_unhashable order.serves.emitter plain key)]
  | ok k =>
    refine ⟨?_, after_of_ok (listenerCount_run order.serves plain key), names⟩
    rw [after_of_ok (listeners_run order.serves plain key)]
    rfl

theorem InOrder.unheard (order : InOrder r e p m) (h : Host) (args : List Value)
    (plain : event.Plain m.world) (key : event.key = .ok k)
    (nobody : listenerCount h (.object r) event m.world = .ok (.number 0) m.world) :
    Emitter.emit h (.object r) event args m.world = .ok (.flag false) m.world := by
  rw [listenerCount_run order.serves plain key] at nobody
  have length : ((((m.world.tableAt p).listeners k).length : Nat) : Int) = 0 :=
    (Value.int.inj (EStateM.Result.ok.inj nobody).1).2
  have empty : (m.world.tableAt p).listeners k = [] := List.length_eq_zero_iff.1 (by omega)
  have none := snapshot_eq (h := h) order.serves plain key
  rw [empty] at none
  rw [emit_eq, bind_of_ok none]
  rfl

/-- At every moment of its life, `event_names` of an emitter are the events that have a listener, in
the order in which they came to have one, `listener_count` is the length of `listeners`, and every
listener can be called. Asking, emitting to nobody, `off` without a match, and every refused call
leave all of this alone. -/
theorem represents_of_life {start : Moment} (emitter : start.world.IsEmitter r e p)
    (fresh : start.world.subscriptionsAt p = {}) (standard : start.world.Standard)
    (life : Life r e p start m) : Represents r p m := by
  have empty : start.world.tableAt p = [] := congrArg Subscriptions.table fresh
  have order : InOrder r e p m := by
    refine life.inOrder ⟨standard, (Reachable.opened emitter fresh).serves, ?_, ?_⟩
    · intro k f found
      rw [empty] at found
      exact absurd found List.not_mem_nil
    · rw [empty]
      exact ⟨fun k found => absurd found List.not_mem_nil, List.Pairwise.nil⟩
  have serves := order.serves
  constructor
  case names => exact order.names
  case counts =>
    intro h event k plain key
    refine ⟨_, _, _, listeners_run serves plain key, Array.getElem?_push_size, ?_⟩
    rw [List.length_map]
    exact listenerCount_run serves plain key
  case callable =>
    intro c inside f found
    refine order.callable c.topic.key f ?_
    rwa [Table.handlers_eq_listeners (t := m.world.tableAt p) serves.sound.distinct inside]
  case asking => exact fun h event plain => order.asking h plain
  case unheard => exact fun h event k args plain key nobody => order.unheard h args plain key nobody
  case unmatched =>
    exact fun h event k handler plain key absent => off_absent serves plain key absent
  case refused =>
    intro h event handler refused
    refine ⟨?_, after_on_not_callable refused⟩
    unfold Act.succeeds
    rw [on_not_callable refused, bind_run]
    cases h.describe event m.world <;> simp
  case unhashable =>
    intro h event kind plain key
    have emitter := serves.emitter
    refine ⟨fun handler callable => ?_, off_unhashable emitter plain key,
      emit_unhashable emitter plain key, listeners_unhashable emitter plain key,
      listenerCount_unhashable emitter plain key⟩
    obtain ⟨f, rfl⟩ : ∃ f, handler = .ref f := by
      cases handler with
      | ref f => exact ⟨f, rfl⟩
      | _ => simp [World.isCallable] at callable
    exact on_unhashable emitter plain key callable
  case unhashed =>
    exact fun h event call v fault u asks failed => asks.fails order.standard serves.emitter failed
  case closing =>
    intro depth event plain fault w' failed
    obtain ⟨u, ends, -, -, closes⟩ := closes order.standard serves plain depth 0
    obtain rfl : w' = u := (after_of_error failed).symm.trans ends
    exact closes.refused failed

/-- An event is emitted to nobody; then a handler is subscribed to it, taken back, and subscribed
once more. -/
theorem represents_of_life_rules : ∃ m : Moment,
    Life Opening.emitter 2 0 ⟨World.opening Opening.rules, 0, fun _ => 0⟩ m ∧ m.now = 2 ∧
      Represents Opening.emitter 0 m := by
  let start : Moment := ⟨World.opening Opening.rules, 0, fun _ => 0⟩
  let f : Value := .ref (.function (.library (.emitter .describe)))
  have plain := Value.plain_event .rule
  obtain ⟨emitted, first⟩ : ∃ u : World, Life Opening.emitter 2 0 start (start.goOn u) :=
    ⟨_, @Life.emit _ _ _ (Host.ofDepth 5) (.event .rule) _ [] (fun _ => start) (plain _) rfl
      (fun j => by cases j <;> rfl) fun j inside => absurd inside (Nat.not_lt_zero j)⟩
  obtain ⟨m₁, second, once⟩ : ∃ m, Life Opening.emitter 2 0 (start.goOn emitted) m ∧ m.now = 1 :=
    ⟨_, @Life.subscribe _ _ _ _ (Host.ofDepth 5) (.event .rule) f (plain _) rfl, rfl⟩
  obtain ⟨u, third⟩ : ∃ u : World, Life Opening.emitter 2 0 m₁ (m₁.goOn u) :=
    ⟨_, @Life.takeBack _ _ _ _ (Host.ofDepth 5) (.event .rule) f (plain _)⟩
  obtain ⟨m₂, fourth, twice⟩ : ∃ m, Life Opening.emitter 2 0 (m₁.goOn u) m ∧ m.now = 2 :=
    ⟨_, @Life.subscribe _ _ _ _ (Host.ofDepth 5) (.event .rule) f (plain _) rfl,
      congrArg (· + 1) once⟩
  have life := first.next (second.next (third.next fourth))
  exact ⟨m₂, life, twice, represents_of_life Opening.isEmitter rfl Opening.standard life⟩

end Emitter

end EventTasks
