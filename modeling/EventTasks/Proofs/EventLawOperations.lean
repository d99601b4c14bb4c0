import EventTasks.Proofs.EventLaw

/-!
What the operations of an emitter do under a law of events: the subscriptions stay in order, a
handler is subscribed under the key with which its event is found from then on, and it is taken back
under the key with which the event is found now. Closing channels keeps the order too, so the
emitter is in order in every world that it comes to.
-/
namespace EventTasks

open Act

namespace Emitter

namespace Law

variable {r e p : Nat} {law : Law r e p} {h : Host} {s : Subscriptions} {w : World}
  {v : Value} {n : Int}
  {f : Ref}

/-! Subscriptions in order -/

theorem orders_empty (slots : Slots) (sound : slots.Sound []) : law.Orders ⟨[], slots⟩ :=
  ⟨by simp, List.nodup_nil, List.Pairwise.nil, sound⟩

theorem Orders.of_topics (orders : law.Orders s) {table : Table}
    (topics : table.map Channel.topic = s.table.map Channel.topic) :
    law.Orders { s with table } := by
  refine ⟨fun c found => ?_, ?_, ?_, ?_⟩
  · obtain ⟨d, hd, same⟩ := Table.exists_of_topics topics found
    exact same ▸ orders.names d hd
  · simpa only [Table.map_of_topics topics Topic.key] using orders.distinct
  · have apart : (table.map Channel.topic).Pairwise fun a b =>
        law.same a.event b.event = false := by
      rw [topics]
      exact List.pairwise_map.2 orders.apart
    exact List.pairwise_map.1 apart
  · simpa only [Table.map_of_topics topics fun topic => (law.number topic.event).getD 0] using
      orders.slots

/-- A channel of an event that counts as none of the others is opened at the end. -/
theorem Orders.open (orders : law.Orders s) {topic : Topic} (names : law.Names topic)
    (new : topic.key ∉ s.table.map fun c => c.topic.key)
    (apart : ∀ c ∈ s.table, law.same c.topic.event topic.event = false) (f : Ref) :
    law.Orders ⟨s.table.subscribe topic f, (s.slots.prepare topic.event.isText).add
      ((law.number topic.event).getD 0)⟩ := by
  rw [Table.subscribe_of_not_mem f new]
  refine ⟨fun c found => ?_, Table.nodup_open orders.distinct new f, ?_, ?_⟩
  · rcases List.mem_append.1 found with found | found
    · exact orders.names c found
    · obtain rfl := List.mem_singleton.1 found
      exact names
  · refine List.pairwise_append.2 ⟨orders.apart, List.pairwise_singleton _ _,
      fun c found d only => ?_⟩
    obtain rfl := List.mem_singleton.1 only
    exact apart c found
  · simpa using Slots.sound_add (Slots.sound_prepare orders.slots topic.event.isText) _

theorem Orders.close (orders : law.Orders s) {k : Key} {i : Nat}
    (at_i : (s.table.map fun c => c.topic.key)[i]? = some k) :
    law.Orders ⟨s.table.close k, s.slots.drop i⟩ where
  names c found := orders.names c (List.mem_filter.1 found).1
  distinct := (List.filter_sublist.map _).nodup orders.distinct
  apart := orders.apart.sublist List.filter_sublist
  slots := Table.sound_drop (f := fun topic => (law.number topic.event).getD 0) orders.slots
    orders.distinct at_i

/-- The key under which an event is found is that of a channel that counts as its own. -/
theorem key?_eq_some {k : Key} (found : law.key? s v = some k) :
    ∃ c ∈ s.table, law.same c.topic.event v = true ∧ c.topic.key = k := by
  obtain ⟨i, at_i, key⟩ := Option.bind_eq_some_iff.1 found
  obtain ⟨c, there, same⟩ := position?_eq_some at_i
  rw [there] at key
  exact ⟨c, List.mem_of_getElem? there, same, Option.some.inj key⟩

theorem key?_of_position? {i : Nat} (found : law.position? s v = some i) :
    ∃ k, law.key? s v = some k ∧ (s.table.map fun c => c.topic.key)[i]? = some k := by
  obtain ⟨c, there, -⟩ := position?_eq_some found
  exact ⟨c.topic.key, by simp [key?, found, there], by simp [there]⟩

theorem key?_eq_none (orders : law.Orders s) :
    law.key? s v = none ↔ ∀ c ∈ s.table, law.same c.topic.event v = false := by
  rw [← position?_eq_none orders]
  cases found : law.position? s v with
  | none => simp [key?, found]
  | some i =>
    obtain ⟨k, here, -⟩ := key?_of_position? found
    simp [here]

theorem not_mem_of_apart (host : law.hosts h) (within : law.Within s w) (orders : law.Orders s)
    {topic : Topic} (names : law.Names topic)
    (apart : ∀ c ∈ s.table, law.same c.topic.event topic.event = false) :
    topic.key ∉ s.table.map fun c => c.topic.key := by
  intro old
  obtain ⟨c, inside, key⟩ := List.mem_map.1 old
  have same := same_of_key host within (orders.names c inside) names key
  simp [apart c inside] at same

/-- No channel that was open before counts as that of the event: it is found at its own. -/
theorem key?_open (host : law.hosts h) (within : law.Within s w) {topic : Topic}
    (names : law.Names topic)
    (apart : ∀ c ∈ s.table, law.same c.topic.event topic.event = false) {slots : Slots} {f : Ref}
    (opened : law.Orders ⟨s.table ++ [⟨topic, [f]⟩], slots⟩) :
    law.key? ⟨s.table ++ [⟨topic, [f]⟩], slots⟩ topic.event = some topic.key := by
  cases found : law.key? ⟨s.table ++ [⟨topic, [f]⟩], slots⟩ topic.event with
  | none =>
    have own := (key?_eq_none opened).1 found ⟨topic, [f]⟩ (by simp)
    rw [same_of_key host within names names rfl] at own
    cases own
  | some k =>
    obtain ⟨c, inside, same, rfl⟩ := key?_eq_some found
    rcases List.mem_append.1 inside with inside | inside
    · simp [apart c inside] at same
    · obtain rfl := List.mem_singleton.1 inside
      rfl

/-! Subscribing and taking back -/

/-- A handler is subscribed under a key with which its event is found from then on. -/
theorem subscribeIn_law (host : law.hosts h) (within : law.Within s w) (orders : law.Orders s)
    (covered : law.covers v) (number : law.number v = some n) (f : Ref) :
    ∃ k s' w', subscribeIn h p v f w = .ok () w' ∧ law.Within s' w' ∧ law.Orders s' ∧
      s'.table = s.table.subscribe ⟨v, k⟩ f ∧ law.key? s' v = some k := by
  obtain ⟨k, u, -, stands, topic⟩ := topicIn_law host within orders covered number
  rw [subscribeIn, bind_of_ok topic]
  cases found : law.position? s v with
  | some i =>
    obtain ⟨l, key, at_i⟩ := key?_of_position? found
    have topics : (s.table.subscribe ⟨v, l⟩ f).map Channel.topic = s.table.map Channel.topic :=
      Table.topics_subscribe_of_mem ⟨v, l⟩ f (List.mem_of_getElem? at_i)
    refine ⟨l, { s with table := s.table.subscribe ⟨v, l⟩ f }, _, ?_, stands.putTable _,
      orders.of_topics topics, rfl, (key?_congr topics).trans key⟩
    simp only [key, Option.getD_some]
    rw [modifyTable_run stands.emitter.inside, stands.same]
  | none =>
    -- the event is looked at once more, and it is this key under which the channel is opened
    obtain ⟨k, u', names, stands', again⟩ := topicIn_law host stands orders covered number
    have apart := (position?_eq_none orders).1 found
    have new : k ∉ s.table.map fun c => c.topic.key :=
      not_mem_of_apart host within orders names apart
    have unknown : law.key? s v = none := (key?_eq_none orders).2 apart
    rw [unknown, found] at again
    have opened := orders.open names new apart f
    rw [Table.subscribe_of_not_mem f new] at opened
    refine ⟨k, _, _, ?_, stands'.putTable _, opened, ?_, key?_open host within names apart opened⟩
    · simp only
      rw [bind_of_ok again]
      have longer : (s.table.subscribe ⟨v, k⟩ f).length ≠ s.table.length := by
        rw [Table.subscribe_of_not_mem f new]
        simp
      simp only [Host.growTable, Option.getD_none]
      rw [modifyTable_run stands'.emitter.inside, stands'.same, if_neg longer, number,
        Table.subscribe_of_not_mem f new]
      rfl
    · exact (Table.subscribe_of_not_mem f new).symm

def takenBack (law : Law r e p) (s : Subscriptions) (v handler : Value) : Table :=
  match law.key? s v, handler with
  | some k, .ref f => s.table.unsubscribe k f
  | _, _ => s.table

theorem shrinkTable_law (within : law.Within s w) (orders : law.Orders s) {i : Nat} {k : Key}
    (at_i : (s.table.map fun c => c.topic.key)[i]? = some k) :
    ∃ s' w', Host.shrinkTable p i (Table.close k) w = .ok () w' ∧ law.Within s' w' ∧ law.Orders s' ∧
      s'.table = s.table.close k := by
  have table : w.tableAt p = s.table := congrArg Subscriptions.table within.same
  have closed := shrinkTable_eq within.emitter.inside (k := k) (i := i)
    (by rw [table]; exact orders.distinct) (by rwa [table])
  rw [table, within.same] at closed
  exact ⟨_, _, closed, within.putTable _, orders.close at_i, rfl⟩

/-- If the channel at which an event is found has no handlers, it is found once more and closed. -/
theorem settle_law (host : law.hosts h) (within : law.Within s w) (orders : law.Orders s)
    (covered : law.covers v) (number : law.number v = some n) {i : Nat} {k : Key}
    (found : law.position? s v = some i) (key : law.key? s v = some k) :
    ∃ s' w', (do
        if (((← get).tableAt p).listeners k).isEmpty then
          let (_, topic, position) ← h.topicIn p v
          position.forM fun i => Host.shrinkTable p i (Table.close topic.key) :
          Act Unit) w = .ok () w' ∧
      law.Within s' w' ∧ law.Orders s' ∧ s'.table = s.table.settle k := by
  have table : w.tableAt p = s.table := congrArg Subscriptions.table within.same
  rw [bind_of_ok (get_run w), table]
  by_cases empty : (s.table.listeners k).isEmpty = true
  · obtain ⟨_, u, -, stands, topic⟩ := topicIn_law host within orders covered number
    obtain ⟨l, key', at_i⟩ := key?_of_position? found
    obtain rfl : l = k := Option.some.inj (key'.symm.trans key)
    obtain ⟨s', w', closed, within', orders', result⟩ := shrinkTable_law stands orders at_i
    refine ⟨s', w', ?_, within', orders', ?_⟩
    · rw [if_pos empty, bind_of_ok topic, found, key]
      exact closed
    · rw [result, Table.settle, if_pos empty]
  · exact ⟨s, w, by rw [if_neg empty]; rfl, within, orders, by rw [Table.settle, if_neg empty]⟩

theorem unsubscribeIn_law (host : law.hosts h) (within : law.Within s w) (orders : law.Orders s)
    (filled : ∀ c ∈ s.table, c.handlers ≠ []) (covered : law.covers v)
    (number : law.number v = some n) (handler : Value) :
    ∃ s' w', unsubscribeIn h p v handler w = .ok () w' ∧ law.Within s' w' ∧ law.Orders s' ∧
      s'.table = law.takenBack s v handler := by
  obtain ⟨_, u, -, stands, topic⟩ := topicIn_law host within orders covered number
  have table : u.tableAt p = s.table := congrArg Subscriptions.table stands.same
  rw [unsubscribeIn, bind_of_ok topic]
  simp only
  rw [bind_of_ok (get_run u), table]
  cases found : law.position? s v with
  | none => exact ⟨s, u, by simp, stands, orders, by simp [takenBack, key?, found]⟩
  | some i =>
    obtain ⟨k, key, at_i⟩ := key?_of_position? found
    obtain ⟨c, inside, rfl⟩ := List.mem_map.1 (List.mem_of_getElem? at_i)
    have listed : s.table.listeners c.topic.key = c.handlers :=
      Table.handlers_eq_listeners orders.distinct inside
    rw [key, Option.getD_some, listed]
    cases hl : c.handlers with
    | nil => exact absurd hl (filled c inside)
    | cons first others =>
      cases handler with
      | ref f =>
        -- without the handler the topics are as before, so the channel is found where it was
        have topics :
            (s.table.withdraw c.topic.key f).map Channel.topic = s.table.map Channel.topic :=
          Table.topics_withdraw s.table c.topic.key f
        obtain ⟨s', w', settled, within', orders', result⟩ :=
          settle_law host (stands.putTable { s with table := s.table.withdraw c.topic.key f })
            (orders.of_topics topics) covered number ((position?_congr topics).trans found)
            ((key?_congr topics).trans key)
        refine ⟨s', w', ?_, within', orders', ?_⟩
        · simp only
          rw [bind_of_ok (modifyTable_run stands.emitter.inside _), stands.same]
          exact settled
        · simp [result, takenBack, key, Table.unsubscribe, listed, hl]
      | _ => exact ⟨s, u, rfl, stands, orders, by simp [takenBack, key]⟩

structure InOrder (law : Law r e p) (w : World) : Prop where
  within : law.Within (w.subscriptionsAt p) w
  orders : law.Orders (w.subscriptionsAt p)
  filled : ∀ c ∈ w.tableAt p, c.handlers ≠ []

theorem InOrder.of_within (within : law.Within s w) (orders : law.Orders s)
    (filled : ∀ c ∈ s.table, c.handlers ≠ []) : law.InOrder w := by
  obtain rfl := within.same
  exact ⟨within, orders, filled⟩

theorem InOrder.sound (order : law.InOrder w) : (w.tableAt p).Sound :=
  ⟨order.orders.distinct, order.filled⟩

theorem InOrder.aside (order : law.InOrder w) {w' : World}
    (within : law.Within (w.subscriptionsAt p) w') : law.InOrder w' :=
  .of_within within order.orders order.filled

theorem sound_takenBack (sound : s.table.Sound) (v handler : Value) :
    (law.takenBack s v handler).Sound := by
  unfold takenBack
  split
  · exact Table.sound_unsubscribe _ _ sound
  · exact sound

/-- `on` for an event that has a hash. -/
theorem on_law (order : law.InOrder w) (host : law.hosts h) (covered : law.covers v)
    (number : law.number v = some n) (callable : w.isCallable (.ref f) = true) :
    ∃ k w', on h (.object r) v (.ref f) w = .ok (.object r) w' ∧ law.InOrder w' ∧
      w'.tableAt p = (w.tableAt p).subscribe ⟨v, k⟩ f ∧
      law.key? (w'.subscriptionsAt p) v = some k := by
  obtain ⟨k, s', w', run, within, orders, table, key⟩ :=
    subscribeIn_law host order.within order.orders covered number f
  refine ⟨k, w', ?_, .of_within within orders ?_, ?_, ?_⟩
  · rw [on, bind_of_ok (get_run w)]
    simp only [callable, Bool.not_true, Bool.false_eq_true, if_false, bind_run,
      holder_eq order.within.emitter, run, pure_run]
  · rw [table]
    exact (Table.sound_subscribe ⟨v, k⟩ f order.sound).filled
  · rw [World.tableAt, within.same, table]
    rfl
  · rw [within.same, key]

theorem on_refused (order : law.InOrder w) (host : law.hosts h) (covered : law.covers v)
    (number : law.number v = none) (callable : w.isCallable (.ref f) = true) :
    ∃ fault w', on h (.object r) v (.ref f) w = .error fault w' ∧
      law.Within (w.subscriptionsAt p) w' := by
  obtain ⟨fault, w', refused, within⟩ := law.refuses host covered number order.within
  exact ⟨fault, w', on_unhashed order.within.emitter callable refused, within⟩

/-- `off` for an event that has a hash. -/
theorem off_law (order : law.InOrder w) (host : law.hosts h) (covered : law.covers v)
    (number : law.number v = some n) (handler : Value) :
    ∃ w', off h (.object r) v handler w = .ok (.object r) w' ∧ law.InOrder w' ∧
      w'.tableAt p = law.takenBack (w.subscriptionsAt p) v handler := by
  obtain ⟨s', w', run, within, orders, table⟩ :=
    unsubscribeIn_law host order.within order.orders order.filled covered number handler
  refine ⟨w', ?_, .of_within within orders ?_, ?_⟩
  · rw [off, bind_of_ok (holder_eq order.within.emitter)]
    exact bind_of_ok run
  · rw [table]
    exact (sound_takenBack order.sound v handler).filled
  · rw [World.tableAt, within.same, table]

theorem off_refused (order : law.InOrder w) (host : law.hosts h) (covered : law.covers v)
    (number : law.number v = none) (handler : Value) :
    ∃ fault w', off h (.object r) v handler w = .error fault w' ∧
      law.Within (w.subscriptionsAt p) w' := by
  obtain ⟨fault, w', refused, within⟩ := law.refuses host covered number order.within
  exact ⟨fault, w', off_unhashed order.within.emitter refused handler, within⟩

/-! Looking up -/

def listeners (law : Law r e p) (s : Subscriptions) (v : Value) : List Ref :=
  ((law.key? s v).map s.table.listeners).getD []

theorem handlersOf_law (order : law.InOrder w) (host : law.hosts h) (covered : law.covers v)
    (number : law.number v = some n) :
    ∃ w', handlersOf h (.object r) v w =
        .ok (.tuple 0 ((law.listeners (w.subscriptionsAt p) v).map .ref)) w' ∧
      law.Within (w.subscriptionsAt p) w' := by
  obtain ⟨k, w', names, within, topic⟩ :=
    topicIn_law host order.within order.orders covered number
  refine ⟨w', ?_, within⟩
  rw [handlersOf, bind_of_ok (holder_eq order.within.emitter)]
  simp only [bind_run, topic, get_run, pure_run, World.tableAt, within.same]
  cases found : law.key? (w.subscriptionsAt p) v with
  | some l => simp [listeners, found]
  | none =>
    have new := not_mem_of_apart host order.within order.orders names
      ((key?_eq_none order.orders).1 found)
    simp [listeners, found, Table.listeners_of_not_mem new]

/-! Closing channels -/

/-- Taking the channel of an event off the table leaves the emitter in order, also where the event
is refused. -/
theorem takeOff_law (order : law.InOrder w) (host : law.hosts h) (covered : law.covers v) :
    law.InOrder ((h.takeOff (.table p) v).after w) := by
  have within := order.within
  by_cases empty : (w.tableAt p).isEmpty = true
  · have done : h.takeOff (.table p) v w = .ok none w := by
      rw [Host.takeOff, bind_of_ok (get_run w), if_pos empty]
      rfl
    rwa [after_of_ok done]
  · rw [Host.takeOff, after_bind_of_ok (get_run w), if_neg empty]
    cases number : law.number v with
    | none =>
      obtain ⟨fault, w', refused, within'⟩ := topicIn_refused host within covered number
      rw [after_of_error (bind_of_error refused)]
      exact order.aside within'
    | some n =>
      obtain ⟨_, u, -, stands, topic⟩ := topicIn_law host within order.orders covered number
      rw [after_bind_of_ok topic]
      cases found : law.position? (w.subscriptionsAt p) v with
      | none => exact order.aside stands
      | some i =>
        obtain ⟨k, key, at_i⟩ := key?_of_position? found
        have table : u.tableAt p = w.tableAt p := congrArg Subscriptions.table stands.same
        obtain ⟨c, there, -⟩ : ∃ c, (w.tableAt p)[i]? = some c ∧ law.same c.topic.event v = true :=
          position?_eq_some found
        -- the entry that is given back shows the handlers in a new list
        obtain ⟨u', made⟩ :
            ∃ u' : World, u' = { u with lists := u.lists.push (c.handlers.map .ref) } :=
          ⟨_, rfl⟩
        have shown : Host.entryOf (.table p) i u =
            .ok (some (c.topic.event, .ref (.list u.lists.size))) u' := by
          rw [Host.entryOf, bind_of_ok (get_run u), made]
          simp only [table, there]
          rfl
        have stands' : law.Within (w.subscriptionsAt p) u' := made ▸ stands.pushList _
        obtain ⟨s', w', closed, within', orders', result⟩ :=
          shrinkTable_law stands' order.orders at_i
        simp only [key, Option.getD_some]
        rw [after_bind_of_ok shown, after_bind_of_ok closed, after_pure]
        refine .of_within within' orders' fun c found => ?_
        rw [result] at found
        exact order.filled c (List.mem_filter.1 found).1

theorem removeAll_law (order : law.InOrder w) (standard : w.Standard) (depth : Nat) :
    law.InOrder ((removeAllListeners (Host.ofDepth (depth + 1)) (.object r) .nothing).after w) := by
  obtain ⟨u, made⟩ : ∃ u, u = w.pushBound (.ref (.table p)) (.library (.holding .table .clear)) :=
    ⟨_, rfl⟩
  have within : law.Within (w.subscriptionsAt p) u := made ▸ order.within.pushBound _ _
  have sent := send_clear standard p depth
  rw [← made] at sent
  have emptied : (Host.ofDepth (depth + 1)).empty (.ref (.table p)) w = .ok () _ :=
    bind_of_ok (sent.trans (bind_of_ok (clearTable_eq within.emitter.inside)))
  rw [removeAllListeners, after_bind_of_ok (holder_eq order.within.emitter)]
  simp only [Value.isNothing, if_true]
  rw [after_bind_of_ok emptied, after_pure]
  exact .of_within (within.putTable _) (orders_empty _ (Slots.sound_emptied _)) (by simp)

/-- Closing the channel of one event leaves the emitter in order, also where the event is
refused. -/
theorem removeOne_law (order : law.InOrder w) (standard : w.Standard) {depth : Nat}
    (host : law.hosts (Host.ofDepth depth)) (covered : law.covers v)
    (something : v.isNothing = false) :
    law.InOrder ((removeAllListeners (Host.ofDepth (depth + 1)) (.object r) v).after w) := by
  have taken : law.InOrder (((Host.ofDepth depth).takeOff (.table p) v).after (popping w p)) :=
    takeOff_law (order.aside (order.within.pushBound _ _)) host covered
  rw [after, removeOne_run standard order.within.emitter something, bind_run]
  rw [after] at taken
  cases run : (Host.ofDepth depth).takeOff (.table p) v (popping w p) <;>
    simpa [run] using taken

/-! All states of an emitter -/

/-- The worlds that an emitter comes to from its creation on by `on`, `off` and
`remove_all_listeners` with events under a law; what else happens leaves the emitter alone and the
law in force. -/
inductive Reaches (law : Law r e p) : World → Prop where
  | opened {w : World} (inForce : law.inForce w) (emitter : w.IsEmitter r e p)
    (fresh : w.subscriptionsAt p = {}) : Reaches law w
  | subscribed {w : World} {h : Host} {event handler : Value} (before : Reaches law w)
    (host : law.hosts h) (covered : law.covers event) (callable : w.isCallable handler = true) :
    Reaches law ((on h (.object r) event handler).after w)
  | takenBack {w : World} {h : Host} {event : Value} (handler : Value) (before : Reaches law w)
    (host : law.hosts h) (covered : law.covers event) :
    Reaches law ((off h (.object r) event handler).after w)
  | cleared {w : World} (depth : Nat) (before : Reaches law w) (standard : w.Standard) :
    Reaches law ((removeAllListeners (Host.ofDepth (depth + 1)) (.object r) .nothing).after w)
  | closed {w : World} {event : Value} {depth : Nat} (before : Reaches law w)
    (standard : w.Standard)
    (host : law.hosts (Host.ofDepth depth)) (covered : law.covers event)
    (something : event.isNothing = false) :
    Reaches law ((removeAllListeners (Host.ofDepth (depth + 1)) (.object r) event).after w)
  | aside {w w' : World} (before : Reaches law w) (within : law.Within (w.subscriptionsAt p) w') :
    Reaches law w'

/-- An emitter is in order at all times. -/
theorem Reaches.inOrder (reaches : law.Reaches w) : law.InOrder w := by
  induction reaches with
  | opened inForce emitter fresh =>
    exact .of_within ⟨inForce, emitter, fresh⟩ (orders_empty _ (Slots.sound_empty true 0)) (by simp)
  | @subscribed w h event handler _ host covered callable order =>
    obtain ⟨f, rfl⟩ := World.exists_ref_of_isCallable callable
    cases number : law.number event with
    | none =>
      obtain ⟨fault, w', refused, within⟩ := on_refused order host covered number callable
      exact after_of_error refused ▸ order.aside within
    | some n =>
      obtain ⟨k, w', run, order', -⟩ := on_law order host covered number callable
      exact after_of_ok run ▸ order'
  | @takenBack w h event handler _ host covered order =>
    cases number : law.number event with
    | none =>
      obtain ⟨fault, w', refused, within⟩ := off_refused order host covered number handler
      exact after_of_error refused ▸ order.aside within
    | some n =>
      obtain ⟨w', run, order', -⟩ := off_law order host covered number handler
      exact after_of_ok run ▸ order'
  | cleared depth _ standard order => exact removeAll_law order standard depth
  | closed _ standard host covered something order =>
    exact removeOne_law order standard host covered something
  | aside _ within order => exact order.aside within

end Law

end Emitter

end EventTasks
