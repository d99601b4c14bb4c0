import EventTasks.Proofs.Dating
import EventTasks.Proofs.Delivery

/-!
What an emitter answers to each operation, also when it refuses one: a handler that cannot be
called, or an event that cannot be looked up. What it tells is what its table holds, and a refusal
leaves the table alone.
-/
namespace EventTasks

open Act

namespace Emitter

variable {h : Host} {w w' : World} {r e p : Nat} {event : Value} {k : Key} {kind : String}

/-! What is refused, and what changes nothing -/

/-- A handler that cannot be called is refused, and all that is done is to describe the event. -/
theorem on_not_callable {handler : Value} (refused : w.isCallable handler = false) :
    on h (.object r) event handler w =
      (h.describe event >>= fun text => throw (.listenerNotCallable text)) w := by
  rw [on, bind_run]
  simp only [get_run, refused, Bool.not_false, if_true]
  rw [bind_run, bind_run]
  cases h.describe event w <;> rfl

theorem after_on_not_callable {handler : Value} (refused : w.isCallable handler = false) :
    (on h (.object r) event handler).after w = (h.describe event).after w := by
  simp only [after, on_not_callable refused, bind_run]
  cases h.describe event w <;> rfl

theorem handlersOf_unhashed {fault : Fault} {u : World} (emitter : w.IsEmitter r e p)
    (failed : h.numberOf event w = .error fault u) :
    handlersOf h (.object r) event w = .error fault u := by
  rw [handlersOf, bind_of_ok (holder_eq emitter)]
  exact bind_of_error (Host.topicIn_unhashed failed)

/-- A call of an emitter that asks an event for its hash before it does anything else, with the host
and the world in which it asks. -/
inductive Asks (r p : Nat) (event : Value) (w : World) : Act Value → Host → World → Prop where
  | on {h : Host} {handler : Value} (callable : w.isCallable handler = true) :
    Asks r p event w (on h (.object r) event handler) h w
  | off {h : Host} (handler : Value) : Asks r p event w (off h (.object r) event handler) h w
  | emit {h : Host} (args : List Value) :
    Asks r p event w (Emitter.emit h (.object r) event args) h w
  | listeners {h : Host} : Asks r p event w (listeners h (.object r) event) h w
  | count {h : Host} : Asks r p event w (listenerCount h (.object r) event) h w
  | close {depth : Nat} (something : event.isNothing = false)
    (full : (w.tableAt p).isEmpty = false) :
    Asks r p event w (removeAllListeners (Host.ofDepth (depth + 1)) (.object r) event)
      (Host.ofDepth depth) (popping w p)

/-- Such a call fails where the hash fails, and then it has done no more than ask for it. -/
theorem Asks.fails {call : Act Value} {v u : World} {fault : Fault}
    (asks : Asks r p event w call h v) (standard : w.Standard) (emitter : w.IsEmitter r e p)
    (failed : h.numberOf event v = .error fault u) : call w = .error fault u := by
  cases asks with
  | on callable =>
    obtain ⟨f, rfl⟩ := World.exists_ref_of_isCallable callable
    exact on_unhashed emitter callable failed
  | off handler => exact off_unhashed emitter failed handler
  | emit args => exact bind_of_error (handlersOf_unhashed emitter failed)
  | listeners => exact bind_of_error (handlersOf_unhashed emitter failed)
  | count => exact bind_of_error (handlersOf_unhashed emitter failed)
  | @close depth something full =>
    have full : ((popping w p).tableAt p).isEmpty = false := full
    rw [removeOne_run standard emitter something]
    refine bind_of_error ?_
    rw [Host.takeOff, bind_of_ok (get_run _), if_neg (by simp [full])]
    exact bind_of_error (Host.topicIn_unhashed failed)

/-- Where there is no channel, `remove_all_listeners` does not look at the event. -/
theorem removeOne_empty (standard : w.Standard) (emitter : w.IsEmitter r e p)
    (something : event.isNothing = false) (empty : (w.tableAt p).isEmpty = true) (depth : Nat) :
    removeAllListeners (Host.ofDepth (depth + 1)) (.object r) event w =
      .ok (.object r) (popping w p) := by
  have untaken : (Host.ofDepth depth).takeOff (.table p) event (popping w p) =
      .ok none (popping w p) := by
    have empty : ((popping w p).tableAt p).isEmpty = true := empty
    rw [Host.takeOff, bind_of_ok (get_run _), if_pos empty]
    rfl
  rw [removeOne_run standard emitter something, bind_of_ok untaken]
  rfl

theorem handlersOf_unhashable (emitter : w.IsEmitter r e p) (plain : event.Plain w)
    (key : event.key = .error kind) :
    handlersOf h (.object r) event w = .error (.unhashable kind) w :=
  handlersOf_unhashed emitter (Host.numberOf_unhashable plain key)

theorem emit_unhashable (emitter : w.IsEmitter r e p) (plain : event.Plain w)
    (key : event.key = .error kind) (args : List Value) :
    Emitter.emit h (.object r) event args w = .error (.unhashable kind) w :=
  bind_of_error (handlersOf_unhashable emitter plain key)

theorem listeners_unhashable (emitter : w.IsEmitter r e p) (plain : event.Plain w)
    (key : event.key = .error kind) :
    listeners h (.object r) event w = .error (.unhashable kind) w :=
  bind_of_error (handlersOf_unhashable emitter plain key)

theorem listenerCount_unhashable (emitter : w.IsEmitter r e p) (plain : event.Plain w)
    (key : event.key = .error kind) :
    listenerCount h (.object r) event w = .error (.unhashable kind) w :=
  bind_of_error (handlersOf_unhashable emitter plain key)

/-- A channel that no event can have is not closed. An empty table does not even look at it, and any
other one refuses it. -/
theorem removeOne_unhashable (standard : w.Standard) (emitter : w.IsEmitter r e p)
    (plain : event.Plain w) (key : event.key = .error kind) (depth : Nat) :
    ∃ u, (∀ s, Keeps s w u) ∧
      removeAllListeners (Host.ofDepth (depth + 1)) (.object r) event w =
        if (w.tableAt p).isEmpty then .ok (.object r) u else .error (.unhashable kind) u := by
  have something : event.isNothing = false := by
    cases event with
    | nothing => cases key
    | _ => rfl
  have kept (s : Scope) : Keeps s w (popping w p) := .pushBound _ _
  refine ⟨popping w p, kept, ?_⟩
  cases full : (w.tableAt p).isEmpty with
  | true => exact removeOne_empty standard emitter something full depth
  | false =>
    exact (Asks.close something full).fails standard emitter
      (Host.numberOf_unhashable ((kept (.nothing e)).plain.2 plain) key)

theorem off_not_ref (serves : w.Serves r e p) (plain : event.Plain w) (key : event.key = .ok k)
    {handler : Value} (other : ∀ f, handler ≠ .ref f) :
    off h (.object r) event handler w = .ok (.object r) w := by
  have topic := Host.topicIn_eq (h := h) serves.sound.toKeyed serves.events plain key
  have done : unsubscribeIn h p event handler w = .ok () w := by
    rw [unsubscribeIn, bind_run, topic]
    simp only [bind_run, get_run]
    generalize List.findIdx? _ _ = position, (w.tableAt p).listeners k = handlers
    cases handler with
    | ref f => exact absurd rfl (other f)
    | _ => cases position <;> cases handlers <;> rfl
  rw [off, bind_of_ok (holder_eq serves.emitter)]
  exact bind_of_ok done

/-- Taking back a handler that does not listen changes nothing that the emitter tells. -/
theorem off_absent (serves : w.Serves r e p) (plain : event.Plain w) (key : event.key = .ok k)
    {handler : Value} (absent : ∀ f, handler = .ref f → f ∉ (w.tableAt p).listeners k) :
    ∃ w', off h (.object r) event handler w = .ok (.object r) w' ∧
      w'.tableAt p = w.tableAt p := by
  by_cases shape : ∃ f, handler = .ref f
  · obtain ⟨f, rfl⟩ := shape
    obtain ⟨w', run, -, -, table⟩ := off_eq (h := h) serves plain key f 0
    exact ⟨w', run, table.trans (Table.unsubscribe_of_not_mem (absent f rfl))⟩
  · exact ⟨w, off_not_ref serves plain key fun f same => shape ⟨f, same⟩, rfl⟩

theorem listeners_run (serves : w.Serves r e p) (plain : event.Plain w) (key : event.key = .ok k) :
    listeners h (.object r) event w = .ok (.ref (.list w.lists.size))
      { w with lists := w.lists.push (((w.tableAt p).listeners k).map .ref) } := by
  rw [listeners, bind_of_ok (handlersOf_eq serves plain key)]
  rfl

theorem listenerCount_run (serves : w.Serves r e p) (plain : event.Plain w)
    (key : event.key = .ok k) :
    listenerCount h (.object r) event w =
      .ok (.number (((w.tableAt p).listeners k).length : Nat)) w := by
  rw [listenerCount, bind_of_ok (handlersOf_eq serves plain key)]
  simp [Host.size, Host.size?, World.ownSize?, bind_run]

theorem eventNames_run (emitter : w.IsEmitter r e p) :
    eventNames h (.object r) w = .ok (.ref (.list w.lists.size))
      { w with lists := w.lists.push (w.tableAt p).events } := by
  rw [eventNames, bind_of_ok (holder_eq emitter)]
  rfl

/-- The world that an emission leaves is the one that the calls of its listeners leave. -/
theorem after_emit (serves : w.Serves r e p) (plain : event.Plain w) (key : event.key = .ok k)
    (args : List Value) :
    (Emitter.emit h (.object r) event args).after w =
      (callEach h args (((w.tableAt p).listeners k).map .ref)).after w := by
  have whole := (emit_eq h (.object r) event args w).trans
    (bind_of_ok (snapshot_eq (h := h) serves plain key))
  rw [after, after, whole, bind_run]
  cases callEach h args (((w.tableAt p).listeners k).map .ref) w <;> rfl

/-! Closing channels -/

/-- What `remove_all_listeners` does: without depth it fails; nothing closes all channels, an event
with a key closes its own, and an unhashable event is refused unless there is no channel at all. -/
inductive Closes (r p : Nat) (event : Value) (w : World) :
    Nat → EStateM.Result Fault World Value → World → Prop where
  | exhausted {u : World} (same : u.tableAt p = w.tableAt p) :
    Closes r p event w 0 (.error .tooDeep u) u
  | all {u : World} {depth : Nat} (nothing : event.isNothing = true) (empty : u.tableAt p = []) :
    Closes r p event w (depth + 1) (.ok (.object r) u) u
  | one {u : World} {depth : Nat} {k : Key} (something : event.isNothing = false)
    (key : event.key = .ok k) (closed : u.tableAt p = (w.tableAt p).close k) :
    Closes r p event w (depth + 1) (.ok (.object r) u) u
  | none {u : World} {depth : Nat} {kind : String} (key : event.key = .error kind)
    (same : u.tableAt p = w.tableAt p) :
    Closes r p event w (depth + 1)
      (if (w.tableAt p).isEmpty then .ok (.object r) u else .error (.unhashable kind) u) u

theorem Closes.fewer {depth : Nat} {result : EStateM.Result Fault World Value}
    (closes : Closes r p event w depth result w') : (w'.tableAt p).Fewer (w.tableAt p) := by
  cases closes with
  | exhausted same => exact same ▸ .refl _
  | all nothing empty => exact empty ▸ Table.fewer_nil _
  | one something key closed => exact closed ▸ Table.fewer_close _ _
  | none key same => exact same ▸ .refl _

/-- If it is refused, all channels stay. -/
theorem Closes.refused {depth : Nat} {fault : Fault} {result : EStateM.Result Fault World Value}
    (closes : Closes r p event w depth result w') (failed : result = .error fault w') :
    w'.tableAt p = w.tableAt p := by
  cases closes with
  | exhausted same => exact same
  | all => cases failed
  | one => cases failed
  | none key same => exact same

/-- `remove_all_listeners` leaves the emitter in order, also where it is refused. -/
theorem closes (standard : w.Standard) (serves : w.Serves r e p) (plain : event.Plain w)
    (depth place : Nat) :
    ∃ u, (removeAllListeners (Host.ofDepth depth) (.object r) event).after w = u ∧
      Keeps (.table place p) w u ∧ u.Serves r e p ∧ Closes r p event w depth
        (removeAllListeners (Host.ofDepth depth) (.object r) event w) u := by
  have refused {u : World} (kept : ∀ s, Keeps s w u) :
      u.Serves r e p ∧ u.tableAt p = w.tableAt p :=
    ⟨serves.of_keeps (kept (.nothing e)) (Scope.spares_nothing e e) id,
      congrArg Subscriptions.table ((kept (.nothing e)).subscriptionsAt serves.emitter.inside id)⟩
  cases depth with
  | zero =>
    obtain ⟨u, failed, kept⟩ := removeAllListeners_exhausted standard serves.emitter event
    obtain ⟨serves', same⟩ := refused kept
    exact ⟨u, after_of_error failed, kept _, serves', failed ▸ .exhausted same⟩
  | succ depth =>
    cases something : event.isNothing with
    | true =>
      obtain rfl : event = .nothing := by
        cases event <;> simp [Value.isNothing] at something ⊢
      obtain ⟨u, done, kept, serves', empty⟩ := removeAll_eq standard serves depth place
      exact ⟨u, after_of_ok done, kept, serves', done ▸ .all something empty⟩
    | false =>
      cases key : event.key with
      | ok k =>
        obtain ⟨u, done, kept, serves', closed⟩ :=
          removeOne_eq standard serves plain key something depth place
        exact ⟨u, after_of_ok done, kept, serves', done ▸ .one something key closed⟩
      | error kind =>
        obtain ⟨u, kept, done⟩ := removeOne_unhashable standard serves.emitter plain key depth
        obtain ⟨serves', same⟩ := refused kept
        refine ⟨u, ?_, kept _, serves', done ▸ .none key same⟩
        rw [after, done]
        cases List.isEmpty (w.tableAt p) <;> rfl

end Emitter

end EventTasks
