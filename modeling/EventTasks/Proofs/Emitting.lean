import EventTasks.Proofs.Accepting

/-!
The public operations of an emitter in order: what they tell is what its table holds, and whatever
is done by them leaves the emitter in order. Delivering an event calls the listeners that the table
holds when it begins, one after the other.
-/
namespace EventTasks

open Act

namespace Emitter

variable {h : Host} {w w' : World} {r e p : Nat} {event : Value} {k : Key}

/-! Asking -/

theorem handlersOf_eq (serves : w.Serves r e p) (plain : event.Plain w) (key : event.key = .ok k) :
    handlersOf h (.object r) event w =
      .ok (.tuple 0 (((w.tableAt p).listeners k).map .ref)) w := by
  have topic := Host.topicIn_eq (h := h) serves.sound.toKeyed serves.events plain key
  rw [handlersOf, bind_of_ok (holder_eq serves.emitter)]
  simp only [bind_run, topic, get_run, pure_run]

def Tells (h : Host) (w : World) (r : Nat) (event : Value) (found : List Ref) : Prop :=
  ∃ place w', Emitter.listeners h (.object r) event w = .ok (.ref (.list place)) w' ∧
    w'.lists[place]? = some (found.map .ref)

theorem tells (serves : w.Serves r e p) (plain : event.Plain w) (key : event.key = .ok k) :
    Tells h w r event ((w.tableAt p).listeners k) := by
  refine ⟨w.lists.size, { w with lists := w.lists.push (((w.tableAt p).listeners k).map .ref) },
    ?_, Array.getElem?_push_size⟩
  rw [Emitter.listeners, bind_of_ok (handlersOf_eq serves plain key)]
  rfl

/-! Delivering -/

inductive Calls (h : Host) (args : List Value) : List Ref → World → World → Prop where
  | nil (w : World) : Calls h args [] w w
  | cons {f : Ref} {fs : List Ref} {v : Value} {w w' w'' : World}
    (first : h.call (.ref f) args [] w = .ok v w') (rest : Calls h args fs w' w'') :
    Calls h args (f :: fs) w w''

def callEach (h : Host) (args : List Value) (handlers : List Value) : Act Unit :=
  handlers.forM fun f => do
    let _ ← h.call f args []

theorem callEach_cons (h : Host) (args : List Value) (f : Value) (fs : List Value) (w : World) :
    callEach h args (f :: fs) w = (h.call f args [] >>= fun _ => callEach h args fs) w := by
  rw [bind_run]
  show ((h.call f args [] >>= fun _ => pure ()) >>= fun _ => _) w = _
  rw [bind_run, bind_run]
  cases h.call f args [] w <;> rfl

theorem callEach_eq_ok {args : List Value} {fs : List Ref} :
    callEach h args (fs.map .ref) w = .ok () w' ↔ Calls h args fs w w' := by
  induction fs generalizing w with
  | nil =>
    constructor
    · intro run
      obtain ⟨-, rfl⟩ := EStateM.Result.ok.inj run
      exact .nil w
    · rintro ⟨⟩
      rfl
  | cons f fs ih =>
    rw [List.map_cons, callEach_cons, bind_eq_ok]
    constructor
    · rintro ⟨v, u, run, rest⟩
      exact .cons run (ih.1 rest)
    · rintro (_ | ⟨first, rest⟩)
      exact ⟨_, _, first, ih.2 rest⟩

theorem emit_run (serves : w.Serves r e p) (plain : event.Plain w) (key : event.key = .ok k)
    (args : List Value) : emit h (.object r) event args w =
      (callEach h args (((w.tableAt p).listeners k).map .ref) >>= fun _ =>
        pure (Value.flag !((w.tableAt p).listeners k).isEmpty)) w := by
  rw [emit, bind_of_ok (handlersOf_eq serves plain key), ← List.isEmpty_map]
  rfl

/-- `emit` calls the listeners of the event and tells whether there are any. -/
theorem emit_eq_ok (serves : w.Serves r e p) (plain : event.Plain w) (key : event.key = .ok k)
    {args : List Value} {v : Value} :
    emit h (.object r) event args w = .ok v w' ↔
      Calls h args ((w.tableAt p).listeners k) w w' ∧
        v = .flag !((w.tableAt p).listeners k).isEmpty := by
  rw [emit_run serves plain key, bind_eq_ok]
  constructor
  · rintro ⟨a, u, run, same⟩
    obtain ⟨rfl, rfl⟩ := EStateM.Result.ok.inj same
    exact ⟨callEach_eq_ok.1 run, rfl⟩
  · rintro ⟨calls, rfl⟩
    exact ⟨(), w', callEach_eq_ok.2 calls, rfl⟩

/-! Closing channels -/

theorem clearTable_eq (inside : p < w.tables.size) :
    Host.clearTable p w = .ok () (w.putTable p ⟨[], (w.subscriptionsAt p).slots.emptied⟩) :=
  modifyTable_run inside _

theorem sound_closed (serves : w.Serves r e p) {i : Nat}
    (at_i : ((w.tableAt p).map fun c => c.topic.key)[i]? = some k) :
    Subscriptions.Sound ⟨(w.tableAt p).close k, (w.subscriptionsAt p).slots.drop i⟩ where
  toKeyed := serves.sound.toKeyed.close at_i
  filled c found := serves.sound.filled c (List.mem_filter.1 found).1

theorem takeOff_eq (serves : w.Serves r e p) (plain : event.Plain w) (key : event.key = .ok k)
    (place : Nat) :
    ∃ found w', h.takeOff (.table p) event w = .ok found w' ∧ Keeps (.table place p) w w' ∧
      w'.Serves r e p ∧ w'.tableAt p = (w.tableAt p).close k := by
  by_cases empty : (w.tableAt p).isEmpty = true
  · refine ⟨none, w, ?_, .refl _ w, serves, ?_⟩
    · rw [Host.takeOff, bind_run]
      simp only [get_run, empty, if_true, pure_run]
    · rw [List.isEmpty_iff.1 empty]
      rfl
  · have topic := Host.topicIn_eq (h := h) serves.sound.toKeyed serves.events plain key
    cases hi : ((w.tableAt p).map fun c => c.topic.key).findIdx? fun l => l = k with
    | none =>
      have others : ∀ c ∈ w.tableAt p, c.topic.key ≠ k := by
        intro c found same
        simpa [same] using List.findIdx?_eq_none_iff.1 hi _ (List.mem_map_of_mem found)
      refine ⟨none, w, ?_, .refl _ w, serves, ?_⟩
      · rw [Host.takeOff, bind_run]
        simp only [get_run, empty, Bool.false_eq_true, if_false, bind_run, topic, hi, pure_run]
      · exact (List.filter_eq_self.2 fun c found => by simpa using others c found).symm
    | some i =>
      have at_i := getElem?_of_findIdx? hi
      obtain ⟨c, there, -⟩ : ∃ c, (w.tableAt p)[i]? = some c ∧ c.topic.key = k := by
        simpa [List.getElem?_map] using at_i
      -- the entry that is given back shows the handlers in a new list
      obtain ⟨u, made⟩ : ∃ u : World, u = { w with lists := w.lists.push (c.handlers.map .ref) } :=
        ⟨_, rfl⟩
      have shown : Host.entryOf (.table p) i w =
          .ok (some (c.topic.event, .ref (.list w.lists.size))) u := by
        rw [Host.entryOf, bind_run, made]
        simp only [get_run, there]
        rfl
      have kept : Keeps (.table place p) w u := made ▸ .pushList _
      have same : u.subscriptionsAt p = w.subscriptionsAt p := by rw [made]; rfl
      have serves' : u.Serves r e p := by
        refine ⟨kept.isEmitter (.inr ⟨id, id, id⟩) serves.emitter, same ▸ serves.sound,
          fun c hc => kept.plain.2 (serves.events c ?_)⟩
        rwa [World.tableAt, same] at hc
      have table : u.tableAt p = w.tableAt p := congrArg Subscriptions.table same
      have at_u : ((u.tableAt p).map fun c => c.topic.key)[i]? = some k := by rwa [table]
      have closed := shrinkTable_eq serves'.emitter.inside serves'.sound.distinct at_u
      refine ⟨some (.ref (.list w.lists.size)), _, ?_, kept.trans (.putTable rfl _),
        serves_putTable serves' (sound_closed serves' at_u) fun c found =>
          serves'.events c (List.mem_filter.1 found).1, ?_⟩
      · rw [Host.takeOff, bind_run]
        simp only [get_run, empty, Bool.false_eq_true, if_false, bind_run, topic, hi, shown, closed,
          pure_run, Option.map_some]
      · rw [World.tableAt, World.subscriptionsAt_putTable serves'.emitter.inside, table]

theorem definition?_table (standard : w.Standard) (op : HoldingOp) (closes : op ∈ [.clear, .pop]) :
    w.definition? Library.tableClass op.name =
        some (.function (.library (.holding .table op))) := by
  simp only [List.mem_cons, List.not_mem_nil, or_false] at closes
  rcases closes with rfl | rfl <;> exact standard.definition? (by decide) (by decide) (by decide)

theorem send_clear (standard : w.Standard) (p depth : Nat) :
    (Host.ofDepth (depth + 1)).send (.ref (.table p)) "clear" [] w =
      (Host.clearTable p >>= fun _ => pure Value.nothing)
        (w.pushBound (.ref (.table p)) (.library (.holding .table .clear))) :=
  Host.send_bound (w := w) (v := .ref (.table p)) rfl rfl rfl
    (definition?_table standard .clear (by simp)) depth _

theorem send_pop (standard : w.Standard) (p depth : Nat) (event : Value) :
    (Host.ofDepth (depth + 1)).send (.ref (.table p)) "pop" [event, .nothing] w =
      ((Host.ofDepth depth).takeOff (.table p) event >>= fun v => pure (v.getD .nothing))
        (w.pushBound (.ref (.table p)) (.library (.holding .table .pop))) :=
  Host.send_bound (w := w) (v := .ref (.table p)) rfl rfl rfl
    (definition?_table standard .pop (by simp)) depth _

theorem removeAll_eq (standard : w.Standard) (serves : w.Serves r e p) (depth place : Nat) :
    ∃ w', removeAllListeners (Host.ofDepth (depth + 1)) (.object r) .nothing w =
        .ok (.object r) w' ∧ Keeps (.table place p) w w' ∧ w'.Serves r e p ∧ w'.tableAt p = [] := by
  obtain ⟨u, made⟩ : ∃ u, u = w.pushBound (.ref (.table p)) (.library (.holding .table .clear)) :=
    ⟨_, rfl⟩
  have serves' : u.Serves r e p := made ▸ serves.of_keeps (.pushBound (s := .nothing e) _ _)
    (Scope.spares_nothing e e) id
  have sound : Subscriptions.Sound ⟨[], (u.subscriptionsAt p).slots.emptied⟩ :=
    ⟨⟨List.nodup_nil, by simp, Slots.sound_emptied _⟩, by simp⟩
  have cleared := clearTable_eq serves'.emitter.inside
  have sent := send_clear standard p depth
  rw [← made] at sent
  refine ⟨_, ?_, (made ▸ .pushBound _ _ : Keeps _ w u).trans (.putTable rfl _),
    serves_putTable serves' sound (by simp), ?_⟩
  · rw [removeAllListeners, bind_of_ok (holder_eq serves.emitter)]
    have emptied : (Host.ofDepth (depth + 1)).empty (.ref (.table p)) w = .ok () _ :=
      bind_of_ok (sent.trans (bind_of_ok cleared))
    exact bind_of_ok emptied
  · rw [World.tableAt, World.subscriptionsAt_putTable serves'.emitter.inside]

/-- The world once `pop` of a table has been looked up. -/
def popping (w : World) (p : Nat) : World :=
  w.pushBound (.ref (.table p)) (.library (.holding .table .pop))

theorem removeOne_run (standard : w.Standard) (emitter : w.IsEmitter r e p)
    (something : event.isNothing = false) (depth : Nat) :
    removeAllListeners (Host.ofDepth (depth + 1)) (.object r) event w =
      ((Host.ofDepth depth).takeOff (.table p) event >>= fun _ => pure (.object r))
        (popping w p) := by
  rw [removeAllListeners, bind_of_ok (holder_eq emitter)]
  simp only [something, Bool.false_eq_true, if_false]
  rw [bind_run, bind_run, send_pop standard, bind_run, popping]
  cases (Host.ofDepth depth).takeOff (.table p) event _ <;> rfl

theorem removeOne_eq (standard : w.Standard) (serves : w.Serves r e p) (plain : event.Plain w)
    (key : event.key = .ok k) (something : event.isNothing = false) (depth place : Nat) :
    ∃ w', removeAllListeners (Host.ofDepth (depth + 1)) (.object r) event w =
        .ok (.object r) w' ∧ Keeps (.table place p) w w' ∧ w'.Serves r e p ∧
      w'.tableAt p = (w.tableAt p).close k := by
  have kept : Keeps (.nothing e) w (popping w p) := .pushBound _ _
  obtain ⟨found, w', taken, kept', after, table⟩ := takeOff_eq (h := Host.ofDepth depth)
    (serves.of_keeps kept (Scope.spares_nothing e e) id) (kept.plain.2 plain) key place
  refine ⟨w', ?_, Keeps.trans (.pushBound _ _) kept', after, table⟩
  rw [removeOne_run standard serves.emitter something, bind_of_ok taken]
  rfl

theorem removeAllListeners_exhausted (standard : w.Standard) (emitter : w.IsEmitter r e p)
    (event : Value) :
    ∃ w', removeAllListeners (Host.ofDepth 0) (.object r) event w = .error .tooDeep w' ∧
      ∀ s, Keeps s w w' := by
  rw [removeAllListeners, bind_of_ok (holder_eq emitter)]
  cases event.isNothing with
  | true =>
    have failed := Host.send_bound_exhausted (w := w) (v := .ref (.table p)) rfl rfl rfl
      (definition?_table standard .clear (by simp)) []
    exact ⟨_, bind_of_error (bind_of_error failed), fun _ => .pushBound _ _⟩
  | false =>
    have failed := Host.send_bound_exhausted (w := w) (v := .ref (.table p)) rfl rfl rfl
      (definition?_table standard .pop (by simp)) [event, .nothing]
    exact ⟨_, bind_of_error failed, fun _ => .pushBound _ _⟩

/-! All states of an emitter -/

/-- The worlds that an emitter comes to from its creation on by `on`, `off` and
`remove_all_listeners`, with plain events. -/
inductive Reachable (r e p : Nat) : World → Prop where
  | opened {w : World} (emitter : w.IsEmitter r e p) (fresh : w.subscriptionsAt p = {}) :
    Reachable r e p w
  | subscribed {w w' : World} {h : Host} {event v : Value} {f : Ref} (before : Reachable r e p w)
    (plain : event.Plain w) (run : on h (.object r) event (.ref f) w = .ok v w') :
    Reachable r e p w'
  | takenBack {w w' : World} {h : Host} {event v : Value} {f : Ref} (before : Reachable r e p w)
    (plain : event.Plain w) (run : off h (.object r) event (.ref f) w = .ok v w') :
    Reachable r e p w'
  | closed {w w' : World} {event v : Value} {k : Key} {depth : Nat} (before : Reachable r e p w)
    (standard : w.Standard) (plain : event.Plain w) (key : event.key = .ok k)
    (run : removeAllListeners (Host.ofDepth depth) (.object r) event w = .ok v w') :
    Reachable r e p w'
  | aside {s : Scope} {w w' : World} (before : Reachable r e p w) (kept : Keeps s w w')
    (spares : s.Spares e) (tables : ¬ s.tables p) : Reachable r e p w'

theorem isCallable_of_on {v : Value} {f : Ref}
    (run : on h (.object r) event (.ref f) w = .ok v w') :
    w.isCallable (.ref f) = true := by
  by_contra refused
  rw [on, bind_run] at run
  simp only [get_run, refused, Bool.not_false, if_true, bind_run] at run
  cases told : h.describe event w <;> simp [told] at run

theorem key_of_on {v : Value} {f : Ref} (serves : w.Serves r e p) (plain : event.Plain w)
    (run : on h (.object r) event (.ref f) w = .ok v w') : ∃ k, event.key = .ok k := by
  cases key : event.key with
  | ok k => exact ⟨k, rfl⟩
  | error kind => simp [on_unhashable serves.emitter plain key (isCallable_of_on run)] at run

theorem key_of_off {v : Value} {f : Ref} (serves : w.Serves r e p) (plain : event.Plain w)
    (run : off h (.object r) event (.ref f) w = .ok v w') : ∃ k, event.key = .ok k := by
  cases key : event.key with
  | ok k => exact ⟨k, rfl⟩
  | error kind => simp [off_unhashable serves.emitter plain key (.ref f)] at run

/-- An emitter is in order at all times. -/
theorem Reachable.serves (reachable : Reachable r e p w) : w.Serves r e p := by
  induction reachable with
  | opened emitter fresh =>
    refine ⟨emitter, ?_, ?_⟩
    · rw [fresh]
      exact ⟨⟨List.nodup_nil, by simp, Slots.sound_empty true 0⟩, by simp⟩
    · intro c found
      simp [World.tableAt, fresh] at found
  | subscribed _ plain run serves =>
    obtain ⟨k, key⟩ := key_of_on serves plain run
    obtain ⟨u, done, -, serves', -⟩ := on_eq serves plain key (isCallable_of_on run) 0
    obtain ⟨-, rfl⟩ := EStateM.Result.ok.inj (run.symm.trans done)
    exact serves'
  | @takenBack _ _ _ _ _ f _ plain run serves =>
    obtain ⟨k, key⟩ := key_of_off serves plain run
    obtain ⟨u, done, -, serves', -⟩ := off_eq serves plain key f 0
    obtain ⟨-, rfl⟩ := EStateM.Result.ok.inj (run.symm.trans done)
    exact serves'
  | @closed w w' event v k depth _ standard plain key run serves =>
    cases depth with
    | zero =>
      obtain ⟨u, failed, -⟩ := removeAllListeners_exhausted standard serves.emitter event
      simp [failed] at run
    | succ depth =>
      cases something : event.isNothing with
      | true =>
        obtain rfl : event = .nothing := by
          cases event <;> simp [Value.isNothing] at something ⊢
        obtain ⟨u, done, -, serves', -⟩ := removeAll_eq standard serves depth 0
        obtain ⟨-, rfl⟩ := EStateM.Result.ok.inj (run.symm.trans done)
        exact serves'
      | false =>
        obtain ⟨u, done, -, serves', -⟩ := removeOne_eq standard serves plain key something depth 0
        obtain ⟨-, rfl⟩ := EStateM.Result.ok.inj (run.symm.trans done)
        exact serves'
  | aside _ kept spares tables serves => exact serves.of_keeps kept spares tables

end Emitter

end EventTasks
