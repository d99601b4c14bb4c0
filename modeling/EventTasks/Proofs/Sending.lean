import EventTasks.Proofs.Iterating
import EventTasks.Proofs.Reading
import EventTasks.Proofs.Subscribing
import EventTasks.Script.Session

/-!
Calling the library through a host, setting attributes, and subscribing at an emitter object: a host
with some depth left answers a method of the library by the operation itself, over the host below
it. An emitter in order is one whose ways of subscribing are the library's and whose table is its
own.
-/
namespace EventTasks

open Act

def World.pushBound (w : World) (v : Value) (f : Function) : World :=
  { w with bound := w.bound.push (v, f) }

theorem Keeps.pushBound {s : Scope} {w : World} (v : Value) (f : Function) :
    Keeps s w (w.pushBound v f) := .of_eq rfl rfl rfl (.refl _) (.refl _ _) rfl rfl rfl rfl

theorem Rests.pushBound {s : Scope} {w : World} (v : Value) (f : Function) :
    Rests s w (w.pushBound v f) := ⟨.pushBound v f, .of_eq rfl, rfl, rfl, rfl, rfl⟩

def World.counted (w : World) (i : Nat) (n : Note) : World :=
  { w with
    functions := w.functions.modify i fun k =>
      { k with behaviour := Script.Behaviour.called k.behaviour }
    notes := n :: w.notes }

theorem Keeps.counted {s : Scope} {w : World} (i : Nat) (n : Note) : Keeps s w (w.counted i n) :=
  .of_eq rfl rfl rfl (functionsKept_modify _ i) (.refl _ _) rfl rfl rfl rfl

namespace Host

variable {h : Host} {w : World}

/-- A function of a class body that does not call the next class runs its routine, on the arguments
behind its subject. -/
theorem call_scripted {i : Nat} {k : FunctionInfo} {args rest : List Value}
    (there : w.functions[i]? = some k) (inherits : k.behaviour.routine.inherits = false)
    (front : k.form = .free ∧ args = rest ∨ k.form = .method ∧ ∃ self, args = self :: rest)
    (depth : Nat) :
    ∃ n, (ofDepth (depth + 1)).call (.function (.scripted i)) args [] w =
      Script.runRoutine (ofDepth depth) k.behaviour.routine (k.behaviour.runs + 1) none rest
        (w.counted i n) := by
  have scripted : (ofDepth (depth + 1)).call (.function (.scripted i)) args [] w =
      Script.callScripted (ofDepth depth) i args w := rfl
  obtain ⟨u, made⟩ : ∃ u : World, u = { w with
    functions := w.functions.modify i fun k =>
      { k with behaviour := Script.Behaviour.called k.behaviour } } := ⟨_, rfl⟩
  have counts : Script.callScripted.countRun i w = .ok (k.behaviour.runs + 1) u := by
    rw [Script.callScripted.countRun, modifyGet_run, made]
    simp [there]
  rcases front with ⟨form, rfl⟩ | ⟨form, self, rfl⟩
  · refine ⟨.method k.qualifiedName none (args.map u.view), ?_⟩
    rw [scripted, Script.callScripted, bind_of_ok (get_run w)]
    simp only [there, form]
    rw [bind_of_ok counts, bind_of_ok (get_run u)]
    exact made ▸ rfl
  · refine ⟨.method k.qualifiedName (some (u.view self)) (rest.map u.view), ?_⟩
    rw [scripted, Script.callScripted, bind_of_ok (get_run w)]
    simp only [there, form, inherits, Bool.false_eq_true, if_false, if_true]
    rw [bind_of_ok (pure_run none w), bind_of_ok counts, bind_of_ok (get_run u)]
    exact made ▸ rfl

theorem call_exhausted (v : Value) (args : List Value) (named : List (String × Value)) :
    (ofDepth 0).call v args named w = .error .tooDeep w := rfl

theorem call_method (depth stamp i : Nat) (op : Operation) (args : List Value) :
    (ofDepth (depth + 1)).call (.ref (.method stamp (.object i) (.library op))) args [] w =
      Calling.library (ofDepth depth) op true (.object i :: args) [] w := rfl

theorem call_bound {place : Nat} {self : Value} {op : Operation}
    (there : w.bound[place]? = some (self, .library op)) (depth : Nat) (args : List Value) :
    (ofDepth (depth + 1)).call (.ref (.bound place)) args [] w =
      Calling.library (ofDepth depth) op true (self :: args) [] w := by
  show Script.callValue (ofDepth depth) (.ref (.bound place)) args [] w = _
  rw [Script.callValue, bind_run]
  simp only [get_run, there]
  rfl

theorem send_means {i : Nat} {n : String} {op : Operation} (usual : w.ReadsUsually i)
    (means : w.Means i n (.library op)) (depth : Nat) (args : List Value) :
    (ofDepth (depth + 1)).send (.object i) n args w =
      Calling.library (ofDepth depth) op true (.object i :: args) [] w.later := by
  rw [send, bind_run, attr_means usual means]
  exact call_method depth _ i op args

theorem send_means_exhausted {i : Nat} {n : String} {f : Function} (usual : w.ReadsUsually i)
    (means : w.Means i n f) (args : List Value) :
    (ofDepth 0).send (.object i) n args w = .error .tooDeep w.later := by
  rw [send, bind_run, attr_means usual means]
  rfl

/-! Methods of what is neither an object nor a class -/

section bound

variable {v : Value} {n : String} {op : Operation}

theorem attr_bound (h : Host) (object : v.objectPlace? = none) (cls : v.classPlace? = none)
    (fact : ownFact? v n = none)
    (entry : w.definition? (w.classOf v) n = some (.function (.library op))) :
    h.attr v n w = .ok (.ref (.bound w.bound.size)) (w.pushBound v (.library op)) := by
  have usual : h.attr v n w = h.usualAttribute v n w := by
    cases v with
    | ref r =>
      cases r with
      | subject t => cases t <;> simp [Value.objectPlace?, Value.classPlace?] at object cls
      | _ => rfl
    | _ => rfl
  have made : bindTo v (.library op) w =
      .ok (.ref (.bound w.bound.size)) (w.pushBound v (.library op)) := by
    cases v with
    | ref r =>
      cases r with
      | subject t => cases t <;> simp [Value.objectPlace?, Value.classPlace?] at object cls
      | _ => rfl
    | _ => rfl
  rw [usual, usualAttribute, bind_run]
  simp only [get_run, object, cls, fact, entry]
  exact made

theorem send_bound (object : v.objectPlace? = none) (cls : v.classPlace? = none)
    (fact : ownFact? v n = none)
    (entry : w.definition? (w.classOf v) n = some (.function (.library op))) (depth : Nat)
    (args : List Value) :
    (ofDepth (depth + 1)).send v n args w =
      Calling.library (ofDepth depth) op true (v :: args) [] (w.pushBound v (.library op)) := by
  rw [send, bind_of_ok (attr_bound _ object cls fact entry)]
  exact call_bound Array.getElem?_push_size depth args

theorem send_bound_exhausted (object : v.objectPlace? = none) (cls : v.classPlace? = none)
    (fact : ownFact? v n = none)
    (entry : w.definition? (w.classOf v) n = some (.function (.library op))) (args : List Value) :
    (ofDepth 0).send v n args w = .error .tooDeep (w.pushBound v (.library op)) := by
  rw [send, bind_of_ok (attr_bound _ object cls fact entry), call_exhausted]

end bound

end Host

/-! Setting attributes -/

namespace World

def putText (w : World) (place : Nat) (n : String) (v : Value) : World :=
  { w with dicts := w.dicts.modify place (·.setText n v) }

structure Settable (w : World) (i : Nat) (n : String) : Prop where
  always : w.hook? (w.objectClassOf i) "__setattr__" = none
  above : ∀ e, w.definition? (w.objectClassOf i) n = some e → w.decidesChange e = false

variable {w : World} {i place : Nat} {n m : String} {v : Value}

theorem dictAt_putText (inside : place < w.dicts.size) :
    (w.putText place n v).dictAt place = (w.dictAt place).setText n v := by
  simp [putText, dictAt, inside, Array.getElem_modify]

theorem Holds.putText (holds : w.Holds i place) (q : Nat) (n : String) (v : Value) :
    (w.putText q n v).Holds i place :=
  ⟨holds.held, by simpa [World.putText] using holds.inside⟩

theorem Settable.shows (settable : w.Settable i n) (own : (w.attributesOf i).text? n = some v) :
    w.Shows i n v := by
  refine .inl ⟨own, fun e he => ?_⟩
  have undecided : w.decidesChange e = false := settable.above e he
  unfold comesFirst
  cases e.objectPlace? <;> simp [undecided]

theorem shows_putText (holds : w.Holds i place) (settable : w.Settable i n) (v : Value) :
    (w.putText place n v).Shows i n v := by
  refine Settable.shows (w := w.putText place n v) ⟨settable.always, settable.above⟩ ?_
  rw [(holds.putText place n v).attributesOf_eq, dictAt_putText holds.inside,
    Dictionary.text?_setText, if_pos rfl]

end World

theorem Keeps.putText {s : Scope} {w : World} {n : String} (hn : s.names n) (v : Value) :
    Keeps s w (w.putText s.place n v) := .setText hn v

theorem Rests.putText {s : Scope} {w : World} {n : String} (hn : s.names n) (v : Value) :
    Rests s w (w.putText s.place n v) := ⟨.putText hn v, .of_eq rfl, rfl, rfl, rfl, rfl⟩

theorem Keeps.settable {s : Scope} {w w' : World} {i : Nat} {n : String} (kept : Keeps s w w')
    (hn : n ≠ "__annotations__") (settable : w.Settable i n) : w'.Settable i n := by
  refine ⟨?_, fun e he => ?_⟩
  · rw [kept.objectClassOf, kept.hook? (by decide)]
    exact settable.always
  · rw [kept.objectClassOf, kept.definition? hn] at he
    rw [kept.decidesChange]
    exact settable.above e he

/-- An object is changed in its own attributes where no entry of its class decides. -/
theorem Host.change_own {h : Host} {w : World} {i place : Nat} {n : String}
    (holds : w.Holds i place)
    (above : ∀ e, w.definition? (w.objectClassOf i) n = some e → w.decidesChange e = false)
    (new : Option Value) :
    h.change (.object i) n new w = (match new with
      | some x => modifyDict place (·.setText n x)
      | none =>
        if ((w.dictAt place).text? n).isSome then modifyDict place (·.dropText n)
        else throw (Fault.unsettable (w.kindOf (.object i)) n)) w := by
  have own : h.change (.object i) n new w = changeOwn (.object i) n new w := by
    rw [Host.change, bind_run]
    simp only [get_run]
    cases he : w.definition? (w.classOf (.object i)) n with
    | none => rfl
    | some e => simp only [above e he, Bool.false_eq_true, if_false]
  rw [own, changeOwn, bind_run]
  cases new <;> simp only [get_run, Value.object, Value.objectPlace?, Option.bind_some,
    World.attributes?, holds.held, Option.map_some]

theorem Host.assign_settable {h : Host} {w : World} {i place : Nat} {n : String} {v : Value}
    (holds : w.Holds i place) (settable : w.Settable i n) :
    h.assign (.object i) n v w = .ok () (w.putText place n v) := by
  have always : w.hookOf? (.object i) "__setattr__" = none := settable.always
  show (h.ask? (.object i) "__setattr__" [.word n, v] >>= _) w = _
  rw [bind_run, ask?_of_none always]
  exact change_own holds settable.above (some v)

/-! Emitters -/

namespace Table

theorem mem_topics_subscribe {t : Table} {topic : Topic} {h : Ref} {c : Channel}
    (found : c ∈ t.subscribe topic h) : c.topic = topic ∨ ∃ d ∈ t, d.topic = c.topic := by
  by_cases old : topic.key ∈ t.map fun c => c.topic.key
  · right
    have inside : c.topic ∈ t.map Channel.topic :=
      topics_subscribe_of_mem topic h old ▸ List.mem_map_of_mem found
    exact List.mem_map.1 inside
  · rw [subscribe_of_not_mem h old] at found
    rcases List.mem_append.1 found with found | found
    · exact .inr ⟨c, found, rfl⟩
    · obtain rfl := List.mem_singleton.1 found
      exact .inl rfl

theorem mem_topics_unsubscribe {t : Table} {k : Key} {h : Ref} {c : Channel}
    (found : c ∈ t.unsubscribe k h) : ∃ d ∈ t, d.topic = c.topic := by
  have withdrawn : c ∈ t.withdraw k h → ∃ d ∈ t, d.topic = c.topic := fun found =>
    List.mem_map.1 (topics_withdraw t k h ▸ List.mem_map_of_mem found)
  unfold unsubscribe at found
  split at found
  · exact ⟨c, found, rfl⟩
  · unfold settle at found
    split at found
    · exact withdrawn (List.mem_filter.1 found).1
    · exact withdrawn found

end Table

/-- The object at `r` is an `EventEmitter` with its attributes at `e` and its table at `p`, whose
`on` and `off` are the library's. -/
structure World.IsEmitter (w : World) (r e p : Nat) : Prop where
  usual : w.ReadsUsually r
  holds : w.Holds r e
  table : w.Shows r Emitter.tableName (.ref (.table p))
  inside : p < w.tables.size
  on : w.Means r "on" (.library (.emitter .on))
  off : w.Means r "off" (.library (.emitter .off))
  cls : w.definition? (w.objectClassOf r) "__class__" =
    some (.ref (.aspect Library.objectClass .cls))

/-- An emitter in order with plain events, none of whose channels is empty. -/
structure World.Serves (w : World) (r e p : Nat) : Prop where
  emitter : w.IsEmitter r e p
  sound : (w.subscriptionsAt p).Sound
  events : w.EventsPlain p

def Scope.Spares (s : Scope) (e : Nat) : Prop :=
  e ≠ s.place ∨ (¬ s.names Emitter.tableName ∧ ¬ s.names "on" ∧ ¬ s.names "off")

theorem Scope.spares_nothing (d e : Nat) : (Scope.nothing d).Spares e := .inr ⟨id, id, id⟩

theorem Keeps.isEmitter {s : Scope} {w w' : World} {r e p : Nat} (kept : Keeps s w w')
    (spares : s.Spares e) (emitter : w.IsEmitter r e p) : w'.IsEmitter r e p where
  usual := kept.readsUsually emitter.usual
  holds := kept.holds emitter.holds
  table := kept.shows emitter.holds (spares.imp_right (·.1)) (by decide) emitter.table
  inside := Nat.lt_of_lt_of_le emitter.inside kept.tablesSize
  on := kept.means emitter.holds (spares.imp_right (·.2.1)) (by decide) emitter.on
  off := kept.means emitter.holds (spares.imp_right (·.2.2)) (by decide) emitter.off
  cls := by
    rw [kept.objectClassOf, kept.definition? (by decide)]
    exact emitter.cls

theorem Keeps.subscriptionsAt {s : Scope} {w w' : World} {p : Nat} (kept : Keeps s w w')
    (inside : p < w.tables.size) (outside : ¬ s.tables p) :
    w'.subscriptionsAt p = w.subscriptionsAt p := by
  have stays := kept.tables p w.tables[p] outside (Array.getElem?_eq_getElem inside)
  simp [World.subscriptionsAt, stays, inside]

theorem World.Serves.of_keeps {s : Scope} {w w' : World} {r e p : Nat}
    (serves : w.Serves r e p) (kept : Keeps s w w') (spares : s.Spares e)
    (outside : ¬ s.tables p) : w'.Serves r e p := by
  have table := kept.subscriptionsAt serves.emitter.inside outside
  exact {
    emitter := kept.isEmitter spares serves.emitter
    sound := by
      rw [table]
      exact serves.sound
    events := fun c hc => by
      rw [World.tableAt, table] at hc
      exact kept.plain.2 (serves.events c hc) }

def Scope.table (place p : Nat) : Scope := ⟨place, fun _ => False, (· = p)⟩

namespace Emitter

variable {w : World} {r e p : Nat} {event : Value} {k : Key} {f : Ref}

theorem holder_eq {h : Host} (emitter : w.IsEmitter r e p) :
    holder h (.object r) w = .ok (.ref (.table p)) w :=
  Host.attr_shows emitter.usual emitter.table

theorem serves_putTable (serves : w.Serves r e p) {s : Subscriptions} (sound : s.Sound)
    (events : ∀ c ∈ s.table, c.topic.event.Plain w) : (w.putTable p s).Serves r e p := by
  have now := World.subscriptionsAt_putTable (s := s) serves.emitter.inside
  have kept : Keeps (.table 0 p) w (w.putTable p s) := .putTable rfl s
  refine ⟨kept.isEmitter (.inr ⟨id, id, id⟩) serves.emitter, by rwa [now], fun c found => ?_⟩
  rw [World.tableAt, now] at found
  exact kept.plain.2 (events c found)

/-- `on` for a plain event with a key. -/
theorem on_eq {h : Host} (serves : w.Serves r e p) (plain : event.Plain w) (key : event.key = .ok k)
    (callable : w.isCallable (.ref f) = true) (place : Nat) :
    ∃ w', on h (.object r) event (.ref f) w = .ok (.object r) w' ∧
      Rests (.table place p) w w' ∧ w'.Serves r e p ∧
      w'.tableAt p = (w.tableAt p).subscribe ⟨event, k⟩ f := by
  obtain ⟨s, sound, table, run⟩ := subscribeIn_eq (h := h) serves.emitter.inside serves.sound
    serves.events plain key f
  refine ⟨w.putTable p s, ?_, .putTable rfl s, serves_putTable serves sound fun c found => ?_, ?_⟩
  · rw [on, bind_run]
    simp only [get_run, callable, Bool.not_true, Bool.false_eq_true, if_false, bind_run,
      holder_eq serves.emitter, run, pure_run]
  · rw [table] at found
    rcases Table.mem_topics_subscribe found with same | ⟨old, inside, same⟩
    · exact same ▸ plain
    · exact same ▸ serves.events old inside
  · rw [World.tableAt, World.subscriptionsAt_putTable serves.emitter.inside, table]

/-- `on` fails where the hash of its event fails. -/
theorem on_unhashed {h : Host} {fault : Fault} {u : World} (emitter : w.IsEmitter r e p)
    (callable : w.isCallable (.ref f) = true) (failed : h.numberOf event w = .error fault u) :
    on h (.object r) event (.ref f) w = .error fault u := by
  rw [on, bind_run]
  simp only [get_run, callable, Bool.not_true, Bool.false_eq_true, if_false, bind_run,
    holder_eq emitter]
  rw [subscribeIn, bind_run, Host.topicIn_unhashed failed]

theorem on_unhashable {h : Host} (emitter : w.IsEmitter r e p) (plain : event.Plain w)
    {kind : String} (key : event.key = .error kind) (callable : w.isCallable (.ref f) = true) :
    on h (.object r) event (.ref f) w = .error (.unhashable kind) w :=
  on_unhashed emitter callable (Host.numberOf_unhashable plain key)

/-- `off` for a plain event with a key. -/
theorem off_eq {h : Host} (serves : w.Serves r e p) (plain : event.Plain w)
    (key : event.key = .ok k) (f : Ref) (place : Nat) :
    ∃ w', off h (.object r) event (.ref f) w = .ok (.object r) w' ∧
      Rests (.table place p) w w' ∧ w'.Serves r e p ∧
      w'.tableAt p = (w.tableAt p).unsubscribe k f := by
  obtain ⟨s, sound, table, run⟩ := unsubscribeIn_eq (h := h) serves.emitter.inside serves.sound
    serves.events plain key f
  refine ⟨w.putTable p s, ?_, .putTable rfl s, serves_putTable serves sound fun c found => ?_, ?_⟩
  · rw [off, bind_run]
    simp only [bind_run, holder_eq serves.emitter, run, pure_run]
  · rw [table] at found
    obtain ⟨old, inside, same⟩ := Table.mem_topics_unsubscribe found
    exact same ▸ serves.events old inside
  · rw [World.tableAt, World.subscriptionsAt_putTable serves.emitter.inside, table]

/-- `off` fails where the hash of its event fails. -/
theorem off_unhashed {h : Host} {fault : Fault} {u : World} (emitter : w.IsEmitter r e p)
    (failed : h.numberOf event w = .error fault u) (handler : Value) :
    off h (.object r) event handler w = .error fault u := by
  rw [off, bind_of_ok (holder_eq emitter)]
  exact bind_of_error (bind_of_error (Host.topicIn_unhashed failed))

theorem off_unhashable {h : Host} (emitter : w.IsEmitter r e p) (plain : event.Plain w)
    {kind : String} (key : event.key = .error kind) (handler : Value) :
    off h (.object r) event handler w = .error (.unhashable kind) w :=
  off_unhashed emitter (Host.numberOf_unhashable plain key) handler

/-! By a call of the emitter's methods -/

theorem serves_later (serves : w.Serves r e p) : w.later.Serves r e p where
  emitter := (Keeps.later (s := .table 0 p)).isEmitter (.inr ⟨id, id, id⟩) serves.emitter
  sound := serves.sound
  events := serves.events

theorem send_on (serves : w.Serves r e p) (plain : event.Plain w) (key : event.key = .ok k)
    (callable : w.isCallable (.ref f) = true) (depth place : Nat) :
    ∃ w', (Host.ofDepth (depth + 1)).send (.object r) "on" [event, .ref f] w =
        .ok (.object r) w' ∧
      Rests (.table place p) w w' ∧ w'.Serves r e p ∧
      w'.tableAt p = (w.tableAt p).subscribe ⟨event, k⟩ f := by
  have kept : Rests (.table place p) w w.later := .later
  obtain ⟨w', run, kept', rest⟩ := on_eq (h := Host.ofDepth depth) (serves_later serves)
    (kept.plain.2 plain) key ((kept.isCallable _).trans callable) place
  exact ⟨w', (Host.send_means serves.emitter.usual serves.emitter.on depth _).trans run,
    kept.trans kept', rest⟩

theorem send_on_unhashable (emitter : w.IsEmitter r e p) (plain : event.Plain w) {kind : String}
    (key : event.key = .error kind) (callable : w.isCallable (.ref f) = true) (depth : Nat) :
    (Host.ofDepth (depth + 1)).send (.object r) "on" [event, .ref f] w =
      .error (.unhashable kind) w.later := by
  have kept : Keeps (.table 0 p) w w.later := .later
  have run := on_unhashable (h := Host.ofDepth depth)
    (kept.isEmitter (.inr ⟨id, id, id⟩) emitter) (kept.plain.2 plain) key
    ((kept.isCallable _).trans callable)
  exact (Host.send_means emitter.usual emitter.on depth _).trans run

theorem send_off (serves : w.Serves r e p) (plain : event.Plain w) (key : event.key = .ok k)
    (f : Ref) (depth place : Nat) :
    ∃ w', (Host.ofDepth (depth + 1)).send (.object r) "off" [event, .ref f] w =
        .ok (.object r) w' ∧
      Rests (.table place p) w w' ∧ w'.Serves r e p ∧
      w'.tableAt p = (w.tableAt p).unsubscribe k f := by
  have kept : Rests (.table place p) w w.later := .later
  obtain ⟨w', run, kept', rest⟩ := off_eq (h := Host.ofDepth depth) (serves_later serves)
    (kept.plain.2 plain) key f place
  exact ⟨w', (Host.send_means serves.emitter.usual serves.emitter.off depth _).trans run,
    kept.trans kept', rest⟩

theorem send_off_unhashable (emitter : w.IsEmitter r e p) (plain : event.Plain w) {kind : String}
    (key : event.key = .error kind) (handler : Value) (depth : Nat) :
    (Host.ofDepth (depth + 1)).send (.object r) "off" [event, handler] w =
      .error (.unhashable kind) w.later := by
  have kept : Keeps (.table 0 p) w w.later := .later
  have run := off_unhashable (h := Host.ofDepth depth)
    (kept.isEmitter (.inr ⟨id, id, id⟩) emitter) (kept.plain.2 plain) key handler
  exact (Host.send_means emitter.usual emitter.off depth _).trans run

end Emitter

end EventTasks
