import EventTasks.Proofs.Chronicle
import EventTasks.Proofs.Mirrored

/-!
Two emitters side by side. On both the same is done, step by step, save that the events of a step
need only count as the same. Whatever is done next, the two answer alike: they call the same
listeners in the same order, give the same answers, and fail with faults of one kind. Asked for
their events, both tell the same keys in the same order, and each shows the event object that opened
the channel.
-/
namespace EventTasks

open Act

namespace Act

inductive OutcomesAlike {α β : Type} (agree : α → World → β → World → Prop) :
    EStateM.Result Fault World α → EStateM.Result Fault World β → Prop where
  | ok {a : α} {b : β} {w u : World} (same : agree a w b u) :
    OutcomesAlike agree (.ok a w) (.ok b u)
  | error {f g : Fault} {w u : World} (kind : f.kind = g.kind) :
    OutcomesAlike agree (.error f w) (.error g u)

theorem OutcomesAlike.cases {α β : Type} {agree : α → World → β → World → Prop}
    {r : EStateM.Result Fault World α} {r' : EStateM.Result Fault World β}
    (alike : OutcomesAlike agree r r') :
    (∃ a w b u, r = .ok a w ∧ r' = .ok b u ∧ agree a w b u) ∨
      ∃ f w g u, r = .error f w ∧ r' = .error g u ∧ f.kind = g.kind := by
  cases alike with
  | ok same => exact .inl ⟨_, _, _, _, rfl, rfl, same⟩
  | error kind => exact .inr ⟨_, _, _, _, rfl, rfl, kind⟩

end Act

namespace Emitter

structure Seat where
  object : Nat
  attributes : Nat
  table : Nat

structure Scene where
  world : World
  shown : Key → Value

def Scene.goOn (a : Scene) (w : World) : Scene := { a with world := w }

def Scene.opened (a : Scene) (p : Nat) (event : Value) (w : World) : Scene where
  world := w
  shown k :=
    if event.key.toOption = some k ∧ (a.world.tableAt p).listeners k = [] then event else a.shown k

theorem Scene.shown_opened_of_ne {event : Value} {k : Key} (other : event.key.toOption ≠ some k)
    (a : Scene) (p : Nat) (w : World) : (a.opened p event w).shown k = a.shown k :=
  if_neg fun both => other both.1

theorem Scene.opened_of_error {event : Value} {kind : String} (key : event.key = .error kind)
    (a : Scene) (p : Nat) : a.opened p event a.world = a := by
  simp [Scene.opened, key, Except.toOption]

structure Elsewhere (s : Seat) (w w' : World) : Prop where
  emitter : w'.IsEmitter s.object s.attributes s.table
  standard : w'.Standard
  same : w'.subscriptionsAt s.table = w.subscriptionsAt s.table
  plain : w'.EventsPlain s.table

/-- The same operations on two emitters, with the same handlers and arguments and with events that
count as the same. A listener that is called on both sides may do any of this before the next one is
called. -/
inductive SideBySide (s s' : Seat) : Scene → Scene → Scene → Scene → Prop where
  | still (a b : Scene) : SideBySide s s' a b a b
  | next {a b c d x y : Scene} (first : SideBySide s s' a b c d) (second :
    SideBySide s s' c d x y) :
    SideBySide s s' a b x y
  | elsewhere {a b : Scene} {w u : World} (left : Elsewhere s a.world w)
    (right : Elsewhere s' b.world u) : SideBySide s s' a b (a.goOn w) (b.goOn u)
  | subscribe {a b : Scene} {h h' : Host} {event event' handler : Value}
    (plain : event.Plain a.world) (plain' : event'.Plain b.world) (alike : event.Alike event')
    (callable : a.world.isCallable handler = true) (callable' : b.world.isCallable handler = true) :
    SideBySide s s' a b
      (a.opened s.table event ((on h (.object s.object) event handler).after a.world))
      (b.opened s'.table event' ((on h' (.object s'.object) event' handler).after b.world))
  | refuse {a b c d : Scene} {h h' : Host} {event event' handler : Value}
    (refused : a.world.isCallable handler = false) (refused' : b.world.isCallable handler = false)
    (describing : SideBySide s s' a b (c.goOn ((h.describe event).after a.world))
      (d.goOn ((h'.describe event').after b.world))) :
    SideBySide s s' a b (c.goOn ((on h (.object s.object) event handler).after a.world))
      (d.goOn ((on h' (.object s'.object) event' handler).after b.world))
  | takeBack {a b : Scene} {h h' : Host} {event event' : Value} (handler : Value)
    (plain : event.Plain a.world) (plain' : event'.Plain b.world) (alike : event.Alike event') :
    SideBySide s s' a b (a.goOn ((off h (.object s.object) event handler).after a.world))
      (b.goOn ((off h' (.object s'.object) event' handler).after b.world))
  | emit {h h' : Host} {event event' : Value} {k : Key} {args : List Value}
    {left right : Nat → Scene}
    (plain : event.Plain (left 0).world) (plain' : event'.Plain (right 0).world)
    (key : event.key = .ok k) (key' : event'.key = .ok k)
    (called : ∀ j, (left j).world = (callEach h args
      ((((left 0).world.tableAt s.table).listeners k).map .ref |>.take j)).after (left 0).world)
    (called' : ∀ j, (right j).world = (callEach h' args
      ((((right 0).world.tableAt s'.table).listeners k).map .ref |>.take j)).after (right 0).world)
    (calls : ∀ (j : Nat) (f : Ref), (((left 0).world.tableAt s.table).listeners k)[j]? = some f →
      (((right 0).world.tableAt s'.table).listeners k)[j]? = some f →
      SideBySide s s' (left j) (right j) (left (j + 1)) (right (j + 1))) :
    SideBySide s s' (left 0) (right 0)
      ((left (((left 0).world.tableAt s.table).count k)).goOn
        ((Emitter.emit h (.object s.object) event args).after (left 0).world))
      ((right (((right 0).world.tableAt s'.table).count k)).goOn
        ((Emitter.emit h' (.object s'.object) event' args).after (right 0).world))
  | emitNothing {a b : Scene} {h h' : Host} {event event' : Value} {kind kind' : String}
    (args : List Value) (plain : event.Plain a.world) (plain' : event'.Plain b.world)
    (key : event.key = .error kind) (key' : event'.key = .error kind') :
    SideBySide s s' a b (a.goOn ((Emitter.emit h (.object s.object) event args).after a.world))
      (b.goOn ((Emitter.emit h' (.object s'.object) event' args).after b.world))
  | listen {a b : Scene} {h h' : Host} {event event' : Value} (plain : event.Plain a.world)
    (plain' : event'.Plain b.world) (alike : event.Alike event') :
    SideBySide s s' a b (a.goOn ((listeners h (.object s.object) event).after a.world))
      (b.goOn ((listeners h' (.object s'.object) event').after b.world))
  | count {a b : Scene} {h h' : Host} {event event' : Value} (plain : event.Plain a.world)
    (plain' : event'.Plain b.world) (alike : event.Alike event') :
    SideBySide s s' a b (a.goOn ((listenerCount h (.object s.object) event).after a.world))
      (b.goOn ((listenerCount h' (.object s'.object) event').after b.world))
  | name {a b : Scene} {h h' : Host} :
    SideBySide s s' a b (a.goOn ((eventNames h (.object s.object)).after a.world))
      (b.goOn ((eventNames h' (.object s'.object)).after b.world))
  | close {a b : Scene} {event event' : Value} (depth : Nat) (plain : event.Plain a.world)
    (plain' : event'.Plain b.world) (alike : event.Alike event') :
    SideBySide s s' a b
      (a.goOn ((removeAllListeners (Host.ofDepth depth) (.object s.object) event).after a.world))
      (b.goOn ((removeAllListeners (Host.ofDepth depth) (.object s'.object) event').after b.world))

/-! One emitter -/

structure Upright (s : Seat) (a : Scene) : Prop where
  standard : a.world.Standard
  serves : a.world.Serves s.object s.attributes s.table
  shows : (a.world.tableAt s.table).Shows a.shown

variable {s s' : Seat} {a b c d : Scene} {h h' : Host} {w w' : World} {event event' handler : Value}
  {k : Key} {f : Ref} {kind : String}

theorem Closes.shows {r p depth : Nat} {shown : Key → Value}
    {result : EStateM.Result Fault World Value} (closes : Closes r p event w depth result w')
    (shows : (w.tableAt p).Shows shown) : (w'.tableAt p).Shows shown := by
  cases closes with
  | exhausted same => exact same ▸ shows
  | all nothing empty => exact empty ▸ fun c found => absurd found List.not_mem_nil
  | one something key closed => exact closed ▸ shows.close _
  | none key same => exact same ▸ shows

namespace Upright

theorem of_keeps (upright : Upright s a) (kept : Keeps (.table 0 s.table) a.world w)
    (serves : w.Serves s.object s.attributes s.table) (shows : (w.tableAt s.table).Shows a.shown) :
    Upright s (a.goOn w) := ⟨kept.standard upright.standard, serves, shows⟩

theorem pushList (upright : Upright s a) (l : List Value) :
    Upright s (a.goOn { a.world with lists := a.world.lists.push l }) :=
  upright.of_keeps (.pushList l) (upright.serves.of_keeps (s := .nothing 0) (.pushList l)
    (Scope.spares_nothing 0 _) id) upright.shows

theorem elsewhere (upright : Upright s a) (aside : Elsewhere s a.world w) :
    Upright s (a.goOn w) ∧ w.tableAt s.table = a.world.tableAt s.table := by
  have table : w.tableAt s.table = a.world.tableAt s.table :=
    congrArg Subscriptions.table aside.same
  refine ⟨⟨aside.standard, ⟨aside.emitter, aside.same ▸ upright.serves.sound, aside.plain⟩, ?_⟩,
    table⟩
  intro c found
  exact upright.shows c (table ▸ found)

theorem on (upright : Upright s a) (h : Host) (plain : event.Plain a.world)
    (key : event.key = .ok k)
    (callable : a.world.isCallable (.ref f) = true) :
    ∃ w, Emitter.on h (.object s.object) event (.ref f) a.world = .ok (.object s.object) w ∧
      Upright s (a.opened s.table event w) ∧
      w.tableAt s.table = (a.world.tableAt s.table).subscribe ⟨event, k⟩ f := by
  obtain ⟨w, run, kept, serves, table⟩ := on_eq (h := h) upright.serves plain key callable 0
  have dates : (a.opened s.table event w).shown = fun l =>
      if k = l ∧ (a.world.tableAt s.table).listeners l = [] then event else a.shown l := by
    funext l
    simp [Scene.opened, key, Except.toOption]
  refine ⟨w, run, ⟨kept.standard upright.standard, serves, ?_⟩, table⟩
  rw [dates]
  show (w.tableAt s.table).Shows _
  rw [table]
  exact upright.shows.subscribe upright.serves.sound.table ⟨event, k⟩ f

theorem off (upright : Upright s a) (h : Host) (plain : event.Plain a.world)
    (key : event.key = .ok k) (handler : Value) :
    ∃ w, Emitter.off h (.object s.object) event handler a.world = .ok (.object s.object) w ∧
      Upright s (a.goOn w) ∧ ((∃ f, handler = .ref f ∧
        w.tableAt s.table = (a.world.tableAt s.table).unsubscribe k f) ∨
        (∀ f, handler ≠ .ref f) ∧ w = a.world) := by
  by_cases shape : ∃ f, handler = .ref f
  · obtain ⟨f, rfl⟩ := shape
    obtain ⟨w, run, kept, serves, table⟩ := off_eq (h := h) upright.serves plain key f 0
    exact ⟨w, run, upright.of_keeps kept serves (table ▸ upright.shows.unsubscribe k f),
      .inl ⟨f, rfl, table⟩⟩
  · have other : ∀ f, handler ≠ .ref f := fun f same => shape ⟨f, same⟩
    exact ⟨a.world, off_not_ref upright.serves plain key other, upright, .inr ⟨other, rfl⟩⟩

theorem close (upright : Upright s a) (plain : event.Plain a.world) (depth : Nat) :
    ∃ w, (removeAllListeners (Host.ofDepth depth) (.object s.object) event).after a.world = w ∧
      Upright s (a.goOn w) ∧ Closes s.object s.table event a.world depth
        (removeAllListeners (Host.ofDepth depth) (.object s.object) event a.world) w := by
  obtain ⟨w, ends, kept, serves, closes⟩ := closes upright.standard upright.serves plain depth 0
  exact ⟨w, ends, upright.of_keeps kept serves (closes.shows upright.shows), closes⟩

end Upright

/-! Two emitters -/

structure Mirrored (s s' : Seat) (a b : Scene) : Prop where
  left : Upright s a
  right : Upright s' b
  tables : (a.world.tableAt s.table).Mirrors (b.world.tableAt s'.table)

def Selves (s s' : Seat) (v : Value) (_ : World) (v' : Value) (_ : World) : Prop :=
  v = .object s.object ∧ v' = .object s'.object

def ListsAlike (v : Value) (w : World) (v' : Value) (u : World) : Prop :=
  ∃ place place' found, v = .ref (.list place) ∧ w.lists[place]? = some found ∧
    v' = .ref (.list place') ∧ u.lists[place']? = some found

namespace Mirrored

/-- An operation that both refuse, since the event has no key, leaves both as they are. -/
theorem unhashable {α β : Type} {agree : α → World → β → World → Prop} {m : Act α} {m' : Act β}
    {kind kind' : String} (mirrored : Mirrored s s' a b)
    (refused : m a.world = .error (.unhashable kind) a.world)
    (refused' : m' b.world = .error (.unhashable kind') b.world) :
    OutcomesAlike agree (m a.world) (m' b.world) ∧
      Mirrored s s' (a.goOn (m.after a.world)) (b.goOn (m'.after b.world)) := by
  rw [refused, refused', after_of_error refused, after_of_error refused']
  exact ⟨.error rfl, mirrored⟩

variable (mirrored : Mirrored s s' a b) (plain : event.Plain a.world)
  (plain' : event'.Plain b.world) (alike : event.Alike event')

include mirrored plain plain' alike

theorem on (h h' : Host) (callable : a.world.isCallable handler = true)
    (callable' : b.world.isCallable handler = true) :
    OutcomesAlike (Selves s s') (Emitter.on h (.object s.object) event handler a.world)
      (Emitter.on h' (.object s'.object) event' handler b.world) ∧
    Mirrored s s'
      (a.opened s.table event ((Emitter.on h (.object s.object) event handler).after a.world))
      (b.opened s'.table event'
        ((Emitter.on h' (.object s'.object) event' handler).after b.world)) := by
  obtain ⟨f, rfl⟩ := World.exists_ref_of_isCallable callable
  rcases alike.cases with ⟨k, key, key'⟩ | ⟨kind, kind', key, key'⟩
  · obtain ⟨w, run, upright, table⟩ := mirrored.left.on h plain key callable
    obtain ⟨u, run', upright', table'⟩ := mirrored.right.on h' plain' key' callable'
    rw [run, run', after_of_ok run, after_of_ok run']
    refine ⟨.ok ⟨rfl, rfl⟩, upright, upright', ?_⟩
    show (w.tableAt s.table).Mirrors (u.tableAt s'.table)
    rw [table, table']
    have same : (⟨event, k⟩ : Topic).key = (⟨event', k⟩ : Topic).key := rfl
    exact mirrored.tables.subscribe same f
  · have run := on_unhashable (h := h) mirrored.left.serves.emitter plain key callable
    have run' := on_unhashable (h := h') mirrored.right.serves.emitter plain' key' callable'
    rw [run, run', after_of_error run, after_of_error run', Scene.opened_of_error key,
      Scene.opened_of_error key']
    exact ⟨.error rfl, mirrored⟩

theorem off (h h' : Host) (handler : Value) :
    OutcomesAlike (Selves s s') (Emitter.off h (.object s.object) event handler a.world)
      (Emitter.off h' (.object s'.object) event' handler b.world) ∧
    Mirrored s s' (a.goOn ((Emitter.off h (.object s.object) event handler).after a.world))
      (b.goOn ((Emitter.off h' (.object s'.object) event' handler).after b.world)) := by
  rcases alike.cases with ⟨k, key, key'⟩ | ⟨kind, kind', key, key'⟩
  · obtain ⟨w, run, upright, outcome⟩ := mirrored.left.off h plain key handler
    obtain ⟨u, run', upright', outcome'⟩ := mirrored.right.off h' plain' key' handler
    rw [run, run', after_of_ok run, after_of_ok run']
    refine ⟨.ok ⟨rfl, rfl⟩, upright, upright', ?_⟩
    show (w.tableAt s.table).Mirrors (u.tableAt s'.table)
    rcases outcome with ⟨f, rfl, table⟩ | ⟨other, rfl⟩
    · rcases outcome' with ⟨g, same, table'⟩ | ⟨other, -⟩
      · obtain rfl := Value.ref.inj same
        rw [table, table']
        exact mirrored.tables.unsubscribe k f
      · exact absurd rfl (other f)
    · rcases outcome' with ⟨g, same, -⟩ | ⟨-, rfl⟩
      · exact absurd same (other g)
      · exact mirrored.tables
  · exact mirrored.unhashable (off_unhashable mirrored.left.serves.emitter plain key handler)
      (off_unhashable mirrored.right.serves.emitter plain' key' handler)

theorem listeners (h h' : Host) :
    OutcomesAlike ListsAlike (Emitter.listeners h (.object s.object) event a.world)
      (Emitter.listeners h' (.object s'.object) event' b.world) ∧
    Mirrored s s' (a.goOn ((Emitter.listeners h (.object s.object) event).after a.world))
      (b.goOn ((Emitter.listeners h' (.object s'.object) event').after b.world)) := by
  rcases alike.cases with ⟨k, key, key'⟩ | ⟨kind, kind', key, key'⟩
  · have run := listeners_run (h := h) mirrored.left.serves plain key
    have run' := listeners_run (h := h') mirrored.right.serves plain' key'
    rw [run, run', after_of_ok run, after_of_ok run', mirrored.tables.listeners k]
    refine ⟨.ok ⟨_, _, _, rfl, Array.getElem?_push_size, rfl, Array.getElem?_push_size⟩, ?_⟩
    exact ⟨mirrored.left.pushList _, mirrored.right.pushList _, mirrored.tables⟩
  · exact mirrored.unhashable (listeners_unhashable mirrored.left.serves.emitter plain key)
      (listeners_unhashable mirrored.right.serves.emitter plain' key')

theorem listenerCount (h h' : Host) :
    OutcomesAlike (fun v _ v' _ => v = v')
      (Emitter.listenerCount h (.object s.object) event a.world)
      (Emitter.listenerCount h' (.object s'.object) event' b.world) ∧
    Mirrored s s' (a.goOn ((Emitter.listenerCount h (.object s.object) event).after a.world))
      (b.goOn ((Emitter.listenerCount h' (.object s'.object) event').after b.world)) := by
  rcases alike.cases with ⟨k, key, key'⟩ | ⟨kind, kind', key, key'⟩
  · have run := listenerCount_run (h := h) mirrored.left.serves plain key
    have run' := listenerCount_run (h := h') mirrored.right.serves plain' key'
    rw [run, run', after_of_ok run, after_of_ok run', mirrored.tables.listeners k]
    exact ⟨.ok rfl, mirrored⟩
  · exact mirrored.unhashable (listenerCount_unhashable mirrored.left.serves.emitter plain key)
      (listenerCount_unhashable mirrored.right.serves.emitter plain' key')

theorem close (depth : Nat) :
    OutcomesAlike (Selves s s')
      (removeAllListeners (Host.ofDepth depth) (.object s.object) event a.world)
      (removeAllListeners (Host.ofDepth depth) (.object s'.object) event' b.world) ∧
    Mirrored s s'
      (a.goOn ((removeAllListeners (Host.ofDepth depth) (.object s.object) event).after a.world))
      (b.goOn
        ((removeAllListeners (Host.ofDepth depth) (.object s'.object) event').after b.world)) := by
  obtain ⟨w, ends, upright, closes⟩ := mirrored.left.close plain depth
  obtain ⟨u, ends', upright', closes'⟩ := mirrored.right.close plain' depth
  rw [ends, ends']
  suffices both : OutcomesAlike (Selves s s')
      (removeAllListeners (Host.ofDepth depth) (.object s.object) event a.world)
      (removeAllListeners (Host.ofDepth depth) (.object s'.object) event' b.world) ∧
      (w.tableAt s.table).Mirrors (u.tableAt s'.table) from ⟨both.1, upright, upright', both.2⟩
  have tables := mirrored.tables
  have nothing := alike.isNothing
  generalize removeAllListeners _ _ event a.world = left at closes
  generalize removeAllListeners _ _ event' b.world = right at closes'
  cases closes with
  | exhausted same =>
    cases closes' with
    | exhausted same' => exact ⟨.error rfl, by rwa [same, same']⟩
  | all here empty =>
    cases closes' with
    | all here' empty' => exact ⟨.ok ⟨rfl, rfl⟩, by rw [empty, empty']; exact .nil⟩
    | one something' => simp [here, something'] at nothing
    | none key' same' =>
      have known := (alike _).1 (Value.isNothing_iff_key.1 here)
      simp [known] at key'
  | one something key closed =>
    cases closes' with
    | all here' => simp [something, here'] at nothing
    | one something' key' closed' =>
      obtain rfl := Except.ok.inj (((alike _).1 key).symm.trans key')
      exact ⟨.ok ⟨rfl, rfl⟩, by rw [closed, closed']; exact tables.close _⟩
    | none key' same' => simp [(alike _).1 key] at key'
  | none key same =>
    cases closes' with
    | all here' =>
      have known := (alike _).2 (Value.isNothing_iff_key.1 here')
      simp [known] at key
    | one something' key' => simp [(alike _).2 key'] at key
    | none key' same' =>
      refine ⟨?_, by rwa [same, same']⟩
      rw [tables.isEmpty]
      split
      · exact .ok ⟨rfl, rfl⟩
      · exact .error rfl

end Mirrored

/-- Asked for the names of its events, an emitter in order tells the noted objects. -/
theorem Upright.names (upright : Upright s a) (h : Host) : ∃ place w,
    eventNames h (.object s.object) a.world = .ok (.ref (.list place)) w ∧
    w.lists[place]? = some (((a.world.tableAt s.table).map fun c => c.topic.key).map a.shown) := by
  refine ⟨_, _, eventNames_run upright.serves.emitter, ?_⟩
  rw [← upright.shows.events]
  exact Array.getElem?_push_size

/-- Two emitters side by side stay in order, and their tables mirror each other. -/
theorem SideBySide.mirrored (sides : SideBySide s s' a b c d) (mirrored : Mirrored s s' a b) :
    Mirrored s s' c d := by
  induction sides with
  | still => exact mirrored
  | next first second ih ih' => exact ih' (ih mirrored)
  | elsewhere left right =>
    obtain ⟨upright, same⟩ := mirrored.left.elsewhere left
    obtain ⟨upright', same'⟩ := mirrored.right.elsewhere right
    refine ⟨upright, upright', ?_⟩
    simp only [Scene.goOn, same, same']
    exact mirrored.tables
  | subscribe plain plain' alike callable callable' =>
    exact (mirrored.on plain plain' alike _ _ callable callable').2
  | refuse refused refused' describing ih =>
    rw [after_on_not_callable refused, after_on_not_callable refused']
    exact ih mirrored
  | takeBack handler plain plain' alike => exact (mirrored.off plain plain' alike _ _ handler).2
  | @emit h h' event event' k args left right plain plain' key key' called called' calls ih =>
    have same := mirrored.tables.listeners k
    -- from each call of a listener to the next: the same one is called on both sides
    have each : ∀ j ≤ ((left 0).world.tableAt s.table).count k,
        Mirrored s s' (left j) (right j) := by
      intro j
      induction j with
      | zero => exact fun _ => mirrored
      | succ j before =>
        intro inside
        have there :=
          List.getElem?_eq_getElem (l := ((left 0).world.tableAt s.table).listeners k) inside
        exact ih j _ there (same ▸ there) (before (Nat.le_of_lt inside))
    have last := each _ (Nat.le_refl _)
    have all := called (((left 0).world.tableAt s.table).count k)
    have all' := called' (((right 0).world.tableAt s'.table).count k)
    rw [List.take_of_length_le (by simp [Table.count])] at all all'
    rw [after_emit mirrored.left.serves plain key, after_emit mirrored.right.serves plain' key',
      ← all, ← all']
    have counts : ((right 0).world.tableAt s'.table).count k =
        ((left 0).world.tableAt s.table).count k := congrArg List.length same.symm
    rw [counts]
    exact last
  | emitNothing args plain plain' key key' =>
    rw [after_of_error (emit_unhashable mirrored.left.serves.emitter plain key args),
      after_of_error (emit_unhashable mirrored.right.serves.emitter plain' key' args)]
    exact mirrored
  | listen plain plain' alike => exact (mirrored.listeners plain plain' alike _ _).2
  | count plain plain' alike => exact (mirrored.listenerCount plain plain' alike _ _).2
  | name =>
    rw [after_of_ok (eventNames_run mirrored.left.serves.emitter),
      after_of_ok (eventNames_run mirrored.right.serves.emitter)]
    exact ⟨mirrored.left.pushList _, mirrored.right.pushList _, mirrored.tables⟩
  | close depth plain plain' alike => exact (mirrored.close plain plain' alike depth).2

/-! Deliveries side by side -/

def CallsAlike (h h' : Host) (args fs : List Value) (w u : World) : Prop :=
  ∀ (j : Nat) (f : Value), fs[j]? = some f → OutcomesAlike (fun _ _ _ _ => True)
    (h.call f args [] ((callEach h args (fs.take j)).after w))
    (h'.call f args [] ((callEach h' args (fs.take j)).after u))

/-- If the calls end alike, the same functions are called and the deliveries end alike. -/
theorem delivers_alike {args fs : List Value} {w u : World} (alike : CallsAlike h h' args fs w u) :
    ∃ called outcome outcome' w' u', Delivers h args fs w called outcome w' ∧
      Delivers h' args fs u called outcome' u' ∧ outcome.map Fault.kind =
          outcome'.map Fault.kind := by
  induction fs generalizing w u with
  | nil => exact ⟨[], none, none, w, u, .done w, .done u, rfl⟩
  | cons f fs ih =>
    have first : OutcomesAlike _ (h.call f args [] w) (h'.call f args [] u) := alike 0 f rfl
    rcases first.cases with ⟨v, w', v', u', run, run', -⟩ | ⟨fault, w', fault', u', run, run', kind⟩
    · have rest : CallsAlike h h' args fs w' u' := by
        intro j g there
        have later := alike (j + 1) g there
        rw [List.take_succ_cons, after, callEach_cons, bind_of_ok run, after, callEach_cons,
          bind_of_ok run'] at later
        exact later
      obtain ⟨called, outcome, outcome', x, y, delivers, delivers', kinds⟩ := ih rest
      exact ⟨f :: called, outcome, outcome', x, y, .passed run delivers,
        .passed run' delivers', kinds⟩
    · exact ⟨[f], some fault, some fault', w', u', .failed run, .failed run', congrArg some kind⟩

theorem emit_of_delivers {args fs called : List Value} {outcome : Option Fault}
    (found : snapshot h (.object s.object) event w = .ok fs w)
    (delivers : Delivers h args fs w called outcome w') :
    Emitter.emit h (.object s.object) event args w = answer fs outcome w' := by
  obtain ⟨called', outcome', u, other, run⟩ := callEach_delivers h args fs w
  obtain ⟨rfl, rfl, rfl⟩ := delivers.unique other
  rw [emit_eq, bind_of_ok found]
  cases outcome' with
  | none => exact bind_of_ok run
  | some fault => exact bind_of_error run

/-- Whatever is done next on both, with events that count as the same, the two answer alike. -/
structure Agree (s s' : Seat) (a b : Scene) : Prop where
  on : ∀ (h h' : Host) event event' handler, event.Plain a.world → event'.Plain b.world →
    event.Alike event' → a.world.isCallable handler = true → b.world.isCallable handler = true →
    OutcomesAlike (Selves s s') (Emitter.on h (.object s.object) event handler a.world)
      (Emitter.on h' (.object s'.object) event' handler b.world)
  /-- A handler that cannot be called is refused by both, if the events can be told of alike; what
  refers to nothing always can. -/
  refuse : ∀ (h h' : Host) event event' handler, a.world.isCallable handler = false →
    b.world.isCallable handler = false →
    (event.isLiteral = true ∧ event'.isLiteral = true ∨ OutcomesAlike (fun _ _ _ _ => True)
      (h.describe event a.world) (h'.describe event' b.world)) →
    OutcomesAlike (fun _ _ _ _ => False) (Emitter.on h (.object s.object) event handler a.world)
      (Emitter.on h' (.object s'.object) event' handler b.world)
  off : ∀ (h h' : Host) event event' handler, event.Plain a.world → event'.Plain b.world →
    event.Alike event' →
    OutcomesAlike (Selves s s') (Emitter.off h (.object s.object) event handler a.world)
      (Emitter.off h' (.object s'.object) event' handler b.world)
  /-- Both find the same listeners; as far as these end alike, the same ones are called in the same
  order, and both emissions answer alike. -/
  emit : ∀ (h h' : Host) event event' args, event.Plain a.world → event'.Plain b.world →
    event.Alike event' →
    (∃ kind kind',
      Emitter.emit h (.object s.object) event args a.world = .error (.unhashable kind) a.world ∧
      Emitter.emit h' (.object s'.object) event' args b.world =
        .error (.unhashable kind') b.world) ∨
    ∃ found, snapshot h (.object s.object) event a.world = .ok found a.world ∧
      snapshot h' (.object s'.object) event' b.world = .ok found b.world ∧
      (CallsAlike h h' args found a.world b.world → ∃ called outcome outcome' w u,
        Delivers h args found a.world called outcome w ∧
        Delivers h' args found b.world called outcome' u ∧
        OutcomesAlike (fun v _ v' _ => v = v')
          (Emitter.emit h (.object s.object) event args a.world)
          (Emitter.emit h' (.object s'.object) event' args b.world) ∧
        Emitter.emit h (.object s.object) event args a.world = answer found outcome w ∧
        Emitter.emit h' (.object s'.object) event' args b.world = answer found outcome' u)
  listeners : ∀ (h h' : Host) event event', event.Plain a.world → event'.Plain b.world →
    event.Alike event' →
    OutcomesAlike ListsAlike (Emitter.listeners h (.object s.object) event a.world)
      (Emitter.listeners h' (.object s'.object) event' b.world)
  count : ∀ (h h' : Host) event event', event.Plain a.world → event'.Plain b.world →
    event.Alike event' →
    OutcomesAlike (fun v _ v' _ => v = v')
      (Emitter.listenerCount h (.object s.object) event a.world)
      (Emitter.listenerCount h' (.object s'.object) event' b.world)
  close : ∀ depth event event', event.Plain a.world → event'.Plain b.world → event.Alike event' →
    OutcomesAlike (Selves s s')
      (removeAllListeners (Host.ofDepth depth) (.object s.object) event a.world)
      (removeAllListeners (Host.ofDepth depth) (.object s'.object) event' b.world)
  /-- Both name the events of the same keys in the same order, each by the object that opened its
  channel. -/
  names : ∀ h h' : Host, ∃ keys : List Key,
    (∃ place w, eventNames h (.object s.object) a.world = .ok (.ref (.list place)) w ∧
      w.lists[place]? = some (keys.map a.shown)) ∧
    (∃ place u, eventNames h' (.object s'.object) b.world = .ok (.ref (.list place)) u ∧
      u.lists[place]? = some (keys.map b.shown)) ∧
    ∀ k ∈ keys, (a.shown k).key = .ok k ∧ (b.shown k).key = .ok k

theorem Mirrored.refuse (h h' : Host) (event event' : Value)
    (refused : a.world.isCallable handler = false) (refused' : b.world.isCallable handler = false)
    (told : event.isLiteral = true ∧ event'.isLiteral = true ∨ OutcomesAlike (fun _ _ _ _ => True)
      (h.describe event a.world) (h'.describe event' b.world)) :
    OutcomesAlike (fun _ _ _ _ => False) (Emitter.on h (.object s.object) event handler a.world)
      (Emitter.on h' (.object s'.object) event' handler b.world) := by
  have alike : OutcomesAlike (fun _ _ _ _ => True) (h.describe event a.world)
      (h'.describe event' b.world) := by
    rcases told with ⟨literal, literal'⟩ | alike
    · obtain ⟨text, run⟩ := Host.describe_literal h event literal a.world
      obtain ⟨text', run'⟩ := Host.describe_literal h' event' literal' b.world
      rw [run, run']
      exact .ok trivial
    · exact alike
  rw [on_not_callable refused, on_not_callable refused']
  rcases alike.cases with ⟨text, w, text', u, run, run', -⟩ | ⟨f, w, g, u, run, run', kind⟩
  · rw [bind_of_ok run, bind_of_ok run']
    exact .error rfl
  · rw [bind_of_error run, bind_of_error run']
    exact .error kind

theorem Mirrored.emit (mirrored : Mirrored s s' a b) (h h' : Host) (args : List Value)
    (plain : event.Plain a.world) (plain' : event'.Plain b.world) (key : event.key = .ok k)
    (key' : event'.key = .ok k) :
    ∃ found, snapshot h (.object s.object) event a.world = .ok found a.world ∧
      snapshot h' (.object s'.object) event' b.world = .ok found b.world ∧
      (CallsAlike h h' args found a.world b.world → ∃ called outcome outcome' w u,
        Delivers h args found a.world called outcome w ∧
        Delivers h' args found b.world called outcome' u ∧
        OutcomesAlike (fun v _ v' _ => v = v')
          (Emitter.emit h (.object s.object) event args a.world)
          (Emitter.emit h' (.object s'.object) event' args b.world) ∧
        Emitter.emit h (.object s.object) event args a.world = answer found outcome w ∧
        Emitter.emit h' (.object s'.object) event' args b.world = answer found outcome' u) := by
  have found := snapshot_eq (h := h) mirrored.left.serves plain key
  have found' := snapshot_eq (h := h') mirrored.right.serves plain' key'
  rw [← mirrored.tables.listeners k] at found'
  refine ⟨_, found, found', ?_⟩
  intro alike
  obtain ⟨called, outcome, outcome', w, u, delivers, delivers', kinds⟩ := delivers_alike alike
  have answered := emit_of_delivers found delivers
  have answered' := emit_of_delivers found' delivers'
  refine ⟨called, outcome, outcome', w, u, delivers, delivers', ?_, answered, answered'⟩
  rw [answered, answered']
  cases outcome with
  | none =>
    cases outcome' with
    | none => exact .ok rfl
    | some fault' => simp at kinds
  | some fault =>
    cases outcome' with
    | none => simp at kinds
    | some fault' => exact .error (Option.some.inj kinds)

theorem Mirrored.agree (mirrored : Mirrored s s' a b) : Agree s s' a b where
  on h h' event event' handler plain plain' alike callable callable' :=
    (mirrored.on plain plain' alike h h' callable callable').1
  refuse h h' event event' handler refused refused' told :=
    Mirrored.refuse h h' event event' refused refused' told
  off h h' event event' handler plain plain' alike :=
    (mirrored.off plain plain' alike h h' handler).1
  emit h h' event event' args plain plain' alike := by
    rcases alike.cases with ⟨k, key, key'⟩ | ⟨kind, kind', key, key'⟩
    · exact .inr (mirrored.emit h h' args plain plain' key key')
    · exact .inl ⟨kind, kind',
        emit_unhashable mirrored.left.serves.emitter plain key args,
        emit_unhashable mirrored.right.serves.emitter plain' key' args⟩
  listeners h h' event event' plain plain' alike := (mirrored.listeners plain plain' alike h h').1
  count h h' event event' plain plain' alike := (mirrored.listenerCount plain plain' alike h h').1
  close depth event event' plain plain' alike := (mirrored.close plain plain' alike depth).1
  names h h' := by
    refine ⟨(a.world.tableAt s.table).map fun c => c.topic.key, mirrored.left.names h, ?_, ?_⟩
    · rw [mirrored.tables.keys]
      exact mirrored.right.names h'
    · intro k found
      obtain ⟨c, inside, rfl⟩ := List.mem_map.1 found
      have found' := mirrored.tables.keys ▸ found
      obtain ⟨c', inside', same⟩ := List.mem_map.1 found'
      constructor
      · rw [← mirrored.left.shows c inside]
        exact mirrored.left.serves.sound.keyed c inside
      · rw [← same, ← mirrored.right.shows c' inside']
        exact mirrored.right.serves.sound.keyed c' inside'

/-- Events that count as the same are interchangeable: whatever two new emitters have gone through
side by side, they answer alike to whatever is done next. -/
theorem agree_of_sideBySide (emitter : a.world.IsEmitter s.object s.attributes s.table)
    (emitter' : b.world.IsEmitter s'.object s'.attributes s'.table)
    (fresh : a.world.subscriptionsAt s.table = {}) (fresh' : b.world.subscriptionsAt s'.table = {})
    (standard : a.world.Standard) (standard' : b.world.Standard)
    (sides : SideBySide s s' a b c d) : Agree s s' c d := by
  have empty : a.world.tableAt s.table = [] := congrArg Subscriptions.table fresh
  have empty' : b.world.tableAt s'.table = [] := congrArg Subscriptions.table fresh'
  have mirrored : Mirrored s s' a b := by
    refine ⟨⟨standard, (Reachable.opened emitter fresh).serves, ?_⟩,
      ⟨standard', (Reachable.opened emitter' fresh').serves, ?_⟩, ?_⟩
    · rw [empty]
      exact fun c found => absurd found List.not_mem_nil
    · rw [empty']
      exact fun c found => absurd found List.not_mem_nil
    · rw [empty, empty']
      exact .nil
  exact (sides.mirrored mirrored).agree

/-- A rule and its identifier are subscribed to side by side, then a pair of them with a number and
with a truth value, and the first subscription is taken back by the other of the two. -/
theorem agree_of_sideBySide_rules : ∃ c d : Scene,
    c.shown [.text "parse:rule"] = .event .rule ∧ d.shown [.text "parse:rule"] =
      .word "parse:rule" ∧
    Agree ⟨Opening.emitter, 2, 0⟩ ⟨Opening.emitter, 2, 0⟩ c d := by
  let s : Seat := ⟨Opening.emitter, 2, 0⟩
  let start : Scene := ⟨World.opening Opening.rules, fun _ => .nothing⟩
  let f : Value := .ref (.function (.library (.emitter .describe)))
  have none (v : Value) (empty : v.objectsIn = []) (w : World) : v.Plain w := by
    intro i inside
    exact absurd (empty ▸ inside) List.not_mem_nil
  have rule : (Value.event .rule).Alike (.word "parse:rule") := fun k => Iff.rfl
  have one : (Value.number 1).Alike (.flag true) := fun k => Iff.rfl
  obtain ⟨c, d, first, left, right⟩ : ∃ c d, SideBySide s s start start c d ∧
      c.shown [.text "parse:rule"] = .event .rule ∧ d.shown [.text "parse:rule"] =
          .word "parse:rule" :=
    ⟨_, _, @SideBySide.subscribe _ _ start start (Host.ofDepth 5) (Host.ofDepth 5) _ _ f
      (none _ rfl _) (none _ rfl _) rule rfl rfl, rfl, rfl⟩
  have pair : (Value.tuple 0 [.number 1, .event .rule]).Alike
      (.tuple 1 [.flag true, .word "parse:rule"]) := .tuple (.cons one (.cons rule .nil)) 0 1
  obtain ⟨c', d', second, left', right'⟩ : ∃ c' d', SideBySide s s c d c' d' ∧
      c'.shown [.text "parse:rule"] = c.shown [.text "parse:rule"] ∧
      d'.shown [.text "parse:rule"] = d.shown [.text "parse:rule"] :=
    ⟨_, _, @SideBySide.subscribe _ _ c d (Host.ofDepth 5) (Host.ofDepth 5) _ _ f
      (none _ rfl _) (none _ rfl _) pair rfl rfl, Scene.shown_opened_of_ne (by decide) _ _ _,
      Scene.shown_opened_of_ne (by decide) _ _ _⟩
  obtain ⟨x, y, third, same, same'⟩ : ∃ x y, SideBySide s s c' d' x y ∧ x.shown = c'.shown ∧
      y.shown = d'.shown :=
    ⟨_, _, @SideBySide.takeBack _ _ c' d' (Host.ofDepth 5) (Host.ofDepth 5) _ _ f (none _ rfl _)
      (none _ rfl _) rule.symm, rfl, rfl⟩
  refine ⟨x, y, ?_, ?_, ?_⟩
  · rw [same, left', left]
  · rw [same', right', right]
  · exact agree_of_sideBySide Opening.isEmitter Opening.isEmitter rfl rfl Opening.standard
      Opening.standard (first.next (second.next third))

end Emitter

end EventTasks
