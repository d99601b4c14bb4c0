import EventTasks.Proofs.Creating
import EventTasks.Proofs.History
import EventTasks.Proofs.RoundTrip

/-!
Handlers are pinned. When a task is made, what its class has for its handlers is bound to it once,
and becomes its own; so does what is given in place of that. From then on a handler that is neither
set nor deleted is the same object whenever it is read: while the task is installed, on hosts of any
kind, and destroyed, while events are delivered, in the midst of it too, and when the task is told
to begin again, which does nothing. What is subscribed as it is read can therefore be taken back as
it is read. Only an object that stands in a class and decides itself what reading and setting it
means escapes this.
-/
namespace EventTasks

open Act EventTasks.Task

variable {cast : Cast} {H : Hosting cast} {h : Host} {m : Actor} {a b c : Stage} {w w' : World}
  {r e p : Nat} {n : String} {event v x : Value} {key : Key} {args : List Value} {fs : List Ref}
  {may fixed : String → Prop}

def reserved : List String :=
  [runnerField, subscriptionsField, handlersField, TaskOp.init.name, "_log_prefix"] ++ essentials

theorem not_reserved (handler : Naming.isHandlerName n = true) : n ∉ reserved := by
  have others : ∀ k ∈ reserved, Naming.isHandlerName k = false := by decide
  exact fun found => by simp [others n found] at handler

theorem not_unspoken (handler : Naming.isHandlerName n = true) : n ∉ unspoken := by
  have others : ∀ k ∈ unspoken, Naming.isHandlerName k = false := by decide
  exact fun found => by simp [others n found] at handler

/-! What is read of a task that was spared -/

namespace Actor

theorem Spared.shows (spared : m.Spared may w w') (free : ¬ may n) (hn : n ≠ "__annotations__")
    (shows : w.Shows m.object n x) : w'.Shows m.object n x := by
  have own : (w'.attributesOf m.object).text? n = (w.attributesOf m.object).text? n :=
    spared.own n free
  have defined := spared.defined n hn
  rcases shows with ⟨here, above⟩ | ⟨absent, entry, datum⟩
  · refine .inl ⟨own.trans here, fun e found => ?_⟩
    have before := defined.symm.trans found
    exact (spared.decided n e hn before).1.trans (above e before)
  · exact .inr ⟨own.trans absent, defined.trans entry, (spared.decided n x hn entry).2.2 datum⟩

theorem not_lacks_of_shows (shows : w.Shows m.object n x) : ¬ m.Lacks w n := by
  rintro ⟨-, absent, undefined⟩
  rcases shows with ⟨here, -⟩ | ⟨-, entry, -⟩
  · simp [absent] at here
  · simp [undefined] at entry

end Actor

namespace Stage

/-- A task has bound its handlers and is in order among the others. -/
structure Established (H : Hosting cast) (m : Actor) (a : Stage) : Prop where
  order : a.InOrder H
  task : m ∈ a.tasks
  table : ∃ q, a.world.Shows m.object handlersField (.ref (.dict q))
  begins : a.world.Means m.object TaskOp.init.name (.library (.task .init))
  shown : ∀ n x, Naming.isHandlerName n = true → m.own? a.world n = some x →
    a.world.Shows m.object n x

def Retains (m : Actor) (fixed : String → Prop) (a b : Stage) : Prop :=
  ∀ n x, Naming.isHandlerName n = true → fixed n → m.own? a.world n = some x →
    m.own? b.world n = some x

theorem Retains.trans (first : Retains m fixed a b) (second : Retains m fixed b c) :
    Retains m fixed a c :=
      fun n x handler kept own => second n x handler kept (first n x handler kept own)

theorem Established.stands (now : a.Established H m) : m.Stands (a.host m.object) a.world :=
  now.order.stands m now.task

/-- What a step changes of a task are its name and its books, what meant nothing to it, and what is
set or deleted of it in the usual way. -/
theorem Established.next (now : a.Established H m) (order : b.InOrder H) (task : m ∈ b.tasks)
    (spared : m.Spared may a.world b.world) (changes : ∀ n, may n → n ∈ unspoken ∨
      m.Lacks a.world n ∨ n ∉ reserved ∧ ¬ fixed n ∧
        (Naming.isHandlerName n = true → b.world.Settable m.object n)) :
    b.Established H m ∧ Retains m fixed a b := by
  have stays {n : String} (inside : n ∈ reserved) (spoken : n ∉ unspoken)
      (known : ¬ m.Lacks a.world n) : ¬ may n := fun set => by
    rcases changes n set with free | lacks | ⟨free, -⟩
    · exact spoken free
    · exact known lacks
    · exact free inside
  obtain ⟨q, table⟩ := now.table
  have begins : ¬ may TaskOp.init.name := stays (by decide) (by decide) fun lacks => by
    have undefined := lacks.2.2
    simp [now.begins.2] at undefined
  refine ⟨⟨order, task,
    ⟨q, spared.shows (stays (by decide) (by decide) (Actor.not_lacks_of_shows table))
    (by decide) table⟩, ⟨(spared.own _ begins).trans now.begins.1,
      (spared.defined _ (by decide)).trans now.begins.2⟩, fun n x handler own => ?_⟩,
    fun n x handler kept own => (spared.own n fun set => ?_).trans own⟩
  · have hn : n ≠ "__annotations__" := Naming.isHandlerName_ne handler (by decide)
    by_cases set : may n
    · rcases changes n set with free | lacks | ⟨-, -, settable⟩
      · exact absurd free (not_unspoken handler)
      · refine .inl ⟨own, fun e found => ?_⟩
        rw [spared.defined n hn, lacks.2.2] at found
        simp at found
      · exact (settable handler).shows own
    · exact spared.shows set hn (now.shown n x handler ((spared.own n set).symm.trans own))
  · rcases changes n set with free | lacks | ⟨-, loose, -⟩
    · exact not_unspoken handler free
    · have absent : m.own? a.world n = none := lacks.2.1
      simp [own] at absent
    · exact loose kept

theorem Established.leads (now : a.Established H m) (leads : a.Leads H b) :
    b.Established H m ∧ Retains m fixed a b :=
  now.next leads.order (leads.tasks m now.task)
    (leads.spares.actors m (now.order.members m now.task) now.stands.internals)
    fun _ may => (may now.task).imp_right .inl

theorem Established.history (now : a.Established H m) (history : History H a b) :
    b.Established H m ∧ Retains m fixed a b :=
  (history.lasts (P := fun z => z.Established H m ∧ Retains m fixed a z)
    (fun _ _ _ leads before =>
      have after := before.1.leads leads
      ⟨after.1, before.2.trans after.2⟩) now.order ⟨now, fun _ _ _ _ => id⟩).2

/-- Changing an attribute of a task that its operations do not go by leaves everyone in order. -/
theorem InOrder.changed (order : a.InOrder H) (task : m ∈ a.tasks) (free : n ∉ reserved)
    (kept : Keeps ⟨m.place, (· = n), fun _ => False⟩ a.world w') :
    (a.goOn w').InOrder H ∧ cast.Spares (fun m' k => m' = m ∧ k = n) a.world w' := by
  have actor := order.members m task
  have stands := order.stands m task
  have internals := stands.internals
  have other {k : String} (inside : k ∈ reserved) : ¬ k = n := fun same => free (same ▸ inside)
  have spared : m.Spared (· = n) a.world w' :=
    .of_keeps internals kept internals.apart (fun _ => .inr)
    fun k essential => other (List.mem_append_right _ essential)
  have spares : cast.Spares (fun m' k => m' = m ∧ k = n) a.world w' :=
    .of_keeps kept actor rfl fun _ => spared.mono fun _ same => ⟨rfl, same⟩
  refine ⟨?_, spares⟩
  rw [← settle_self a m.object]
  refine order.settles task spares (fun _ _ same => same.1)
    (stands.of_spared spared (other (by decide))
    fun k book => other ?_) (order.known m task)
    fun r q _ now => H.fine_of_keeps now actor kept rfl fun _ => id
  rcases List.mem_cons.1 book with rfl | last
  · decide
  · exact List.mem_singleton.1 last ▸ by decide

theorem Established.changed {m' : Actor} (now : a.Established H m) (task : m' ∈ a.tasks)
    (free : n ∉ reserved) (other : m' = m → ¬ fixed n)
    (kept : Keeps ⟨m'.place, (· = n), fun _ => False⟩ a.world w')
    (settable : a.world.Settable m'.object n) :
    (a.goOn w').Established H m ∧ Retains m fixed a (a.goOn w') := by
  obtain ⟨order, spares⟩ := now.order.changed task free kept
  refine now.next order now.task
    (spares.actors m (now.order.members m now.task) now.stands.internals)
    fun k set => .inr (.inr ?_)
  obtain ⟨rfl, rfl⟩ := set
  exact ⟨free, other rfl, fun handler =>
    kept.settable (Naming.isHandlerName_ne handler (by decide)) settable⟩

theorem Established.assigned {m' : Actor} (now : a.Established H m) (task : m' ∈ a.tasks)
    (free : n ∉ reserved) (other : m' = m → ¬ fixed n) (settable : a.world.Settable m'.object n)
    (x : Value) : (a.goOn ((h.assign (.object m'.object) n x).after a.world)).Established H m ∧
      Retains m fixed a (a.goOn ((h.assign (.object m'.object) n x).after a.world)) := by
  have internals := (now.order.stands m' task).internals
  rw [after_of_ok (Host.assign_settable internals.holds settable)]
  exact now.changed task free other (.putText rfl x) settable

theorem Established.deleted {m' : Actor} (now : a.Established H m) (task : m' ∈ a.tasks)
    (free : n ∉ reserved) (other : m' = m → ¬ fixed n) (removable : a.world.Removable m'.object n) :
    (a.goOn ((h.remove (.object m'.object) n).after a.world)).Established H m ∧
      Retains m fixed a (a.goOn ((h.remove (.object m'.object) n).after a.world)) := by
  have internals := (now.order.stands m' task).internals
  rcases Host.remove_removable (h := h) internals.holds removable with run | ⟨f, run⟩
  · rw [after_of_ok run]
    exact now.changed task free other (.dropText rfl) ⟨internals.sets, removable.above⟩
  · rw [after_of_error run]
    exact ⟨now, fun _ _ _ _ => id⟩

/-! Beginning again -/

theorem init_of_shows {i : Nat} (usual : w.ReadsUsually i) (shows : w.Shows i handlersField v)
    (something : v.isNothing = false) : init h (.object i) w = .ok .nothing w := by
  rw [init, bind_of_ok (Host.attr_shows usual shows)]
  simp only [something, Bool.false_eq_true, if_false]
  rfl

theorem Established.init_eq (now : a.Established H m) :
    init h (.object m.object) a.world = .ok .nothing a.world := by
  obtain ⟨q, table⟩ := now.table
  exact init_of_shows now.stands.internals.usual table rfl

theorem Established.send_init (now : a.Established H m) (depth : Nat) :
    (Host.ofDepth (depth + 1)).send (.object m.object) "init" [] a.world =
      .ok .nothing a.world.later := by
  have internals := now.stands.internals
  obtain ⟨q, table⟩ := now.table
  have later : Keeps (.nothing m.place) a.world a.world.later := .later
  refine (Host.send_means internals.usual now.begins depth []).trans ?_
  exact init_of_shows (later.readsUsually internals.usual)
    (later.shows internals.holds (.inr id) (by decide) table)
    rfl

end Stage

/-! Runs -/

mutual

/-- What happens between two stages while the handlers of a task under the `fixed` names are neither
set nor deleted: tasks are made, installed, destroyed and initialised again, other attributes are
set and deleted, and events are delivered, whose listeners may do any of this. -/
inductive Tenure (H : Hosting cast) (m : Actor) (fixed : String → Prop) : Stage → Stage → Prop where
  | still (a : Stage) : Tenure H m fixed a a
  | next {a b c : Stage} (first : Tenure H m fixed a b) (second : Tenure H m fixed b c) :
    Tenure H m fixed a c
  | history {a b : Stage} (history : History H a b) : Tenure H m fixed a b
  | begun {a : Stage} {m' : Actor} {v : Value} {depth : Nat} (task : m' ∈ a.tasks)
    (bound : m' ≠ m → a.world.Shows m'.object handlersField v ∧ v.isNothing = false) :
    Tenure H m fixed a (a.goOn ((init (Host.ofDepth depth) (.object m'.object)).after a.world))
  | installed {a : Stage} {m' : Actor} {r stamp k : Nat} {options name : Value} {text : String}
    {attach : Option Bool} {u : World} (task : m' ∈ a.tasks) (host : r ∈ a.hosts)
    (readOnly : ChecksReadOnly (k + 1) a.world m'.object m'.place m'.registry m'.listing
      options name text)
    (decodes : Decodes (k + 1) a.world options stamp (.object r) attach u)
    (passes : ∀ f, ¬ Rejects (k + 1) a.world m'.object options name text m'.listing f) :
    Tenure H m fixed a (a.settle m'.object (some r)
      ((install (Host.ofDepth (k + 2)) (.object m'.object) options).after a.world))
  | assigned {a : Stage} {m' : Actor} {n : String} {h : Host} {x : Value} (task : m' ∈ a.tasks)
    (free : n ∉ reserved) (other : m' = m → ¬ fixed n) (settable : a.world.Settable m'.object n) :
    Tenure H m fixed a (a.goOn ((h.assign (.object m'.object) n x).after a.world))
  | deleted {a : Stage} {m' : Actor} {n : String} {h : Host} (task : m' ∈ a.tasks)
    (free : n ∉ reserved) (other : m' = m → ¬ fixed n) (removable : a.world.Removable m'.object n) :
    Tenure H m fixed a (a.goOn ((h.remove (.object m'.object) n).after a.world))
  | emitted {a b : Stage} {h : Host} {r e p : Nat} {event : Value} {key : Key} {args : List Value}
    (serves : a.world.Serves r e p) (plain : event.Plain a.world) (keyed : event.key = .ok key)
    (hears : Hears H m fixed h args ((a.world.tableAt p).listeners key) a b) :
    Tenure H m fixed a (b.goOn ((Emitter.emit h (.object r) event args).after a.world))

inductive Hears (H : Hosting cast) (m : Actor) (fixed : String → Prop) :
    Host → List Value → List Ref → Stage → Stage → Prop where
  | done (h : Host) (args : List Value) (a : Stage) : Hears H m fixed h args [] a a
  | failed {h : Host} {args : List Value} {f : Ref} {fs : List Ref} {a b : Stage} {fault : Fault}
    (run : h.call (.ref f) args [] a.world = .error fault b.world) (body : Tenure H m fixed a b) :
    Hears H m fixed h args (f :: fs) a b
  | heard {h : Host} {args : List Value} {f : Ref} {fs : List Ref} {a b c : Stage} {v : Value}
    (run : h.call (.ref f) args [] a.world = .ok v b.world) (body : Tenure H m fixed a b)
    (rest : Hears H m fixed h args fs b c) : Hears H m fixed h args (f :: fs) a c

end

/-- What the listeners do is what is done when they are called one after the other. -/
theorem Hears.after_callEach (hears : Hears H m fixed h args fs a b) :
    (Emitter.callEach h args (fs.map .ref)).after a.world = b.world := by
  induction fs generalizing a with
  | nil =>
    cases hears
    rfl
  | cons f fs ih =>
    cases hears with
    | failed run body => rw [List.map_cons, after, Emitter.callEach_cons, bind_of_error run]
    | heard run body rest =>
      rw [List.map_cons, after, Emitter.callEach_cons, bind_of_ok run]
      exact ih rest

theorem Hears.after_emit (serves : a.world.Serves r e p) (plain : event.Plain a.world)
    (keyed : event.key = .ok key)
    (hears : Hears H m fixed h args ((a.world.tableAt p).listeners key) a b) :
    b.goOn ((Emitter.emit h (.object r) event args).after a.world) = b := by
  have same : (Emitter.emit h (.object r) event args).after a.world = b.world := by
    rw [← hears.after_callEach, after, Emitter.emit_run serves plain keyed, after]
    cases run : Emitter.callEach h args (((a.world.tableAt p).listeners key).map .ref) a.world with
    | ok v u => rw [bind_of_ok run]; rfl
    | error f u => rw [bind_of_error run]
  rw [same]
  rfl

def Stage.Upholds (H : Hosting cast) (m : Actor) (fixed : String → Prop) (a b : Stage) : Prop :=
  a.Established H m → b.Established H m ∧ Stage.Retains m fixed a b

namespace Stage

theorem Upholds.refl (a : Stage) : a.Upholds H m fixed a := fun now => ⟨now, fun _ _ _ _ => id⟩

theorem Upholds.trans (first : a.Upholds H m fixed b) (second : b.Upholds H m fixed c) :
    a.Upholds H m fixed c := fun now =>
  have ⟨now₁, kept₁⟩ := first now
  have ⟨now₂, kept₂⟩ := second now₁
  ⟨now₂, kept₁.trans kept₂⟩

theorem upholds_begun {m' : Actor} {depth : Nat} (task : m' ∈ a.tasks)
    (bound : m' ≠ m → a.world.Shows m'.object handlersField v ∧ v.isNothing = false) :
    a.Upholds H m fixed
      (a.goOn ((init (Host.ofDepth depth) (.object m'.object)).after a.world)) := fun now => by
  have run : init (Host.ofDepth depth) (.object m'.object) a.world = .ok .nothing a.world := by
    by_cases same : m' = m
    · exact same ▸ now.init_eq
    · exact init_of_shows (now.order.stands m' task).internals.usual (bound same).1 (bound same).2
  rw [after_of_ok run]
  exact Upholds.refl a now

end Stage

/-- Through a whole tenure a task stays established, and no handler under the fixed names becomes
another one. -/
theorem Tenure.upholds (tenure : Tenure H m fixed a b) : a.Upholds H m fixed b := by
  -- by induction on the run, and along with it on the calls of listeners in it
  refine @Tenure.rec cast H m fixed (fun a b _ => a.Upholds H m fixed b)
    (fun _ _ _ a b _ => a.Upholds H m fixed b)
    ?still ?next ?history ?begun ?installed ?assigned ?deleted ?emitted ?done ?failed
      ?heard a b tenure
  case still => exact Stage.Upholds.refl
  case next => exact fun _ _ first second => first.trans second
  case history => exact fun history now => now.history history
  case begun => exact Stage.upholds_begun
  case installed =>
    intro a m' r stamp k options name text attach u task host readOnly decodes passes now
    have order := now.order
    exact now.leads (order.engaged task host (H.install_goes (order.members m' task)
      (order.stands m' task) (order.fine r host) readOnly decodes passes).stays)
  case assigned => exact fun task free other settable now => now.assigned task free other settable _
  case deleted => exact fun task free other removable now => now.deleted task free other removable
  case emitted =>
    intro a b h r e p event key args serves plain keyed hears led
    rwa [hears.after_emit serves plain keyed]
  case done => exact fun _ _ => Stage.Upholds.refl
  case failed => exact fun _ _ led => led
  case heard => exact fun _ _ _ first second => first.trans second

theorem Tenure.of_assign {m' : Actor} (task : m' ∈ a.tasks) (free : n ∉ reserved)
    (other : m' = m → ¬ fixed n) (settable : a.world.Settable m'.object n)
    (run : h.assign (.object m'.object) n x a.world = .ok () w') : Tenure H m fixed a (a.goOn w') :=
  after_of_ok run ▸ .assigned task free other settable

/-! Reading a handler -/

def takeTurn (h : Host) (runner event self : Value) (n : String) : Act Value := do
  let _ ← Emitter.on h runner event (← h.attr self n)
  Emitter.off h runner event (← h.attr self n)

namespace Stage

/-- Reading the handler gives this object. What is subscribed as it is read and then taken back as
it is read leaves an emitter as it was. -/
structure Pins (z : Stage) (m : Actor) (n : String) (v : Value) : Prop where
  read : ∀ h : Host, h.attr (.object m.object) n z.world = .ok v z.world
  restores : ∀ (h : Host) {r e p : Nat} {event : Value} {key : Key}, z.world.isCallable v = true →
    z.world.Serves r e p → event.Plain z.world → event.key = .ok key → ∀ place, ∃ w',
      takeTurn h (.object r) event (.object m.object) n z.world = .ok (.object r) w' ∧
      w'.tableAt p = z.world.tableAt p ∧ w'.Serves r e p ∧ Rests (.table place p) z.world w'

theorem Established.pins (now : a.Established H m) (handler : Naming.isHandlerName n = true)
    (own : m.own? a.world n = some v) : a.Pins m n v := by
  have internals := now.stands.internals
  have shows := now.shown n v handler own
  have hn : n ≠ "__annotations__" := Naming.isHandlerName_ne handler (by decide)
  refine ⟨fun h => Host.attr_shows internals.usual shows,
    fun h r e p event key callable serves plain keyed place => ?_⟩
  obtain ⟨f, rfl⟩ := World.exists_ref_of_isCallable callable
  obtain ⟨w₁, subscribed, rests₁, serves₁, table₁⟩ :=
    Emitter.on_eq (h := h) serves plain keyed callable place
  have again : h.attr (.object m.object) n w₁ = .ok (.ref f) w₁ := Host.attr_shows
    (rests₁.readsUsually internals.usual) (rests₁.shows internals.holds (.inr id) hn shows)
  obtain ⟨w₂, takenBack, rests₂, serves₂, table₂⟩ :=
    Emitter.off_eq (h := h) serves₁ (rests₁.plain.2 plain) keyed f place
  refine ⟨w₂, ?_, ?_, serves₂, rests₁.trans rests₂⟩
  · rw [takeTurn, bind_of_ok (Host.attr_shows internals.usual shows), bind_of_ok subscribed,
      bind_of_ok again, takenBack]
  · rw [table₂, table₁]
    exact Table.unsubscribe_subscribe serves.sound.table ⟨event, key⟩ f

end Stage

namespace Task

theorem Made.stands {k : Nat} {name : Value} {given : List (String × Value)}
    (made : Made k w w' m.object m.place name given) (isNew : NewObject k w m.object m.place)
    (outfit : Outfit w m.object m.place m.registry m.listing) (simple : name.IsSimple)
    (named : name = .nothing → IsNamed w m.object)
    (prefixes : w.definition? (w.objectClassOf m.object) "_log_prefix" =
      some (.function (.library (.task .logPrefix)))) : m.Stands none w' := by
  have entry : w'.definition? (w'.objectClassOf m.object) "_log_prefix" =
      w.definition? (w.objectClassOf m.object) "_log_prefix" := by
    rw [made.kept.objectClassOf, made.kept.definition? (by decide)]
  obtain ⟨place, booked, list⟩ := made.booked
  exact {
    internals := made.internals isNew outfit simple named
    prefixes := ⟨made.others _ (by decide) (by decide), entry.trans prefixes⟩
    runner := made.runner
    booked := ⟨place, [], [], booked, list, .nil, by simp⟩ }

/-- Making a task of a class with an outfit is part of a history: it spares the other tasks and the
hosts. -/
theorem Made.history {k depth : Nat} {name handlers : Value} {given : List (String × Value)}
    (made : Made k a.world w' m.object m.place name given)
    (isNew : NewObject k a.world m.object m.place)
    (outfit : Outfit a.world m.object m.place m.registry m.listing) (simple : name.IsSimple)
    (named : name = .nothing → IsNamed a.world m.object)
    (prefixes : a.world.definition? (a.world.objectClassOf m.object) "_log_prefix" =
      some (.function (.library (.task .logPrefix))))
    (run : create (Host.ofDepth depth) (.object m.object) name handlers a.world = .ok .nothing w')
    (actor : m ∈ cast.actors) (new : m ∉ a.tasks) (fine : ∀ r ∈ a.hosts, H.Fine r a.world) :
    History H a { a.settle m.object none w' with tasks := m :: a.tasks } := by
  have stands := made.stands isNew outfit simple named prefixes
  refine .made actor new run (.of_keeps made.kept actor rfl fun internals => ?_) stands
    fun r host => ?_
  · exact .of_internals internals stands.internals made.kept fun _ other => absurd rfl other
  · exact (fine r host).next made.kept.lists.size_le fun _ _ now =>
      H.fine_of_keeps now actor made.kept rfl fun _ => id

theorem Made.established {k : Nat} {name : Value} {given : List (String × Value)}
    (made : Made k w a.world m.object m.place name given) (isNew : NewObject k w m.object m.place)
    (order : a.InOrder H) (task : m ∈ a.tasks) : a.Established H m where
  order := order
  task := task
  table := by
    obtain ⟨q, shows, -⟩ := made.table
    exact ⟨q, shows⟩
  begins := by
    refine ⟨made.others _ (by decide) (by decide), ?_⟩
    rw [made.kept.objectClassOf, made.kept.definition? (by decide)]
    exact isNew.operations .init (by simp)
  shown := made.shows

/-- The handlers that `__init__` gives a task are what was given for them last, or what its class
has, bound to the task. In every state that the task comes to after that, `init` does nothing, and
what the task has of its own under the name of a handler is the very object that reading the handler
gives, until it is set or deleted. So what is subscribed as it is read is taken back as it is
read. -/
theorem handlers_pinned {name handlers : Value} {entries : List (Value × Value)}
    {shown key : Value → String} {k : Nat} (isNew : NewObject k w m.object m.place)
    (given : Given w m.place handlers entries) (simple : name.IsSimple)
    (named : name = .nothing → IsNamed w m.object)
    (legible : ∀ e ∈ entries, Legible (Host.ofDepth (k + 3)) m.place w e.1 (shown e.1) (key e.1))
    (settable : ∀ e ∈ entries, w.Settable m.object (namedFor key e).1)
    (run : create (Host.ofDepth (k + 3)) (.object m.object) name handlers w = .ok .nothing a.world)
    (order : a.InOrder H) (task : m ∈ a.tasks) :
    (∀ n, Naming.isHandlerName n = true →
      Receives k w m.object m.place n (lastFor (entries.map (namedFor key)) n) (m.own? a.world n)) ∧
    ∀ y, Tenure H m (fun _ => False) a y →
      (∀ h : Host, init h (.object m.object) y.world = .ok .nothing y.world) ∧
      (∀ depth, (Host.ofDepth (depth + 1)).send (.object m.object) "init" [] y.world =
        .ok .nothing y.world.later) ∧
      ∀ n v, Naming.isHandlerName n = true → m.own? y.world n = some v →
        ∀ fixed z, fixed n → Tenure H m fixed y z → z.Pins m n v := by
  have made := made_of_create isNew given simple named legible settable run
  have start := made.established isNew order task
  refine ⟨made.receives, fun y first => ?_⟩
  have now := (first.upholds start).1
  refine ⟨fun h => now.init_eq, now.send_init, fun n v handler own fixed z kept second => ?_⟩
  obtain ⟨after, retains⟩ := second.upholds now
  exact after.pins handler (retains n v handler kept own)

end Task

namespace Beginning

open Opening

def actor : Actor := ⟨task, 1, .registry, ⟨Value.registryEntries, none⟩⟩

def company : Company := .lone actor ⟨emitter, 2, 0⟩ (by decide)

def crew : Cast := company.tasks fun m actor m' actor' => by
  obtain rfl := List.mem_singleton.1 actor
  obtain rfl := List.mem_singleton.1 actor'
  exact (by decide : Ref.registry ≠ .dict 1)

def hosting : Hosting crew := company.emitters _

def stage (w : World) : Stage := ⟨[actor], [emitter], w, fun _ => none⟩

def outset (given : Dictionary) : Stage := ⟨[], [emitter], World.beginning given, fun _ => none⟩

theorem inOrder_outset {given : Dictionary} : (outset given).InOrder hosting where
  members _ inside := nomatch inside
  stands _ inside := nomatch inside
  known _ inside := nomatch inside
  fine r host q _ := by
    obtain rfl := List.mem_singleton.1 host
    exact ⟨⟨emitter, 2, 0⟩, List.mem_singleton_self _, rfl,
      reachable.serves.of_keeps kept (.inl (by decide)) id, kept.readable readable⟩

theorem inOrder {given : Dictionary} {name handlers : Value} {depth : Nat}
    {early : List (String × Value)}
    (made : Made k (World.beginning given) w task 1 name early) (simple : name.IsSimple)
    (run : create (Host.ofDepth depth) (.object task) name handlers (World.beginning given) =
      .ok .nothing w) : (stage w).InOrder hosting := by
  have history := Task.Made.history (a := outset given) (m := actor) (H := hosting) made isNew
    equipped.toOutfit simple (fun _ => named) rfl run (List.mem_singleton_self _)
    (fun inside => nomatch inside) inOrder_outset.fine
  have tasks : { (outset given).settle task none w with tasks := [actor] } = stage w := by
    simp [outset, Stage.settle, stage]
  exact tasks ▸ (history.keeps inOrder_outset).1

end Beginning

namespace Task

/-- A new task has the method of its class for a handler, before and after another handler is
cleared, and an emitter to which it is subscribed as it is read loses it as it is read. -/
theorem handlers_pinned_rule : ∃ w₁ w₂ stamp f,
    create (Host.ofDepth 3) (.object Opening.task) .nothing .nothing (World.beginning {}) =
      .ok .nothing w₁ ∧
    (Host.ofDepth 3).assign (.object Opening.task) "on_root" .nothing w₁ = .ok () w₂ ∧
    init (Host.ofDepth 3) (.object Opening.task) w₂ = .ok .nothing w₂ ∧
    (Host.ofDepth 3).attr (.object Opening.task) "on_rule" w₁ =
      .ok (.ref (.method stamp (.object Opening.task) f)) w₁ ∧
    (Host.ofDepth 3).attr (.object Opening.task) "on_rule" w₂ =
      .ok (.ref (.method stamp (.object Opening.task) f)) w₂ ∧
    ∃ w₃, takeTurn (Host.ofDepth 3) (.object Opening.emitter) (.event .rule) (.object Opening.task)
      "on_rule" w₂ = .ok (.object Opening.emitter) w₃ ∧ w₃.tableAt 0 = w₂.tableAt 0 := by
  have legible : ∀ e ∈ ([] : List (Value × Value)),
      Legible (Host.ofDepth 3) 1 (World.beginning {}) e.1
      (Beginning.told e.1) (Beginning.meant e.1) := by simp
  have nobody : ∀ e ∈ ([] : List (Value × Value)),
      (World.beginning {}).Settable Opening.task (namedFor Beginning.meant e).1 := by simp
  have unnamed : Value.nothing.IsSimple := trivial
  obtain ⟨w₁, created, made⟩ :=
    create_eq Beginning.isNew .nothing unnamed (fun _ => Beginning.named)
    legible nobody
  have order := Beginning.inOrder made unnamed created
  have task : Beginning.actor ∈ (Beginning.stage w₁).tasks := List.mem_singleton_self _
  obtain ⟨receives, pinned⟩ := handlers_pinned (m := Beginning.actor) (a := Beginning.stage w₁)
    Beginning.isNew .nothing unnamed (fun _ => Beginning.named) legible nobody created order task
  -- the class has a method for the handler, and so the task has it bound
  obtain ⟨f, entry⟩ : ∃ f, (World.beginning {}).definition? Library.taskClass "on_rule" =
      some (.function f) := ⟨_, rfl⟩
  obtain ⟨stamp, own⟩ := (receives "on_rule" (by decide)).method (by decide) entry
  have settable : w₁.Settable Opening.task "on_root" :=
    made.kept.settable (by decide) (Beginning.settable_handler (by decide))
  have set := Host.assign_settable (h := Host.ofDepth 3) (v := .nothing)
    (made.kept.holds (Beginning.isNew (k := 0)).holds) settable
  let w₂ := w₁.putText 1 "on_root" .nothing
  have cleared (fixed : String → Prop) (loose : ¬ fixed "on_root") : Tenure Beginning.hosting
      Beginning.actor fixed (Beginning.stage w₁) (Beginning.stage w₂) :=
    .of_assign (a := Beginning.stage w₁) task (not_reserved (by decide))
      (fun _ => loose) settable set
  obtain ⟨-, -, pins₁⟩ := pinned _ (.still _)
  obtain ⟨begins₂, -, -⟩ := pinned _ (cleared _ id)
  have first := pins₁ "on_rule" _ (by decide) own (fun _ => True) _ trivial (.still _)
  have second := pins₁ "on_rule" _ (by decide) own (· = "on_rule") _ rfl (cleared _ (by decide))
  have kept : Keeps ⟨1, (· = "on_root"), fun _ => False⟩ w₁ w₂ := .putText rfl _
  have serves : w₂.Serves Opening.emitter 2 0 :=
    (Beginning.offersEmitter made unnamed none).serves.of_keeps kept (.inl (by decide)) id
  obtain ⟨w₃, turn, table, -⟩ :=
    second.restores (Host.ofDepth 3) rfl serves (Value.plain_event .rule w₂) rfl 0
  exact ⟨w₁, w₂, stamp, f, created, set, begins₂ _, first.read _, second.read _, w₃, turn, table⟩

def elusive : World :=
  let start := World.beginning {}
  let maker := start.classes.size
  let entry := start.classes.size + 1
  let gives (owner : Nat) (name : String) (result : Option Script.Term) : FunctionInfo :=
    { name := name, owner := owner, qualifiedName := name, form := .method
      behaviour := { routine := {
        failure := none, limit := none, actions := [], result := result, inherits := false } } }
  { start with
    classes := (start.classes.modify Library.taskClass fun info =>
      { info with body := ("on_x", .object (start.objects.size + 1)) :: info.body }) ++ #[
        { name := "Maker", qualifiedName := "Maker", bases := [Library.objectClass],
          order := [maker, Library.objectClass], kind := Library.typeClass,
          body := [("made", .function (.scripted 0))] },
        { name := "Entry", qualifiedName := "Entry", bases := [Library.objectClass],
          order := [entry, Library.objectClass], kind := Library.typeClass,
          body := [("__call__", .function (.scripted 1)), ("__get__", .function (.scripted 2)),
            ("__set__", .function (.scripted 3))] }]
    functions := #[gives maker "made" none, gives entry "__call__" none,
      gives entry "__get__" (some (.attributeOf "maker" "made")), gives entry "__set__" none]
    objects := start.objects ++ #[
      { cls := maker, attributes := some start.dicts.size },
      { cls := entry, attributes := some (start.dicts.size + 1) }]
    dicts := start.dicts ++ #[{}, {}]
    names := [("maker", .object start.objects.size)] }

theorem attr_elusive :
    ∃ v w, (Host.ofDepth 5).attr (.cls Library.taskClass) "on_x" elusive = .ok v w ∧
    w.isCallable v = true := by
  obtain ⟨_, u, run⟩ : ∃ v u, (do
      let found ← (Host.ofDepth 5).attr (.cls Library.taskClass) "on_x"
      if (← get).isCallable found then pure () else throw .noRunner : Act Unit) elusive = .ok v u :=
    exists_of_succeeds (by decide +kernel)
  obtain ⟨found, w, read, run⟩ := bind_eq_ok.1 run
  rw [bind_of_ok (get_run w)] at run
  split at run
  · rename_i callable
    exact ⟨found, w, read, callable⟩
  · cases run

/-- A data descriptor under the name of a handler keeps nothing that is set and gives a new method
each time: what is subscribed as it is read stays when it is taken back as it is read. -/
theorem handlers_elude : ∃ v w w₁ w₂ w₃ w₄ stamp stamp' self f,
    (Host.ofDepth 5).attr (.cls Library.taskClass) "on_x" elusive = .ok v w ∧
      w.isCallable v = true ∧
    create (Host.ofDepth 5) (.object Opening.task) .nothing .nothing elusive = .ok .nothing w₁ ∧
    (Host.ofDepth 5).attr (.object Opening.task) "on_x" w₁ = .ok (.ref (.method stamp self f)) w₂ ∧
    (Host.ofDepth 5).attr (.object Opening.task) "on_x" w₂ = .ok (.ref (.method stamp' self f)) w₃ ∧
    stamp ≠ stamp' ∧ w₃.tableAt 0 = [] ∧
    takeTurn (Host.ofDepth 5) (.object Opening.emitter) (.event .rule)
      (.object Opening.task) "on_x" w₃ =
      .ok (.object Opening.emitter) w₄ ∧ w₄.tableAt 0 ≠ [] := by
  -- the two methods are bound to the maker under the stamps that the run gives them
  let method (stamp : Nat) : Ref := .method stamp (.object 6) (.scripted 0)
  obtain ⟨_, u, run⟩ : ∃ v u, (do
      let made ← create (Host.ofDepth 5) (.object Opening.task) .nothing .nothing
      let first ← (Host.ofDepth 5).attr (.object Opening.task) "on_x"
      let second ← (Host.ofDepth 5).attr (.object Opening.task) "on_x"
      let before ← get
      let turned ← takeTurn (Host.ofDepth 5) (.object Opening.emitter) (.event .rule)
        (.object Opening.task) "on_x"
      let after ← get
      if made.isNothing ∧ first.isSame (.ref (method 22)) ∧ second.isSame (.ref (method 23)) ∧
          turned.isSame (.object Opening.emitter) ∧ (before.tableAt 0).isEmpty ∧
          !(after.tableAt 0).isEmpty then pure ()
      else throw .noRunner : Act Unit) elusive = .ok v u := exists_of_succeeds (by decide +kernel)
  obtain ⟨made, w₁, created, run⟩ := bind_eq_ok.1 run
  obtain ⟨first, w₂, read, run⟩ := bind_eq_ok.1 run
  obtain ⟨second, w₃, again, run⟩ := bind_eq_ok.1 run
  rw [bind_of_ok (get_run w₃)] at run
  obtain ⟨turned, w₄, turn, run⟩ := bind_eq_ok.1 run
  rw [bind_of_ok (get_run w₄)] at run
  split at run
  · rename_i all
    obtain ⟨isMade, isFirst, isSecond, isEmitter, before, after⟩ := all
    obtain rfl := Value.eq_of_isNothing isMade
    obtain rfl := Value.eq_of_isSame_ref isFirst
    obtain rfl := Value.eq_of_isSame_ref isSecond
    obtain rfl := Value.eq_of_isSame_ref isEmitter
    obtain ⟨v, w, given, callable⟩ := attr_elusive
    exact ⟨v, w, w₁, w₂, w₃, w₄, 22, 23, .object 6, .scripted 0, given, callable,
      created, read, again,
      by decide, by simpa using before, turn, by simpa using after⟩
  · cases run

end Task

end EventTasks
