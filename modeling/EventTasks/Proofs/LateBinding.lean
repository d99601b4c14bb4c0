import EventTasks.Proofs.Accounting
import EventTasks.Proofs.History

/-!
Forwarders speak for their own task and for the runner that the task has. Whatever happens after the
install that gave a task a forwarder, the task has it still. Called while the task has no runner, it
fails with the name that the task has then, and calls nothing; called while the task is installed,
it calls the method of its name of the runner of the most recent install, once, with the bracketed
name in front. Installing a task gives nothing to other tasks, and to classes nothing but the
mapping of their fields, which a class comes to keep when it is first asked for it.
-/
namespace EventTasks

open Act EventTasks.Task

namespace Stage

structure Attaches (cast : Cast) (m : Actor) (w w' : World) : Prop where
  /-- Other tasks keep all that they have and gain nothing. -/
  others : ∀ m' ∈ cast.actors, m'.HasDefaultInternals w → m' ≠ m → ∀ n, m'.own? w' n = m'.own? w n
  /-- Classes keep what they define and gain nothing, but for the mapping of their fields. -/
  classes : w.KeepsClasses w'
  /-- The task keeps all that it has but its books. -/
  kept : ∀ n x, n ∉ [runnerField, subscriptionsField] → m.own? w n = some x → m.own? w' n = some x

/-- A task that goes by a name has a forwarder, and what calling it does at this stage. -/
structure Voices (z : Stage) (m : Actor) (n : String) (x name : Value) (text : String) : Prop where
  shown : z.world.Shows m.object n x
  named : z.world.Shows m.object "name" name
  told : ∀ (h : Host) w, h.formatted name w = .ok text w
  /-- While the most recent install of the task is undone, or there is none, nothing is called. -/
  silent : z.host m.object = none → ∀ k args,
    (Host.ofDepth (k + 1)).call x args [] z.world = .error (.notInstalled name text) z.world
  /-- Otherwise the task has the host of that install as its runner, and the call comes down to one
  call of the method that this host has. Until then nothing has changed but the surroundings. -/
  speaks : ∀ r, z.host m.object = some r → z.world.Shows m.object runnerField (.object r) ∧
    ∀ k f u settings, (Host.ofDepth (k + 1)).attr (.object r) n z.world = .ok f u →
      z.world.around.Gives settings → ∃ u', (∀ s, Keeps s z.world u') ∧ ∀ args,
        (Host.ofDepth (k + 2)).call x args [] z.world =
          (Host.ofDepth (k + 1)).call f (front settings text :: args) [] u'

variable {cast : Cast} {H : Hosting cast} {a b z : Stage} {m : Actor} {r : Nat} {w w' : World}
  {n : String} {x : Value}

theorem Attaches.of_spares (actor : m ∈ cast.actors) (internals : m.HasDefaultInternals w)
    (spares : cast.Spares (m.gains w) w w') (classes : w.KeepsClasses w') :
    Attaches cast m w w' where
  others m' actor' internals' other n := (spares.actors m' actor' internals').own n fun gained =>
    other gained.1
  classes := classes
  kept n x free found := by
    refine ((spares.actors m actor internals).own n fun gained => ?_).trans found
    have absent : m.own? w n = none := (gained.2.resolve_left free).2.1
    simp [found] at absent

theorem InOrder.attaches (order : a.InOrder H) (installs : Installs m r a b) :
    Attaches cast m a.world b.world :=
  .of_spares (order.members m installs.task) (order.stands m installs.task).internals
    (order.hosted installs).spares (order.hosted installs).classes

theorem InOrder.attaches_rejected (order : a.InOrder H) (rejected : Rejected m a w') :
    Attaches cast m a.world w' := by
  obtain ⟨task, same⟩ := rejected.untouched
  exact .of_spares (order.members m task) (order.stands m task).internals (.of_untouched same)
    (.of_keeps (same 0).toKeeps (same 0).recalls)

/-- What an install gives to a task, its books apart, is a forwarder that it did not have. -/
theorem InOrder.carries (order : a.InOrder H) (installs : Installs m r a b)
    (free : n ∉ [runnerField, subscriptionsField]) (lacked : m.own? a.world n = none)
    (given : m.own? b.world n = some x) : b.Carries m n x := by
  have installed := order.hosted installs
  have stands := order.stands m installs.task
  have spared := installed.spares.actors m (order.members m installs.task) stands.internals
  have fresh : m.Lacks a.world n := by
    by_contra taken
    have same := spared.own n fun gained => gained.2.elim free taken
    simp [given, lacked] at same
  have forwards := installed.forwards n x fresh free given
  refine ⟨(order.installed installs).tasks m installs.task, given, forwards,
    (spared.defined n forwards.1.ne).trans fresh.2.2, fun spoken => ?_⟩
  rcases List.mem_cons.1 spoken with rfl | book
  · exact stands.internals.present (n := "name") (by decide) fresh.2
  · exact free book

/-- A forwarder that a task has speaks for it. -/
theorem Carries.exists_voices (carries : z.Carries m n x) (order : z.InOrder H) :
    ∃ name text, Voices z m n x name text := by
  have stands := order.stands m carries.task
  have internals := stands.internals
  obtain ⟨name, simple, named⟩ := internals.named
  obtain ⟨text, told⟩ := Host.formatted_simple simple
  have shown : z.world.Shows m.object n x :=
    .inl ⟨carries.own, fun e found => by simp [carries.lacks] at found⟩
  have runner := internals.shows (by simp) stands.runner
  obtain ⟨isPublic, j, info, rfl, there, own, rfl⟩ := carries.forwards
  refine ⟨name, text, shown, named, told, fun unhosted k args => ?_, fun r hosted => ?_⟩
  · rw [unhosted] at runner
    rw [call_forwarder there,
      bind_of_error (reach_idle internals.usual own runner named (told _ _))]
  · rw [hosted] at runner
    refine ⟨runner, fun k f u settings read gives => ?_⟩
    have same : Untouched z.world u := after_of_ok read ▸
      H.read (order.fine r (order.known m carries.task r hosted) _ (Nat.le_refl _)) isPublic
    obtain ⟨around', reached, -⟩ :=
      reach_ok internals.usual internals.holds stands.prefixes own runner named
      told read same gives
    refine ⟨_, fun s => (same.trans .later).keeps.trans (.around around'), fun args => ?_⟩
    rw [call_forwarder there, bind_of_ok reached]

end Stage

/-- After any history, `install` of a task, whether it succeeds or fails, gives nothing to other
tasks and takes nothing from them, leaves classes as they are but for `__annotations__`, and
replaces nothing that the task has. Whatever it gives to the task, its runner and pairs apart, is a
forwarder, which at any stage of any later history calls the method of its name of the runner that
the task has then, with the name that the task has then in front. -/
theorem History.voices {cast : Cast} {H : Hosting cast} {start a : Stage}
    (history : History H start a)
    (order : start.InOrder H) :
    (∀ m w', (Rejected m a w' ∨ ∃ r b, Installs m r a b ∧ b.world = w') →
      Stage.Attaches cast m a.world w') ∧
    ∀ m r b n x z, Installs m r a b → n ∉ [runnerField, subscriptionsField] →
      m.own? a.world n = none → m.own? b.world n = some x → History H b z →
        ∃ name text, Stage.Voices z m n x name text := by
  have order := (history.keeps order).1
  refine ⟨?_, fun m r b n x z installs free lacked given later => ?_⟩
  · rintro m w' (rejected | ⟨r, b, installs, rfl⟩)
    · exact order.attaches_rejected rejected
    · exact order.attaches installs
  · obtain ⟨order', keeps⟩ := later.keeps (order.installed installs).order
    exact (keeps m n x (order.carries installs free lacked given)).exists_voices order'

def Opening.heir : ClassInfo where
  name := "R"
  qualifiedName := "R"
  bases := [Library.emitterClass]
  order := [World.start.classes.size, Library.emitterClass, Library.objectClass]
  body := [("__module__", .word "session"), ("__doc__", .nothing)]
  kind := Library.typeClass

def Opening.inherited : World :=
  { World.opening rules with
    classes := World.start.classes.push heir
    objects := (World.opening rules).objects.modify emitter fun o =>
      { o with cls := World.start.classes.size } }

/-- The class of a runner may gain `__annotations__` by `install`, as `isinstance` asks for it. -/
theorem Opening.install_gains_annotations : ∃ value w',
    install (Host.ofDepth 5) (.object task) (.options 0 (.object emitter) (some false)) inherited =
      .ok value w' ∧
    ¬ ∀ c n, ((w'.classInfo c).body.lookup n).isSome =
      ((inherited.classInfo c).body.lookup n).isSome := by
  obtain ⟨_, w, done⟩ : ∃ v w, (do
      let value ← install (Host.ofDepth 5) (.object task)
        (.options 0 (.object emitter) (some false))
      let w ← get
      if ((w.classInfo World.start.classes.size).body.lookup "__annotations__").isNone then
        throw .noRunner
      pure value : Act Value) inherited = .ok v w := exists_of_succeeds (by decide +kernel)
  obtain ⟨value, w', run, done⟩ := bind_eq_ok.1 done
  refine ⟨value, w', run, fun same => ?_⟩
  have lacked : ((inherited.classInfo World.start.classes.size).body.lookup
    "__annotations__").isSome = false := by decide
  have gained := (same World.start.classes.size "__annotations__").trans lacked
  have missing : ((w'.classInfo World.start.classes.size).body.lookup
      "__annotations__").isNone = true := by
    rw [← Option.not_isSome, gained, Bool.not_false]
  rw [bind_of_ok (get_run w'), if_pos missing] at done
  cases done

namespace Opening

def actor : Actor := ⟨task, 1, .dict 3, listing rules⟩

def cast : Cast := (Company.opening rules).tasks fun m actor m' actor' => by
  obtain rfl := List.mem_singleton.1 actor
  obtain rfl := List.mem_singleton.1 actor'
  exact (by decide : Ref.dict 3 ≠ .dict 1)

def hosting : Hosting cast := (Company.opening rules).emitters _

def warning : World :=
  (World.opening rules).putText 2 "warn" (.ref (.function (.library (.emitter .describe))))

def stage : Stage := ⟨[actor], [emitter], World.opening rules, fun _ => none⟩

theorem fine {w : World} (serves : w.Serves emitter 2 0) (readable : w.Readable emitter) :
    ∀ r ∈ stage.hosts, hosting.Fine r w := by
  intro r known q _
  obtain rfl := List.mem_singleton.1 known
  exact ⟨⟨emitter, 2, 0⟩, List.mem_singleton_self _, rfl, serves, readable⟩

theorem inOrder : stage.InOrder hosting where
  members m task := task
  stands m task := by
    obtain rfl := List.mem_singleton.1 task
    exact ⟨offersRunner_rules.ordinary.toDefaultInternals, ⟨rfl, rfl⟩, rfl, 0, [], [], rfl, rfl,
      .nil, by simp⟩
  known _ _ _ hosted := nomatch hosted
  fine := fine reachable.serves readable

theorem keeps_warning : Keeps ⟨2, (· = "warn"), fun _ => False⟩ (World.opening rules) warning :=
  .putText rfl _

theorem serves_warning : warning.Serves emitter 2 0 :=
  reachable.serves.of_keeps keeps_warning (.inr ⟨by decide, by decide, by decide⟩) id

theorem history_warning : History hosting stage (stage.goOn warning) := by
  refine .elsewhere (.of_other keeps_warning fun m task => ?_) (List.Subset.refl _)
    (fine serves_warning (keeps_warning.readable readable))
  obtain rfl := List.mem_singleton.1 task
  exact ⟨by decide, by decide, by decide⟩

end Opening

/-- The task gets a forwarder of `warn`. After `destroy` it has the forwarder still, and the
forwarder calls nothing. -/
theorem History.voices_rules : ∃ (b z : Stage) (x name : Value) (text : String),
    Stage.Attaches Opening.cast Opening.actor Opening.warning b.world ∧
      History Opening.hosting b z ∧
    Stage.Voices z Opening.actor "warn" x name text ∧ ∀ args,
      (Host.ofDepth 5).call x args [] z.world = .error (.notInstalled name text) z.world := by
  let options : Value := .options 0 (.object Opening.emitter) (some true)
  let a : Stage := Opening.stage.goOn Opening.warning
  have task : Opening.actor ∈ a.tasks := List.mem_singleton_self _
  have order := (Opening.history_warning.keeps Opening.inOrder).1
  obtain ⟨name, text, readOnly⟩ := DefaultInternals.readOnly (order.stands _ task).internals
    (.decoded 0 (.object Opening.emitter) (some true)) (by trivial)
    (.inr ⟨_, _, _, rfl, Opening.serves_warning.emitter⟩) (fun e found place key n same named => by
      obtain rfl := Opening.handlerName_rules found same named
      exact .inr ⟨_, rfl, rfl⟩) 4
  obtain ⟨value, w₃, done⟩ : ∃ v w₃, (do
      let _ ← install (Host.ofDepth 5) (.object Opening.task) options
      let w ← get
      if (Opening.actor.own? w "warn").isNone then throw .noRunner
      destroy (Host.ofDepth 5) (.object Opening.task) : Act Value) Opening.warning = .ok v w₃ :=
    exists_of_succeeds (by decide +kernel)
  obtain ⟨_, w₂, run, done⟩ := bind_eq_ok.1 done
  rw [bind_of_ok (get_run w₂)] at done
  cases given : Opening.actor.own? w₂ "warn" with
  | none => simp [given, bind_run] at done
  | some x =>
    have destroyed : destroy (Host.ofDepth 5) (.object Opening.task) w₂ = .ok value w₃ := by
      simpa only [given, Option.isNone_some, Bool.false_eq_true, if_false] using done
    let b : Stage := a.settle Opening.task (some Opening.emitter) w₂
    have installs : Installs Opening.actor Opening.emitter a b :=
      .mk task (List.mem_singleton_self _) readOnly rfl run
    have task' : Opening.actor ∈ b.tasks := task
    obtain ⟨attaches, speak⟩ := Opening.history_warning.voices Opening.inOrder
    have later : History Opening.hosting b (b.settle Opening.task none w₃) :=
      .destroyed task' destroyed
    obtain ⟨name, text, voices⟩ := speak _ _ b "warn" x _ installs (by decide) rfl given later
    exact ⟨b, _, x, name, text, attaches _ _ (.inr ⟨_, b, installs, rfl⟩), later, voices,
      voices.silent (by simp [Stage.settle, Opening.actor]) 4⟩

end EventTasks
