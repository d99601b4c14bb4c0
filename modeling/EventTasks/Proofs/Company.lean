import EventTasks.Proofs.Installing
import EventTasks.Proofs.Emitting
import EventTasks.Proofs.Ledger

/-!
Tasks and emitters that are used together. A step installs or destroys one of the tasks, or sets one
of its handlers; every step leaves all of them in order, whichever task it is about, and what it
does to the table of each emitter is what it does to the ledger of installs.
-/
namespace EventTasks

open Act EventTasks.Task

structure Actor where
  object : Nat
  place : Nat
  registry : Ref
  listing : Listing

structure Venue where
  object : Nat
  place : Nat
  table : Nat

/-- Some tasks and emitters that share neither attributes nor tables. -/
structure Company where
  actors : List Actor
  venues : List Venue
  objects : ∀ m ∈ actors, ∀ m' ∈ actors, m.object = m'.object → m = m'
  places : ∀ m ∈ actors, ∀ m' ∈ actors, m.place = m'.place → m = m'
  tables : ∀ v ∈ venues, ∀ v' ∈ venues, v.table = v'.table → v = v'
  apart : ∀ v ∈ venues, ∀ m ∈ actors, v.place ≠ m.place

namespace Company

def lone (m : Actor) (v : Venue) (apart : v.place ≠ m.place) : Company where
  actors := [m]
  venues := [v]
  objects := by simp
  places := by simp
  tables := by simp
  apart := by simpa using apart

structure InOrder (c : Company) (w : World) : Prop where
  ordinary : ∀ m ∈ c.actors, Ordinary w m.object m.place m.registry m.listing
  registries : ∀ m ∈ c.actors, ∀ m' ∈ c.actors, m.registry.IsApart w m'.place
  serves : ∀ v ∈ c.venues, w.Serves v.object v.place v.table
  readable : ∀ v ∈ c.venues, w.Readable v.object

/-- A task is idle, its most recent install undone or missing, or it keeps the pairs of that
install. -/
inductive Stands (c : Company) (w : World) (ledger : Ledger) (m : Actor) : Prop where
  | idle (undone : ∀ e, ledger.latest? m.object = some e → e.undone = true)
    (idle : Idle w m.object)
  | enrolled {e : Enrolment} {v : Venue} {pairs : List (Value × Ref)}
    (latest : ledger.latest? m.object = some e) (live : e.undone = false) (venue : v ∈ c.venues)
    (table : e.table = v.table) (subscribed : e.pairs = handed pairs)
    (enrolled : Enrolled w m.object m.place v.object pairs)

structure Settled (c : Company) (w : World) (ledger : Ledger) : Prop extends InOrder c w where
  stands : ∀ m ∈ c.actors, Stands c w ledger m

/-- One step of a company: `install` or `destroy` of a task, which may fail, a handler is set, or
something else that changes neither attributes nor tables. The ledger notes the pairs of the
registry with the handlers that the task has then. -/
inductive Step (c : Company) : World → Ledger → World → Ledger → Prop where
  | installed {w w' : World} {ledger : Ledger} {m : Actor} {v : Venue} {options flag value : Value}
    {depth k : Nat} {pairs : List (Value × Ref)} (actor : m ∈ c.actors) (venue : v ∈ c.venues)
    (offers : w.Offers options (.object v.object) flag) (simple : flag.IsSimple)
    (run : install (Host.ofDepth depth) (.object m.object) options w = .ok value w')
    (resolves : Resolves w depth m.object options pairs)
    (registered : List.Forall₂ (Resolved (Host.ofDepth k) w m.object m.place) m.listing.entries
      pairs) :
    Step c w ledger w' (⟨m.object, v.table, handed pairs, false⟩ :: ledger)
  | rejected {w w' : World} {ledger : Ledger} {m : Actor} {options runner flag : Value}
    {f : Fault} {depth : Nat} (actor : m ∈ c.actors) (offers : w.Offers options runner flag)
    (simple : flag.IsSimple) (checkable : w.Checkable runner)
    (failed : checked (Host.ofDepth depth) (.object m.object) options w = .error f w')
    (run : install (Host.ofDepth depth) (.object m.object) options w = .error f w') :
    Step c w ledger w' ledger
  | destroyed {w w' : World} {ledger : Ledger} {m : Actor} {value : Value} {depth : Nat}
    (actor : m ∈ c.actors)
    (run : destroy (Host.ofDepth (depth + 1)) (.object m.object) w = .ok value w') :
    Step c w ledger w' (ledger.undo m.object)
  | refused {w w' : World} {ledger : Ledger} {m : Actor} {f : Fault} {depth : Nat}
    (actor : m ∈ c.actors)
    (run : destroy (Host.ofDepth (depth + 1)) (.object m.object) w = .error f w') :
    Step c w ledger w' ledger
  | reassigned {w w' : World} {ledger : Ledger} {m : Actor} {n : String} {value : Value}
    {depth : Nat} (actor : m ∈ c.actors) (handler : Naming.isHandlerName n = true)
    (settable : w.Settable m.object n)
    (run : (Host.ofDepth depth).assign (.object m.object) n value w = .ok () w') :
    Step c w ledger w' ledger
  | aside {w w' : World} {ledger : Ledger} {m : Actor} (actor : m ∈ c.actors)
    (kept : Keeps (.nothing m.place) w w') : Step c w ledger w' ledger

variable {c : Company} {s : Scope} {w w' : World} {ledger ledger' : Ledger} {m : Actor}

/-- What changes the attributes of one task alone, and leaves it and the tables in order, leaves
everyone in order. -/
theorem InOrder.of_keeps (order : c.InOrder w) (actor : m ∈ c.actors) (kept : Keeps s w w')
    (place : s.place = m.place) (own : Ordinary w' m.object m.place m.registry m.listing)
    (serves : ∀ v ∈ c.venues, s.tables v.table → w'.Serves v.object v.place v.table) :
    c.InOrder w' where
  ordinary m' actor' := by
    by_cases same : m'.place = m.place
    · exact c.places m' actor' m actor same ▸ own
    · exact (order.ordinary m' actor').of_keeps kept (place ▸ order.registries m' actor' m actor)
        fun _ _ => .inl (place ▸ same)
  registries m' actor' m'' actor'' := kept.isApart (order.registries m' actor' m'' actor'')
  serves v venue := by
    by_cases changed : s.tables v.table
    · exact serves v venue changed
    · exact (order.serves v venue).of_keeps kept (.inl (place ▸ c.apart v venue m actor)) changed
  readable v venue := kept.readable (order.readable v venue)

theorem Stands.of_keeps (stands : c.Stands w ledger m) (holds : w.Holds m.object m.place)
    (kept : Keeps s w w')
    (outside : ∀ n ∈ [runnerField, subscriptionsField], m.place ≠ s.place ∨ ¬ s.names n)
    (latest : ledger'.latest? m.object = ledger.latest? m.object) : c.Stands w' ledger' m := by
  cases stands with
  | idle undone idle => exact .idle (latest ▸ undone) (idle.of_keeps holds kept outside)
  | enrolled found live venue table subscribed enrolled =>
    exact .enrolled (latest.trans found) live venue table subscribed
      (enrolled.of_keeps kept outside)

theorem Settled.of_keeps (settled : c.Settled w ledger) (actor : m ∈ c.actors)
    (order : c.InOrder w') (kept : Keeps s w w') (place : s.place = m.place)
    (own : c.Stands w' ledger' m)
    (latest : ∀ i, i ≠ m.object → ledger'.latest? i = ledger.latest? i) :
    c.Settled w' ledger' where
  toInOrder := order
  stands m' actor' := by
    by_cases same : m' = m
    · exact same ▸ own
    · have other : m'.place ≠ m.place := fun h => same (c.places m' actor' m actor h)
      exact (settled.stands m' actor').of_keeps (settled.ordinary m' actor').holds kept
        (fun _ _ => .inl (place ▸ other))
        (latest _ fun h => same (c.objects m' actor' m actor h))

/-! The steps, one after the other -/

structure Does (c : Company) (w : World) (ledger : Ledger) (w' : World) (ledger' : Ledger) :
    Prop where
  settled : c.Settled w' ledger'
  turns : ∀ v ∈ c.venues,
    Ledger.Turn v.table ledger (w.tableAt v.table) ledger' (w'.tableAt v.table)

theorem tableAt_of_keeps {p : Nat} (kept : Keeps s w w') (inside : p < w.tables.size)
    (outside : ¬ s.tables p) : w'.tableAt p = w.tableAt p :=
  congrArg Subscriptions.table (kept.subscriptionsAt inside outside)

theorem tableAt_venue {v v' : Venue} (kept : Keeps s w w') (only : ∀ p, s.tables p → p = v.table)
    (inside : v'.table < w.tables.size) (change : Table → Table)
    (changed : w'.tableAt v.table = change (w.tableAt v.table)) :
    w'.tableAt v'.table =
      if v.table = v'.table then change (w.tableAt v'.table) else w.tableAt v'.table := by
  by_cases same : v.table = v'.table
  · rw [if_pos same, ← same, changed]
  · rw [if_neg same, tableAt_of_keeps kept inside fun found => same (only _ found).symm]

theorem Stands.former (stands : c.Stands w ledger m) : ∃ v, w.Shows m.object runnerField v := by
  cases stands with
  | idle _ idle => exact ⟨_, idle.runner⟩
  | enrolled _ _ _ _ _ enrolled => exact ⟨_, enrolled.runner⟩

/-- What changes no table, and of one task only attributes that an install does not read. -/
theorem Settled.aside (settled : c.Settled w ledger) (actor : m ∈ c.actors) (kept : Keeps s w w')
    (place : s.place = m.place) (tables : ∀ p, ¬ s.tables p)
    (names : ∀ n, s.names n → n ∉ essentials ∧ n ∉ [runnerField, subscriptionsField]) :
    c.Does w ledger w' ledger where
  settled := by
    have ordinary := settled.ordinary m actor
    have own : Ordinary w' m.object m.place m.registry m.listing :=
      ordinary.of_keeps kept (place ▸ ordinary.apart) fun n hn => .inr fun set => (names n set).1 hn
    exact settled.of_keeps actor (settled.toInOrder.of_keeps actor kept place own
        fun v _ changed => absurd changed (tables v.table)) kept place
      ((settled.stands m actor).of_keeps ordinary.holds kept
        (fun n hn => .inr fun set => (names n set).2 hn) rfl) fun _ _ => rfl
  turns v venue := by
    rw [tableAt_of_keeps kept (settled.serves v venue).emitter.inside (tables v.table)]
    exact .aside

theorem Settled.offersEmitter (settled : c.Settled w ledger) (actor : m ∈ c.actors) {v : Venue}
    (venue : v ∈ c.venues) {options flag : Value}
    (offers : w.Offers options (.object v.object) flag) (simple : flag.IsSimple) :
    OffersEmitter w m.object m.place m.registry m.listing options flag v.object
        v.place v.table where
  ordinary := settled.ordinary m actor
  offers := offers
  simple := simple
  apart := c.apart v venue m actor
  readable := settled.readable v venue
  former := (settled.stands m actor).former
  serves := settled.serves v venue

/-- An install that succeeds is entered into the ledger. -/
theorem Settled.install (settled : c.Settled w ledger) (actor : m ∈ c.actors) {v : Venue}
    (venue : v ∈ c.venues) {options flag value : Value} {depth : Nat} {pairs : List (Value × Ref)}
    (offers : w.Offers options (.object v.object) flag) (simple : flag.IsSimple)
    (run : Task.install (Host.ofDepth depth) (.object m.object) options w = .ok value w')
    (resolves : Resolves w depth m.object options pairs) :
    c.Does w ledger w' (⟨m.object, v.table, handed pairs, false⟩ :: ledger) := by
  obtain ⟨-, pairs', handed, installed⟩ :=
    install_done (settled.offersEmitter actor venue offers simple) run
  obtain rfl := handed.resolves.unique resolves
  have order : c.InOrder w' := settled.toInOrder.of_keeps actor handed.keeps rfl handed.ordinary
    fun v' venue' same => c.tables v' venue' v venue same ▸ handed.serves
  refine ⟨settled.of_keeps actor order handed.keeps rfl
    (.enrolled (by rw [Ledger.latest?_cons, if_pos rfl]) rfl venue rfl rfl installed.toEnrolled)
    fun i other => by rw [Ledger.latest?_cons, if_neg (Ne.symm other)], fun v' venue' => ?_⟩
  rw [tableAt_venue handed.keeps (fun _ => id) (settled.serves v' venue').emitter.inside
    (·.subscribeAll (Task.handed pairs')) handed.table]
  exact .entered rfl

theorem destroy_idle {h : Host} {i : Nat} (usual : w.ReadsUsually i) (named : IsNamed w i)
    (idle : w.Shows i runnerField .nothing) :
    ∃ task text, destroy h (.object i) w = .error (.notInstalled task text) w := by
  obtain ⟨name, simple, shows⟩ := named
  obtain ⟨text, told⟩ := Host.formatted_simple simple
  refine ⟨name, text, ?_⟩
  rw [destroy, bind_of_ok (Host.attr_shows usual idle)]
  have nothing : Value.nothing.isNothing = true := rfl
  simp only [nothing, if_true]
  rw [bind_of_ok (notInstalled_eq usual shows (told h w))]
  rfl

/-- A task that is destroyed had the pairs of its most recent install, and this install is
undone. -/
theorem Settled.destroy (settled : c.Settled w ledger) (actor : m ∈ c.actors) (depth : Nat) :
    (∃ w', Task.destroy (Host.ofDepth (depth + 1)) (.object m.object) w = .ok .nothing w' ∧
      c.Does w ledger w' (ledger.undo m.object)) ∨
    ∃ f, Task.destroy (Host.ofDepth (depth + 1)) (.object m.object) w = .error f w := by
  have ordinary := settled.ordinary m actor
  cases settled.stands m actor with
  | idle _ idle =>
    obtain ⟨task, text, failed⟩ := destroy_idle (h := Host.ofDepth (depth + 1)) ordinary.usual
      ordinary.named idle.runner
    exact .inr ⟨_, failed⟩
  | @enrolled e v pairs latest live venue table subscribed enrolled =>
    have installed : Installed w m.object m.place v.object v.place v.table pairs :=
      { enrolled, settled.serves v venue with }
    obtain ⟨w', run, kept, idle, serves, changed⟩ := destroy_ok installed
      (c.apart v venue m actor) ordinary.named depth
    refine .inl ⟨w', run, ?_⟩
    have order : c.InOrder w' := settled.toInOrder.of_keeps actor kept rfl (ordinary.of_books kept)
      fun v' venue' same => c.tables v' venue' v venue same ▸ serves
    refine ⟨settled.of_keeps actor order kept rfl
      (.idle (fun _ found => Ledger.undone_of_latest?_undo found) idle)
      fun i other => Ledger.latest?_undo_of_ne other, fun v' venue' => ?_⟩
    · rw [tableAt_venue kept (fun _ => id) (settled.serves v' venue').emitter.inside
        (·.unsubscribeAll (handed pairs)) changed, ← table, ← subscribed]
      exact .undone latest live

theorem not_essential {n : String} (handler : Naming.isHandlerName n = true) :
    n ∉ essentials ∧ n ∉ [runnerField, subscriptionsField] := by
  have others : ∀ m ∈ essentials ++ [runnerField, subscriptionsField],
      Naming.isHandlerName m = false := by decide
  constructor <;> intro found
  · have other := others n (List.mem_append_left _ found)
    simp [handler] at other
  · have other := others n (List.mem_append_right _ found)
    simp [handler] at other

/-- Every step leaves everyone in order and changes the tables as it changes the ledger. -/
theorem Settled.step (settled : c.Settled w ledger) (step : c.Step w ledger w' ledger') :
    c.Does w ledger w' ledger' := by
  cases step with
  | installed actor venue offers simple run resolves _ =>
    exact settled.install actor venue offers simple run resolves
  | @rejected _ _ m _ _ _ _ depth actor offers simple checkable failed run =>
    obtain ⟨u, kept, ⟨f, failed'⟩ | ⟨_, _, _, _, _, passed, _⟩⟩ :=
      checked_eq (settled.ordinary m actor) offers simple checkable depth
    · obtain ⟨-, rfl⟩ := EStateM.Result.error.inj (failed.symm.trans failed')
      exact settled.aside actor kept.toKeeps rfl (fun _ => id) fun _ => False.elim
    · simp [failed] at passed
  | @destroyed _ _ m _ depth actor run =>
    rcases settled.destroy actor depth with ⟨u, done, does⟩ | ⟨f, failed⟩
    · obtain ⟨-, rfl⟩ := EStateM.Result.ok.inj (run.symm.trans done)
      exact does
    · simp [failed] at run
  | @refused _ _ m _ depth actor run =>
    rcases settled.destroy actor depth with ⟨u, done, -⟩ | ⟨f, failed⟩
    · simp [done] at run
    · obtain ⟨-, rfl⟩ := EStateM.Result.error.inj (run.symm.trans failed)
      exact settled.aside (s := .nothing m.place) actor (.refl _ _) rfl (fun _ => id) fun _ =>
        False.elim
  | @reassigned _ _ m n value depth actor handler settable run =>
    have set := Host.assign_settable (h := Host.ofDepth depth) (v := value)
      (settled.ordinary m actor).holds settable
    obtain ⟨-, rfl⟩ := EStateM.Result.ok.inj (run.symm.trans set)
    have kept : Keeps ⟨m.place, (· = n), fun _ => False⟩ w (w.putText m.place n value) :=
      .putText rfl value
    exact settled.aside actor kept rfl (fun _ => id) fun _ same => same ▸ not_essential handler
  | aside actor kept => exact settled.aside actor kept rfl (fun _ => id) fun _ => False.elim

theorem Settled.exists_step_of_install (settled : c.Settled w ledger) (actor : m ∈ c.actors)
    {v : Venue} (venue : v ∈ c.venues) {options flag value : Value} {depth : Nat}
    (offers : w.Offers options (.object v.object) flag) (simple : flag.IsSimple)
    (run : Task.install (Host.ofDepth depth) (.object m.object) options w = .ok value w') :
    ∃ pairs, c.Step w ledger w' (⟨m.object, v.table, handed pairs, false⟩ :: ledger) := by
  obtain ⟨-, pairs, handed, -⟩ := install_done (settled.offersEmitter actor venue offers simple) run
  obtain ⟨k, -, resolved⟩ := handed.resolved
  exact ⟨pairs, .installed actor venue offers simple run handed.resolves resolved⟩

end Company

end EventTasks
