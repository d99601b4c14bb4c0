import EventTasks.Proofs.Company
import EventTasks.Proofs.Opening

/-!
Whole runs of installs, destroys and reassigned handlers, by any number of tasks on any number of
emitters that start empty. Whatever the order of the steps, each emitter has of every handler as
many copies as the installs not undone subscribed; and if different tasks have different handlers,
it has the handlers of these installs in order, and delivers to them in this order.
-/
namespace EventTasks

open Act EventTasks.Task

namespace Company

structure Opens (c : Company) (w : World) : Prop extends InOrder c w where
  idle : ∀ m ∈ c.actors, Idle w m.object
  empty : ∀ v ∈ c.venues, w.tableAt v.table = []

/-- The worlds that a company comes to by steps, with the ledger of the installs meanwhile. -/
inductive Run (c : Company) (start : World) : World → Ledger → Prop where
  | start : Run c start start []
  | step {w w' : World} {ledger ledger' : Ledger} (before : Run c start w ledger)
    (step : c.Step w ledger w' ledger') : Run c start w' ledger'

variable {c : Company} {start w : World} {ledger : Ledger} {v : Venue}

theorem Opens.settled (opens : c.Opens start) : c.Settled start [] where
  toInOrder := opens.toInOrder
  stands m actor := .idle (fun e found => by simp [Ledger.latest?] at found) (opens.idle m actor)

theorem Run.settled (opens : c.Opens start) (run : c.Run start w ledger) : c.Settled w ledger := by
  induction run with
  | start => exact opens.settled
  | step _ step settled => exact (settled.step step).settled

theorem Run.balances (opens : c.Opens start) (run : c.Run start w ledger) (venue : v ∈ c.venues) :
    Ledger.Balances v.table ledger (w.tableAt v.table) := by
  induction run with
  | start =>
    intro k h
    rw [opens.empty v venue]
    rfl
  | step before step balances =>
    exact balances.turn (((before.settled opens).step step).turns v venue)

/-- Through a whole run the order is that of the installs, where tasks do not share handlers. -/
theorem Run.routes (opens : c.Opens start) (run : c.Run start w ledger) (apart : ledger.Apart)
    (venue : v ∈ c.venues) : Ledger.Routes v.table ledger (w.tableAt v.table) := by
  induction run with
  | start =>
    intro k
    rw [opens.empty v venue]
    rfl
  | step before step routes =>
    have turn := ((before.settled opens).step step).turns v venue
    have apart' := apart.before turn
    exact (routes apart').turn apart' turn

def opening (registry : Dictionary) : Company where
  actors := [⟨Opening.task, 1, .dict 3, Opening.listing registry⟩]
  venues := [⟨Opening.emitter, 2, 0⟩]
  objects := by simp
  places := by simp
  tables := by simp
  apart := by simp

theorem opens_opening {registry : Dictionary} (textual : registry.Textual)
    (plain : ∀ e ∈ registry.toPairs, e.2.Plain (World.opening registry)) :
    (opening registry).Opens (World.opening registry) := by
  have ordinary := Opening.ordinary textual plain
  refine ⟨⟨fun m actor => ?_, fun m actor m' actor' => ?_, fun v venue => ?_, fun v venue => ?_⟩,
    fun m actor => ?_, fun v venue => ?_⟩
  · obtain rfl := List.mem_singleton.1 actor
    exact ordinary
  · obtain rfl := List.mem_singleton.1 actor
    obtain rfl := List.mem_singleton.1 actor'
    exact ordinary.apart
  · obtain rfl := List.mem_singleton.1 venue
    exact Opening.reachable.serves
  · obtain rfl := List.mem_singleton.1 venue
    exact Opening.readable
  · obtain rfl := List.mem_singleton.1 actor
    exact Opening.idle
  · obtain rfl := List.mem_singleton.1 venue
    rfl

theorem opens_rules : (opening Opening.rules).Opens (World.opening Opening.rules) :=
  opens_opening (Dictionary.textual_ofTexts _) Opening.plain_rules

theorem exists_run_rules : ∃ w first second,
    (opening Opening.rules).Run (World.opening Opening.rules) w
      [⟨Opening.task, 0, second, true⟩, ⟨Opening.task, 0, first, false⟩] := by
  obtain ⟨_, w₃, done⟩ : ∃ v w₃, (do
      let _ ← install (Host.ofDepth 5) (.object Opening.task)
        (.options 0 (.object Opening.emitter) (some false))
      let _ ← install (Host.ofDepth 5) (.object Opening.task)
        (.options 0 (.object Opening.emitter) (some false))
      destroy (Host.ofDepth 5) (.object Opening.task) : Act Value) (World.opening Opening.rules) =
        .ok v w₃ := exists_of_succeeds (by decide +kernel)
  obtain ⟨v₁, w₁, run₁, done⟩ := bind_eq_ok.1 done
  obtain ⟨v₂, w₂, run₂, run₃⟩ := bind_eq_ok.1 done
  have actor := List.mem_singleton_self
    (⟨Opening.task, 1, .dict 3, Opening.listing Opening.rules⟩ : Actor)
  have venue := List.mem_singleton_self (⟨Opening.emitter, 2, 0⟩ : Venue)
  have started : (opening Opening.rules).Run (World.opening Opening.rules) _ _ := .start
  obtain ⟨first, step₁⟩ := opens_rules.settled.exists_step_of_install actor venue
    (.decoded _ _ _) (Value.isSimple_ofFlag? _) run₁
  obtain ⟨second, step₂⟩ := ((started.step step₁).settled opens_rules).exists_step_of_install actor
    venue (.decoded _ _ _) (Value.isSimple_ofFlag? _) run₂
  have ended := ((started.step step₁).step step₂).step (.destroyed actor run₃)
  rw [Ledger.undo_cons, if_pos rfl] at ended
  exact ⟨w₃, _, _, ended⟩

/-- After any run, `listeners` gives every handler of an event as often as the installs on this
emitter that were not undone subscribed it to that event. -/
theorem count_listeners (opens : c.Opens start) (run : c.Run start w ledger) (venue : v ∈ c.venues)
    {event : Value} {k : Key} (plain : event.Plain w) (key : event.key = .ok k) (h : Host) :
    ∃ found, Emitter.Tells h w v.object event found ∧
      ∀ f, found.count f = (ledger.subscribed v.table).countP fun q => q.1.key = k ∧ q.2 = f :=
  ⟨(w.tableAt v.table).listeners k,
    Emitter.tells ((run.settled opens).serves v venue) plain key, run.balances opens venue k⟩

theorem count_listeners_rules : ∃ w first second found,
    (opening Opening.rules).Run (World.opening Opening.rules) w
      [⟨Opening.task, 0, second, true⟩, ⟨Opening.task, 0, first, false⟩] ∧
    Emitter.Tells (Host.ofDepth 5) w Opening.emitter (.event .rule) found ∧
    ∀ f, found.count f = first.countP fun q =>
      q.1.key = [.text ParseEvent.rule.identifier] ∧ q.2 = f := by
  obtain ⟨w, first, second, run⟩ := exists_run_rules
  obtain ⟨found, tells, counts⟩ := count_listeners opens_rules run (v := ⟨Opening.emitter, 2, 0⟩)
    (List.mem_singleton_self _) (Value.plain_event .rule w) rfl (Host.ofDepth 5)
  exact ⟨w, first, second, found, run, tells, fun f => by
    simpa [Ledger.subscribed, Ledger.standing] using counts f⟩

/-- After any run of tasks that do not share handlers, `listeners` gives the handlers of the
installs that were not undone, one install after the other. `emit` calls these in this order, and no
handler of a task all of whose installs were undone. -/
theorem listeners_eq_flatMap (opens : c.Opens start) (run : c.Run start w ledger)
    (apart : ledger.Apart) (venue : v ∈ c.venues) {event : Value} {k : Key}
    (plain : event.Plain w) (key : event.key = .ok k) (h : Host) :
    ∃ found, found = ((ledger.standing v.table).flatMap fun e => Table.handlersFor e.pairs k) ∧
      Emitter.Tells h w v.object event found ∧
      (∀ args value w', Emitter.emit h (.object v.object) event args w = .ok value w' ↔
        Emitter.Calls h args found w w' ∧ value = .flag !found.isEmpty) ∧
      ∀ i, (∀ e ∈ ledger, e.task = i → e.undone = true) →
        ∀ e ∈ ledger, e.task = i → ∀ q ∈ e.pairs, q.2 ∉ found := by
  have serves := (run.settled opens).serves v venue
  have routes := run.routes opens apart venue
  refine ⟨(w.tableAt v.table).listeners k, routes k, Emitter.tells serves plain key,
    fun args value w' => Emitter.emit_eq_ok serves plain key, fun i undone e found task q hq => ?_⟩
  exact routes.silent apart undone found task hq k

theorem listeners_eq_flatMap_rules : ∃ w first second found,
    (opening Opening.rules).Run (World.opening Opening.rules) w
      [⟨Opening.task, 0, second, true⟩, ⟨Opening.task, 0, first, false⟩] ∧
    found = Table.handlersFor first [.text ParseEvent.rule.identifier] ∧
    Emitter.Tells (Host.ofDepth 5) w Opening.emitter (.event .rule) found := by
  obtain ⟨w, first, second, run⟩ := exists_run_rules
  have apart : Ledger.Apart
      [⟨Opening.task, 0, second, true⟩, ⟨Opening.task, 0, first, false⟩] := by
    intro e he e' he' other
    have same : ∀ e ∈ ([⟨Opening.task, 0, second, true⟩, ⟨Opening.task, 0, first, false⟩] : Ledger),
        e.task = Opening.task := by simp
    exact absurd ((same e he).trans (same e' he').symm) other
  obtain ⟨found, eq, tells, -, -⟩ := listeners_eq_flatMap opens_rules run apart
    (v := ⟨Opening.emitter, 2, 0⟩) (List.mem_singleton_self _) (Value.plain_event .rule w) rfl
    (Host.ofDepth 5)
  exact ⟨w, first, second, found, run, by simpa [Ledger.standing] using eq, tells⟩

end Company

end EventTasks
