import EventTasks.Proofs.RoundTrip
import EventTasks.Proofs.Engaging
import EventTasks.Proofs.Answering

/-!
A task that is destroyed after others have used its emitter. Between the install and the destroy
other parties subscribe handlers, take them back and close channels, and other tasks are installed
and destroyed, on this emitter or elsewhere; any of it may fail. The books of the task survive all
of it, so that the destroy goes through, and it takes back exactly the recorded pairs: of each
handler the last copies, as far as there are any.
-/
namespace EventTasks

open Act

namespace Emitter

def TellsEvents (h : Host) (w : World) (r : Nat) (events : List Value) : Prop :=
  ∃ place w', eventNames h (.object r) w = .ok (.ref (.list place)) w' ∧
    w'.lists[place]? = some events

theorem tellsEvents {h : Host} {w : World} {r e p : Nat} (emitter : w.IsEmitter r e p) :
    TellsEvents h w r (w.tableAt p).events :=
  ⟨_, _, eventNames_run emitter, Array.getElem?_push_size⟩

/-- Between two worlds an emitter lost the last copies of the listeners that some subscriptions
name, each as often as they name it. The rest is in its order; events without listeners are gone. -/
structure Lost (h : Host) (w w' : World) (r : Nat) (pairs : List Table.Subscription) : Prop where
  listeners : ∀ (event : Value) k, event.Plain w → event.key = .ok k → ∃ before after,
    Tells h w r event before ∧ Tells h w' r event after ∧
    (∀ f, after.count f = before.count f - (Table.handlersFor pairs k).count f) ∧
    after = firstCopies (fun f => before.count f - (Table.handlersFor pairs k).count f) before ∧
    after.Sublist before
  events : ∃ names left, TellsEvents h w r names ∧ TellsEvents h w' r (names.filter left) ∧
    ∀ event ∈ names, ∃ before after, Tells h w r event before ∧ Tells h w' r event after ∧
      before ≠ [] ∧ (left event = false ↔ after = [])

theorem lost {h : Host} {w w' : World} {r e p : Nat} {pairs : List Table.Subscription} {s : Scope}
    (serves : w.Serves r e p) (serves' : w'.Serves r e p) (kept : Keeps s w w')
    (table : w'.tableAt p = (w.tableAt p).unsubscribeAll pairs) : Lost h w w' r pairs where
  listeners event k plain key := by
    have told := tells (h := h) serves' (kept.plain.2 plain) key
    rw [table, Table.listeners_unsubscribeAll] at told
    refine ⟨_, _, tells serves plain key, told, fun f => count_removeAll _ _ f,
      removeAll_eq_firstCopies _ _, ?_⟩
    rw [removeAll_eq_firstCopies]
    exact firstCopies_sublist _ _
  events := by
    have sound := serves.sound
    have told := tellsEvents (h := h) serves'.emitter
    have lookup (k : Key) : (w'.tableAt p).listeners k =
        ((w.tableAt p).unsubscribeAll pairs).listeners k := by rw [table]
    have still := Table.events_unsubscribeAll (t := w.tableAt p) sound.table sound.keyed pairs
    rw [table, still] at told
    refine ⟨_, _, tellsEvents serves.emitter, told, fun event inside => ?_⟩
    obtain ⟨c, found, rfl⟩ := List.mem_map.1 inside
    have plain := serves.events c found
    have key := sound.keyed c found
    refine ⟨_, _, tells serves plain key, tells serves' (kept.plain.2 plain) key, ?_, ?_⟩
    · rw [World.tableAt, Table.handlers_eq_listeners sound.distinct found]
      exact sound.filled c found
    · rw [lookup, key]
      simp [Except.toOption]

end Emitter

namespace Task

variable {u v w w' : World} {i d r e p : Nat} {reg : Ref} {l : Listing} {options flag : Value}
  {pairs : List (Value × Ref)} {s : Scope}

structure Destroyable (w : World) (i d r e p : Nat) (pairs : List (Value × Ref)) : Prop
    extends Installed w i d r e p pairs where
  standard : w.Standard
  named : IsNamed w i

theorem Enrolled.destroyable (enrolled : Enrolled w i d r pairs) (serves : w.Serves r e p)
    (standard : w.Standard) (named : IsNamed w i) : Destroyable w i d r e p pairs :=
  { enrolled, serves with standard := standard, named := named }

/-- What leaves the name and the books of the task alone, and the emitter in order, leaves the task
destroyable. -/
theorem Destroyable.of_keeps (now : Destroyable w i d r e p pairs) (kept : Keeps s w w')
    (outside : ∀ n ∈ ["name", runnerField, subscriptionsField], d ≠ s.place ∨ ¬ s.names n)
    (serves : w'.Serves r e p) : Destroyable w' i d r e p pairs := by
  obtain ⟨name, simple, shows⟩ := now.named
  have books (n : String) (hn : n ∈ [runnerField, subscriptionsField]) :
      d ≠ s.place ∨ ¬ s.names n := outside n (List.mem_cons_of_mem _ hn)
  exact (now.toEnrolled.of_keeps kept books).destroyable serves (kept.standard now.standard)
    ⟨name, simple, kept.shows now.holds (outside _ (by simp)) (by decide) shows⟩

structure Engages (w : World) (i d r e p place : Nat) (pairs : List (Value × Ref)) : Prop where
  internals : ∃ reg l, DefaultInternals w i d reg l
  serves : w.Serves r e p
  apart : e ≠ d
  consultable : Consultable w d p r
  former : ∃ v, w.Shows i runnerField v
  list : ∃ items, w.lists[place]? = some items ∧ ArePairs items pairs
  plain : ∀ q ∈ pairs, q.1.Plain w
  callable : ∀ q ∈ pairs, w.isCallable (.ref q.2) = true

def Passes (w : World) (k i : Nat) (options : Value) (d r e p : Nat) (pairs : List (Value × Ref))
    (u : World) : Prop :=
  ∃ stamp attach place,
    checked (Host.ofDepth (k + 1)) (.object i) options w =
      .ok (.options stamp (.object r) attach, .object r, .ref (.list place)) u ∧
    Engages u i d r e p place pairs

structure Concludes (w : World) (i d r e p : Nat) (pairs : List (Value × Ref))
    (w' : World) : Prop where
  kept : Keeps (.task d p) w w'
  internals : ∃ reg l, DefaultInternals w' i d reg l
  serves : w'.Serves r e p
  installed : refused pairs = none → Installed w' i d r e p pairs

/-- Behind its checks an install concludes so, whether it succeeds or fails. -/
theorem Engages.concludes {place : Nat} (engages : Engages w i d r e p place pairs) (stamp : Nat)
    (attach : Option Bool) (k : Nat) : Concludes w i d r e p pairs
      ((engage (Host.ofDepth (k + 1)) (.object i) (.object r) (.ref (.list place))
        (.options stamp (.object r) attach)).after w) := by
  obtain ⟨⟨reg, l, internals⟩, serves, apart, consultable, former, ⟨items, list, arePairs⟩, plain,
    callable⟩ := engages
  obtain ⟨w₂, books, engaged, -, outcome⟩ :=
    engage_decides internals serves apart consultable former list
    arePairs plain callable stamp attach k
  have kept : Keeps (.task d p) w w₂ := books.mono rfl (fun _ _ => trivial) fun _ => id
  have internals₂ : DefaultInternals w₂ i d reg l := internals.of_books books
  cases refusal : refused pairs with
  | some kind =>
    rw [refusal] at outcome
    rw [after_of_error outcome.1]
    exact ⟨kept, ⟨reg, l, internals₂⟩, engaged.toServes, by simp [refusal]⟩
  | none =>
    rw [refusal] at outcome
    obtain ⟨installed, u, gains, run⟩ := outcome
    have ended : (engage (Host.ofDepth (k + 1)) (.object i) (.object r) (.ref (.list place))
        (.options stamp (.object r) attach)).after w = u := by
      rcases run with run | ⟨f, run, -⟩
      · exact after_of_ok run
      · exact after_of_error run
    have now := installed.gaining apart gains
    rw [ended]
    exact ⟨kept.trans (gains.toKeeps.mono rfl (fun _ _ => trivial) fun _ => False.elim),
      ⟨reg, l, internals₂.gaining gains⟩, now.toServes, fun _ => now⟩

theorem Passes.concludes {k : Nat} (passes : Passes w k i options d r e p pairs u) :
    Concludes u i d r e p pairs
      ((install (Host.ofDepth (k + 1)) (.object i) options).after w) := by
  obtain ⟨stamp, attach, place, passed, engages⟩ := passes
  rw [after, install_of_checked passed]
  exact engages.concludes stamp attach k

/-- An install that passes its checks with pairs that can all be handed over leaves the task
destroyable. -/
theorem Passes.destroyable {k : Nat} (passes : Passes w k i options d r e p pairs u)
    (keyed : refused pairs = none) :
    Destroyable ((install (Host.ofDepth (k + 1)) (.object i) options).after w) i d r e p pairs := by
  have concludes := passes.concludes
  obtain ⟨reg, l, internals⟩ := concludes.internals
  exact { concludes.installed keyed with
    standard := internals.standard
    named := internals.named }

/-- An install of an ordinary task passes its checks, if they come up with pairs. -/
theorem OffersEmitter.passes {reg : Ref} {l : Listing} {flag : Value}
    (offersEmitter : OffersEmitter w i d reg l options flag r e p) {k : Nat}
    (resolves : Resolves w (k + 1) i options pairs) :
    ∃ u, Keeps (.nothing d) w u ∧ Passes w k i options d r e p pairs u := by
  rcases offersEmitter.engages (k + 1) with ⟨f, w₁, failed, -⟩ |
    ⟨k', stamp, attach, place, pairs', w₁, root, w₃, same, run, engagement⟩
  · obtain ⟨_, _, _, _, _, passed, -⟩ := resolves
    simp [failed] at passed
  · obtain rfl : k = k' := Nat.succ.inj same
    obtain ⟨items, there, arePairs⟩ := engagement.list
    obtain rfl := Resolves.unique ⟨_, _, place, items, w₁, run, there, arePairs⟩ resolves
    have ordinary := offersEmitter.ordinary
    have kept := engagement.checks.toKeeps
    have fine := plain_of_resolved engagement.resolved ordinary.plain
    obtain ⟨v, former⟩ := offersEmitter.former
    refine ⟨w₁, kept, stamp, attach, place, run, ?_⟩
    exact {
      internals := ⟨reg, l, (ordinary.of_nothing kept).toDefaultInternals⟩
      serves := offersEmitter.serves.of_keeps kept (Scope.spares_nothing d e) id
      apart := offersEmitter.apart
      consultable := consultable_of_readable (kept.readable offersEmitter.readable)
      former := ⟨v, kept.shows ordinary.holds (.inr id) (by decide) former⟩
      list := ⟨items, there, arePairs⟩
      plain := fun q hq => kept.plain.2 (fine q hq).1
      callable := fun q hq => (kept.isCallable _).trans (fine q hq).2 }

/-! What others do -/

/-- What may happen while a task is installed: others subscribe to its emitter, take back and close
channels, and other tasks are installed and destroyed. Each of these may fail halfway. -/
inductive Interferes (i d r e p : Nat) : World → World → Prop where
  | still (w : World) : Interferes i d r e p w w
  | next {u v w : World} (first : Interferes i d r e p u v) (second : Interferes i d r e p v w) :
    Interferes i d r e p u w
  | subscribe {w : World} {h : Host} {event handler : Value} (plain : event.Plain w)
    (callable : w.isCallable handler = true) :
    Interferes i d r e p w ((Emitter.on h (.object r) event handler).after w)
  | refuse {w : World} {h : Host} {event handler : Value} (refused : w.isCallable handler = false)
    (describing : Interferes i d r e p w ((h.describe event).after w)) :
    Interferes i d r e p w ((Emitter.on h (.object r) event handler).after w)
  | takeBack {w : World} {h : Host} {event handler : Value} (plain : event.Plain w) :
    Interferes i d r e p w ((Emitter.off h (.object r) event handler).after w)
  | close {w : World} {event : Value} {depth : Nat} (plain : event.Plain w) :
    Interferes i d r e p w
      ((Emitter.removeAllListeners (Host.ofDepth depth) (.object r) event).after w)
  | reject {w u : World} {i' depth : Nat} {options : Value} {f : Fault}
    (failed : checked (Host.ofDepth depth) (.object i') options w = .error f u)
    (checks : Interferes i d r e p w u) :
    Interferes i d r e p w ((Task.install (Host.ofDepth depth) (.object i') options).after w)
  | install {w u : World} {i' d' r' e' p' k : Nat} {options : Value} {pairs' : List (Value × Ref)}
    (other : d' ≠ d) (apart : d' ≠ e) (passes : Passes w k i' options d' r' e' p' pairs' u)
    (checks : Interferes i d r e p w u) :
    Interferes i d r e p w ((Task.install (Host.ofDepth (k + 1)) (.object i') options).after w)
  | destroy {w : World} {i' d' r' e' p' : Nat} {pairs' : List (Value × Ref)} {depth : Nat}
    (other : d' ≠ d) (apart : d' ≠ e) (elsewhere : d' ≠ e')
    (installed : Installed w i' d' r' e' p' pairs') (named : IsNamed w i' ∨ IsNameless w i') :
    Interferes i d r e p w ((Task.destroy (Host.ofDepth (depth + 1)) (.object i')).after w)
  | aside {w w' : World} (undisturbed : Undisturbed w w' i d r e p)
    (standard : w.Standard → w'.Standard) (named : IsNamed w i → IsNamed w' i) :
    Interferes i d r e p w w'

/-- What changes no attribute, and only the table of the emitter, which stays in order. -/
theorem Destroyable.of_table (now : Destroyable w i d r e p pairs) (kept : Keeps (.table d p) w w')
    (serves : w'.Serves r e p) : Destroyable w' i d r e p pairs :=
  now.of_keeps kept (fun _ _ => .inr id) serves

/-- What another task does to its own attributes and to one table, whichever this is, if it leaves
the table in order. -/
theorem Destroyable.of_other {r' e' p' : Nat} (now : Destroyable w i d r e p pairs)
    (kept : Keeps s w w') (other : d ≠ s.place) (apart : e ≠ s.place)
    (tables : ∀ q, s.tables q → q = p') (serves : w'.Serves r' e' p') :
    Destroyable w' i d r e p pairs := by
  refine now.of_keeps kept (fun _ _ => .inl other) ?_
  by_cases same : p = p'
  · exact ⟨kept.isEmitter (.inl apart) now.emitter, same ▸ serves.sound, same ▸ serves.events⟩
  · exact now.toServes.of_keeps kept (.inl apart) fun changed => same (tables p changed)

theorem Destroyable.subscribe (now : Destroyable w i d r e p pairs) {h : Host}
    {event handler : Value}
    (plain : event.Plain w) (callable : w.isCallable handler = true) :
    Destroyable ((Emitter.on h (.object r) event handler).after w) i d r e p pairs := by
  obtain ⟨f, rfl⟩ := World.exists_ref_of_isCallable callable
  cases key : event.key with
  | error kind =>
    rwa [after_of_error (Emitter.on_unhashable now.emitter plain key callable)]
  | ok k =>
    obtain ⟨w', run, kept, serves, -⟩ := Emitter.on_eq (h := h) now.toServes plain key callable d
    rw [after_of_ok run]
    exact now.of_table kept.toKeeps serves

theorem Destroyable.takeBack (now : Destroyable w i d r e p pairs) {h : Host} {event : Value}
    (handler : Value) (plain : event.Plain w) :
    Destroyable ((Emitter.off h (.object r) event handler).after w) i d r e p pairs := by
  cases key : event.key with
  | error kind => rwa [after_of_error (Emitter.off_unhashable now.emitter plain key handler)]
  | ok k =>
    by_cases shape : ∃ f, handler = .ref f
    · obtain ⟨f, rfl⟩ := shape
      obtain ⟨w', run, kept, serves, -⟩ := Emitter.off_eq (h := h) now.toServes plain key f d
      rw [after_of_ok run]
      exact now.of_table kept.toKeeps serves
    · rwa [after_of_ok (Emitter.off_not_ref now.toServes plain key fun f same => shape ⟨f, same⟩)]

/-- A destroy of another task. Without a name it fails, but only when all is taken back. -/
theorem Destroyable.destroy (now : Destroyable w i d r e p pairs) {i' d' r' e' p' depth : Nat}
    {pairs' : List (Value × Ref)} (other : d' ≠ d) (apart : d' ≠ e) (elsewhere : d' ≠ e')
    (installed : Installed w i' d' r' e' p' pairs') (named : IsNamed w i' ∨ IsNameless w i') :
    Destroyable ((Task.destroy (Host.ofDepth (depth + 1)) (.object i')).after w)
      i d r e p pairs := by
  have about {u : World} (kept : Keeps (.books d' p') w u) (serves : u.Serves r' e' p') :
      Destroyable u i d r e p pairs :=
    now.of_other kept (Ne.symm other) (Ne.symm apart) (fun _ => id) serves
  rcases named with named | nameless
  · obtain ⟨w', run, kept, -, serves, -⟩ := destroy_ok installed (Ne.symm elsewhere) named depth
    exact after_of_ok run ▸ about kept serves
  · obtain ⟨w', run, kept, -, sound, events, -⟩ := destroy_eq installed depth
    obtain ⟨f, failed⟩ := farewell_nameless (h := Host.ofDepth (depth + 1))
      (kept.readsUsually installed.usual) (nameless.of_books installed.holds kept.toKeeps)
    rw [after_of_error (run.trans failed)]
    exact about kept.toKeeps ⟨kept.isEmitter (.inl (Ne.symm elsewhere)) installed.emitter,
      sound, events⟩

/-- Whatever others do, the task can be destroyed as before. -/
theorem Interferes.destroyable (run : Interferes i d r e p w w')
    (now : Destroyable w i d r e p pairs) : Destroyable w' i d r e p pairs := by
  induction run with
  | still w => exact now
  | next first second ih₁ ih₂ => exact ih₂ (ih₁ now)
  | subscribe plain callable => exact now.subscribe plain callable
  | refuse refused describing ih =>
    rw [Emitter.after_on_not_callable refused]
    exact ih now
  | takeBack plain => exact now.takeBack _ plain
  | @close w event depth plain =>
    obtain ⟨u, ends, kept, serves, -⟩ := Emitter.closes now.standard now.toServes plain depth d
    rw [ends]
    exact now.of_table kept serves
  | reject failed checks ih => exact after_of_error (bind_of_error failed) ▸ ih now
  | install other apart passes checks ih =>
    have concludes := passes.concludes
    exact (ih now).of_other concludes.kept (Ne.symm other) (Ne.symm apart) (fun _ => id)
      concludes.serves
  | destroy other apart elsewhere installed named =>
    exact now.destroy other apart elsewhere installed named
  | aside undisturbed standard named =>
    exact { undisturbed.installed now.toInstalled with
      standard := standard now.standard
      named := named now.named }

/-! Destroying -/

/-- An install that passes its checks keeps their pairs on record. Whatever others do to the emitter
from then on, `destroy` of the task succeeds. The emitter loses of every listener as many copies as
were recorded, or all if there are fewer: the last ones. Events without listeners are gone, the rest
is in its order, and the task has neither runner nor pairs. -/
theorem destroy_interfered {k : Nat} (passes : Passes w k i options d r e p pairs u)
    (keyed : refused pairs = none)
    (since : Interferes i d r e p
      ((Task.install (Host.ofDepth (k + 1)) (.object i) options).after w) w') (depth :
      Nat) (h : Host) :
    Installed ((Task.install (Host.ofDepth (k + 1)) (.object i) options).after w) i d r e p pairs ∧
    ∃ v, Task.destroy (Host.ofDepth (depth + 1)) (.object i) w' = .ok .nothing v ∧
      Emitter.Lost h w' v r (handed pairs) ∧ Idle v i := by
  have installed := passes.destroyable keyed
  have now := since.destroyable installed
  obtain ⟨_, _, _, -, engages⟩ := passes
  obtain ⟨v, run, kept, idle, serves, table⟩ :=
    destroy_ok now.toInstalled engages.apart now.named depth
  exact ⟨installed.toInstalled, v, run, Emitter.lost now.toServes serves kept table, idle⟩

/-- All channels are closed meanwhile, and another handler is subscribed. -/
theorem destroy_interfered_rules : ∃ v w₁ w₂ u pairs,
    install (Host.ofDepth 5) (.object Opening.task)
      (.options 0 (.object Opening.emitter) (some false))
      (World.opening Opening.rules) = .ok v w₁ ∧
    (do
      let _ ← Emitter.removeAllListeners (Host.ofDepth 5) (.object Opening.emitter) .nothing
      Emitter.on (Host.ofDepth 5) (.object Opening.emitter) (.event .rule)
        (.ref (.function (.library (.emitter .describe)))) : Act Value) w₁ =
          .ok (.object Opening.emitter) w₂ ∧
    destroy (Host.ofDepth 5) (.object Opening.task) w₂ = .ok .nothing u ∧
    Emitter.Lost (Host.ofDepth 5) w₂ u Opening.emitter (handed pairs) ∧ Idle u Opening.task := by
  have offersRunner := Opening.offersRunner_rules
  obtain ⟨w₁, pairs, done, handed, installed⟩ := installed_rules
  have plain := Value.plain_event .rule
  obtain ⟨u₁, closed, -, serves, -⟩ :=
    Emitter.removeAll_eq handed.ordinary.standard installed.toServes 4 1
  have callable : u₁.isCallable (.ref (.function (.library (.emitter .describe)))) = true := rfl
  obtain ⟨u₂, subscribed, -⟩ := Emitter.on_eq (h := Host.ofDepth 5) serves (plain u₁) rfl callable 1
  have since : Interferes Opening.task 1 Opening.emitter 2 0 w₁ u₂ := by
    have first : Interferes Opening.task 1 Opening.emitter 2 0 w₁ ((Emitter.removeAllListeners
        (Host.ofDepth 5) (.object Opening.emitter) .nothing).after w₁) :=
      .close (Value.plain_of_objectsIn rfl w₁)
    rw [after_of_ok closed] at first
    have second : Interferes Opening.task 1 Opening.emitter 2 0 u₁ _ :=
      .subscribe (h := Host.ofDepth 5) (plain u₁) callable
    rw [after_of_ok subscribed] at second
    exact first.next second
  rw [← after_of_ok done] at since
  obtain ⟨u, -, passes⟩ :=
    OffersEmitter.passes { offersRunner with serves := Opening.reachable.serves } handed.resolves
  obtain ⟨-, v, destroyed, lost, idle⟩ := destroy_interfered passes installed.keyed since 4
    (Host.ofDepth 5)
  exact ⟨.nothing, w₁, u₂, v, pairs, done, (bind_of_ok closed).trans subscribed,
    destroyed, lost, idle⟩

end Task

end EventTasks
