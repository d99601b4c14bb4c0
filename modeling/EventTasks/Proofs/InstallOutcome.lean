import EventTasks.Proofs.Engaging
import EventTasks.Proofs.Passing

/-!
Which installs are rejected, and which of the others fail. What passes the checks is subscribed and
kept; after that only attaching the log methods can fail, and the task stays installed if it does.
-/
namespace EventTasks

open Act

namespace Task

variable {h : Host} {w u v w' : World} {i d g r e p c k : Nat} {x former : Value} {reg : Ref}
  {l : Listing} {options name : Value} {task text : String} {f : Fault}
  {pairs : List (Value × Ref)}

/-! Attaching the log methods -/

structure PassReadsStill (h : Host) (i g : Nat) (x : Value) (c : Nat) (u : World) : Prop where
  listable : u.Listable h c
  undisturbed : ∀ names v, Capability.operations h (.cls c) u = .ok (names.map .word) v →
    PassUndisturbed h i g x names v

/-- The ways in which `_attach_logger` raises: `logger_methods` does, or `hasattr` on the class of
the task. -/
inductive PassFails (h : Host) (i g : Nat) (x : Value) (task : String) (c : Nat) (u : World) :
    Fault → World → Prop
  | unlisted {f : Fault} {v : World} (failed : Capability.operations h (.cls c) u = .error f v) :
      PassFails h i g x task c u f v
  | unanswered {f : Fault} {names : List String} {ways : List Way} {u₁ v : World}
      (found : Capability.operations h (.cls c) u = .ok (names.map .word) u₁)
      (pass : Pass h i g x task u₁ names ways (some f) v) : PassFails h i g x task c u f v

theorem attachLogger_error_iff {depth : Nat} (attachable : Attachable w i d g x task)
    (capability : w.Shows i "log_capability" (.cls c)) (gained : Gained w i d g u)
    (still : PassReadsStill (Host.ofDepth (depth + 1)) i g x c u) :
    (∀ f v, attachLogger (Host.ofDepth (depth + 1)) (.object i) u = .error f v ↔
      PassFails (Host.ofDepth (depth + 1)) i g x task c u f v) ∧
    Gains w i d ((attachLogger (Host.ofDepth (depth + 1)) (.object i)).after u) := by
  have attachable₁ := attachable.gaining gained
  have shows :=
    gained.toKeeps.shows attachable.holds (outside_fresh capability) (by decide) capability
  have begins : attachLogger (Host.ofDepth (depth + 1)) (.object i) u =
      (Capability.operations (Host.ofDepth (depth + 1)) (.cls c) >>= fun names => do
        names.forM (attachOne (Host.ofDepth (depth + 1)) (.object i))
        pure Value.nothing) u := bind_of_ok (Host.attr_shows attachable₁.usual shows)
  have goes := Capability.operations_still attachable₁.standard still.listable
  cases asked : Capability.operations (Host.ofDepth (depth + 1)) (.cls c) u with
  | error f₀ v₀ =>
    have run := begins.trans (bind_of_error asked)
    refine ⟨fun f v => ⟨fun failed => ?_, fun fails => ?_⟩, ?_⟩
    · obtain ⟨rfl, rfl⟩ := EStateM.Result.error.inj (run.symm.trans failed)
      exact .unlisted asked
    · cases fails with
      | unlisted failed =>
        obtain ⟨rfl, rfl⟩ := EStateM.Result.error.inj (asked.symm.trans failed)
        exact run
      | unanswered found => cases asked.symm.trans found
    · rw [after_of_error run]
      exact (gained.still attachable.holds (goes.of_error asked).1).toGains
  | ok found u₁ =>
    obtain ⟨still₁, rfl⟩ := goes.of_ok asked
    have arePublic : ∀ n ∈ (u.operationsAlong c).foldl addNew [], IsPublic n := fun n inside =>
      (World.mem_operationsAlong.1 (by simpa [mem_foldl_addNew] using inside)).1
    obtain ⟨ways, fault, v₁, pass, passed, gained', -⟩ := forM_attachOne attachable
      (gained.still attachable.holds still₁) arePublic (still.undisturbed _ u₁ asked)
    have run : attachLogger (Host.ofDepth (depth + 1)) (.object i) u =
        Pass.ending .nothing fault v₁ := by
      rw [begins, bind_of_ok asked]
      cases fault with
      | none => exact bind_of_ok passed
      | some f => exact bind_of_error passed
    refine ⟨fun f v => ⟨fun failed => ?_, fun fails => ?_⟩, ?_⟩
    · rw [run] at failed
      cases fault with
      | none => cases failed
      | some f₁ =>
        obtain ⟨rfl, rfl⟩ := EStateM.Result.error.inj failed
        exact .unanswered asked pass
    · cases fails with
      | unlisted failed => cases asked.symm.trans failed
      | unanswered found pass' =>
        obtain ⟨same, rfl⟩ := EStateM.Result.ok.inj (asked.symm.trans found)
        obtain rfl := List.map_injective_iff.2 (fun _ _ same => (Value.text.inj same).2) same
        obtain ⟨-, rfl, rfl⟩ := pass.unique pass'
        exact run
    · cases fault with
      | none => exact (after_of_ok run).symm ▸ gained'.toGains
      | some f => exact (after_of_error run).symm ▸ gained'.toGains

/-! Up to the log methods -/

def checkAndSubscribe (h : Host) (self options : Value) : Act Bool := do
  let (options, runner, pairs) ← checked h self options
  warnIfInstalled h self
  subscribe h self runner pairs
  wantsLogger h self (← h.attr options Options.flagField)

theorem install_eq (h : Host) (self options : Value) : install h self options = (do
    conclude h self (← checkAndSubscribe h self options)
    pure .nothing) := by
  simp only [install, checkAndSubscribe, finish_eq, bind_assoc]

/-- A task, its runner and its registry where the checks of `install` find nothing wrong: the runner
is an emitter in order, the identifiers are hashable, the capability is a class and the settings are
valid. -/
structure Installable (w : World) (i d g r e p c : Nat) (former : Value) (task : String) (reg : Ref)
    (l : Listing) : Prop extends Attachable w i d g former task, w.Serves r e p where
  distinct : e ≠ d
  settable : ∀ n ∈ [runnerField, subscriptionsField], w.Settable i n
  attacher : w.Means i "_attach_logger" (.library (.task .attachLogger))
  flag : ∃ own : Value, own.IsSimple ∧ w.Shows i Options.flagField own
  capability : w.Shows i "log_capability" (.cls c)
  apart : reg.IsApart w d
  plain : ∀ entry ∈ l.entries, entry.2.Plain w
  hashable : ∀ entry ∈ l.entries, ∃ key, entry.2.key = .ok key
  settings : ∃ settings, w.around.Gives settings

theorem Installable.untouched (installable : Installable w i d g r e p c former task reg l)
    (same : Untouched w u) : Installable u i d g r e p c former task reg l := by
  have kept : Keeps (.nothing d) w u := (same d).toKeeps
  have shows {n : String} {y : Value} (hn : n ≠ "__annotations__") (shown : w.Shows i n y) :
      u.Shows i n y := kept.shows installable.holds (.inr id) hn shown
  obtain ⟨own, simple, shown⟩ := installable.flag
  exact {
    installable.toAttachable.of_keeps kept (fun _ _ => .inr id)
      (shows (by decide) installable.runner) ((same d).gatherings ▸ installable.inside)
      (by rw [World.namesAt, (same d).gatherings]; exact installable.inOrder),
    installable.toServes.of_keeps kept (Scope.spares_nothing d e) id with
    distinct := installable.distinct
    settable := settable_books installable.settable kept
    attacher := kept.means installable.holds (.inr id) (by decide) installable.attacher
    flag := ⟨own, simple, shows (by decide) shown⟩
    capability := shows (by decide) installable.capability
    apart := kept.isApart installable.apart
    plain := fun entry inside => kept.plain.2 (installable.plain entry inside)
    hashable := installable.hashable
    settings := (same d).around ▸ installable.settings }

/-- An install has subscribed the pairs and keeps them; nothing else of the task has changed. -/
structure Subscribed (w u : World) (i d g r e p : Nat) (task : String)
    (pairs : List (Value × Ref)) : Prop where
  kept : Keeps (.books d p) w u
  installed : Installed u i d r e p pairs
  attachable : Attachable u i d g (.object r) task
  table : u.tableAt p = (w.tableAt p).subscribeAll (handed pairs)

/-- Pairs with hashable events are subscribed. -/
theorem Installable.subscribes (installable : Installable w i d g r e p c former task reg l)
    {place : Nat} {items : List Value} (list : w.lists[place]? = some items)
    (arePairs : ArePairs items pairs) (paired : List.Forall₂ (Pairs w) l.entries pairs)
    (stamp : Nat) (attach : Option Bool) (k : Nat) :
    ∃ wanted u, (do
        warnIfInstalled (Host.ofDepth (k + 1)) (.object i)
        subscribe (Host.ofDepth (k + 1)) (.object i) (.object r) (.ref (.list place))
        wantsLogger (Host.ofDepth (k + 1)) (.object i)
          (← (Host.ofDepth (k + 1)).attr (.options stamp (.object r) attach) Options.flagField)) w =
        .ok wanted u ∧
      Subscribed w u i d g r e p task pairs := by
  have each {q : Value × Ref} (hq : q ∈ pairs) : q.1.Plain w ∧ (∃ key, q.1.key = .ok key) ∧
      w.isCallable (.ref q.2) = true := by
    obtain ⟨entry, inside, event, callable⟩ := exists_of_forall₂ paired hq
    exact event ▸ ⟨installable.plain entry inside, installable.hashable entry inside, callable⟩
  obtain ⟨root, w₁, warned, rests, engaged, table, outcome⟩ := engage_eq installable.usual
    installable.holds installable.settable (nameText_run installable.toAttachable _)
    installable.toServes installable.distinct ⟨former, installable.runner⟩ list arePairs
    (fun q hq => (each hq).1) (fun q hq => (each hq).2.2) (k := k)
  rw [refused_eq_none fun q hq => (each hq).2.1] at outcome
  obtain ⟨done, installed⟩ := outcome
  have kept₁ : Keeps (.books d p) w w₁ := Keeps.trans (.withRoot root) rests.toKeeps
  have spared : ∀ n ∈ [Options.flagField, "name", forwardersField, "_make_forwarder"],
      ¬ (Scope.books d p).names n := by
    simp [Scope.books, runnerField, subscriptionsField, forwardersField, Options.flagField]
  obtain ⟨own, simple, shown⟩ := installable.flag
  have flagged : w₁.Shows i Options.flagField own :=
    kept₁.shows installable.holds (.inr (spared _ (by simp))) (by decide) shown
  have goes := wantsLogger_mayRead (h := Host.ofDepth (k + 1)) engaged.usual
    (Value.isSimple_ofFlag? attach) simple flagged
  obtain ⟨wanted, u, decided⟩ := goes.runs (by rw [rests.around]; exact installable.settings)
  obtain ⟨⟨around', -, rfl⟩, -⟩ := goes.of_ok decided
  have told : Keeps (.nothing d) w₁ { w₁ with around := around' } := .around around'
  refine ⟨wanted, _, ?_, kept₁.trans told.of_nothing,
    installed.of_keeps told (fun _ _ => .inr id) (Scope.spares_nothing d e) id, ?_, table⟩
  · exact (bind_of_ok warned).trans ((bind_of_ok done).trans ((bind_of_ok
      (attr_options (kept₁.standard installable.standard) stamp attach).2).trans decided))
  · have same : w₁.gatherings = w.gatherings := rests.gatherings
    exact installable.toAttachable.of_keeps (kept₁.trans told.of_nothing)
      (fun n found => .inr (spared n (List.mem_cons_of_mem _ found)))
      (told.shows engaged.holds (.inr id) (by decide) engaged.runner)
      (same ▸ installable.inside) (by rw [World.namesAt]; exact same ▸ installable.inOrder)

theorem checkAndSubscribe_run (readOnly : ChecksReadOnly (k + 1) w i d reg l options name text)
    (passes : ∀ f, ¬ Rejects (k + 1) w i options name text l f) {stamp : Nat} {attach : Option Bool}
    (decodes : Decodes (k + 1) w options stamp (.object r) attach v)
    (installable : Installable w i d g r e p c former task reg l) :
    ∃ wanted u pairs, checkAndSubscribe (Host.ofDepth (k + 2))
      (.object i) options w = .ok wanted u ∧
      List.Forall₂ (Pairs w) l.entries pairs ∧ Subscribed w u i d g r e p task pairs := by
  obtain ⟨stamp', runner, attach', place, items, pairs, w₁, same, passed, ⟨v', decodes'⟩, -, list,
    arePairs, paired⟩ := checked_of_not_rejects readOnly passes
  obtain ⟨rfl, rfl, rfl, -⟩ := decodes.unique decodes'
  have kept : Keeps (.nothing d) w w₁ := (same d).toKeeps
  have paired₁ : List.Forall₂ (Pairs w₁) l.entries pairs :=
    paired.imp fun _ _ pair => ⟨pair.1, (kept.isCallable _).trans pair.2⟩
  obtain ⟨wanted, u, run, subscribed⟩ :=
    (installable.untouched same).subscribes list arePairs paired₁
    stamp attach (k + 1)
  have table : w₁.tableAt p = w.tableAt p :=
    congrArg Subscriptions.table ((same d).subscriptionsAt installable.emitter.inside id)
  exact ⟨wanted, u, pairs, (bind_of_ok passed).trans run, paired, {
    subscribed with
    kept := kept.of_nothing.trans subscribed.kept
    table := table ▸ subscribed.table }⟩

/-! How an install ends -/

/-- Once the pairs are subscribed, `install` fails exactly where `_attach_logger` does. -/
theorem conclude_error_iff {wanted : Bool} (attachable : Attachable u i d g x task)
    (attacher : u.Means i "_attach_logger" (.library (.task .attachLogger)))
    (capability : u.Shows i "log_capability" (.cls c)) (events : u.Shows i "events" (.ref reg))
    (apart : reg.IsApart u d) (listing : u.listing? reg = some l)
    (still : wanted = true → PassReadsStill (Host.ofDepth (k + 1)) i g x c u.later) :
    (∀ f v, conclude (Host.ofDepth (k + 2)) (.object i) wanted u = .error f v ↔
      wanted = true ∧ PassFails (Host.ofDepth (k + 1)) i g x task c u.later f v) ∧
    Gains u i d ((conclude (Host.ofDepth (k + 2)) (.object i) wanted).after u) := by
  have told {v : World} (gains : Gains u i d v) :
      ∃ root, conclude (Host.ofDepth (k + 2)) (.object i) false v = .ok () (v.withRoot root) := by
    have kept := gains.toKeeps
    obtain ⟨y, shown, formatted⟩ := attachable.named
    have usual := kept.readsUsually attachable.usual
    have named := kept.shows attachable.holds (outside_fresh shown) (by decide) shown
    exact conclude_told ((bind_of_ok (Host.attr_shows usual named)).trans (formatted _ v)) usual
      (kept.shows attachable.holds (outside_fresh events) (by decide) events)
      ((kept.listing? apart).trans listing)
  cases wanted with
  | false =>
    obtain ⟨root, run⟩ := told (.refl attachable.holds)
    refine ⟨fun f v => ⟨fun failed => ?_, fun ⟨impossible, _⟩ => ?_⟩, ?_⟩
    · cases run.symm.trans failed
    · cases impossible
    · rw [after_of_ok run]
      exact (Gains.refl attachable.holds).around (.of_root _ root)
  | true =>
    have gained : Gained u i d g u.later := (Gained.refl attachable).still attachable.holds .later
    obtain ⟨fails, gains⟩ := attachLogger_error_iff attachable capability gained (still rfl)
    have begins : conclude (Host.ofDepth (k + 2)) (.object i) true u =
        ((Host.ofDepth (k + 2)).send (.object i) "_attach_logger" [] >>= fun _ =>
          conclude (Host.ofDepth (k + 2)) (.object i) false) u := rfl
    have sent : (Host.ofDepth (k + 2)).send (.object i) "_attach_logger" [] u =
        attachLogger (Host.ofDepth (k + 1)) (.object i) u.later :=
      Host.send_means attachable.usual attacher (k + 1) []
    cases attached : attachLogger (Host.ofDepth (k + 1)) (.object i) u.later with
    | error f₁ v₁ =>
      rw [after_of_error attached] at gains
      have run := begins.trans (bind_of_error (sent.trans attached))
      refine ⟨fun f v => ⟨fun failed => ?_, fun ⟨_, fail⟩ => ?_⟩, (after_of_error run).symm ▸ gains⟩
      · obtain ⟨rfl, rfl⟩ := EStateM.Result.error.inj (run.symm.trans failed)
        exact ⟨rfl, (fails _ _).1 attached⟩
      · obtain ⟨rfl, rfl⟩ := EStateM.Result.error.inj (attached.symm.trans ((fails f v).2 fail))
        exact run
    | ok a v₁ =>
      rw [after_of_ok attached] at gains
      obtain ⟨root, done⟩ := told gains
      have run := begins.trans ((bind_of_ok (sent.trans attached)).trans done)
      refine ⟨fun f v => ⟨fun failed => ?_, fun ⟨_, fail⟩ => ?_⟩, ?_⟩
      · cases run.symm.trans failed
      · cases attached.symm.trans ((fails f v).2 fail)
      · rw [after_of_ok run]
        exact gains.around (.of_root _ root)

theorem Subscribed.conclude_error_iff {wanted : Bool}
    (subscribed : Subscribed w u i d g r e p task pairs)
    (installable : Installable w i d g r e p c former task reg l)
    (events : w.Shows i "events" (.ref reg)) (listing : w.listing? reg = some l)
    (still : wanted = true → PassReadsStill (Host.ofDepth (k + 1)) i g (.object r) c u.later) :
    (∀ f v, conclude (Host.ofDepth (k + 2)) (.object i) wanted u = .error f v ↔
      wanted = true ∧ PassFails (Host.ofDepth (k + 1)) i g (.object r) task c u.later f v) ∧
    Gains u i d ((conclude (Host.ofDepth (k + 2)) (.object i) wanted).after u) := by
  have kept := subscribed.kept
  have spared : ∀ n ∈ ["_attach_logger", "log_capability", "events"],
      d ≠ (Scope.books d p).place ∨ ¬ (Scope.books d p).names n := fun n found => .inr (by
    simp only [List.mem_cons, List.not_mem_nil, or_false] at found
    rcases found with rfl | rfl | rfl <;> simp [Scope.books, runnerField, subscriptionsField])
  exact Task.conclude_error_iff subscribed.attachable
    (kept.means installable.holds (spared _ (by simp)) (by decide) installable.attacher)
    (kept.shows installable.holds (spared _ (by simp)) (by decide) installable.capability)
    (kept.shows installable.holds (spared _ (by simp)) (by decide) events)
    (kept.isApart installable.apart) ((kept.listing? installable.apart).trans listing) still

/-- Once the pairs are subscribed, `install` ends as what follows does. -/
theorem install_concludes {h : Host} {self : Value} {wanted : Bool}
    (run : checkAndSubscribe h self options w = .ok wanted u) :
    (∀ f w', install h self options w = .error f w' ↔ conclude h self wanted u = .error f w') ∧
    ((∀ f w', conclude h self wanted u ≠ .error f w') →
      ∃ w', install h self options w = .ok .nothing w') ∧
    (install h self options).after w = (conclude h self wanted).after u := by
  have begins : install h self options w =
      (conclude h self wanted >>= fun _ => pure Value.nothing) u := by
    rw [install_eq, bind_of_ok run]
  cases ended : conclude h self wanted u with
  | error f₁ v₁ =>
    have run := begins.trans (bind_of_error ended)
    refine ⟨fun f w' => by simp [run], fun none => absurd rfl (none f₁ v₁), ?_⟩
    rw [after_of_error run, after_of_error ended]
  | ok a v₁ =>
    have run := begins.trans (bind_of_ok ended)
    refine ⟨fun f w' => ?_, fun _ => ⟨v₁, run⟩, ?_⟩
    · rw [run]
      exact ⟨nofun, nofun⟩
    · rw [after_of_ok ended]
      exact after_of_ok run

theorem checked_error_iff (readOnly : ChecksReadOnly (k + 1) w i d reg l options name text)
    (f : Fault) :
    (∃ w', checked (Host.ofDepth (k + 2)) (.object i) options w = .error f w') ↔
      Rejects (k + 1) w i options name text l f := by
  constructor
  · rintro ⟨w', failed⟩
    by_contra passes
    by_cases other : ∃ g, Rejects (k + 1) w i options name text l g
    · obtain ⟨g, rejects⟩ := other
      obtain ⟨u, failed', -⟩ := rejects.checked readOnly
      obtain ⟨rfl, -⟩ := EStateM.Result.error.inj (failed.symm.trans failed')
      exact passes rejects
    · obtain ⟨_, _, _, _, _, _, _, -, passed, -⟩ :=
        checked_of_not_rejects readOnly fun g rejects => other ⟨g, rejects⟩
      simp [failed] at passed
  · intro rejects
    obtain ⟨w', failed, -⟩ := rejects.checked readOnly
    exact ⟨w', failed⟩

/-- The checks of `install` fail exactly on what is rejected, with the fault of the first check that
fails, and then `install` has changed nothing: no attribute, no table, nothing that was logged. What
is not rejected is subscribed and kept. From then on `install` fails exactly if it is to attach the
log methods and `_attach_logger` fails, and however it ends, the task is installed. -/
theorem install_rejects_iff (readOnly : ChecksReadOnly (k + 1) w i d reg l options name text) :
    (∀ f, (∃ w', checked (Host.ofDepth (k + 2)) (.object i) options w = .error f w') ↔
      Rejects (k + 1) w i options name text l f) ∧
    (∀ f, Rejects (k + 1) w i options name text l f →
      ∃ w', install (Host.ofDepth (k + 2)) (.object i) options w = .error f w' ∧
        Untouched w w') ∧
    ((∀ f, ¬ Rejects (k + 1) w i options name text l f) → ∀ stamp attach g r e p c former task v,
      Decodes (k + 1) w options stamp (.object r) attach v →
      Installable w i d g r e p c former task reg l →
      ∃ wanted u pairs,
        checkAndSubscribe (Host.ofDepth (k + 2)) (.object i) options w = .ok wanted u ∧
        List.Forall₂ (Pairs w) l.entries pairs ∧ Subscribed w u i d g r e p task pairs ∧
        ((wanted = true → PassReadsStill (Host.ofDepth (k + 1)) i g (.object r) c u.later) →
          (∀ f w', install (Host.ofDepth (k + 2)) (.object i) options w = .error f w' ↔
            wanted = true ∧ PassFails (Host.ofDepth (k + 1)) i g (.object r) task c u.later f w') ∧
          ((∀ f w', ¬ (wanted = true ∧
              PassFails (Host.ofDepth (k + 1)) i g (.object r) task c u.later f w')) →
            ∃ w', install (Host.ofDepth (k + 2)) (.object i) options w = .ok .nothing w') ∧
          Installed ((install (Host.ofDepth (k + 2)) (.object i) options).after w) i d r e p
            pairs)) := by
  refine ⟨checked_error_iff readOnly, fun f rejects => rejects.install_fails readOnly,
    fun passes stamp attach g r e p c former task v decodes installable => ?_⟩
  obtain ⟨wanted, u, pairs, run, paired, subscribed⟩ :=
    checkAndSubscribe_run readOnly passes decodes installable
  refine ⟨wanted, u, pairs, run, paired, subscribed, fun still => ?_⟩
  obtain ⟨fails, gains⟩ :=
    subscribed.conclude_error_iff installable readOnly.events readOnly.listing still
  obtain ⟨ends, otherwise, after⟩ := install_concludes run
  refine ⟨fun f w' => (ends f w').trans (fails f w'), fun none => ?_, ?_⟩
  · exact otherwise fun f w' ended => none f w' ((fails f w').1 ended)
  · rw [after]
    exact subscribed.installed.gaining installable.distinct gains

end Task

namespace Opening

open EventTasks.Task

def balking (balks : Bool) : World :=
  { World.opening rules with
    classes := (World.start.classes.modify Library.taskClass fun info =>
        if balks then { info with body := ("info", .object 6) :: info.body } else info).push
      { name := "Entry", qualifiedName := "Entry", bases := [Library.objectClass],
        order := [50, Library.objectClass], body := [("__get__", .number 1)],
        kind := Library.typeClass }
    objects := ((World.opening rules).objects.modify emitter fun o =>
      { o with cls := Library.runnerClass }).push { cls := 50 } }

variable {b : Bool}

theorem standard_balking : (balking b).Standard := fun c inside => by
  have early : ∀ c ∈ Library.basics, c < World.start.classes.size ∧
    c ≠ Library.taskClass := by decide
  obtain ⟨known, other⟩ := early c inside
  have same : (balking b).classInfo c = World.start.classInfo c := by
    simp only [World.classInfo, balking, Array.getElem?_push]
    rw [if_neg (by simpa using known.ne), Array.getElem?_modify, if_neg other.symm]
  exact same ▸ .refl _

theorem attachable_balking : Attachable (balking b) task 1 0 .nothing "Base" where
  standard := standard_balking
  usual := by cases b <;> exact ⟨by decide, by decide⟩
  holds := ⟨rfl, by simp [balking, World.opening, World.start]⟩
  textual := Dictionary.textual_ofTexts _
  sets := by cases b <;> decide
  entries := ⟨Library.taskClass, by cases b <;> rfl⟩
  maker := ⟨rfl, by cases b <;> rfl⟩
  named := ⟨.word "Base", .inr (by cases b <;> exact ⟨rfl, rfl, rfl⟩), fun _ _ => rfl⟩
  runner := .of_own rfl (by cases b <;> decide)
  forwarders := .of_own rfl (by cases b <;> decide)
  inside := by simp [balking, World.opening]
  inOrder := Gathering.lists_empty

theorem isEmitter_balking : (balking b).IsEmitter emitter 2 0 where
  usual := by cases b <;> exact ⟨by decide, by decide⟩
  holds := ⟨rfl, by simp [balking, World.opening, World.start]⟩
  table := .of_own rfl (by cases b <;> decide)
  inside := by simp [balking, World.opening]
  on := ⟨rfl, by cases b <;> rfl⟩
  off := ⟨rfl, by cases b <;> rfl⟩
  cls := by cases b <;> rfl

theorem events_balking : (balking b).Shows task "events" (.ref (.dict 3)) :=
  .inl ⟨rfl, fun e found => by
    have entry : (balking b).definition? ((balking b).objectClassOf task) "events" =
      some .registry := by cases b <;> rfl
    obtain rfl := Option.some.inj (entry.symm.trans found)
    rfl⟩

theorem installable_balking :
    Installable (balking b) task 1 0 emitter 2 0 Library.loggerClass .nothing
    "Base" (.dict 3) (listing rules) where
  toAttachable := attachable_balking
  toServes := (Emitter.Reachable.opened isEmitter_balking rfl).serves
  distinct := by decide
  settable n found := by
    refine ⟨attachable_balking.sets, fun e entry => ?_⟩
    have lacking : ∀ n ∈ [runnerField, subscriptionsField],
        (balking b).definition? Library.taskClass n = none := by cases b <;> decide
    exact absurd (entry.symm.trans (lacking n found)) (by simp)
  attacher := ⟨rfl, by cases b <;> rfl⟩
  flag := ⟨.nothing, trivial, .inr (by cases b <;> exact ⟨rfl, rfl, rfl⟩)⟩
  capability := .inr (by cases b <;> exact ⟨rfl, rfl, rfl⟩)
  apart := ⟨by decide, by simp [balking, World.opening, World.start]⟩
  plain e found := by
    have inert : ∀ e ∈ rules.toPairs, e.2.objectsIn = [] := by decide
    exact Value.plain_of_objectsIn (inert e found) _
  hashable e found := by
    obtain rfl : e = (.word "RULE", .event .rule) := List.mem_singleton.1 found
    exact ⟨_, rfl⟩
  settings := ⟨_, (settings : (World.opening rules).around.Gives {})⟩

theorem reviewable_balking : Reviewable (balking b) task 1 (.dict 3) (listing rules) :=
  { attachable_balking with
    operations := fun op found => by
      simp only [List.mem_cons, List.not_mem_nil, or_false] at found
      rcases found with rfl | rfl <;> exact ⟨rfl, by cases b <;> rfl⟩
    events := events_balking
    apart := ⟨1, installable_balking.apart⟩
    listing := rfl
    sound := offersRunner_rules.ordinary.sound
    keys := offersRunner_rules.ordinary.keys }

theorem classes_balking {n : String} (found : n ∈ (balking b).operationsAlong Library.loggerClass) :
    n ∈ [LogOp.log, .info, .warn, .error, .debug].map LogOp.name := by
  revert n
  cases b <;> decide

theorem means_balking (op : LogOp) : (balking b).Means emitter op.name (.library (.log op)) := by
  cases b <;> cases op <;> exact ⟨rfl, rfl⟩

theorem attr_balking {s : Scope} {u : World} (kept : Keeps s (balking true) u) (k : Nat) :
    (Host.ofDepth (k + 1)).attr (.cls Library.taskClass) "info" u =
      .error (.notCallable (u.kindOf (.number 1))) u := by
  have entry : u.definition? Library.taskClass "info" = some (.object 6) := by
    rw [kept.definition? (by decide)]
    rfl
  have above : u.definition? (u.classInfo Library.taskClass).kind "info" = none := by
    rw [kept.definition? (by decide), (kept.classes _).kind]
    rfl
  have hook : u.hookOf? (.object 6) "__get__" = some (.number 1) := by
    rw [kept.hookOf? (by decide)]
    rfl
  show (Host.ofDepth (k + 1)).classAttribute Library.taskClass "info" u = _
  rw [Host.classAttribute, bind_run]
  simp only [get_run, above, entry, Option.filter_none]
  show ((get : Act World) >>= _) u = _
  simp only [bind_run, get_run, hook]
  rfl

theorem definition?_balking (op : LogOp) :
    (balking b).definition? ((balking b).classInfo Library.taskClass).kind op.name = none ∧
      ((balking b).definition? Library.taskClass op.name = none ∨ b = true ∧ op.name = "info") := by
  cases b <;> cases op <;> decide

/-- Reading the names of log methods changes nothing, once an install has begun. -/
theorem harmless_balking {u : World} (kept : Keeps (.books 1 0) (balking b) u) (k : Nat) :
    Harmless (Host.ofDepth (k + 1)) u task 1 0 (.object emitter)
      ([LogOp.log, .info, .warn, .error, .debug].map LogOp.name) := by
  have asked (n : String) (found : n ∈ [LogOp.log, .info, .warn, .error, .debug].map LogOp.name)
      (v : World) (gained : Gained u task 1 0 v) :
      (∃ f, (Host.ofDepth (k + 1)).attr (.cls (u.objectClassOf task)) n v = .error f v ∧
        (f.isMissing = true → u.definition? (u.objectClassOf task) n = none)) ∧
      Still v (((Host.ofDepth (k + 1)).attr (.object emitter) n).after v) := by
    obtain ⟨op, -, rfl⟩ := List.mem_map.1 found
    have other : op.name ≠ "__annotations__" := by cases op <;> decide
    have before : Keeps (.task 1 0) (balking b) u := kept.mono rfl (fun _ _ => trivial) fun _ => id
    have since : Keeps (.task 1 0) u v :=
      gained.toKeeps.mono rfl (fun _ _ => trivial) fun _ => False.elim
    have kept₁ := before.trans since
    have same : u.objectClassOf task = Library.taskClass := (kept.objectClassOf task).trans rfl
    have means := kept₁.means isEmitter_balking.holds (.inl (by decide)) other (means_balking op)
    rw [same, after_of_ok (Host.attr_means (kept₁.readsUsually isEmitter_balking.usual) means)]
    refine ⟨?_, .later⟩
    obtain ⟨above, lacks | ⟨rfl, info⟩⟩ := definition?_balking (b := b) op
    · refine ⟨_, Host.attr_class_lacking ?_ ?_, fun _ => ?_⟩
      · rw [kept₁.definition? other, lacks]
      · rw [kept₁.definition? other, (kept₁.classes _).kind, above]
      · rw [kept.definition? other, lacks]
    · rw [info]
      exact ⟨_, attr_balking kept₁ k, fun missing => by cases missing⟩
  refine ⟨fun n found v gained => ?_, fun n found v gained => (asked n found v gained).2,
    fun n found v f v₁ gained failed missing => ?_⟩
  · obtain ⟨⟨f, failed, -⟩, -⟩ := asked n found v gained
    rw [after_of_error failed]
    exact .refl v
  · obtain ⟨⟨f', failed', honest⟩, -⟩ := asked n found v gained
    obtain ⟨rfl, -⟩ := EStateM.Result.error.inj (failed.symm.trans failed')
    exact honest missing

theorem passReadsStill_balking {u : World} (kept : Keeps (.books 1 0) (balking b) u)
    (attachable : Attachable u task 1 0 (.object emitter) "Base") (k : Nat) :
    PassReadsStill (Host.ofDepth (k + 1)) task 0 (.object emitter) Library.loggerClass u := by
  have order := kept.orderOf Library.loggerClass
  have usual : ∀ c ∈ Library.loggerClass :: (balking b).orderOf Library.loggerClass,
      (balking b).UsualKind c := by
    unfold World.UsualKind
    cases b <;> decide
  have bodies : ∀ c ∈ (balking b).orderOf Library.loggerClass,
      ∀ q ∈ ((balking b).classInfo c).body, q.2.objectPlace? = none := by cases b <;> decide
  have tells {c : Nat} (inside :
      c ∈ Library.loggerClass :: (balking b).orderOf Library.loggerClass) :
      u.TellsLineage c := (kept.usualKind (usual c inside)).tellsLineage attachable.standard
  have listable : u.Listable (Host.ofDepth (k + 1)) Library.loggerClass :=
    { tells := tells List.mem_cons_self
      along := fun c inside => tells (List.mem_cons_of_mem _ (order ▸ inside))
      asks := fun c inside _ n v entry isPublic _ place => by
        have was := ((kept.classes c).entries _ entry).resolve_left fun made => isPublic.ne made.1
        simp [bodies c (order ▸ inside) _ was] at place }
  refine ⟨listable, fun names v found => ?_⟩
  obtain ⟨still, same⟩ := (Capability.operations_still attachable.standard listable).of_ok found
  obtain rfl := List.map_injective_iff.2 (fun _ _ same => (Value.text.inj same).2) same
  refine (harmless_balking kept k).undisturbed attachable
    ((Gained.refl attachable).still attachable.holds still) fun n inside => ?_
  have offered : n ∈ u.operationsAlong Library.loggerClass := by
    simpa [mem_foldl_addNew] using inside
  exact ⟨classes_balking (kept.mem_operationsAlong offered),
    (World.mem_operationsAlong.1 offered).1⟩

theorem named_balking : IsNamed (balking b) task :=
  ⟨.word "Base", trivial, .inr (by cases b <;> exact ⟨rfl, rfl, rfl⟩)⟩

theorem readOnly_balking {options runner flag : Value}
    (offers : (balking b).Offers options runner flag)
    (simple : flag.IsSimple) (checkable : (balking b).Checkable runner) (k : Nat) :
    ∃ name text, ChecksReadOnly k (balking b) task 1 (.dict 3)
        (listing rules) options name text := by
  refine reviewable_balking.readOnly
    named_balking
    (asks_of_offers standard_balking offers simple checkable k)
      fun e found place key n same named => ?_
  obtain rfl := handlerName_rules found same named
  exact .inr ⟨.library (.task (.handle .rule)), by cases b <;> exact ⟨rfl, rfl⟩⟩

/-- Without options there is no runner. With a runner the task is installed, and `install` fails
where its class has an entry under the name of a log method whose `__get__` raises. -/
theorem install_rejects_iff_balking :
    (∃ w₁, install (Host.ofDepth 5) (.object task) .nothing (balking false) = .error .noRunner w₁ ∧
      Untouched (balking false) w₁) ∧
    (∃ w₂ pairs, install (Host.ofDepth 5) (.object task)
        (.options 0 (.object emitter) (some true)) (balking false) = .ok .nothing w₂ ∧
      Installed w₂ task 1 emitter 2 0 pairs) ∧
    ∃ f w₃ u pairs, install (Host.ofDepth 5) (.object task)
        (.options 0 (.object emitter) (some true)) (balking true) = .error f w₃ ∧
      PassFails (Host.ofDepth 4) task 0 (.object emitter) "Base" Library.loggerClass u f w₃ ∧
      Installed w₃ task 1 emitter 2 0 pairs := by
  obtain ⟨_, _, readOnly⟩ := readOnly_balking (b := false) .nothing trivial (.inl rfl) 4
  obtain ⟨w₁, rejected, same⟩ := (install_rejects_iff readOnly).2.1 _ (.noRunner rfl)
  let given : Value := .options 0 (.object emitter) (some true)
  have outcome (b : Bool) : ∃ u pairs,
      (∀ f w', install (Host.ofDepth 5) (.object task) given (balking b) = .error f w' →
        PassFails (Host.ofDepth 4) task 0 (.object emitter) "Base" Library.loggerClass u f w') ∧
      ((∀ f w', install (Host.ofDepth 5) (.object task) given (balking b) ≠ .error f w') →
        ∃ w', install (Host.ofDepth 5) (.object task) given (balking b) = .ok .nothing w') ∧
      Installed ((install (Host.ofDepth 5) (.object task) given).after (balking b))
        task 1 emitter 2 0
        pairs := by
    obtain ⟨_, _, readOnly⟩ :=
      readOnly_balking (b := b) (.decoded 0 (.object emitter) (some true)) trivial
      (.inr ⟨_, _, _, rfl, isEmitter_balking⟩) 4
    obtain ⟨_, _, passed⟩ := exists_of_succeeds (show (checked (Host.ofDepth 5) (.object task)
      given).succeeds (balking b) = true by cases b <;> decide +kernel)
    obtain ⟨checks, -, installs⟩ := install_rejects_iff readOnly
    obtain ⟨wanted, u, pairs, -, -, subscribed, ends⟩ := installs (fun f rejects => by
      obtain ⟨w', failed⟩ := (checks f).2 rejects
      cases failed.symm.trans passed) 0 (some true) 0 emitter 2 0 Library.loggerClass
        .nothing "Base" _
      rfl installable_balking
    have later : Keeps (.nothing 1) u u.later := Rests.later.toKeeps
    obtain ⟨fails, otherwise, installed⟩ := ends fun _ => passReadsStill_balking
      (subscribed.kept.trans later.of_nothing) (subscribed.attachable.gaining
        ((Gained.refl subscribed.attachable).still subscribed.attachable.holds .later)) 3
    exact ⟨u.later, pairs, fun f w' failed => ((fails f w').1 failed).2, fun never =>
      otherwise fun f w' both => never f w' ((fails f w').2 both), installed⟩
  refine ⟨⟨w₁, rejected, same⟩, ?_, ?_⟩
  · obtain ⟨u, pairs, -, otherwise, installed⟩ := outcome false
    obtain ⟨_, _, run⟩ := exists_of_succeeds (show (install (Host.ofDepth 5) (.object task)
      given).succeeds (balking false) = true by decide +kernel)
    obtain ⟨w₂, done⟩ := otherwise fun f w' failed => by cases run.symm.trans failed
    rw [after_of_ok done] at installed
    exact ⟨w₂, pairs, done, installed⟩
  · obtain ⟨u, pairs, fails, -, installed⟩ := outcome true
    obtain ⟨f, w₃, failed⟩ := exists_of_not_succeeds (show (install (Host.ofDepth 5) (.object task)
      given).succeeds (balking true) = false by decide +kernel)
    rw [after_of_error failed] at installed
    exact ⟨f, w₃, u, pairs, failed, fails f w₃ failed, installed⟩

end Opening

end EventTasks
