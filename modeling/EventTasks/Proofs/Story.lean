import EventTasks.Proofs.Dressing
import EventTasks.Proofs.Epochs
import EventTasks.Proofs.Noting

/-!
Who asks for the shared settings, and what comes of it. Some operations ask by the way: opening and
dressing the console, an install that leaves it to the settings whether log methods are wanted, and
every call of a forwarder. Whatever they do before and after that, and whatever is called meanwhile,
all who ask within an epoch are given the same settings, which the sources decide at the first
reading that succeeds.
-/
namespace EventTasks

open Act

namespace Task

variable {h : Host} {self options f : Value} {info : ForwarderInfo} {w v : World}

def approach (h : Host) (self options : Value) : Act Bool := do
  let (options, runner, pairs) ← checked h self options
  warnIfInstalled h self
  subscribe h self runner pairs
  let flag ← h.attr options Options.flagField
  if flag.isNothing then pure (← h.attr self Options.flagField).isNothing else pure false

theorem install_of_approach (comes : approach h self options w = .ok true v) :
    install h self options w = (around Surroundings.sharedSettings >>= fun found => do
      conclude h self found.2.attachLogger
      pure .nothing) v := by
  obtain ⟨⟨options, runner, pairs⟩, w₁, passed, comes⟩ := bind_eq_ok.1 comes
  obtain ⟨⟨⟩, w₂, warned, comes⟩ := bind_eq_ok.1 comes
  obtain ⟨⟨⟩, w₃, subscribed, comes⟩ := bind_eq_ok.1 comes
  obtain ⟨flag, w₄, read, comes⟩ := bind_eq_ok.1 comes
  cases undecided : flag.isNothing with
  | false => simp [undecided] at comes
  | true =>
    rw [undecided, if_pos rfl] at comes
    obtain ⟨own, w₅, read', comes⟩ := bind_eq_ok.1 comes
    obtain ⟨undecided', rfl⟩ := EStateM.Result.ok.inj comes
    have wants : wantsLogger h self flag w₄ = (around Surroundings.sharedSettings >>= fun found =>
        pure found.2.attachLogger) w₅ := by
      rw [wantsLogger, undecided]
      simp only [Bool.not_true, Bool.false_eq_true, if_false]
      rw [bind_of_ok read', undecided']
      rfl
    refine (bind_of_ok passed).trans ((bind_of_ok warned).trans ((bind_of_ok subscribed).trans ?_))
    rw [finish_eq, bind_run, bind_of_ok read, bind_run, wants, bind_run, bind_run]
    cases around Surroundings.sharedSettings w₅ with
    | error f x => rfl
    | ok found x => simp only [pure_run, bind_run]

/-- At that point the task is as ordinary as before, with the runner that it was offered, and of the
surroundings only the loggers may have changed. -/
theorem approach_eq {i d r e p depth : Nat} {reg : Ref} {l : Listing} {flag : Value}
    {undecided : Bool}
    (offersEmitter : OffersEmitter w i d reg l options flag r e p)
    (comes : approach (Host.ofDepth depth) (.object i) options w = .ok undecided v) :
    DefaultInternals v i d reg l ∧ v.Shows i runnerField (.object r) ∧ v.Readable r ∧
      ∃ root, v.around = { w.around with root } := by
  obtain ⟨found, _, checks, comes⟩ := bind_eq_ok.1 comes
  rcases offersEmitter.engages depth with ⟨f, w₁, run, -⟩ |
    ⟨k, stamp, attach, place, pairs, w₁, root, w₃, rfl, run, engagement⟩
  · simp [run] at checks
  obtain ⟨rfl, rfl⟩ := EStateM.Result.ok.inj (run.symm.trans checks)
  obtain ⟨⟨⟩, _, warned, comes⟩ := bind_eq_ok.1 comes
  obtain ⟨-, rfl⟩ := EStateM.Result.ok.inj (engagement.warned.symm.trans warned)
  obtain ⟨⟨⟩, _, subscribed, comes⟩ := bind_eq_ok.1 comes
  have internals : DefaultInternals w₃ i d reg l :=
    (offersEmitter.ordinary.of_books engagement.keeps).toDefaultInternals
  have outcome := engagement.outcome
  cases refusal : refused pairs with
  | some kind =>
    rw [refusal] at outcome
    simp [outcome.1] at subscribed
  | none =>
    rw [refusal] at outcome
    obtain ⟨-, rfl⟩ := EStateM.Result.ok.inj (outcome.1.symm.trans subscribed)
    obtain ⟨_, _, read, comes⟩ := bind_eq_ok.1 comes
    obtain ⟨rfl, rfl⟩ :=
      EStateM.Result.ok.inj ((attr_options internals.standard stamp attach).2.symm.trans read)
    have same : v = w₃ := by
      split at comes
      · obtain ⟨own, -, shows⟩ := internals.flag
        rw [bind_of_ok (Host.attr_shows internals.usual shows)] at comes
        exact (EStateM.Result.ok.inj comes).2.symm
      · exact (EStateM.Result.ok.inj comes).2.symm
    refine same ▸ ⟨internals, engagement.engaged.runner,
      engagement.keeps.readable offersEmitter.readable, root, ?_⟩
    rw [engagement.rests.around, World.withRoot, engagement.checks.around]

def target (h : Host) (info : ForwarderInfo) : Act Value := do
  let runner ← h.attr info.task runnerField
  if runner.isNothing then throw (← notInstalled h info.task)
  let runner ← h.attr info.task runnerField
  h.attr runner info.name

theorem reach_eq (h : Host) (info : ForwarderInfo) :
    reach h info =
      (target h info >>= fun f => do pure (f, ← h.send info.task "_log_prefix" [])) := by
  simp only [reach, target, bind_assoc]
  congr 1
  funext runner
  split <;> simp

end Task

/-- The operations that read the shared settings. -/
inductive Reader where
  | config
  | console
  | apply
  | install (h : Host) (self options : Value)
  | forwarder (depth place : Nat) (args : List Value)

namespace Reader

def perform : Reader → Act Unit
  | config => (fun _ => ()) <$> around Surroundings.sharedSettings
  | console => around Surroundings.initialise
  | apply => around (Surroundings.applySettings none)
  | install h self options => (fun _ => ()) <$> Task.install h self options
  | forwarder depth j args =>
    (fun _ => ()) <$> (Host.ofDepth depth).call (.function (.forwarder j)) args []

/-- When an operation reads the shared settings, in which world, and how it goes on with them. The
console reads them only when it is opened; `install` only if options and task leave `attach_logger`
open; a forwarder for the colours of its prefix. -/
inductive Asks : Reader → World → World → (Nat × Settings → Act Unit) → Prop
  | config (u) : Asks .config u u fun _ => pure ()
  | console {u : World} : u.around.root.console.isNone = true →
      Asks .console u { u with around := u.around.opening } fun found =>
        around (Surroundings.dress found.2)
  | apply (u) : Asks .apply u u fun found => around (Surroundings.applySettings (some found.2))
  | install {h : Host} {self options : Value} {u v : World} :
      Task.approach h self options u = .ok true v →
      Asks (.install h self options) u v fun found => Task.conclude h self found.2.attachLogger
  | forwarder {k i j : Nat} {args : List Value} {info : ForwarderInfo} {f : Value} {u v : World} :
      u.forwarders[j]? = some info → info.task = .object i →
      Task.target (Host.ofDepth (k + 1)) info u = .ok f v →
      v.ReadsUsually i → Task.Prefixes v i →
      Asks (.forwarder (k + 2) j args) u v.later fun found => do
        let name ← Task.nameText (Host.ofDepth k) (.object i)
        let _ ← (Host.ofDepth (k + 1)).call f (Task.front found.2 name :: args) []

variable {reader : Reader} {u v x : World} {rest : Nat × Settings → Act Unit}
  {found : Nat × Settings}
  {f : Fault}

/-- What an operation does is to read the settings, and to go on with them. -/
theorem Asks.run (asks : reader.Asks u v rest) :
    reader.perform u = (around Surroundings.sharedSettings >>= rest) v := by
  cases asks with
  | config u =>
    rw [perform, map_run, bind_run]
    cases around Surroundings.sharedSettings u <;> rfl
  | @console u closed =>
    have opens : around Surroundings.initialise u =
        around (Surroundings.sharedSettings >>= fun found => Surroundings.dress found.2)
          { u with around := u.around.opening } := by
      rw [around, Surroundings.initialise_of_none closed]
      rfl
    exact opens.trans (around_bind _ _ _)
  | apply u =>
    have applies : around (Surroundings.applySettings none) u = around
        (Surroundings.sharedSettings >>= fun found => Surroundings.applySettings (some found.2))
            u := by
      rw [around, Surroundings.applySettings_none]
      rfl
    exact applies.trans (around_bind _ _ _)
  | install comes =>
    rw [perform, map_run, Task.install_of_approach comes, bind_run, bind_run]
    cases around Surroundings.sharedSettings v with
    | error f x => rfl
    | ok found x =>
      simp only [bind_run]
      cases Task.conclude _ _ found.2.attachLogger x <;> rfl
  | @forwarder k i j args info f u v there task found usual prefixes =>
    have sent : (Host.ofDepth (k + 1)).send (.object i) "_log_prefix" [] v =
        (around Surroundings.sharedSettings >>= fun found => do
          pure (Task.front found.2 (← Task.nameText (Host.ofDepth k) (.object i)))) v.later :=
      Host.send_means usual prefixes k []
    rw [perform, map_run, Task.call_forwarder there, bind_run, Task.reach_eq, bind_of_ok found,
      bind_run, task, sent, bind_run, bind_run]
    cases around Surroundings.sharedSettings v.later with
    | error f x => rfl
    | ok found x =>
      simp only [bind_run]
      cases Task.nameText (Host.ofDepth k) (.object i) x with
      | error f y => rfl
      | ok name y => simp only [pure_run]

theorem Asks.goesOn (asks : reader.Asks u v rest)
    (given : around Surroundings.sharedSettings v = .ok found x) :
    reader.perform u = rest found x :=
  asks.run.trans (bind_of_ok given)

theorem Asks.after_of_given (asks : reader.Asks u v rest)
    (given : around Surroundings.sharedSettings v = .ok found x) :
    reader.perform.after u = (rest found).after x := by
  rw [after, asks.goesOn given, after]

/-- An operation that is given no settings fails for the same reason, and does nothing more. -/
theorem Asks.raises (asks : reader.Asks u v rest)
    (refused : around Surroundings.sharedSettings v = .error f x) : reader.perform u = .error f x :=
  asks.run.trans (bind_of_error refused)

end Reader

/-- The readings and resets of the shared settings while operations run. Whatever an operation does
before and after its reading is a story too. -/
inductive Story : World → List Sight → World → Prop
  | trans {u v w : World} {sights later : List Sight} :
      Story u sights v → Story v later w → Story u (sights ++ later) w
  | aside {u v : World} : v.around.cache = u.around.cache → Story u [] v
  | reset (u) : Story u [.reset] ((around Surroundings.resetSettings).after u)
  | given {reader : Reader} {u v x : World} {rest : Nat × Settings → Act Unit}
      {found : Nat × Settings} {sights later : List Sight} :
      reader.Asks u v rest → Story u sights v →
      around Surroundings.sharedSettings v = .ok found x → Story x later (reader.perform.after u) →
      Story u (sights ++ .read (v.around.sources []) (.ok found) :: later) (reader.perform.after u)
  | refused {reader : Reader} {u v x : World} {rest : Nat × Settings → Act Unit} {f : Fault}
      {sights : List Sight} :
      reader.Asks u v rest → Story u sights v → around Surroundings.sharedSettings v = .error f x →
      Story u (sights ++ [.read (v.around.sources []) (.error f)]) (reader.perform.after u)

namespace Story

variable {u v w : World} {sights : List Sight}

theorem course (story : Story u sights w) : Course u.around.cache sights w.around.cache := by
  induction story with
  | trans _ _ first second => exact first.append second
  | aside same => exact same ▸ .still _
  | reset u => exact .reset (.still _)
  | given asks _ run _ before behind =>
    exact before.append ((Course.read_ok (around_ok run).1).append behind)
  | refused asks _ run before =>
    rw [after_of_error (asks.raises run)]
    exact before.append (Course.read_error (around_error run))

/-! Operations that ask once and leave what is kept alone otherwise -/

variable {reader : Reader} {rest : Nat × Settings → Act Unit}

theorem of_asks (asks : reader.Asks u v rest) (before : v.around.cache = u.around.cache)
    (behind : ∀ found x, around Surroundings.sharedSettings v = .ok found x →
      ((rest found).after x).around.cache = x.around.cache) :
    Story u [v.around.look] (reader.perform.after u) := by
  cases asked : around Surroundings.sharedSettings v with
  | ok found x =>
    rw [Surroundings.look_of_ok (around_ok asked).1]
    refine .given asks (.aside before) asked (.aside ?_)
    rw [asks.after_of_given asked]
    exact behind found x asked
  | error f x =>
    rw [Surroundings.look_of_error (around_error asked)]
    exact .refused asks (.aside before) asked

theorem config (w : World) : Story w [w.around.look] (Reader.config.perform.after w) :=
  of_asks (.config w) rfl fun _ _ _ => rfl

theorem console (closed : w.around.root.console.isNone = true) :
    Story w [w.around.opening.look] (Reader.console.perform.after w) :=
  of_asks (.console closed) rfl fun _ _ _ => rfl

theorem exists_trans (first : ∃ sights, Story u sights v) (second : ∃ later, Story v later w) :
    ∃ whole, Story u whole w := by
  obtain ⟨sights, first⟩ := first
  obtain ⟨later, second⟩ := second
  exact ⟨sights ++ later, first.trans second⟩

/-- Dressing the console in given settings asks only if the console has to be opened first. -/
theorem dress (settings : Settings) (w : World) :
    ∃ sights, Story w sights ((around (Surroundings.applySettings (some settings))).after w) := by
  rw [Surroundings.applySettings_some, after, around_bind, ← after]
  refine after_bind (R := fun u v => ∃ sights, Story u sights v) exists_trans ?_
    fun _ x _ => ⟨[], .aside rfl⟩
  cases closed : w.around.root.console.isNone with
  | true => exact ⟨_, console closed⟩
  | false =>
    have opened : around Surroundings.initialise w = .ok () w := by
      rw [around, Surroundings.initialise_of_some closed]
    rw [after_of_ok opened]
    exact ⟨[], .aside rfl⟩

theorem apply (w : World) :
    ∃ later, Story w (w.around.look :: later) (Reader.apply.perform.after w) := by
  cases asked : around Surroundings.sharedSettings w with
  | ok found x =>
    obtain ⟨later, dressed⟩ := dress found.2 x
    rw [Surroundings.look_of_ok (around_ok asked).1]
    refine ⟨later, .given (.apply w) (.aside rfl) asked ?_⟩
    rw [(Reader.Asks.apply w).after_of_given asked]
    exact dressed
  | error f x =>
    rw [Surroundings.look_of_error (around_error asked)]
    exact ⟨[], .refused (.apply w) (.aside rfl) asked⟩

/-! Changes of the sources -/

def Spares (u v : World) : Prop := v.around.cache = u.around.cache

theorem Spares.trans {u v x : World} (first : Spares u v) (second : Spares v x) : Spares u x :=
  Eq.trans second first

theorem spares_liftExcept (r : Except Fault α) (w : World) : Spares w ((liftExcept r).after w) := by
  rw [after_liftExcept]
  rfl

theorem setVariable (name value : Value) (w : World) :
    Story w [] ((Script.setVariable name value).after w) := by
  refine .aside (after_bind (R := Spares) .trans rfl fun _ u _ => ?_)
  refine after_bind (R := Spares) .trans (spares_liftExcept _ u) fun _ u _ => ?_
  split
  · rfl
  · refine after_bind (R := Spares) .trans (spares_liftExcept _ u) fun _ u _ => ?_
    exact after_bind (R := Spares) .trans (spares_liftExcept _ u) fun _ u _ => rfl

theorem setFile (text : Option String) (w : World) :
    Story w [] ((Script.setFile text).after w) := by
  refine .aside ?_
  unfold Script.setFile
  split
  · rfl
  · exact after_bind (R := Spares) .trans rfl fun _ u _ => rfl

/-! Installs and forwarders -/

/-- `install` of an ordinary task on an emitter in order reads the settings once, if at all. -/
theorem install {i d r e p depth : Nat} {reg : Ref} {l : Listing} {options flag : Value}
    (offersEmitter : Task.OffersEmitter w i d reg l options flag r e p)
    (comes : Task.approach (Host.ofDepth depth) (.object i) options w = .ok true v) :
    Story w [v.around.look] ((Task.install (Host.ofDepth depth) (.object i) options).after w) := by
  obtain ⟨internals, shows, readable, root, sameAround⟩ := Task.approach_eq offersEmitter comes
  have before : v.around.cache = w.around.cache := by
    rw [sameAround]
    rfl
  have story := of_asks (.install comes) before fun found x asked => ?_
  · rwa [Reader.perform, after_map] at story
  · obtain ⟨read, same⟩ := around_ok asked
    have kept : Keeps (.nothing d) v x := same ▸ .around x.around
    have internals' : Task.DefaultInternals x i d reg l :=
      internals.of_keeps kept internals.apart fun _ _ => .inr id
    have reports : Task.Reports x i d := ⟨r, kept.shows internals.holds (.inr id) (by decide) shows,
      Task.answers_of_readable (kept.readable readable)⟩
    have goes := Task.conclude_goes internals' reports (.refl internals'.holds)
      found.2.attachLogger depth
    exact goes.stays.settings.cache (Surroundings.shared_of_sharedSettings read)

/-- A call of a forwarder reads the settings once, if its task is installed on a runner that has the
operation. -/
theorem forwarder {i j r k : Nat} {text : String} {info : ForwarderInfo} {args : List Value}
    {texts : List String} {op : LogOp} (speaks : Task.SpeaksTo w info i r text)
    (there : w.forwarders[j]? = some info) (name : info.name = op.name) (usual : w.ReadsUsually r)
    (means : w.Means r op.name (.library (.log op)))
    (told : Task.HaveTexts (Host.ofDepth k) w args texts) :
    Story w [w.around.look]
      (((Host.ofDepth (k + 2)).call (.function (.forwarder j)) args []).after w) := by
  have found : Task.target (Host.ofDepth (k + 1)) info w =
      .ok (.ref (.method w.later.stamps (.object r) (.library (.log op)))) w.later := by
    have something : (Value.object r).isNothing = false := rfl
    rw [Task.target, speaks.task, bind_of_ok (Host.attr_shows speaks.usual speaks.runner)]
    simp only [something, Bool.false_eq_true, if_false]
    exact (bind_of_ok (Host.attr_shows speaks.usual speaks.runner)).trans
      (Host.attr_means usual (name ▸ means))
  obtain ⟨d, holds⟩ := speaks.holds
  have kept : Keeps (.nothing d) w w.later := .later
  have asks : (Reader.forwarder (k + 2) j args).Asks w w.later.later _ :=
    .forwarder there speaks.task found (kept.readsUsually speaks.usual)
      (kept.means holds (.inr id) (by decide) speaks.prefixes)
  have story := of_asks asks rfl fun given x asked => ?_
  · rwa [Reader.perform, after_map] at story
  · obtain ⟨read, -⟩ := around_ok asked
    obtain ⟨u, run, logged⟩ := Task.forwarder_run speaks there name usual means told read
    have performed : (Reader.forwarder (k + 2) j args).perform w = .ok () u := by
      rw [Reader.perform, map_run, run]
    rw [after_of_ok ((asks.goesOn asked).symm.trans performed), logged]
    rfl

/-! Epochs -/

/-- Between two resets, every reading of the settings that succeeds gives one and the same object,
whatever becomes of the sources: what the first of them made of the sources as they were then. A
reading that fails raises and is not remembered; as long as none has succeeded, at the start of an
epoch among others, the sources decide as they are at that time. -/
theorem epochs (story : Story u sights w) :
    (∀ before sources found between sources' outcome behind,
      sights = before ++ .read sources (.ok found) :: between ++ .read sources' outcome :: behind →
      .reset ∉ between → outcome = .ok found) ∧
    (∀ older epoch sources outcome behind,
      sights = older ++ epoch ++ .read sources outcome :: behind →
      (older = [] ∧ u.around.shared = none ∨ ∃ past, older = past ++ [.reset]) →
      (∀ sources' found, .read sources' (.ok found) ∉ epoch) →
      match Settings.resolve sources with
      | .ok settings => ∃ number, outcome = .ok (number, settings)
      | .error problems => outcome = .error (Surroundings.refusal problems)) ∧
    (∀ (reader : Reader) (u v x : World) rest, reader.Asks u v rest →
      (∀ found, around Surroundings.sharedSettings v = .ok found x →
        reader.perform u = rest found x) ∧
      ∀ f, around Surroundings.sharedSettings v = .error f x →
        reader.perform u = .error f x ∧ x.around.shared = none) := by
  have course := story.course
  refine ⟨?_, ?_, ?_⟩
  · intro before sources found between sources' outcome behind same noReset
    rw [same] at course
    exact course.same noReset
  · intro older epoch sources outcome behind same begins refused
    rw [same, List.append_assoc] at course
    obtain ⟨c, past, course⟩ := course.split
    obtain ⟨c', yet, course⟩ := course.split
    -- at the start of the epoch nothing is kept, and what was refused since then left nothing
    have nothing : c.1 = none := by
      rcases begins with ⟨rfl, nothing⟩ | ⟨before, rfl⟩
      · rwa [past.eq_of_nil]
      · exact past.after_reset
    exact course.afresh (yet.empty nothing refused)
  · intro reader u v x rest asks
    constructor
    · intro found given
      exact asks.goesOn given
    · intro f refused
      exact ⟨asks.raises refused, (Surroundings.sharedSettings_refuses (around_error refused)).2.1⟩

theorem number_lt (story : Story u sights w) (counted : Course.Counted u.around.cache)
    {before between behind : List Sight} {sources sources' : Settings.Sources}
    {found found' : Nat × Settings} (same : sights = before ++ .read sources (.ok found) ::
      between ++ .read sources' (.ok found') :: behind) (reset : .reset ∈ between) :
    found.1 < found'.1 :=
  (same ▸ story.course).number_lt counted reset

end Story

namespace Opening

def pale : Surroundings :=
  { Surroundings.start with environment := [("CONFORMANCE_USE_COLORS", "false")] }

/-- The settings are read, their sources are changed, and they are read again; only after
`reset_config` does a forwarder see the change. -/
theorem epochs_talking : ∃ w again fresh, Story (talking .start)
      [.read (Surroundings.start.sources []) (.ok (0, {})), .read (pale.sources []) again, .reset,
        .read (pale.sources []) fresh] w ∧
    again = .ok (0, {}) ∧ ∃ number, fresh = .ok (number, { useColors := false }) := by
  let w₁ := Reader.config.perform.after (talking .start)
  let w₂ : World := { w₁ with around := { w₁.around with environment := pale.environment } }
  let w₃ := (around Surroundings.resetSettings).after (Reader.config.perform.after w₂)
  let w₄ := talking { pale with readings := 1 }
  have told : Task.HaveTexts (Host.ofDepth 1) w₄ [] [] := Task.haveTexts_of_forall₂ .nil _
  have name : voice.name = LogOp.info.name := rfl
  have calls := Story.forwarder (speaksTo_talking { pale with readings := 1 }) (j := 0) rfl name
    (usual_talking _) (means_talking _) told
  have story := (Story.config (talking .start)).trans
    ((Story.aside (u := w₁) (v := w₂) rfl).trans ((Story.config w₂).trans ((Story.reset _).trans
      ((Story.aside (u := w₃) (v := w₄) rfl).trans calls))))
  refine ⟨_, _, _, story, ?_, ?_⟩
  · exact story.epochs.1 [] _ _ [] _ _ _ rfl (by simp)
  · exact story.epochs.2.1 [_, _, .reset] [] _ _ [] rfl (.inr ⟨[_, _], rfl⟩) (by simp)

end Opening

end EventTasks
