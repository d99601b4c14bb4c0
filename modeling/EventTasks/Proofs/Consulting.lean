import EventTasks.Surroundings

/-!
Consulting the shared settings. What is kept is given as it is, whatever the sources say now; else
the sources are read as they are now. What they give is kept under a number of its own, and what
they do not give is not remembered. A reading warns of the lines of the settings file that cannot be
read, and does nothing else to the loggers.
-/
namespace EventTasks

namespace Log.Root

structure Alike (r r' : Root) : Prop where
  level : r'.level = r.level
  consoles : r'.consoles = r.consoles
  console : r'.console = r.console
  outlets : r'.outlets = r.outlets

namespace Alike

variable {r r' r'' : Root}

@[refl]
theorem refl (r : Root) : r.Alike r := ⟨rfl, rfl, rfl, rfl⟩

theorem trans (h : r.Alike r') (h' : r'.Alike r'') : r.Alike r'' :=
  ⟨h'.level.trans h.level, h'.consoles.trans h.consoles, h'.console.trans h.console,
    h'.outlets.trans h.outlets⟩

theorem say (r : Root) (severity : Severity) (logger message : String) :
    r.Alike (r.say severity logger message) := by
  unfold Root.say
  split
  · exact ⟨rfl, rfl, rfl, rfl⟩
  · exact refl r

end Alike

def entry (severity : Severity) (logger message : String) : Heard :=
  ⟨.word severity.name, .word logger, .ok message⟩

theorem heard_say (r : Root) (severity : Severity) (logger message : String) :
    (r.say severity logger message).heard =
      if r.isEnabled (.whole severity.number) then entry severity logger message :: r.heard
      else r.heard := by
  unfold Root.say
  split <;> rfl

theorem isEnabled_say (r : Root) (severity : Severity) (logger message : String)
    (importance : Importance) :
    (r.say severity logger message).isEnabled importance = r.isEnabled importance := by
  simp only [isEnabled, (Alike.say r severity logger message).level]

theorem isEnabled_severity (r : Root) (severity : Severity) :
    r.isEnabled (.whole severity.number) = decide (r.level.rank ≤ severity.number) := by
  cases severity <;> simp [isEnabled, Importance.isPositive, Importance.reaches, Severity.number]

end Log.Root

namespace Surroundings

def unreadable (s : Surroundings) : List Nat :=
  (s.file.map Settings.Assignments.unreadable).getD []

def complaint (n : Nat) : String := s!"python-dotenv could not parse statement starting at line {n}"

def warn (lines : List Nat) (r : Log.Root) : Log.Root :=
  lines.foldl (fun r n => r.say .warning fileLogger (complaint n)) r

theorem warnOfLines_run (lines : List Nat) (s : Surroundings) :
    warnOfLines lines s = .ok () { s with root := warn lines s.root } := by
  induction lines generalizing s with
  | nil => rfl
  | cons n lines ih => exact ih _

theorem alike_warn (lines : List Nat) (r : Log.Root) : r.Alike (warn lines r) := by
  induction lines generalizing r with
  | nil => exact .refl r
  | cons n lines ih => exact (Log.Root.Alike.say r _ _ _).trans (ih _)

theorem heard_warn (lines : List Nat) (r : Log.Root) :
    (warn lines r).heard = (if r.isEnabled (.whole Log.Severity.warning.number) then
      (lines.map fun n => Log.Root.entry .warning fileLogger (complaint n)).reverse else []) ++
        r.heard := by
  induction lines generalizing r with
  | nil => simp [warn]
  | cons n lines ih =>
    rw [show warn (n :: lines) r = warn lines (r.say .warning fileLogger (complaint n)) from rfl,
      ih,
      Log.Root.isEnabled_say, Log.Root.heard_say]
    split <;> simp

def warnings (s : Surroundings) : List Log.Heard :=
  if s.shared.isNone && s.root.isEnabled (.whole Log.Severity.warning.number) then
    (s.unreadable.map fun n => Log.Root.entry .warning fileLogger (complaint n)).reverse
  else []

def warned (s : Surroundings) : Surroundings := { s with root := warn s.unreadable s.root }

def keep (s : Surroundings) (settings : Settings) : Surroundings :=
  { s.warned with shared := some (s.readings, settings), readings := s.readings + 1 }

def refusal (problems : List Settings.Problem) : Fault :=
  .invalid (Settings.report settingsName (problems.map fun p => (p, Text.quoted p.input.text)))

/-- The cached settings, or what reading them now comes to. -/
def Gives (s : Surroundings) (settings : Settings) : Prop :=
  match s.shared with
  | some kept => kept.2 = settings
  | none => Settings.resolve (s.sources []) = .ok settings

variable {s : Surroundings} {settings : Settings} {problems : List Settings.Problem}

theorem sharedSettings_of_kept {kept : Nat × Settings} (shared : s.shared = some kept) :
    sharedSettings s = .ok kept s := by
  have asked : (get : Surrounded Surroundings) s = .ok s s := rfl
  simp only [sharedSettings, bind, EStateM.bind, asked, shared]
  rfl

/-- The sources are read, with a warning for each line that cannot be, and give settings or
problems. -/
theorem readSettings_run (s : Surroundings) :
    readSettings s = match Settings.resolve (s.sources []) with
      | .ok settings => .ok settings s.warned
      | .error problems => .error (refusal problems) s.warned := by
  have asked : (get : Surrounded Surroundings) s = .ok s s := rfl
  have told : warnOfLines (((s.sources []).file.map Settings.Assignments.unreadable).getD []) s =
      .ok () s.warned := warnOfLines_run _ s
  simp only [readSettings, bind, EStateM.bind, asked, told]
  cases Settings.resolve (s.sources []) <;> rfl

theorem sharedSettings_of_resolve (shared : s.shared = none)
    (gives : Settings.resolve (s.sources []) = .ok settings) :
    sharedSettings s = .ok (s.readings, settings) (s.keep settings) := by
  have asked : (get : Surrounded Surroundings) s = .ok s s := rfl
  simp only [sharedSettings, bind, EStateM.bind, asked, shared, readSettings_run, gives]
  rfl

theorem sharedSettings_of_refused (shared : s.shared = none)
    (refuses : Settings.resolve (s.sources []) = .error problems) :
    sharedSettings s = .error (refusal problems) s.warned := by
  have asked : (get : Surrounded Surroundings) s = .ok s s := rfl
  simp only [sharedSettings, bind, EStateM.bind, asked, shared, readSettings_run, refuses]

/-- How `get_config` ends: with the cached settings, or with what reading the sources comes to. -/
inductive Consults (s : Surroundings) :
    EStateM.Result Fault Surroundings (Nat × Settings) → Prop where
  | kept {found : Nat × Settings} (shared : s.shared = some found) : Consults s (.ok found s)
  | read {settings : Settings} (none : s.shared = none)
    (gives : Settings.resolve (s.sources []) = .ok settings) :
    Consults s (.ok (s.readings, settings) (s.keep settings))
  | refused {problems : List Settings.Problem} (none : s.shared = none)
    (refuses : Settings.resolve (s.sources []) = .error problems) :
    Consults s (.error (refusal problems) s.warned)

theorem consults (s : Surroundings) : s.Consults (sharedSettings s) := by
  cases shared : s.shared with
  | some found => exact sharedSettings_of_kept shared ▸ .kept shared
  | none =>
    cases read : Settings.resolve (s.sources []) with
    | ok settings => exact sharedSettings_of_resolve shared read ▸ .read shared read
    | error problems => exact sharedSettings_of_refused shared read ▸ .refused shared read

/-- Valid settings are given by `get_config`, and cached. -/
theorem sharedSettings_gives (gives : s.Gives settings) :
    ∃ number s', sharedSettings s = .ok (number, settings) s' ∧
      s'.shared = some (number, settings) ∧ s.root.Alike s'.root := by
  unfold Gives at gives
  cases kept : s.shared with
  | some known =>
    rw [kept] at gives
    obtain rfl := gives
    exact ⟨known.1, s, sharedSettings_of_kept kept, kept, .refl _⟩
  | none =>
    rw [kept] at gives
    exact ⟨s.readings, _, sharedSettings_of_resolve kept gives, rfl, alike_warn _ _⟩

theorem heard_sharedSettings {found : Nat × Settings} {s' : Surroundings}
    (run : sharedSettings s = .ok found s') : s'.root.heard = s.warnings ++ s.root.heard := by
  cases run ▸ s.consults with
  | kept shared => simp [warnings, shared]
  | @read settings none _ =>
    have heard : (s.keep settings).root.heard = _ := heard_warn s.unreadable s.root
    simp [heard, warnings, none]

theorem gives_of_sharedSettings {found : Nat × Settings} {s' : Surroundings}
    (run : sharedSettings s = .ok found s') : s.Gives found.2 := by
  cases run ▸ s.consults with
  | kept shared => simp [Gives, shared]
  | read none gives => simp [Gives, none, gives]

theorem shared_of_sharedSettings {found : Nat × Settings} {s' : Surroundings}
    (run : sharedSettings s = .ok found s') : s'.shared = some found := by
  obtain ⟨number, s'', run', kept, -⟩ := sharedSettings_gives (gives_of_sharedSettings run)
  obtain ⟨same, rfl⟩ := EStateM.Result.ok.inj (run.symm.trans run')
  rw [kept, same]

/-- Invalid settings are refused, and nothing is cached. -/
theorem sharedSettings_refuses {f : Fault} {s' : Surroundings}
    (run : sharedSettings s = .error f s') : s.shared = none ∧ s'.shared = none ∧
      (∃ problems, Settings.resolve (s.sources []) = .error problems ∧ f = refusal problems) ∧
      s.root.Alike s'.root := by
  cases run ▸ s.consults with
  | refused none refuses => exact ⟨none, none, ⟨_, refuses, rfl⟩, alike_warn _ _⟩

/-- Between two moments the settings were read at most; their sources are the same. -/
structure MayRead (s s' : Surroundings) : Prop where
  environment : s'.environment = s.environment
  file : s'.file = s.file
  shared : s'.shared = s.shared ∧ s'.readings = s.readings ∨
    s.shared = none ∧ ∃ settings, Settings.resolve (s.sources []) = .ok settings ∧
      s'.shared = some (s.readings, settings) ∧ s'.readings = s.readings + 1

namespace MayRead

variable {s'' : Surroundings}

@[refl]
theorem refl (s : Surroundings) : s.MayRead s := ⟨rfl, rfl, .inl ⟨rfl, rfl⟩⟩

theorem of_root (s : Surroundings) (root : Log.Root) : s.MayRead { s with root } :=
  ⟨rfl, rfl, .inl ⟨rfl, rfl⟩⟩

theorem sources {s' : Surroundings} (may : s.MayRead s') (given : List (String × Settings.Input)) :
    s'.sources given = s.sources given := by
  rw [Surroundings.sources, Surroundings.sources, may.environment, may.file]

theorem trans {s' : Surroundings} (may : s.MayRead s') (may' : s'.MayRead s'') : s.MayRead s'' where
  environment := may'.environment.trans may.environment
  file := may'.file.trans may.file
  shared := by
    rcases may.shared with ⟨same, count⟩ | ⟨none, settings, read, kept, count⟩
    · rw [← same, ← count, ← may.sources]
      exact may'.shared
    · rcases may'.shared with ⟨same', count'⟩ | ⟨none', -⟩
      · exact .inr ⟨none, settings, read, same'.trans kept, count'.trans count⟩
      · simp [kept] at none'

theorem kept {s' : Surroundings} {known : Nat × Settings} (may : s.MayRead s')
    (kept : s.shared = some known) : s'.shared = some known ∧ s'.readings = s.readings := by
  rcases may.shared with ⟨same, count⟩ | ⟨none, -⟩
  · exact ⟨same.trans kept, count⟩
  · simp [kept] at none

end MayRead

def consulted (s : Surroundings) : Surroundings :=
  match sharedSettings s with
  | .ok _ s' => s'
  | .error _ s' => s'

theorem consulted_of_ok {found : Nat × Settings} {s' : Surroundings}
    (run : sharedSettings s = .ok found s') : s.consulted = s' := by
  rw [consulted, run]

theorem consulted_of_error {f : Fault} {s' : Surroundings} (run : sharedSettings s = .error f s') :
    s.consulted = s' := by
  rw [consulted, run]

theorem mayRead_consulted (s : Surroundings) : s.MayRead s.consulted := by
  have consults := s.consults
  unfold consulted
  generalize sharedSettings s = ended at consults ⊢
  cases consults with
  | kept shared => exact .refl s
  | read none gives => exact ⟨rfl, rfl, .inr ⟨none, _, gives, rfl, rfl⟩⟩
  | refused none refuses => exact ⟨rfl, rfl, .inl ⟨rfl, rfl⟩⟩

end Surroundings

end EventTasks
