import EventTasks.Proofs.Opening
import EventTasks.Proofs.Reviewing

/-!
The two shapes of install options: a mapping, and an object with the very same attributes. Both are
decoded from the same runner and the same flag, and what comes of that is the same. They part where
the flag is refused: the fault of a mapping is one of the install, that of an object is one of the
options. Everything behind the decoding sees the decoded options alone.
-/
namespace EventTasks

open Act

/-- A mapping of options and an object of a class of its own with the same attributes. -/
structure World.Twins (w : World) (p o : Nat) (runner : Value) : Prop where
  usual : w.ReadsUsually o
  cls : w.definition? (w.objectClassOf o) "__class__" =
    some (.ref (.aspect Library.objectClass .cls))
  same : ∀ n, (w.attributesOf o).text? n = (w.dictAt p).text? n
  runner : (w.dictAt p).text? Options.runnerField = some runner
  unknown : ∀ n ∈ [Options.runnerField, Options.flagField],
    w.definition? (w.objectClassOf o) n = none

def World.flagAt (w : World) (p : Nat) : Value :=
  ((w.dictAt p).text? Options.flagField).getD .nothing

inductive Act.EndAlike {α : Type} (w : World) (m m' : Act α) : Prop where
  | succeed {a : α} {u : World} (run : m w = .ok a u) (run' : m' w = .ok a u)
  | fail {f f' : Fault} {u : World} (run : m w = .error f u) (run' : m' w = .error f' u)
    (kind : f.kind = f'.kind)

theorem Act.endAlike_of_eq {α : Type} {w : World} {m m' : Act α} (same : m w = m' w) :
    EndAlike w m m' := by
  cases run : m w with
  | ok a u => exact .succeed run (same ▸ run)
  | error f u => exact .fail run (same ▸ run) rfl

namespace World

variable {w : World} {p o : Nat} {runner : Value}

theorem Twins.shows (twins : w.Twins p o runner) : w.Shows o Task.runnerField runner :=
  .of_own ((twins.same _).trans twins.runner) (twins.unknown Options.runnerField (by simp))

theorem Twins.gives (twins : w.Twins p o runner) : w.Gives o Options.flagField (w.flagAt p) := by
  have none := twins.unknown Options.flagField (by simp)
  have same := twins.same Options.flagField
  unfold flagAt
  cases own : (w.dictAt p).text? Options.flagField with
  | none => exact .inr ⟨same.trans own, none, rfl⟩
  | some v => exact .inl (.of_own (same.trans own) none)

theorem Twins.later (twins : w.Twins p o runner) : w.later.Twins p o runner :=
  { twins with usual := ⟨twins.usual.always, twins.usual.missing⟩ }

end World

namespace Options

variable {h : Host} {w : World} {runner flag : Value}

/-- A value is accepted as a truth value or as nothing. -/
def TakesFlag (h : Host) (w : World) (flag : Value) : Prop :=
  ∃ v u attach, h.flagOf flag w = .ok v u ∧ Settings.readOptionalFlag v = .ok attach

theorem flagOf_run (h : Host) (w : World) (flag : Value) : ∃ v u, h.flagOf flag w = .ok v u := by
  unfold Host.flagOf
  split
  · exact ⟨flag, w, rfl⟩
  · obtain ⟨x, u, run⟩ := attempt_run (h.index? flag) w
    obtain ⟨y, u', byFraction⟩ := attempt_run (h.fraction? flag) u
    rw [bind_of_ok run]
    split
    · split
      · exact ⟨_, _, rfl⟩
      · rw [bind_of_ok byFraction]
        split <;> exact ⟨_, _, rfl⟩
    · rw [bind_of_ok byFraction]
      split <;> exact ⟨_, _, rfl⟩

theorem reported_run (h : Host) (i : Settings.Input) (w : World) :
    ∃ s u, h.reported i w = .ok s u := by
  obtain ⟨x, u, run⟩ := attempt_run (h.describe i.value) w
  rw [Host.reported, bind_of_ok run]
  cases x <;> exact ⟨_, _, rfl⟩

/-- Options are made of a flag that is taken for one; any other flag is reported. -/
theorem build_cases (h : Host) (w : World) (runner flag : Value) :
    (TakesFlag h w flag ∧ ∃ v u, build h runner flag w = .ok v u) ∨
      (¬ TakesFlag h w flag ∧ ∃ report u, build h runner flag w = .error (.invalid report) u) := by
  obtain ⟨v, u, read⟩ := flagOf_run h w flag
  have taken : TakesFlag h w flag ↔ ∃ attach, Settings.readOptionalFlag v = .ok attach := by
    refine ⟨fun ⟨v', u', attach, read', accepted⟩ => ?_, fun ⟨attach, accepted⟩ =>
      ⟨v, u, attach, read, accepted⟩⟩
    obtain ⟨rfl, -⟩ := EStateM.Result.ok.inj (read.symm.trans read')
    exact ⟨attach, accepted⟩
  rw [taken, build, bind_of_ok read]
  cases Settings.readOptionalFlag v with
  | ok attach => exact .inl ⟨⟨attach, rfl⟩, _, _, rfl⟩
  | error complaint =>
    obtain ⟨s, u', told⟩ := reported_run h (Host.inputOf u flag) u
    refine .inr ⟨by simp, Settings.report subject [(⟨flagField, complaint, Host.inputOf u flag⟩,
      s)],
      u', ?_⟩
    simp only [bind_run, get_run, Host.invalid, List.mapM_cons, List.mapM_nil, told, pure_run,
      throw_run]

end Options

namespace Task

variable {h : Host} {w : World} {k i p o : Nat} {runner : Value}

/-- `_parse_options` of a mapping reads two entries, and makes an `InstallError` of a
`ValidationError`. -/
theorem parseOptions_mapping (runnerAt : (w.dictAt p).text? Options.runnerField = some runner) :
    parseOptions h (.ref (.dict p)) w =
      match Options.build h runner (w.flagAt p) w with
      | .ok v u => .ok v u
      | .error (.invalid report) u => .error (.invalidOptions report) u
      | .error f u => .error f u := by
  have asked : isReadAsMapping h (.ref (.dict p)) w = .ok true w := rfl
  have parse : Options.parse h (.ref (.dict p)) w = Options.build h runner (w.flagAt p) w := by
    show Options.build h (((w.dictAt p).text? Options.runnerField).getD .nothing) _ w = _
    rw [runnerAt]
    rfl
  rw [parseOptions, bind_of_ok asked]
  simp only [if_true]
  rw [tryCatch_run, parse]
  cases Options.build h runner (w.flagAt p) w with
  | ok v u => rfl
  | error f u => cases f <;> rfl

/-- `_parse_options` of the twin reads the same two values, and lets the `ValidationError`
through. -/
theorem parseOptions_object (twins : w.Twins p o runner) :
    parseOptions h (.object o) w = Options.build h runner (w.flagAt p) w := by
  rw [parseOptions, bind_of_ok (isReadAsMapping_object twins.usual twins.cls)]
  simp only [Bool.false_eq_true, if_false]
  rw [bind_of_ok (Host.has_shows twins.usual twins.shows)]
  simp only [if_true]
  rw [bind_of_ok (Host.attr_shows twins.usual twins.shows),
    bind_of_ok (Host.attrOrNothing_gives twins.usual twins.gives)]

theorem install_congr {options options' : Value}
    (same : h.send (.object i) "_parse_options" [options] w =
      h.send (.object i) "_parse_options" [options'] w) :
    install h (.object i) options w = install h (.object i) options' w := by
  have checks : checked h (.object i) options w = checked h (.object i) options' w := by
    simp only [checked, bind_run, same]
  simp only [install, bind_run, checks]

theorem install_of_undecoded {options : Value} {f : Fault} {u : World}
    (failed : h.send (.object i) "_parse_options" [options] w = .error f u) :
    install h (.object i) options w = .error f u :=
  bind_of_error (bind_of_error failed)

/-- Either the flag is accepted, and the two installs do the same; or both refuse it, with two
faults. -/
theorem install_twins (usual : w.ReadsUsually i)
    (means : w.Means i "_parse_options" (.library (.task .parseOptions)))
    (twins : w.Twins p o runner) (k : Nat) :
    (Options.TakesFlag (Host.ofDepth k) w.later (w.flagAt p) ∧
      install (Host.ofDepth (k + 1)) (.object i) (.ref (.dict p)) w =
        install (Host.ofDepth (k + 1)) (.object i) (.object o) w) ∨
    (¬ Options.TakesFlag (Host.ofDepth k) w.later (w.flagAt p) ∧ ∃ report u,
      Options.build (Host.ofDepth k) runner (w.flagAt p) w.later = .error (.invalid report) u ∧
      install (Host.ofDepth (k + 1)) (.object i) (.ref (.dict p)) w =
        .error (.invalidOptions report) u ∧
      install (Host.ofDepth (k + 1)) (.object i) (.object o) w = .error (.invalid report) u) := by
  have sent (options : Value) :
      (Host.ofDepth (k + 1)).send (.object i) "_parse_options" [options] w =
      parseOptions (Host.ofDepth k) options w.later := Host.send_means usual means k [options]
  have mapping := parseOptions_mapping (h := Host.ofDepth k) twins.later.runner
  have object := parseOptions_object (h := Host.ofDepth k) twins.later
  have same : w.later.flagAt p = w.flagAt p := rfl
  rw [same] at mapping object
  rcases Options.build_cases (Host.ofDepth k) w.later runner (w.flagAt p) with
    ⟨takes, v, u, built⟩ | ⟨refuses, report, u, built⟩
  · rw [built] at mapping object
    exact .inl ⟨takes, install_congr (by rw [sent, sent, mapping, object])⟩
  · rw [built] at mapping object
    exact .inr ⟨refuses, report, u, built, install_of_undecoded ((sent _).trans mapping),
      install_of_undecoded ((sent _).trans object)⟩

/-- The two shapes of the same options end `install` alike exactly if their flag is accepted. If it
is, the two installs are the same to the last detail. If it is not, both fail when the flag is read,
one with an `InstallError` and the other with a `ValidationError`. Whatever the checks reject is
rejected in both shapes with nothing changed. -/
theorem install_alike_iff (usual : w.ReadsUsually i)
    (means : w.Means i "_parse_options" (.library (.task .parseOptions)))
    (twins : w.Twins p o runner) (k : Nat) :
    let byMapping := install (Host.ofDepth (k + 1)) (.object i) (.ref (.dict p))
    let byObject := install (Host.ofDepth (k + 1)) (.object i) (.object o)
    let taken := Options.TakesFlag (Host.ofDepth k) w.later (w.flagAt p)
    (EndAlike w byMapping byObject ↔ taken) ∧
    (taken → byMapping w = byObject w) ∧
    (¬ taken → ∃ report u, byMapping w = .error (.invalidOptions report) u ∧
      byObject w = .error (.invalid report) u ∧
      u = (Options.build (Host.ofDepth k) runner (w.flagAt p)).after w.later ∧
      ((w.flagAt p).IsSimple → Untouched w u)) ∧
    (∀ j d r l name text f, k = j + 1 → ChecksReadOnly k w i d r l (.ref (.dict p)) name text →
      Rejects k w i (.ref (.dict p)) name text l f → ∃ f' u, byMapping w = .error f u ∧
        byObject w = .error f' u ∧ Untouched w u ∧ (taken → f' = f)) := by
  intro byMapping byObject taken
  have rejected {j d : Nat} {r : Ref} {l : Listing} {name : Value} {text : String} {f : Fault}
      (deeper : k = j + 1) (readOnly : ChecksReadOnly k w i d r l (.ref (.dict p)) name text)
      (rejects : Rejects k w i (.ref (.dict p)) name text l f) :
      ∃ u, byMapping w = .error f u ∧ Untouched w u := by
    subst deeper
    exact rejects.install_fails readOnly
  rcases install_twins usual means twins k with
    ⟨takes, equal⟩ | ⟨refuses, report, u, built, failed, failed'⟩
  · refine ⟨⟨fun _ => takes, fun _ => endAlike_of_eq equal⟩, fun _ => equal,
      fun refuses => absurd takes refuses, fun j d r l name text f deeper readOnly rejects => ?_⟩
    obtain ⟨u, failed, same⟩ := rejected deeper readOnly rejects
    exact ⟨f, u, failed, equal.symm.trans failed, same, fun _ => rfl⟩
  · refine ⟨⟨fun alike => ?_, fun takes => absurd takes refuses⟩, fun takes => absurd takes refuses,
      fun _ => ⟨report, u, failed, failed', (after_of_error built).symm, fun simple => ?_⟩,
      fun j d r l name text f deeper readOnly rejects => ?_⟩
    · cases alike with
      | succeed run => exact absurd (failed.symm.trans run) (by simp)
      | fail run run' kind =>
        obtain ⟨rfl, -⟩ := EStateM.Result.error.inj (failed.symm.trans run)
        obtain ⟨rfl, -⟩ := EStateM.Result.error.inj (failed'.symm.trans run')
        simp [Fault.kind] at kind
    · refine Untouched.later.trans fun d => ?_
      obtain ⟨u', kept, ⟨f, run⟩ | ⟨stamp, attach, run⟩⟩ :=
        Options.build_eq (h := Host.ofDepth k) (s := .nothing d) (w := w.later) simple runner
      · obtain ⟨-, rfl⟩ := EStateM.Result.error.inj (built.symm.trans run)
        exact kept
      · exact absurd (built.symm.trans run) (by simp)
    · obtain ⟨u', failed₁, same⟩ := rejected deeper readOnly rejects
      obtain ⟨rfl, rfl⟩ := EStateM.Result.error.inj (failed.symm.trans failed₁)
      exact ⟨_, u, failed, failed', same, fun takes => absurd takes refuses⟩

end Task

def World.offering (fields : List (String × Value)) : World :=
  let w := World.opening Opening.rules
  { w with
    objects := w.objects.push { cls := Library.plainClass, attributes := some 5 }
    dicts := w.dicts ++ #[.ofTexts fields, .ofTexts fields] }

namespace Opening

open EventTasks.Task

theorem twins_offering {fields : List (String × Value)} {runner : Value}
    (found : (Dictionary.ofTexts fields).text? Options.runnerField = some runner) :
    (World.offering fields).Twins 4 6 runner where
  usual := ⟨show World.start.hook? Library.plainClass "__getattribute__" = none by decide,
    show World.start.hook? Library.plainClass "__getattr__" = none by decide⟩
  cls := rfl
  same _ := rfl
  runner := found
  unknown := show ∀ n ∈ [Options.runnerField, Options.flagField],
    World.start.definition? Library.plainClass n = none by decide

/-- A flag that is accepted in both shapes, and one that is not. -/
theorem install_alike_yes_maybe :
    let fields (flag : String) : List (String × Value) :=
      [(Options.runnerField, .object emitter), (Options.flagField, .word flag)]
    EndAlike (World.offering (fields "yes"))
      (install (Host.ofDepth 1) (.object task) (.ref (.dict 4)))
      (install (Host.ofDepth 1) (.object task) (.object 6)) ∧
    ¬ EndAlike (World.offering (fields "maybe"))
      (install (Host.ofDepth 1) (.object task) (.ref (.dict 4)))
      (install (Host.ofDepth 1) (.object task) (.object 6)) := by
  intro fields
  have usual (flag : String) : (World.offering (fields flag)).ReadsUsually task :=
    ⟨(@usual_task rules).always, (@usual_task rules).missing⟩
  refine ⟨(install_alike_iff (usual "yes") ⟨rfl, rfl⟩ (twins_offering rfl) 0).1.2
      ⟨.word "yes", _, some true, rfl, rfl⟩, fun alike => ?_⟩
  obtain ⟨v, u, attach, read, accepted⟩ :=
    (install_alike_iff (usual "maybe") ⟨rfl, rfl⟩ (twins_offering rfl) 0).1.1 alike
  obtain ⟨rfl, -⟩ := EStateM.Result.ok.inj read
  have refused : Settings.readOptionalFlag (.word "maybe") = .error .flagUnreadable := rfl
  exact absurd (refused.symm.trans accepted) (by simp)

end Opening

end EventTasks
