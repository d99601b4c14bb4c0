import EventTasks.Proofs.Accepting
import EventTasks.Proofs.Telling

/-!
Install options that can be read without asking anything written, and the check of the runner they
offer. Reading them changes nothing; what comes of it are decoded options with the same runner. The
runner is then nothing, which is a fault, or an emitter in order, which is accepted.
-/
namespace EventTasks

open Act

namespace World

def Gives (w : World) (i : Nat) (n : String) (v : Value) : Prop :=
  w.Shows i n v ∨ ((w.attributesOf i).text? n = none ∧
    w.definition? (w.objectClassOf i) n = none ∧ v = .nothing)

/-- Install options and the runner and flag in them: nothing, decoded options, a mapping, or an
object with a runner. -/
inductive Offers (w : World) : Value → Value → Value → Prop where
  | nothing : w.Offers .nothing .nothing .nothing
  | decoded (stamp : Nat) (runner : Value) (attach : Option Bool) :
    w.Offers (.options stamp runner attach) runner (.ofFlag? attach)
  | mapping (p : Nat) : w.Offers (.ref (.dict p))
    (((w.dictAt p).text? Options.runnerField).getD .nothing)
    (((w.dictAt p).text? Options.flagField).getD .nothing)
  | object {i : Nat} {runner flag : Value} (usual : w.ReadsUsually i)
    (cls : w.definition? (w.objectClassOf i) "__class__" =
      some (.ref (.aspect Library.objectClass .cls)))
    (runnerShown : w.Shows i Task.runnerField runner)
    (flagGiven : w.Gives i Options.flagField flag) :
    w.Offers (.object i) runner flag

end World

theorem Keeps.gives {s : Scope} {w w' : World} {i d : Nat} {n : String} {v : Value}
    (kept : Keeps s w w') (holds : w.Holds i d) (outside : d ≠ s.place ∨ ¬ s.names n)
    (hn : n ≠ "__annotations__") (gives : w.Gives i n v) : w'.Gives i n v := by
  rcases gives with shows | ⟨own, entry, nothing⟩
  · exact .inl (kept.shows holds outside hn shows)
  · refine .inr ⟨(kept.own holds outside).trans own, ?_, nothing⟩
    rw [kept.objectClassOf, kept.definition? hn, entry]

namespace Host

variable {h : Host} {w : World} {i : Nat} {n : String} {v : Value}

theorem attrOrNothing_gives (usual : w.ReadsUsually i) (gives : w.Gives i n v) :
    h.attrOrNothing (.object i) n w = .ok v w := by
  rw [attrOrNothing, orMissing, tryCatch_run]
  rcases gives with shows | ⟨own, entry, rfl⟩
  · rw [attr_shows usual shows]
  · rw [attr_missing usual own entry]
    rfl

end Host

namespace Options

variable {h : Host} {s : Scope} {w : World} {flag : Value}

theorem build_eq (simple : flag.IsSimple) (runner : Value) :
    ∃ w', Rests s w w' ∧ ((∃ f, build h runner flag w = .error f w') ∨
      ∃ stamp attach, build h runner flag w = .ok (.options stamp runner attach) w') := by
  have same : h.flagOf flag w = .ok flag w := by
    simp [Host.flagOf, simple.objectPlace?]
  rw [build, bind_run]
  simp only [same]
  cases Settings.readOptionalFlag flag with
  | ok attach => exact ⟨w.later, .later, .inr ⟨w.later.stamps, attach, rfl⟩⟩
  | error complaint =>
    obtain ⟨f, run⟩ := Host.invalid_simple (h := h) (w := w) simple subject flagField complaint
    exact ⟨w, .refl s w, .inl ⟨f, by simp only [bind_run, get_run, run, throw_run]⟩⟩

end Options

namespace Task

variable {h : Host} {s : Scope} {w : World} {options runner flag self : Value}

theorem isReadAsMapping_object {i : Nat} (usual : w.ReadsUsually i)
    (cls : w.definition? (w.objectClassOf i) "__class__" =
      some (.ref (.aspect Library.objectClass .cls))) :
    isReadAsMapping h (.object i) w = .ok false w := by
  have checked : h.checkClass (.object i) w = .ok () w := by
    show (h.attr (.object i) "__class__" >>= _) w = _
    rw [bind_run, Host.attr_class usual cls]
    rfl
  show (h.checkClass (.object i) >>= fun _ => pure (Value.isMapping (.object i))) w = _
  rw [bind_of_ok checked]
  rfl

/-- `_parse_options` reads options whose runner and flag can be read, or refuses their flag. -/
theorem parseOptions_eq (offers : w.Offers options runner flag) (simple : flag.IsSimple) :
    ∃ w', Rests s w w' ∧ ((∃ f, parseOptions h options w = .error f w') ∨
      ∃ stamp attach, parseOptions h options w = .ok (.options stamp runner attach) w') := by
  cases offers with
  | nothing => exact ⟨w.later, .later, .inr ⟨w.later.stamps, none, rfl⟩⟩
  | decoded stamp runner attach => exact ⟨w, .refl s w, .inr ⟨stamp, attach, rfl⟩⟩
  | mapping p =>
    obtain ⟨w', kept, outcome⟩ := Options.build_eq (h := h) (s := s) (w := w) simple
      (((w.dictAt p).text? Options.runnerField).getD .nothing)
    have parse : Options.parse h (.ref (.dict p)) w =
        Options.build h (((w.dictAt p).text? Options.runnerField).getD .nothing)
          (((w.dictAt p).text? Options.flagField).getD .nothing) w := rfl
    have asked : isReadAsMapping h (.ref (.dict p)) w = .ok true w := rfl
    rw [parseOptions, bind_run, asked]
    simp only [if_true]
    rw [tryCatch_run, parse]
    rcases outcome with ⟨f, run⟩ | ⟨stamp, attach, run⟩
    · rw [run]
      refine ⟨w', kept, .inl ?_⟩
      cases f <;> exact ⟨_, rfl⟩
    · rw [run]
      exact ⟨w', kept, .inr ⟨stamp, attach, rfl⟩⟩
  | @object i runner flag usual cls runnerShown flagGiven =>
    obtain ⟨w', kept, outcome⟩ := Options.build_eq (h := h) (s := s) (w := w) simple runner
    refine ⟨w', kept, ?_⟩
    rw [parseOptions, bind_of_ok (isReadAsMapping_object usual cls)]
    simp only [Bool.false_eq_true, if_false, bind_run, Host.has_shows usual runnerShown, if_true,
      Host.attr_shows usual runnerShown, Host.attrOrNothing_gives usual flagGiven]
    exact outcome

theorem attr_options (standard : w.Standard) (stamp : Nat) (attach : Option Bool) :
    h.attr (.options stamp runner attach) runnerField w = .ok runner w ∧
      h.attr (.options stamp runner attach) Options.flagField w = .ok (.ofFlag? attach) w := by
  have none₁ : w.definition? Library.optionsClass runnerField = none :=
    standard.definition? (by decide) (by decide) (by decide)
  have none₂ : w.definition? Library.optionsClass Options.flagField = none :=
    standard.definition? (by decide) (by decide) (by decide)
  constructor
  · show h.usualAttribute _ _ w = _
    rw [Host.usualAttribute, bind_run]
    simp only [get_run, World.classOf, none₁]
    rfl
  · show h.usualAttribute _ _ w = _
    rw [Host.usualAttribute, bind_run]
    simp only [get_run, World.classOf, none₂]
    rfl

theorem checkedRunner_nothing (standard : w.Standard) (stamp : Nat) (attach : Option Bool) :
    checkedRunner h (.options stamp .nothing attach) w = .error .noRunner w := by
  rw [checkedRunner, bind_run, (attr_options standard stamp attach).1]
  rfl

theorem checkedRunner_emitter {r e p : Nat} (standard : w.Standard) (emitter : w.IsEmitter r e p)
    (stamp : Nat) (attach : Option Bool) :
    ∃ w', checkedRunner h (.options stamp (.object r) attach) w = .ok (.object r) w' ∧
      Untouched w w' := by
  obtain ⟨w', run, kept⟩ := Runner.accepts_emitter (h := h) standard emitter
  refine ⟨w', ?_, kept⟩
  have something : (Value.object r).isNothing = false := rfl
  rw [checkedRunner, bind_run, (attr_options standard stamp attach).1]
  simp only [something, Bool.false_eq_true, if_false, bind_run, run, Bool.not_true, pure_run]

end Task

end EventTasks
