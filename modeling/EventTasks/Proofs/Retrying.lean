import EventTasks.Proofs.Dressing

/-!
What becomes of a first call that finds no valid settings. It fails, and all calls but one have
opened the console before they fail. Since the console is there from then on, later calls do not
dress it any more, also when the settings have become valid: it goes on without a layout until
settings are applied. Only a call that applies the shared settings reads them before it opens
anything; after it the next call opens and dresses the console as if nothing had happened.
-/
namespace EventTasks.Logging

open Act Log

def Call.Gets : Call → Prop
  | .logger _ _ | .handler => True
  | _ => False

variable {h : Host} {w u : World} {P : World → Prop} {i : Nat} {c first next : Call} {f : Fault}
  {console : Console} {settings : Settings}

theorem Call.run_of_refused {s : Surroundings} (other : c ≠ .settings none)
    (run : Surroundings.initialise w.around = .error f s) :
    c.run h w = .error f { w with around := s } := by
  have refused : EventTasks.around Surroundings.initialise w = .error f { w with around := s } := by
    rw [EventTasks.around, run]
  obtain ⟨rest, runs⟩ := Call.initialises h other
  rw [runs, bind_of_error refused]

/-- Without valid settings the first call fails. If it was to apply the shared settings nothing has
been opened, and else the console is open and bare. -/
theorem Call.run_invalid (start : w.around.root.Unopened)
    (invalid : ¬ ∃ settings, w.around.Gives settings) (c : Call) :
    ∃ f u, c.run h w = .error f u ∧
      (c = .settings none → w.around.root.Alike u.around.root) ∧
      (c ≠ .settings none →
        u.around.root.Bare w.around.root.consoles.size w.around.root.level) := by
  cases read : Surroundings.sharedSettings w.around with
  | ok found s => exact absurd ⟨_, Surroundings.gives_of_sharedSettings read⟩ invalid
  | error f s =>
    by_cases shared : c = .settings none
    · subst shared
      refine ⟨f, { w with around := s }, ?_, fun _ => ?_, fun other => absurd rfl other⟩
      · simp only [Call.run, EventTasks.around, Surroundings.applySettings_none, bind, EStateM.bind,
          read]
      · exact (Surroundings.sharedSettings_refuses read).2.2.2
    · obtain ⟨s', refused, bare⟩ := Surroundings.initialise_refused start read
      exact ⟨f, { w with around := s' }, Call.run_of_refused shared refused,
        fun same => absurd same shared, fun _ => bare⟩

def Unlaid (i : Nat) (r : Root) : Prop := ∃ console, r.Opened i console ∧ console.painted = none

theorem Unlaid.setLevel {r : Root} (unlaid : Unlaid i r) (level : Level) :
    Unlaid i (r.setLevel level) :=
  let ⟨console, opened, painted⟩ := unlaid
  ⟨{ console with level }, opened.setLevel level, painted⟩

theorem Unlaid.not_dressed {r : Root} {level : Level} (unlaid : Unlaid i r) :
    ¬ r.Dressed i level := by
  obtain ⟨console, opened, painted⟩ := unlaid
  rintro ⟨-, asked, opened'⟩
  cases opened.sink.symm.trans opened'.sink
  cases painted

theorem Call.Fair.unlaid (fair : c.Fair h w) (gets : c.Gets) (unlaid : Unlaid i w.around.root) :
    Unlaid i ((c.run h).after w).around.root := by
  obtain ⟨P, here, closed, judged, looking⟩ := fair
  have ⟨console, opened, _⟩ := unlaid
  cases c with
  | level | settings | file => exact gets.elim
  | handler =>
    rw [Call.run, after_of_ok (initialise_opened opened)]
    exact unlaid
  | logger name wanted =>
    rw [Call.run, after_map, Script.findLogger, after_bind_of_ok (initialise_opened opened)]
    cases unset : wanted.isNothing with
    | true => exact (looking w here).1 ▸ unlaid
    | false =>
      have settled := judged wanted (by simp [asked?, unset])
      simp only [Bool.not_false, if_true]
      cases accepts : (Script.levelOf h wanted).value? w with
      | none =>
        obtain ⟨f, u, refused, same, -⟩ := setLevel_refuses here opened settled accepts
        rw [after_of_error (bind_of_error refused), same]
        exact unlaid
      | some level =>
        obtain ⟨u, run, set, there⟩ := setLevel_accepts closed here opened settled accepts
        rw [after_bind_of_ok run, (looking u there).1, set]
        exact unlaid.setLevel level

/-- A first call of a logging function fails without valid settings. When they have become valid,
the next `get_logger` or `get_handler` finds the console dressed exactly if the first call was
`apply_config()`; after any other first call the console still has no layout. -/
theorem Call.dressed_after_invalid_iff (start : w.around.root.Unopened)
    (invalid : ¬ ∃ settings, w.around.Gives settings) (first : Call) :
    ∃ f u, first.run h w = .error f u ∧ ∀ v settings next x,
      u.around.root.Alike v.around.root → v.around.Gives settings → Gets next → next.Fair h v →
      next.run h v = .ok () x →
        (x.around.root.Dressed w.around.root.consoles.size
          ((next.accepted? h v).getD (.number settings.level)) ↔ first = .settings none) ∧
        (first ≠ .settings none → Unlaid w.around.root.consoles.size x.around.root) := by
  obtain ⟨f, u, failed, shared, other⟩ := run_invalid (h := h) start invalid first
  refine ⟨f, u, failed, fun v settings next x alike gives gets fair run => ?_⟩
  have unlaid (same : first ≠ .settings none) :
      Unlaid w.around.root.consoles.size x.around.root := by
    rw [← after_of_ok run]
    exact fair.unlaid gets ⟨{}, (other same).2.alike alike, rfl⟩
  refine ⟨⟨fun dressed => ?_, fun same => ?_⟩, unlaid⟩
  · by_contra same
    exact (unlaid same).not_dressed dressed
  · have alike := (shared same).trans alike
    rw [← after_of_ok run, ← alike.consoles]
    exact (fair.first (start.alike alike) gives).1

def misled : World :=
  { before with around := { environment := [("CONFORMANCE_LOG_LEVEL", "LOUD")] } }

theorem misled_invalid : ¬ ∃ settings, misled.around.Gives settings := by
  rintro ⟨settings, gives⟩
  have resolved : (Settings.resolve (misled.around.sources [])).toOption = some settings := by
    rw [show Settings.resolve (misled.around.sources []) = .ok settings from gives]
    rfl
  have refused : (Settings.resolve (misled.around.sources [])).toOption.isNone = true := by decide
  simp [resolved] at refused

def repaired (u : World) : World := { u with around := { u.around with environment := [] } }

/-- `get_handler` fails on an unknown level in the environment. Then the environment is put right,
and `get_handler` gives a console without a layout. -/
theorem Call.not_dressed_after_misled : ∃ f u x,
    Call.handler.run (Host.ofDepth 1) misled = .error f u ∧
    Call.handler.run (Host.ofDepth 1) (repaired u) = .ok () x ∧
    ¬ x.around.root.Dressed 0 (.number 20) ∧ Unlaid 0 x.around.root := by
  have start : misled.around.root.Unopened := ⟨rfl, fun i => List.not_mem_nil⟩
  obtain ⟨f, u, failed, later⟩ :=
    Call.dressed_after_invalid_iff (h := Host.ofDepth 1) start misled_invalid .handler
  have gives : (repaired ((Call.handler.run (Host.ofDepth 1)).after misled)).around.Gives {} := rfl
  rw [after_of_error failed] at gives
  obtain ⟨_, x, run⟩ : ∃ a x, (do
      let _ ← attempt (Call.handler.run (Host.ofDepth 1))
      modify repaired
      Call.handler.run (Host.ofDepth 1) : Act Unit) misled = .ok a x :=
    exists_of_succeeds (by decide +kernel)
  have attempted : attempt (Call.handler.run (Host.ofDepth 1)) misled = .ok (.error f) u := by
    rw [attempt, tryCatch_run, bind_of_error failed]
    rfl
  rw [bind_of_ok attempted] at run
  obtain ⟨iff, unlaid⟩ :=
    later (repaired u) {} .handler x ⟨rfl, rfl, rfl, rfl⟩ gives trivial
      (fair_simple _ .handler _ trivial) run
  have never : Call.handler ≠ .settings none := by simp
  exact ⟨f, u, x, failed, run, fun dressed => never (iff.1 dressed), unlaid never⟩

end EventTasks.Logging
