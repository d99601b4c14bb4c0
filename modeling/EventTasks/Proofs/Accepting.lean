import EventTasks.Proofs.Presence

/-!
An emitter in order counts as a runner, whatever the contract found of its class before. All that
asking changes is what classes remember.
-/
namespace EventTasks.Runner

open Act

variable {h : Host} {w : World} {r e p : Nat}

theorem definesWays_emitter (emitter : w.IsEmitter r e p) :
    w.DefinesWays (w.objectClassOf r) = true := by
  have defines {n : String} {f : Function} (means : w.Means r n f) :
      w.Defines (w.objectClassOf r) n = true := by
    obtain ⟨⟨c, v⟩, found, rfl⟩ := Option.map_eq_some_iff.1 means.2
    rw [World.Defines, found]
    rfl
  simp [World.DefinesWays, ways, defines emitter.off, defines emitter.on]

theorem isSubclass_emitter (standard : w.Standard) (emitter : w.IsEmitter r e p) :
    ∃ found w', isSubclass h Library.contractClass (w.objectClassOf r) w = .ok found w' ∧
      Untouched w w' := by
  cases known : w.verdict? (w.objectClassOf r) with
  | some found => exact ⟨found, w, isSubclass_known standard known, .refl w⟩
  | none =>
    obtain ⟨w₁, kept, run⟩ := isSubclass_unknown (h := h) standard known fun lacking => by
      simp [definesWays_emitter emitter] at lacking
    exact ⟨_, _, run, kept.untouched.trans (untouched_withVerdict w₁ _ _)⟩

theorem offers_emitter (emitter : w.IsEmitter r e p) :
    ∃ w', offers h (.object r) ways w = .ok true w' ∧ Untouched w w' := by
  have outside : ∀ n ∈ ways, n ≠ "__annotations__" := by decide
  have bears : ∀ n ∈ ways, w.Bears r n ((fun _ => true) n) := by
    intro n hn
    rcases List.mem_cons.1 hn with rfl | hn
    · exact .method emitter.off
    · obtain rfl := List.mem_singleton.1 hn
      exact .method emitter.on
  obtain ⟨w', run, kept⟩ := offers_decides (h := h) emitter.usual emitter.holds outside bears
  exact ⟨w', run, kept.untouched⟩

/-- An emitter in order passes `isinstance(value, Runner)`. -/
theorem accepts_emitter (standard : w.Standard) (emitter : w.IsEmitter r e p) :
    ∃ w', accepts h (.object r) w = .ok true w' ∧ Untouched w w' := by
  rw [accepts, bind_run]
  simp only [get_run]
  split
  · exact ⟨w, rfl, .refl w⟩
  · obtain ⟨found, w₁, run, kept⟩ := isSubclass_emitter (h := h) standard emitter
    rw [isInstance, bind_run, isProtocol_eq standard]
    simp only [bind_run, namedClass_eq emitter.usual emitter.cls, run]
    cases found with
    | true => exact ⟨w₁, rfl, kept⟩
    | false =>
      have emitter₁ := (kept e).toKeeps.isEmitter (Scope.spares_nothing e e) emitter
      obtain ⟨w₂, offered, kept'⟩ := offers_emitter (h := h) emitter₁
      have asked : h.truth (.flag true) w₁ = .ok true w₁ := rfl
      refine ⟨w₂, ?_, kept.trans kept'⟩
      simp only [Bool.false_eq_true, if_false, bind_run, asked, if_true, offered, pure_run]

end EventTasks.Runner
