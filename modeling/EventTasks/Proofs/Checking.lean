import EventTasks.Proofs.Resolving

/-!
The checks of an install. For an ordinary task and options that can be read they change nothing, and
what passes them is known: the runner is an emitter in order, and the pairs are those of the
registry.
-/
namespace EventTasks

open Act

namespace World

def Checkable (w : World) (runner : Value) : Prop :=
  runner = .nothing ∨ ∃ r e p, runner = .object r ∧ w.IsEmitter r e p

variable {w : World} {options runner flag : Value}

theorem Offers.later (offers : w.Offers options runner flag) :
    w.later.Offers options runner flag := by
  cases offers with
  | nothing => exact .nothing
  | decoded => exact .decoded _ _ _
  | mapping p => exact .mapping p
  | object usual cls runnerShown flagGiven =>
    exact .object ⟨usual.always, usual.missing⟩ cls runnerShown flagGiven

end World

theorem Keeps.checkable {w w' : World} {d : Nat} {runner : Value}
    (kept : Keeps (.nothing d) w w') (checkable : w.Checkable runner) : w'.Checkable runner :=
  checkable.imp_right fun ⟨r, e, p, same, emitter⟩ =>
    ⟨r, e, p, same, kept.isEmitter (Scope.spares_nothing d e) emitter⟩

namespace Task

variable {w : World} {i d : Nat} {r : Ref} {l : Listing} {options runner flag : Value}

/-- What `checked` finds: an emitter as runner, and the pairs of the registry in a new list. -/
structure Passed (w w' : World) (k i d : Nat) (l : Listing) (options runner pairs : Value)
    (subscribed : List (Value × Ref)) : Prop where
  options : ∃ stamp attach, options = .options stamp runner attach
  runner : ∃ r e p, runner = .object r ∧ w.IsEmitter r e p
  pairs : ∃ place items, pairs = .ref (.list place) ∧ w'.lists[place]? = some items ∧
    ArePairs items subscribed
  resolved : List.Forall₂ (Resolved (Host.ofDepth k) w i d) l.entries subscribed

/-- The checks of `install` change nothing, and an emitter and callable handlers pass them. -/
theorem checked_eq (ordinary : Ordinary w i d r l) (offers : w.Offers options runner flag)
    (simple : flag.IsSimple) (checkable : w.Checkable runner) (depth : Nat) :
    ∃ w', Rests (.nothing d) w w' ∧
      ((∃ f, checked (Host.ofDepth depth) (.object i) options w = .error f w') ∨
        ∃ k decoded pairs subscribed, depth = k + 1 ∧
          checked (Host.ofDepth depth) (.object i) options w = .ok (decoded, runner, pairs) w' ∧
          Passed w w' k i d l decoded runner pairs subscribed) := by
  have parse := ordinary.operations .parseOptions (by decide)
  cases depth with
  | zero => exact ⟨w.later, .later, .inl ⟨.tooDeep,
      bind_of_error (Host.send_means_exhausted ordinary.usual parse _)⟩⟩
  | succ k =>
    have asked : (Host.ofDepth (k + 1)).send (.object i) "_parse_options" [options] w =
        parseOptions (Host.ofDepth k) options w.later :=
      Host.send_means ordinary.usual parse k [options]
    obtain ⟨w₁, kept, outcome⟩ := parseOptions_eq (h := Host.ofDepth k) (s := .nothing d)
      offers.later simple
    have kept₁ := Rests.later.trans kept
    rcases outcome with ⟨f, run⟩ | ⟨stamp, attach, run⟩
    · exact ⟨w₁, kept₁, .inl ⟨f, bind_of_error (asked.trans run)⟩⟩
    · rw [checked, bind_of_ok (asked.trans run), bind_run]
      have ordinary₁ := ordinary.of_nothing kept₁.toKeeps
      rcases kept₁.checkable checkable with rfl | ⟨r', e, p, rfl, emitter₁⟩
      · exact ⟨w₁, kept₁, .inl ⟨_, by rw [checkedRunner_nothing ordinary₁.standard]⟩⟩
      · obtain ⟨w₂, accepted, kept⟩ := checkedRunner_emitter (h := Host.ofDepth (k + 1))
          ordinary₁.standard emitter₁ stamp attach
        have kept₂ := kept₁.trans (kept d)
        have ordinary₂ := ordinary.of_nothing kept₂.toKeeps
        have resolve : (Host.ofDepth (k + 1)).send (.object i) "_resolve_handlers" [] w₂ =
            resolveHandlers (Host.ofDepth k) (.object i) w₂.later :=
          Host.send_means ordinary₂.usual (ordinary₂.operations .resolveHandlers (by decide)) k []
        have kept₃ := kept₂.trans (.later (s := .nothing d))
        obtain ⟨w₄, kept, outcome⟩ := resolveHandlers_eq (ordinary.of_nothing kept₃.toKeeps) k
        have kept₄ := kept₃.trans kept
        rw [accepted]
        simp only [bind_run, resolve]
        rcases outcome with ⟨f, run⟩ | ⟨place, items, pairs, run, list, arePairs, resolved⟩
        · exact ⟨w₄, kept₄, .inl ⟨f, by rw [run]⟩⟩
        · refine ⟨w₄, kept₄, .inr ⟨k, _, _, pairs, rfl, by rw [run]; rfl, ⟨stamp, attach, rfl⟩,
            ?_, ⟨place, items, rfl, list, arePairs⟩, resolved.imp fun _ _ => .before kept₃.toKeeps⟩⟩
          obtain nothing | found := checkable
          · cases nothing
          · exact found

end Task

end EventTasks
