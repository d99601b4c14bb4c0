import EventTasks.Proofs.Reviewing
import EventTasks.Proofs.Opening

/-!
What an install does behind its checks: it keeps the runner, hands it the pairs, keeps these and
gives the task forwarders. On an emitter in order, and for a task that nothing stands in the way of,
only an identifier that cannot be looked up, or invalid settings, can end that.
-/
namespace EventTasks

open Act

namespace Task

variable {w u : World} {i d r e p k : Nat} {reg : Ref} {l : Listing} {options : Value}
  {pairs : List (Value × Ref)}

def Consultable (w : World) (d p r : Nat) : Prop :=
  ∀ depth u n, Keeps (.task d p) w u → IsPublic n →
    Untouched u (((Host.ofDepth depth).attrOrNothing (.object r) n).after u)

theorem consultable_of_readable (readable : w.Readable r) : Consultable w d p r :=
  fun _ _ _ kept isPublic _ => Host.after_attrOrNothing (kept.readable readable).usual
    ((kept.readable readable).quiet _ isPublic)

/-- What `install` does behind its checks. -/
def engage (h : Host) (self runner pairs options : Value) : Act Value := do
  warnIfInstalled h self
  subscribe h self runner pairs
  finish h self options
  pure .nothing

theorem install_of_checked {h : Host} {self decoded runner found : Value}
    (passed : checked h self options w = .ok (decoded, runner, found) u) :
    install h self options w = engage h self runner found decoded u := bind_of_ok passed

/-- A runner that can be asked can be asked by the task that has it in its books. -/
theorem Consultable.reports (consultable : Consultable w d p r) (kept : Keeps (.books d p) w u)
    (shows : u.Shows i runnerField (.object r)) : Reports u i d := by
  refine ⟨r, shows, fun depth v n gains isPublic => ?_⟩
  have before : Keeps (.task d p) w u := kept.mono rfl (fun _ _ => trivial) fun _ => id
  have since : Keeps (.task d p) u v :=
    gains.toKeeps.mono rfl (fun _ _ => trivial) fun _ => False.elim
  exact gains.rest (consultable depth v n (before.trans since) isPublic d)

/-- Behind its checks `install` subscribes the pairs, up to the first unhashable event. If there is
one, it fails and the pairs on record are as before; else the task keeps its pairs, and only invalid
settings or a lack of depth can make what follows fail. -/
theorem engage_decides (internals : DefaultInternals w i d reg l) (serves : w.Serves r e p)
    (apart : e ≠ d)
    (consultable : Consultable w d p r) (former : ∃ v, w.Shows i runnerField v) {place : Nat}
    {items : List Value} (list : w.lists[place]? = some items) (arePairs : ArePairs items pairs)
    (plain : ∀ q ∈ pairs, q.1.Plain w) (callable : ∀ q ∈ pairs, w.isCallable (.ref q.2) = true)
    (stamp : Nat) (attach : Option Bool) (k : Nat) :
    ∃ w', Keeps (.books d p) w w' ∧ Engaged w' i d r e p ∧
      w'.tableAt p = (w.tableAt p).subscribeAll (handed pairs) ∧
      match refused pairs with
      | some kind =>
          engage (Host.ofDepth (k + 1)) (.object i) (.object r) (.ref (.list place))
            (.options stamp (.object r) attach) w = .error (.unhashable kind) w' ∧
          ∀ v, w.Shows i subscriptionsField v → w'.Shows i subscriptionsField v
      | none => Installed w' i d r e p pairs ∧ ∃ u, Gains w' i d u ∧
          (engage (Host.ofDepth (k + 1)) (.object i) (.object r) (.ref (.list place))
              (.options stamp (.object r) attach) w = .ok .nothing u ∨
            ∃ f, engage (Host.ofDepth (k + 1)) (.object i) (.object r) (.ref (.list place))
                (.options stamp (.object r) attach) w = .error f u ∧
              ¬ (2 ≤ k + 1 ∧ ∃ settings, w.around.Gives settings) ∧
              (2 ≤ k + 1 → ∃ report, f = .invalid report)) := by
  obtain ⟨text, told⟩ := nameText_eq (h := Host.ofDepth (k + 1)) internals.usual internals.named
  obtain ⟨root, w₂, warned, rests, engaged, table, outcome⟩ :=
    engage_eq internals.usual internals.holds
    internals.settable told serves apart former list arePairs plain callable
  have kept : Keeps (.books d p) w w₂ := Keeps.trans (.withRoot root) rests.toKeeps
  refine ⟨w₂, kept, engaged, table, ?_⟩
  rw [engage, bind_of_ok warned]
  cases refusal : refused pairs with
  | some kind =>
    rw [refusal] at outcome
    exact ⟨bind_of_error outcome.1, outcome.2⟩
  | none =>
    rw [refusal] at outcome
    obtain ⟨done, installed⟩ := outcome
    have internals₂ : DefaultInternals w₂ i d reg l := internals.of_books kept
    have reports : Reports w₂ i d := consultable.reports kept engaged.runner
    have goes := finish_goes internals₂ reports (.refl internals₂.holds) stamp (.object r)
      attach (k + 1)
    refine ⟨installed, ?_⟩
    rw [bind_of_ok done]
    cases ended :
      finish (Host.ofDepth (k + 1)) (.object i) (.options stamp (.object r) attach) w₂ with
    | ok a u => exact ⟨u, (goes.of_ok ended).1, .inl (bind_of_ok ended)⟩
    | error f u =>
      obtain ⟨gains, bad⟩ := goes.of_error ended
      rw [rests.around] at bad
      exact ⟨u, gains, .inr ⟨f, bind_of_error ended, bad, fun deep =>
        invalid_of_finish internals₂ reports deep ended⟩⟩

end Task

end EventTasks
