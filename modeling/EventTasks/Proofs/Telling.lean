import EventTasks.Proofs.Consulting
import EventTasks.Proofs.Reading
import EventTasks.Task.Install

/-!
Simple values stand for themselves: nothing written is asked when they are described, written into a
message, or taken as a truth value. With a simple name a task can be told of, and with valid
settings it can be asked how.
-/
namespace EventTasks

open Act

namespace Value

def IsSimple : Value → Prop
  | nothing | flag _ | int _ _ | float _ _ | text _ _ | event _ => True
  | _ => False

variable {v : Value}

theorem IsSimple.objectPlace? (simple : v.IsSimple) : v.objectPlace? = none := by
  cases v with
  | ref r => exact simple.elim
  | _ => rfl

theorem IsSimple.hookOf? (simple : v.IsSimple) (w : World) (n : String) : w.hookOf? v n = none := by
  simp [World.hookOf?, simple.objectPlace?]

theorem IsSimple.plain (simple : v.IsSimple) (w : World) : v.Plain w := by
  cases v with
  | tuple | options | undecided | ref => exact simple.elim
  | _ => simp [Plain, objectsIn]

theorem IsSimple.exists_key (simple : v.IsSimple) : ∃ k, v.key = .ok k := by
  cases v with
  | tuple | options | undecided | ref => exact simple.elim
  | _ => exact ⟨_, rfl⟩

theorem isSimple_ofFlag? (attach : Option Bool) : (ofFlag? attach).IsSimple := by
  cases attach <;> trivial

end Value

namespace Host

variable {h : Host} {w : World} {v : Value}

theorem describe_simple (simple : v.IsSimple) : ∃ s, ∀ (h : Host) w, h.describe v w = .ok s w := by
  cases v with
  | tuple | options | undecided | ref => exact simple.elim
  | _ => exact ⟨_, fun h w => by rw [describe]; rfl⟩

theorem textOf_simple (simple : v.IsSimple) : ∃ s, ∀ (h : Host) w, h.textOf v w = .ok s w := by
  cases v with
  | tuple | options | undecided | ref => exact simple.elim
  | text | event => exact ⟨_, fun _ _ => rfl⟩
  | _ => exact describe_simple simple

theorem formatted_simple (simple : v.IsSimple) :
    ∃ s, ∀ (h : Host) w, h.formatted v w = .ok s w := by
  obtain ⟨s, run⟩ := textOf_simple simple
  refine ⟨s, fun h w => ?_⟩
  rw [formatted, bind_run, ownFormat?, bind_run, ask?_of_none (simple.hookOf? w _)]
  exact run h w

theorem truth_simple (simple : v.IsSimple) : ∃ b, h.truth v w = .ok b w := by
  have sized (s : String) (text : v.text? = some s) (here :
      w.ownSize? v = v.text?.map String.length) :
      h.size? v w = .ok (some s.length) w := by
    rw [size?, bind_run]
    simp only [get_run, here, text, Option.map_some, pure_run]
  cases v with
  | tuple | options | undecided | ref => exact simple.elim
  | text place s | event e =>
    have plain := ask?_of_none (h := h) (simple.hookOf? w "__bool__") []
    have length := sized _ rfl rfl
    simp only [truth, bind_run, plain, length, pure_run]
    exact ⟨_, rfl⟩
  | _ => exact ⟨_, rfl⟩

theorem invalid_simple (simple : v.IsSimple) (subject field : String)
    (complaint : Settings.Complaint) :
    ∃ f, h.invalid subject [⟨field, complaint, inputOf w v⟩] w = .ok f w := by
  obtain ⟨s, run⟩ := describe_simple simple
  have told : attempt (h.describe v) w = .ok (.ok s) w := by
    rw [attempt, tryCatch_run, bind_run, run h w]
    rfl
  have shown : h.reported (inputOf w v) w = .ok s w := by
    rw [reported, bind_run]
    simp only [inputOf, told]
    rfl
  simp only [invalid, List.mapM_cons, List.mapM_nil, bind_run, shown, pure_run]
  exact ⟨_, rfl⟩

end Host

/-! The shared settings -/

namespace Surroundings

variable {s : Surroundings} {settings : Settings}

theorem sharedSettings_eq (gives : s.Gives settings) :
    ∃ number s', sharedSettings s = .ok (number, settings) s' ∧ s'.Gives settings := by
  obtain ⟨number, s', run, kept, -⟩ := sharedSettings_gives gives
  exact ⟨number, s', run, by simp only [Gives, kept]⟩

end Surroundings

theorem Keeps.around {s : Scope} {w : World} (around : Surroundings) :
    Keeps s w { w with around := around } :=
      .of_eq rfl rfl rfl (.refl _) (.refl _ _) rfl rfl rfl rfl

def World.withRoot (w : World) (root : Log.Root) : World :=
  { w with around := { w.around with root } }

theorem Keeps.withRoot {s : Scope} {w : World} (root : Log.Root) : Keeps s w (w.withRoot root) :=
  .around _

/-- Asking for the settings changes the surroundings alone; valid settings are given. -/
theorem sharedSettings_run {w : World} {settings : Settings} (gives : w.around.Gives settings) :
    ∃ number around', around Surroundings.sharedSettings w =
      .ok (number, settings) { w with around := around' } ∧ around'.Gives settings := by
  obtain ⟨number, s, run, gives'⟩ := Surroundings.sharedSettings_eq gives
  exact ⟨number, s, by rw [around, run], gives'⟩

theorem sharedSettings_goes {w : World} :
    Goes (∃ settings, w.around.Gives settings)
      (fun u => ∃ around', w.around.MayRead around' ∧ u = { w with around := around' })
      (around Surroundings.sharedSettings) w fun _ _ => True := by
  have may := w.around.mayRead_consulted
  cases asked : Surroundings.sharedSettings w.around with
  | ok found s =>
    have run : around Surroundings.sharedSettings w = .ok found { w with around := s } := by
      rw [around, asked]
    rw [Surroundings.consulted_of_ok asked] at may
    exact goes_of_ok run ⟨s, may, rfl⟩ trivial
  | error f s =>
    have run : around Surroundings.sharedSettings w = .error f { w with around := s } := by
      rw [around, asked]
    rw [Surroundings.consulted_of_error asked] at may
    refine goes_of_error run ⟨s, may, rfl⟩ fun valid => ?_
    obtain ⟨settings, gives⟩ := valid
    obtain ⟨number, s', run', -⟩ := Surroundings.sharedSettings_eq gives
    simp [asked] at run'

namespace Task

variable {h : Host} {w : World} {i : Nat}

/-- An object whose name is nothing, a truth value, a number, a text or an event. -/
def IsNamed (w : World) (i : Nat) : Prop := ∃ v : Value, v.IsSimple ∧ w.Shows i "name" v

theorem nameText_eq (usual : w.ReadsUsually i) (named : IsNamed w i) :
    ∃ text, nameText h (.object i) w = .ok text w := by
  obtain ⟨v, simple, shows⟩ := named
  obtain ⟨text, run⟩ := Host.formatted_simple simple
  refine ⟨text, ?_⟩
  rw [nameText, bind_run, Host.attr_shows usual shows]
  exact run h w

theorem notInstalled_eq {name : Value} {text : String} (usual : w.ReadsUsually i)
    (shows : w.Shows i "name" name) (told : h.formatted name w = .ok text w) :
    notInstalled h (.object i) w = .ok (.notInstalled name text) w := by
  rw [notInstalled, bind_of_ok (Host.attr_shows usual shows), bind_of_ok told, pure_run]

end Task

end EventTasks
