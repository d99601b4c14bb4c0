import EventTasks.Proofs.Telling
import EventTasks.Proofs.Textual
import EventTasks.Script.Configuring

/-!
Which values are accepted as levels. A simple value is judged by itself, and judging it changes
nothing: numbers and truth values are levels, a text is the level of its name if it has one, and no
other simple value is a level.
-/
namespace EventTasks

open Act

theorem Host.checkClass_simple {h : Host} {w : World} {v : Value} (simple : v.IsSimple) :
    h.checkClass v w = .ok () w := by
  simp [checkClass, simple.objectPlace?]

namespace Script

variable {h : Host} {w : World} {v : Value} {k : Key} {s shown : String}

theorem textual_levelNames : levelNames.Textual := Dictionary.textual_ofTexts _

theorem text?_levelNames (s : String) :
    levelNames.text? s = (Log.Level.settable.lookup s).map .number := by
  have empty (s : String) : ({} : Dictionary).text? s = none := rfl
  simp only [levelNames, Dictionary.ofTexts, Log.Level.settable, List.map_cons, List.map_nil,
    List.foldl_cons, List.foldl_nil, Dictionary.text?_setText, empty, lookup_entry, List.lookup_nil]
  split_ifs <;> simp_all

def judgement (k : Key) (s shown : String) : Except Fault Log.Level :=
  if k = [.text s] then
    match Log.Level.ofName? s with
    | some level => .ok level
    | none => .error (.unknownLevel shown)
  else .error (.levelNotNumber shown)

theorem levelOf_of_text (simple : v.IsSimple) (notNumber : v.int? = none) (key : v.key = .ok k)
    (text : h.textOf v w = .ok s w) (described : h.describe v w = .ok shown w) :
    levelOf h v w = liftExcept (judgement k s shown) w := by
  have equal : h.equalsSimply (.word s) v w = .ok (decide ([.text s] = k)) w :=
    Host.equalsSimply_plain (Value.IsSimple.plain (v := .word s) trivial w) (simple.plain w) rfl key
  have found := Dictionary.findIn_eq (h := h) textual_levelNames (simple.plain w) key
  rw [levelOf, bind_of_ok (Host.checkClass_simple simple), bind_of_ok text,
    bind_of_ok equal, judgement]
  · by_cases same : k = [.text s]
    · subst same
      have under : levelNames.find? [.text s] = _ := text?_levelNames s
      rw [under] at found
      cases named : Log.Level.settable.lookup s <;>
        simp [named, Log.Level.ofName?, bind_run, found, described, liftExcept, Value.int?,
          Value.number]
    · simp [Ne.symm same, same, bind_of_ok described, liftExcept]
  · rintro place i rfl
    simp [Value.int?] at notNumber
  · rintro b rfl
    simp [Value.int?] at notNumber

theorem levelOf_simple (simple : v.IsSimple) :
    ∃ verdict, ∀ (h : Host) w, levelOf h v w = liftExcept verdict w := by
  cases number : v.int? with
  | some n =>
    cases v with
    | int place i => exact ⟨.ok (.number i), fun h w => rfl⟩
    | flag b => exact ⟨.ok (.flag b), fun h w => rfl⟩
    | _ => simp [Value.int?] at number
  | none =>
    obtain ⟨k, key⟩ := simple.exists_key
    obtain ⟨s, text⟩ := Host.textOf_simple simple
    obtain ⟨shown, described⟩ := Host.describe_simple simple
    exact ⟨judgement k s shown, fun h w =>
      levelOf_of_text simple number key (text h w) (described h w)⟩

/-- A text is accepted as the level of that name, if there is one. -/
theorem levelOf_text (h : Host) (place : Nat) (s : String) (w : World) :
    (levelOf h (.text place s)).value? w = Log.Level.ofName? s := by
  have simple : (Value.text place s).IsSimple := trivial
  obtain ⟨shown, described⟩ := Host.describe_simple simple
  have judged := levelOf_of_text (h := h) (w := w) simple rfl rfl rfl (described h w)
  rw [value?, judged, judgement, if_pos rfl]
  cases Log.Level.ofName? s <;> rfl

end Script

end EventTasks
