import EventTasks.Mapping
import EventTasks.Settings.Flag

/-!
Install options: the runner, which may be anything, and whether to attach the logger, which is a
truth value or left open. They are read from what can be read as a mapping, or from nothing; other
entries do not count.
-/
namespace EventTasks

namespace Host

def inputOf (w : World) (v : Value) : Settings.Input :=
  ⟨v, (w.classInfo (w.classOf v)).qualifiedName⟩

def flagOf (h : Host) (v : Value) : Act Value := do
  if v.objectPlace?.isNone then pure v
  else
    let byFraction : Act Value := do
      match ← attempt (h.fraction? v) with
      | .ok (some x) => pure (.float 0 x)
      | _ => pure v
    match ← attempt (h.index? v) with
    | .ok (some i) => if -Int.pow 2 63 ≤ i ∧ i < Int.pow 2 63 then pure (.number i) else byFraction
    | _ => byFraction

def reported (h : Host) (i : Settings.Input) : Act String := do
  match ← attempt (h.describe i.value) with
  | .ok s => pure s
  | .error _ => pure ("<unprintable " ++ i.kind ++ " object>")

/-- The `ValidationError` of these problems. -/
def invalid (h : Host) (subject : String) (problems : List Settings.Problem) : Act Fault := do
  let described ← problems.mapM fun p => do pure (p, ← h.reported p.input)
  pure (.invalid (Settings.report subject described))

end Host

namespace Options

def subject : String := "InstallOptions"

def runnerField : String := "runner"

def flagField : String := "attach_logger"

/-- `InstallOptions(runner=…, attach_logger=…)`. -/
def build (h : Host) (runner flag : Value) : Act Value := do
  match Settings.readOptionalFlag (← h.flagOf flag) with
  | .ok attach => newOptions runner attach
  | .error c => throw (← h.invalid subject [⟨flagField, c, Host.inputOf (← get) flag⟩])

/-- `InstallOptions.parse`. -/
def parse (h : Host) (v : Value) : Act Value := do
  match v with
  | .nothing => newOptions .nothing none
  | .options _ _ _ => pure v
  | v =>
    let found ← h.mappingOf v
    let entry (name : String) : Value := (found.text? name).getD .nothing
    build h (entry runnerField) (entry flagField)

end Options

end EventTasks
