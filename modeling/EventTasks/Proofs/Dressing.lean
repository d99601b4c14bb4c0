import EventTasks.Proofs.Console
import EventTasks.Proofs.Levels
import EventTasks.Script.Session

/-!
Runs of calls that need logging, from before the console was opened. The first call opens the
console and dresses it; from then on, whatever is called and whatever fails, the console stays the
same sink, attached once and with a layout, and its level and that of the root are both the level
accepted last. Calls may be given any values; all that is asked of these is that a level is judged
the same when it is looked at again, and that looking at them leaves the loggers alone.
-/
namespace EventTasks.Logging

open Act Log

/-- A call of `get_logger`, `set_level`, `get_handler`, `apply_config` or `add_file_handler`. -/
inductive Call where
  | logger (name level : Value)
  | level (v : Value)
  | handler
  | settings (given : Option Settings)
  | file (id : String) (level colors : Value)

def Harmless (P : World → Prop) (m : Act α) : Prop :=
  ∀ w, P w → (m.after w).around = w.around ∧ P (m.after w)

structure Settled (P : World → Prop) (m : Act α) : Prop where
  harmless : Harmless P m
  same : ∀ w w', P w → P w' → m.value? w = m.value? w'

namespace Call

def run (h : Host) : Call → Act Unit
  | .logger name wanted => (fun _ => ()) <$> Script.findLogger h name wanted
  | .level v => Script.setLevel h v
  | .handler => around Surroundings.initialise
  | .settings given => around (Surroundings.applySettings given)
  | .file id wanted colors => (fun _ => ()) <$> Script.addFile h id wanted colors

def asked? : Call → Option Value
  | .logger _ wanted => if wanted.isNothing then none else some wanted
  | .level v => some v
  | .handler | .settings _ | .file _ _ _ => none

/-- The level that a call in some world brings into force: one that it asks for and that is
accepted, or the one of the settings that it applies. -/
def accepted? (h : Host) (c : Call) (w : World) : Option Level :=
  match c with
  | .settings (some given) => some (.number given.level)
  | .settings none =>
    ((around Surroundings.sharedSettings).value? w).map fun found => .number found.2.level
  | c => c.asked?.bind fun v => (Script.levelOf h v).value? w

/-- The values of a call can be looked at in worlds like this one without changing the surroundings,
and its level is judged the same each time. -/
def Fair (h : Host) (c : Call) (w : World) : Prop :=
  ∃ P : World → Prop, P w ∧ (∀ w s, P w → P { w with around := s }) ∧
    (∀ v, c.asked? = some v → Settled P (Script.levelOf h v)) ∧
    match c with
    | .logger name _ => Harmless P (Script.loggerNamed h name)
    | .file _ wanted colors =>
      Harmless P (Script.levelOf h wanted) ∧ Harmless P (Script.paintedOf h colors)
    | _ => True

end Call

structure Turn where
  call : Call
  world : World

namespace Turn

def accepted? (h : Host) (t : Turn) : Option Level := t.call.accepted? h t.world

def IsRefused (h : Host) (t : Turn) : Prop :=
  ∃ v, t.call.asked? = some v ∧ (Script.levelOf h v).value? t.world = none

end Turn

/-- Calls one after the other, whether they succeed or fail. In between anything may happen that
leaves levels and handlers of the root logger alone. -/
inductive Run (h : Host) (start : World) : List Turn → World → Prop
  | start : Run h start [] start
  | call {turns w} {c : Call} : Run h start turns w → c.Fair h w →
      Run h start (turns ++ [⟨c, w⟩]) ((c.run h).after w)
  | aside {turns w w'} : Run h start turns w → w.around.root.Alike w'.around.root →
      Run h start turns w'

variable {h : Host} {w w' : World} {P : World → Prop} {i : Nat} {c : Call} {level : Level}
  {settings : Settings} {v : Value} {turns : List Turn}

/-! Simple values -/

theorem settled_simple (simple : v.IsSimple) : Settled (fun _ => True) (Script.levelOf h v) := by
  obtain ⟨verdict, judged⟩ := Script.levelOf_simple simple
  have here (w : World) : (Script.levelOf h v).after w = w := by
    rw [after, judged]
    exact after_liftExcept verdict w
  refine ⟨fun w _ => ⟨by rw [here], trivial⟩, fun w w' _ _ => ?_⟩
  rw [value?, value?, judged, judged]
  cases verdict <;> rfl

theorem harmless_loggerNamed (simple : v.IsSimple) :
    Harmless (fun _ => True) (Script.loggerNamed h v) := by
  intro w _
  obtain ⟨b, truth⟩ := Host.truth_simple (h := h) (w := w) simple
  have checked := Host.checkClass_simple (h := h) (w := w) simple
  refine ⟨?_, trivial⟩
  cases b with
  | false => rw [Script.loggerNamed, after_bind_of_ok truth]; rfl
  | true =>
    rw [Script.loggerNamed, after_bind_of_ok truth, if_pos rfl, after_bind_of_ok checked,
      after_bind_of_ok checked]
    cases v.text? <;> rfl

theorem harmless_paintedOf (simple : v.IsSimple) :
    Harmless (fun _ => True) (Script.paintedOf h v) := by
  intro w _
  obtain ⟨b, truth⟩ := Host.truth_simple (h := h) (w := w) simple
  refine ⟨?_, trivial⟩
  rw [Script.paintedOf, after_bind_of_ok truth]
  cases b <;> rfl

theorem fair_simple (h : Host) (c : Call) (w : World) (simple : match c with
    | .logger name wanted => name.IsSimple ∧ wanted.IsSimple
    | .level v => v.IsSimple
    | .file _ wanted colors => wanted.IsSimple ∧ colors.IsSimple
    | _ => True) : c.Fair h w := by
  refine ⟨fun _ => True, trivial, fun _ _ => id, fun v asked => settled_simple ?_, ?_⟩
  · cases c with
    | logger name wanted =>
      simp only [Call.asked?] at asked
      split at asked
      · cases asked
      · exact Option.some.inj asked ▸ simple.2
    | level wanted => exact Option.some.inj asked ▸ simple
    | _ => cases asked
  · cases c with
    | logger name wanted => exact harmless_loggerNamed simple.1
    | file id wanted colors =>
      exact ⟨(settled_simple simple.1).harmless, harmless_paintedOf simple.2⟩
    | _ => trivial

/-! One call -/

section opened

variable (closed : ∀ w s, P w → P { w with around := s }) (here : P w)
  {console : Console} (opened : w.around.root.Opened i console)

theorem initialise_opened (opened : w.around.root.Opened i console) :
    around Surroundings.initialise w = .ok () w := by
  rw [around, Surroundings.initialise_of_some opened.console_isNone]

include closed here opened

theorem setLevel_accepts (settled : Settled P (Script.levelOf h v))
    (accepts : (Script.levelOf h v).value? w = some level) :
    ∃ u, Script.setLevel h v w = .ok () u ∧ u.around.root = w.around.root.setLevel level ∧ P u := by
  have judged := value?_eq_some.1 accepts
  obtain ⟨same, there⟩ := settled.harmless w here
  let u : World := { (Script.levelOf h v).after w with
    around := { w.around with root := w.around.root.setConsoleLevel level } }
  have noted : around (Surroundings.modifyRoot (·.setConsoleLevel level))
      ((Script.levelOf h v).after w) = .ok () u := by
    rw [around, same]
    rfl
  have there' : P u := closed _ _ there
  have again := value?_eq_some.1 ((settled.same u w there' here).trans accepts)
  obtain ⟨same', last⟩ := settled.harmless u there'
  refine ⟨_, ?_, ?_, closed _ { u.around with root := { u.around.root with level } } last⟩
  · rw [Script.setLevel, bind_of_ok (initialise_opened opened), bind_of_ok judged, bind_of_ok noted,
      bind_of_ok again, around, same']
    rfl
  · rfl

omit closed in
theorem setLevel_refuses (settled : Settled P (Script.levelOf h v))
    (refuses : (Script.levelOf h v).value? w = none) :
    ∃ f u, Script.setLevel h v w = .error f u ∧ u.around = w.around ∧ P u := by
  obtain ⟨f, judged⟩ := value?_eq_none.1 refuses
  obtain ⟨same, there⟩ := settled.harmless w here
  exact ⟨f, _, (bind_of_ok (initialise_opened opened)).trans (bind_of_error judged), same, there⟩

end opened

def StaysDressed (P : World → Prop) (i : Nat) (level : Level) (u v : World) : Prop :=
  P u → u.around.root.Dressed i level → P v ∧ v.around.root.Dressed i level

theorem Harmless.staysDressed {m : Act α} (harmless : Harmless P m) (u : World) :
    StaysDressed P i level u (m.after u) := fun here dressed => by
  obtain ⟨same, there⟩ := harmless u here
  exact ⟨there, same ▸ dressed⟩

theorem StaysDressed.trans {u v x : World} (first : StaysDressed P i level u v)
    (second : StaysDressed P i level v x) : StaysDressed P i level u x := fun here dressed =>
  let ⟨there, dressed⟩ := first here dressed
  second there dressed

theorem addFile_dressed (closed : ∀ w s, P w → P { w with around := s }) {id : String}
    {wanted colors : Value} (judging : Harmless P (Script.levelOf h wanted))
    (painting : Harmless P (Script.paintedOf h colors)) (w : World) :
    StaysDressed P i level w ((Script.addFile h id wanted colors).after w) := fun here dressed => by
  obtain ⟨console, opened⟩ := dressed.opened
  have adding (file : File) (u : World) : StaysDressed P i level u
      ((do around (Surroundings.addFile file); pure file : Act File).after u) :=
    fun there dressed => ⟨closed _ _ there, dressed.addFile file⟩
  rw [Script.addFile, after_bind_of_ok (initialise_opened opened)]
  refine after_bind (R := StaysDressed P i level) .trans (painting.staysDressed w)
    (fun painted u _ => ?_) here dressed
  split
  · exact adding _ u
  · exact after_bind (R := StaysDressed P i level) .trans (judging.staysDressed u)
      fun level x _ => adding _ x

/-- Setting a level leaves the console dressed: in that level if it is accepted, and else as it
was. -/
theorem setLevel_dressed (closed : ∀ w s, P w → P { w with around := s }) (here : P w)
    (dressed : w.around.root.Dressed i level) (settled : Settled P (Script.levelOf h v)) :
    P ((Script.setLevel h v).after w) ∧ ((Script.setLevel h v).after w).around.root.Dressed i
      (((Script.levelOf h v).value? w).getD level) := by
  obtain ⟨console, opened⟩ := dressed.opened
  cases accepts : (Script.levelOf h v).value? w with
  | none =>
    obtain ⟨f, u, refused, same, there⟩ := setLevel_refuses here opened settled accepts
    rw [after_of_error refused, same]
    exact ⟨there, dressed⟩
  | some level' =>
    obtain ⟨u, run, set, there⟩ := setLevel_accepts closed here opened settled accepts
    rw [after_of_ok run, set]
    exact ⟨there, dressed.setLevel level'⟩

theorem after_around (m : Surrounded α) (w : World) : ((around m).after w).around =
    match m w.around with
    | .ok _ s | .error _ s => s := by
  rw [after, around]
  cases m w.around <;> rfl

/-- Applying settings leaves the console dressed: in these if there are any, and else as it was. -/
theorem applySettings_dressed (given : Option Settings) (dressed : w.around.root.Dressed i level) :
    ((around (Surroundings.applySettings given)).after w).around.root.Dressed i
      (((Call.settings given).accepted? h w).getD level) := by
  obtain ⟨console, opened⟩ := dressed.opened
  rw [after_around]
  cases given with
  | some settings =>
    obtain ⟨s, run, dressed⟩ := Surroundings.applySettings_of_opened opened settings
    rw [run]
    exact dressed
  | none =>
    simp only [Call.accepted?, value?, around, Surroundings.applySettings_none, bind, EStateM.bind]
    cases read : Surroundings.sharedSettings w.around with
    | error f s => exact dressed.alike (Surroundings.sharedSettings_refuses read).2.2.2
    | ok found s =>
      obtain ⟨number, s', run', -, alike⟩ :=
        Surroundings.sharedSettings_gives (Surroundings.gives_of_sharedSettings read)
      obtain ⟨-, rfl⟩ := EStateM.Result.ok.inj (read.symm.trans run')
      obtain ⟨s', run, dressed⟩ := Surroundings.applySettings_of_opened (opened.alike alike) found.2
      simp only [run]
      exact dressed

/-- Whatever comes of a call, a dressed console stays so: in the level that the call sets, if it is
accepted, or else in the level that it had. -/
theorem Call.Fair.dressed (fair : c.Fair h w) (dressed : w.around.root.Dressed i level) :
    ((c.run h).after w).around.root.Dressed i ((c.accepted? h w).getD level) := by
  obtain ⟨P, here, closed, judged, looking⟩ := fair
  obtain ⟨console, opened⟩ := dressed.opened
  cases c with
  | logger name wanted =>
    rw [Call.run, after_map, Script.findLogger, after_bind_of_ok (initialise_opened opened)]
    cases unset : wanted.isNothing with
    | true =>
      have nothing : (logger name wanted).accepted? h w = none := by simp [accepted?, asked?, unset]
      rw [nothing]
      exact (looking.staysDressed w here dressed).2
    | false =>
      have asked : (logger name wanted).asked? = some wanted := by simp [asked?, unset]
      have accepted : (logger name wanted).accepted? h w = (Script.levelOf h wanted).value? w := by
        simp [accepted?, asked?, unset]
      have set := setLevel_dressed closed here dressed (judged wanted asked)
      rw [accepted]
      refine (after_bind (R := fun _ u => P u ∧ u.around.root.Dressed i
        (((Script.levelOf h wanted).value? w).getD level)) (fun _ => id) set fun _ u run => ?_).2
      rw [after_of_ok run] at set
      exact looking.staysDressed u set.1 set.2
  | level v => exact (setLevel_dressed closed here dressed (judged v rfl)).2
  | handler =>
    rw [Call.run, after_of_ok (initialise_opened opened)]
    exact dressed
  | settings given => exact applySettings_dressed given dressed
  | file id wanted colors =>
    rw [Call.run, after_map]
    exact (addFile_dressed closed looking.1 looking.2 w here dressed).2

theorem Call.Fair.refused (fair : c.Fair h w) (opened : w.around.root.Opened i console)
    (refused : Turn.IsRefused h ⟨c, w⟩) : ∃ f u, c.run h w = .error f u := by
  obtain ⟨P, here, -, judged, -⟩ := fair
  obtain ⟨v, asked, refuses⟩ := refused
  obtain ⟨f, u, failed, -⟩ := setLevel_refuses here opened (judged v asked) refuses
  cases c with
  | logger name wanted =>
    cases unset : wanted.isNothing with
    | true => simp [asked?, unset] at asked
    | false =>
      obtain rfl : wanted = v := by simpa [asked?, unset] using asked
      refine ⟨f, u, ?_⟩
      rw [Call.run, map_run, Script.findLogger, bind_of_ok (initialise_opened opened)]
      simp [unset, bind_of_error failed]
  | level wanted =>
    cases asked
    exact ⟨f, u, failed⟩
  | _ => cases asked

/-! The first call -/

theorem Call.initialises (h : Host) (other : c ≠ .settings none) :
    ∃ rest : Act Unit, c.run h = around Surroundings.initialise >>= fun _ => rest := by
  cases c with
  | logger name wanted => exact ⟨_, map_bind ..⟩
  | level v => exact ⟨_, rfl⟩
  | handler => exact ⟨pure (), (bind_pure_unit).symm⟩
  | settings given =>
    cases given with
    | none => exact absurd rfl other
    | some settings =>
      refine ⟨around (Surroundings.dress settings), funext fun w => ?_⟩
      rw [bind_run, Call.run]
      simp only [around, Surroundings.applySettings, bind, EStateM.bind, pure, EStateM.pure]
      cases Surroundings.initialise w.around <;> rfl
  | file id wanted colors => exact ⟨_, map_bind ..⟩

/-- With valid settings nothing changes if the console has been opened and dressed before. -/
theorem Call.run_of_initialise {s : Surroundings} (other : c ≠ .settings none)
    (run : Surroundings.initialise w.around = .ok () s)
    (again : Surroundings.initialise s = .ok () s) :
    c.run h w = c.run h { w with around := s } := by
  have first : around Surroundings.initialise w = .ok () { w with around := s } := by
    rw [around, run]
  have second : around Surroundings.initialise { w with around := s } =
      .ok () { w with around := s } := by rw [around, again]
  obtain ⟨rest, runs⟩ := Call.initialises h other
  rw [runs, bind_of_ok first, bind_of_ok second]

theorem Call.Fair.around (fair : c.Fair h w) (s : Surroundings) :
    c.Fair h { w with around := s } := by
  obtain ⟨P, here, closed, rest⟩ := fair
  exact ⟨P, closed w s here, closed, rest⟩

theorem Call.Fair.judged (fair : c.Fair h w) (s : Surroundings) (asked : c.asked? = some v) :
    (Script.levelOf h v).value? { w with around := s } = (Script.levelOf h v).value? w := by
  obtain ⟨P, here, closed, judged, -⟩ := fair
  exact (judged v asked).same _ _ (closed w s here) here

theorem Call.Fair.accepted?_around (fair : c.Fair h w) (other : c ≠ .settings none)
    (s : Surroundings) : c.accepted? h { w with around := s } = c.accepted? h w := by
  have judged (v : Value) (asked : c.asked? = some v) := fair.judged s asked
  cases c with
  | settings given =>
    cases given with
    | none => exact absurd rfl other
    | some settings => rfl
  | _ => exact Option.bind_congr judged

/-- The first call opens the console and dresses it, in the level that the call sets or else in that
of the settings. It fails if its level is refused. -/
theorem Call.Fair.first (fair : c.Fair h w) (start : w.around.root.Unopened)
    (gives : w.around.Gives settings) :
    ((c.run h).after w).around.root.Dressed w.around.root.consoles.size
        ((c.accepted? h w).getD (.number settings.level)) ∧
      (Turn.IsRefused h ⟨c, w⟩ → ∃ f u, c.run h w = .error f u) := by
  by_cases shared : c = .settings none
  · subst shared
    obtain ⟨number, s, read, kept, alike⟩ := Surroundings.sharedSettings_gives gives
    obtain ⟨-, s', run, -, dressed⟩ := Surroundings.initialise_gives (start.alike alike)
      (show s.Gives settings by simp only [Surroundings.Gives, kept])
    have size : s.root.consoles.size = w.around.root.consoles.size := by rw [alike.consoles]
    obtain ⟨console, opened⟩ := dressed.opened
    have accepted : (Call.settings none).accepted? h w = some (.number settings.level) := by
      simp [accepted?, value?, EventTasks.around, read]
    have never : ¬ Turn.IsRefused h ⟨.settings none, w⟩ := by
      rintro ⟨v, asked, -⟩
      cases asked
    refine ⟨?_, fun refused => absurd refused never⟩
    rw [accepted, Call.run, after_around, Surroundings.applySettings_none]
    simp only [bind, EStateM.bind, read, Surroundings.applySettings, pure, EStateM.pure, run,
      Surroundings.dress_run]
    exact size ▸ opened.dress settings.useColors (.number settings.level)
  · obtain ⟨-, s, run, -, dressed⟩ := Surroundings.initialise_gives start gives
    obtain ⟨console, opened⟩ := dressed.opened
    have moved := Call.run_of_initialise (h := h) shared run
      (Surroundings.initialise_of_some opened.console_isNone)
    rw [after, moved, ← after, ← fair.accepted?_around shared s]
    refine ⟨(fair.around s).dressed dressed, fun refused => ?_⟩
    obtain ⟨v, asked, refuses⟩ := refused
    exact (fair.around s).refused opened ⟨v, asked, (fair.judged s asked).trans refuses⟩

theorem Turn.IsRefused.accepted? {t : Turn} (refused : t.IsRefused h) : t.accepted? h = none := by
  obtain ⟨c, w⟩ := t
  obtain ⟨v, asked, refuses⟩ := refused
  cases c with
  | handler | settings | file => cases asked
  | _ => exact (congrArg (·.bind fun v => (Script.levelOf h v).value? w) asked).trans refuses

/-! All calls -/

/-- The level accepted last, or that of the settings in which the console was opened. -/
def inForce (h : Host) (settings : Settings) (turns : List Turn) : Level :=
  (turns.filterMap (Turn.accepted? h)).getLastD (.number settings.level)

theorem inForce_append (turns : List Turn) (t : Turn) :
    inForce h settings (turns ++ [t]) = (t.accepted? h).getD (inForce h settings turns) := by
  rw [inForce, inForce, List.filterMap_append]
  cases accepts : t.accepted? h <;> simp [accepts, List.getLastD_eq_getLast?]

theorem Run.unopened (run : Run h w turns w') (none : turns = []) (start : w.around.root.Unopened) :
    w'.around.root.Unopened ∧ w'.around.root.consoles = w.around.root.consoles := by
  induction run with
  | start => exact ⟨start, rfl⟩
  | call => simp at none
  | aside _ alike ih => exact ⟨(ih none).1.alike alike, alike.consoles.trans (ih none).2⟩

/-- After any calls of the logging functions, the first of which finds valid settings, there is one
console, the same since the first call and attached once. It has a layout, and its level and that of
the root are the level accepted last. A call with a level that is refused fails, and sets none. -/
theorem Run.dressed_inForce (run : Run h w turns w') (start : w.around.root.Unopened)
    (valid : ∀ t ∈ turns.head?, t.world.around.Gives settings) (called : turns ≠ []) :
    w'.around.root.Dressed w.around.root.consoles.size (inForce h settings turns) ∧
      ∀ t ∈ turns, t.IsRefused h → t.accepted? h = none ∧ ∃ f u,
          t.call.run h t.world = .error f u := by
  induction run with
  | start => exact absurd rfl called
  | aside _ alike ih =>
    obtain ⟨dressed, fails⟩ := ih valid called
    exact ⟨dressed.alike alike, fails⟩
  | @call turns u c before fair ih =>
    rw [inForce_append]
    cases turns with
    | nil =>
      obtain ⟨unopened, consoles⟩ := before.unopened rfl start
      obtain ⟨dressed, fails⟩ := fair.first unopened (valid ⟨c, u⟩ rfl)
      rw [consoles] at dressed
      refine ⟨dressed, fun t found refused => ?_⟩
      obtain rfl := List.mem_singleton.1 found
      exact ⟨refused.accepted?, fails refused⟩
    | cons t turns =>
      obtain ⟨dressed, fails⟩ := ih valid (List.cons_ne_nil t turns)
      refine ⟨fair.dressed dressed, fun t found refused => ?_⟩
      rcases List.mem_append.1 found with before | last
      · exact fails t before refused
      · obtain rfl := List.mem_singleton.1 last
        obtain ⟨console, opened⟩ := dressed.opened
        exact ⟨refused.accepted?, fair.refused opened refused⟩

theorem accepted?_logger (h : Host) (name : Value) (s : String) (w : World) :
    Turn.accepted? h ⟨.logger name (.word s), w⟩ = Level.ofName? s :=
  Script.levelOf_text h 0 s w

def before : World := { World.start with around := {} }

/-- The first call has an unknown level and fails, but opens the console. The second one finds no
logger, but its level is accepted. -/
theorem Run.dressed_inForce_debug : ∃ turns w, Run (Host.ofDepth 1) before turns w ∧
    turns.map Turn.call = [.level (.word "LOUD"), .logger (.number 3) (.word "DEBUG")] ∧
    w.around.root.Dressed 0 (.number 10) ∧
    ∃ f u, Script.setLevel (Host.ofDepth 1) (.word "LOUD") before = .error f u := by
  have first : Run (Host.ofDepth 1) before _ _ :=
    .call .start (fair_simple _ (.level (.word "LOUD")) before trivial)
  have run := first.call (fair_simple _ (.logger (.number 3) (.word "DEBUG")) _ ⟨trivial, trivial⟩)
  have valid : before.around.Gives {} :=
    show Settings.resolve (Surroundings.sources {} []) = .ok {} from rfl
  obtain ⟨dressed, fails⟩ := run.dressed_inForce ⟨rfl, fun i => List.not_mem_nil⟩ (fun t found => by
    obtain rfl := Option.some.inj found
    exact valid) (by simp)
  have refused : (Script.levelOf (Host.ofDepth 1) (.word "LOUD")).value? before = none :=
    Script.levelOf_text _ 0 "LOUD" before
  have debug : Level.ofName? "DEBUG" = some (.number 10) := by decide
  rw [inForce_append, accepted?_logger, debug, Option.getD_some] at dressed
  exact ⟨_, _, run, rfl, dressed, (fails _ List.mem_cons_self ⟨_, rfl, refused⟩).2⟩

end EventTasks.Logging
