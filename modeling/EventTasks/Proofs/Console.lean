import EventTasks.Proofs.Consulting

/-!
The shared console. Once it is made it stays the same sink, attached once, and it is the only
console that is attached. A console is dressed when it has a layout and its level is that of the
root; it comes to be so when it is opened while the settings are valid, and stays so whatever is set
later. Opened while they are not, it is left bare.
-/
namespace EventTasks

namespace Log.Root

structure Unopened (r : Root) : Prop where
  console : r.console = none
  outlets : ∀ i, .console i ∉ r.outlets

structure Opened (i : Nat) (c : Console) (r : Root) : Prop where
  console : r.console = some i
  sink : r.consoles[i]? = some c
  once : r.outlets.count (.console i) = 1
  alone : ∀ j, .console j ∈ r.outlets → j = i

/-- The console has a layout, and its level is that of the root. -/
def Dressed (i : Nat) (level : Level) (r : Root) : Prop :=
  r.level = level ∧ ∃ painted, r.Opened i ⟨level, some painted⟩

def Bare (i : Nat) (level : Level) (r : Root) : Prop := r.level = level ∧ r.Opened i {}

variable {r r' : Root} {i : Nat} {c : Console} {level : Level}

theorem Unopened.alike (start : r.Unopened) (alike : r.Alike r') : r'.Unopened :=
  ⟨alike.console.trans start.console, alike.outlets ▸ start.outlets⟩

theorem Unopened.console_isNone (start : r.Unopened) : r.console.isNone = true := by
  rw [start.console]
  rfl

theorem Unopened.openConsole (start : r.Unopened) : r.openConsole.Opened r.consoles.size {} := by
  have fresh : Outlet.console r.consoles.size ∉ r.outlets := start.outlets _
  have attached : r.openConsole.outlets = r.outlets ++ [.console r.consoles.size] := by
    simp only [Root.openConsole, attach, if_neg fresh]
  refine ⟨?_, ?_, ?_, fun j found => ?_⟩
  · simp only [Root.openConsole, attach, if_neg fresh]
  · simp only [Root.openConsole, attach, if_neg fresh, Array.getElem?_push_size]
  · rw [attached, List.count_append, List.count_eq_zero_of_not_mem fresh, List.count_singleton_self]
  · rw [attached, List.mem_append, List.mem_singleton] at found
    rcases found with old | new
    · exact absurd old (start.outlets j)
    · exact Outlet.console.inj new

theorem level_openConsole (r : Root) : r.openConsole.level = r.level := by
  unfold Root.openConsole attach
  split <;> rfl

namespace Opened

theorem alike (opened : r.Opened i c) (alike : r.Alike r') : r'.Opened i c :=
  ⟨alike.console.trans opened.console, alike.consoles ▸ opened.sink, alike.outlets ▸ opened.once,
    alike.outlets ▸ opened.alone⟩

theorem modifyConsole (opened : r.Opened i c) (f : Console → Console) :
    (r.modifyConsole f).Opened i (f c) := by
  have changed : r.modifyConsole f = { r with consoles := r.consoles.modify i f } := by
    unfold Root.modifyConsole
    rw [opened.console]
  rw [changed]
  exact ⟨opened.console, by simp [Array.getElem?_modify, opened.sink], opened.once, opened.alone⟩

theorem setLevel (opened : r.Opened i c) (level : Level) :
    (r.setLevel level).Opened i { c with level } := by
  obtain ⟨console, sink, once, alone⟩ := opened.modifyConsole ({ · with level })
  exact ⟨console, sink, once, alone⟩

theorem addFile (opened : r.Opened i c) (f : File) : (r.addFile f).Opened i c := by
  unfold Root.addFile attach
  split
  · exact ⟨opened.console, opened.sink, opened.once, opened.alone⟩
  · refine ⟨opened.console, opened.sink, ?_, fun j found => opened.alone j ?_⟩
    · rw [List.count_append, opened.once]
      simp
    · simpa using found

/-- Whatever the console looked like, it gets a layout and both levels are set. -/
theorem dress (opened : r.Opened i c) (asked : Bool) (level : Level) :
    ((r.dress asked).setLevel level).Dressed i level :=
  ⟨rfl, asked && r.onTerminal, (opened.modifyConsole fun c =>
    { c with painted := some (asked && r.onTerminal) }).setLevel level⟩

theorem console_isNone (opened : r.Opened i c) : r.console.isNone = false := by
  rw [opened.console]
  rfl

end Opened

theorem level_addFile (r : Root) (f : File) : (r.addFile f).level = r.level := by
  unfold addFile attach
  split <;> rfl

namespace Dressed

theorem opened (dressed : r.Dressed i level) : ∃ c, r.Opened i c :=
  let ⟨_, opened⟩ := dressed.2
  ⟨_, opened⟩

theorem alike (dressed : r.Dressed i level) (alike : r.Alike r') : r'.Dressed i level :=
  ⟨alike.level.trans dressed.1, dressed.2.imp fun _ opened => opened.alike alike⟩

theorem setLevel (dressed : r.Dressed i level) (level' : Level) :
    (r.setLevel level').Dressed i level' :=
  ⟨rfl, dressed.2.imp fun _ opened => opened.setLevel level'⟩

theorem addFile (dressed : r.Dressed i level) (f : File) : (r.addFile f).Dressed i level :=
  ⟨(level_addFile r f).trans dressed.1, dressed.2.imp fun _ opened => opened.addFile f⟩

end Dressed

end Log.Root

namespace Surroundings

variable {s s' : Surroundings} {settings : Settings} {i : Nat} {f : Fault}

theorem initialise_of_some (there : s.root.console.isNone = false) : initialise s = .ok () s := by
  have asked : (get : Surrounded Surroundings) s = .ok s s := rfl
  simp only [initialise, bind, EStateM.bind, asked, there]
  rfl

def clad (s : Surroundings) (settings : Settings) : Surroundings :=
  { s with root := (s.root.dress settings.useColors).setLevel (.number settings.level) }

theorem dress_run (settings : Settings) (s : Surroundings) :
    dress settings s = .ok () (s.clad settings) := rfl

def opening (s : Surroundings) : Surroundings := { s with root := s.root.openConsole }

theorem initialise_of_none (closed : s.root.console.isNone = true) :
    initialise s = (do dress (← sharedSettings).2 : Surrounded Unit) s.opening := by
  have asked : (get : Surrounded Surroundings) s = .ok s s := rfl
  simp only [initialise, bind, EStateM.bind, asked, closed]
  rfl

/-- With valid settings `_initialize_logging` opens the console and dresses it in them. -/
theorem initialise_gives (start : s.root.Unopened) (gives : s.Gives settings) :
    ∃ number s', initialise s = .ok () s' ∧ s'.shared = some (number, settings) ∧
      s'.root.Dressed s.root.consoles.size (.number settings.level) := by
  obtain ⟨number, s', run, kept, alike⟩ := sharedSettings_gives (s := s.opening) gives
  refine ⟨number, s'.clad settings, ?_, kept,
    (start.openConsole.alike alike).dress settings.useColors (.number settings.level)⟩
  rw [initialise_of_none start.console_isNone]
  simp only [bind, EStateM.bind, run, dress_run]

/-- With invalid settings it leaves the console open and bare. -/
theorem initialise_refused (start : s.root.Unopened) (run : sharedSettings s = .error f s') :
    ∃ s'', initialise s = .error f s'' ∧
      s''.root.Bare s.root.consoles.size s.root.level := by
  obtain ⟨shared, -, ⟨problems, refuses, rfl⟩, -⟩ := sharedSettings_refuses run
  have again := sharedSettings_of_refused (s := s.opening) shared refuses
  have alike : s.root.openConsole.Alike s.opening.warned.root := alike_warn _ _
  refine ⟨s.opening.warned, ?_, alike.level.trans (Log.Root.level_openConsole s.root),
    start.openConsole.alike alike⟩
  rw [initialise_of_none start.console_isNone]
  simp only [bind, EStateM.bind, again]

theorem applySettings_some (settings : Settings) :
    applySettings (some settings) = (do initialise; dress settings : Surrounded Unit) := by
  simp only [applySettings, pure_bind]

/-- Applying given settings dresses the console in them, whatever it looked like. -/
theorem applySettings_of_opened {c : Log.Console} (opened : s.root.Opened i c)
    (settings : Settings) :
    ∃ s', applySettings (some settings) s = .ok () s' ∧
      s'.root.Dressed i (.number settings.level) := by
  refine ⟨s.clad settings, ?_, opened.dress settings.useColors (.number settings.level)⟩
  simp only [applySettings_some, bind, EStateM.bind, initialise_of_some opened.console_isNone,
    dress_run]

theorem applySettings_none (s : Surroundings) :
    applySettings none s = (do applySettings (some (← sharedSettings).2) : Surrounded Unit) s := by
  simp only [applySettings, pure_bind]

end Surroundings

end EventTasks
