import EventTasks.Proofs.Stripping
import EventTasks.Proofs.Dressing

/-!
Two runs of which one may be on a terminal and the other not. The loggers of both have the same
sinks in the same order and the same levels; how their sinks look may differ, and what was noted.
Whatever needs logging and whatever is delivered does the same in both runs: it fails in both with
the same fault, or succeeds in both, and leaves such loggers again. What it does besides logging is
the same altogether.
-/
namespace EventTasks

open Act Log

inductive Agree {ε σ τ α β : Type} (R : σ → τ → Prop) (V : α → β → Prop) :
    EStateM.Result ε σ α → EStateM.Result ε τ β → Prop where
  | ok {a : α} {b : β} {s : σ} {t : τ} : V a b → R s t → Agree R V (.ok a s) (.ok b t)
  | error {f : ε} {s : σ} {t : τ} : R s t → Agree R V (.error f s) (.error f t)

namespace Agree

variable {ε σ τ α β γ δ ι : Type} {R : σ → τ → Prop} {V : α → β → Prop} {V' : γ → δ → Prop}
  {s : σ} {t : τ}

theorem bind_run {m : EStateM ε σ α} {m' : EStateM ε τ β} {k : α → EStateM ε σ γ}
    {k' : β → EStateM ε τ δ}
    (first : Agree R V (m s) (m' t))
    (next : ∀ a b s' t', m s = .ok a s' → V a b → R s' t' → Agree R V' (k a s') (k' b t')) :
    Agree R V' ((m >>= k) s) ((m' >>= k') t) := by
  simp only [Bind.bind, EStateM.bind]
  generalize run : m s = x at first next
  generalize m' t = y at first
  cases first with
  | ok related states => exact next _ _ _ _ rfl related states
  | error states => exact .error states

theorem bind {m : EStateM ε σ α} {m' : EStateM ε τ β} {k : α → EStateM ε σ γ}
    {k' : β → EStateM ε τ δ}
    (first : Agree R V (m s) (m' t))
    (next : ∀ a b s t, V a b → R s t → Agree R V' (k a s) (k' b t)) :
    Agree R V' ((m >>= k) s) ((m' >>= k') t) :=
  first.bind_run fun a b s' t' _ => next a b s' t'

theorem pure {a : α} {b : β} (related : V a b) (states : R s t) :
    Agree R V ((Pure.pure a : EStateM ε σ α) s) ((Pure.pure b : EStateM ε τ β) t) :=
  .ok related states

theorem map {m : EStateM ε σ α} {m' : EStateM ε τ β} {f : α → γ} {g : β → δ}
    (agree : Agree R V (m s) (m' t)) (image : ∀ a b, V a b → V' (f a) (g b)) :
    Agree R V' ((f <$> m) s) ((g <$> m') t) := by
  rw [map_eq_pure_bind, map_eq_pure_bind]
  exact agree.bind fun a b s t related states => Agree.pure (image a b related) states

/-- Two loops through one list agree if their bodies do. -/
theorem foldlM {m : α → ι → EStateM ε σ α} {k : β → ι → EStateM ε τ β} (items : List ι)
    (body : ∀ i ∈ items, ∀ a b s t, V a b → R s t → Agree R V (m a i s) (k b i t)) {a : α} {b : β}
    (related : V a b) (states : R s t) : Agree R V (items.foldlM m a s) (items.foldlM k b t) := by
  induction items generalizing a b s t with
  | nil => exact .pure related states
  | cons i items ih =>
    rw [List.foldlM_cons, List.foldlM_cons]
    exact (body i List.mem_cons_self a b s t related states).bind fun a b s t related states =>
      ih (fun j inside => body j (List.mem_cons_of_mem i inside)) related states

end Agree

/-- Two places of which only an image is known to be the same are both empty or both filled. -/
theorem none_or_some_of_map {α β : Type} {f : α → β} {a b : Option α} (same : b.map f = a.map f) :
    a = none ∧ b = none ∨ ∃ c d, a = some c ∧ b = some d ∧ f d = f c := by
  cases a <;> cases b <;> simp_all

/-! Loggers -/

def Host.Counts (h : Host) (v : Value) (b : Bool) : Prop := ∀ w, h.truth v w = .ok b w

theorem counts_flag (b : Bool) {h : Host} : h.Counts (.flag b) b := fun _ => rfl

structure Fixture where
  files : Array File
  terminal : Option Bool

def Log.File.mark (f : File) : String × Level := (f.name, f.level)

structure Fixture.Beside (h : Host) (x y : Fixture) : Prop where
  files : y.files.map File.mark = x.files.map File.mark
  decided : ∀ f ∈ x.files, ∃ b, h.Counts f.painted b
  decided' : ∀ f ∈ y.files, ∃ b, h.Counts f.painted b

namespace Fixture.Beside

variable {h : Host} {x y : Fixture} {f f' : File} {b b' : Bool}

theorem mark (beside : x.Beside h y) (i : Nat) :
    (y.files[i]?).map File.mark = (x.files[i]?).map File.mark := by
  rw [← Array.getElem?_map, ← Array.getElem?_map, beside.files]

theorem size (beside : x.Beside h y) : y.files.size = x.files.size := by
  simpa using congrArg Array.size beside.files

theorem push (beside : x.Beside h y) (same : f'.mark = f.mark) (counts : h.Counts f.painted b)
    (counts' : h.Counts f'.painted b') :
    Fixture.Beside h { x with files := x.files.push f } { y with files := y.files.push f' } where
  files := by rw [Array.map_push, Array.map_push, beside.files, same]
  decided g inside := (Array.mem_push.1 inside).elim (beside.decided g) fun new => ⟨b, new ▸ counts⟩
  decided' g inside :=
    (Array.mem_push.1 inside).elim (beside.decided' g) fun new => ⟨b', new ▸ counts'⟩

theorem of_files {x' y' : Fixture} (beside : x.Beside h y) (left : x'.files = x.files)
    (right : y'.files = y.files) : x'.Beside h y' :=
  ⟨by rw [left, right, beside.files], left ▸ beside.decided, right ▸ beside.decided'⟩

theorem diagonal' (beside : x.Beside h y) : y.Beside h y := ⟨rfl, beside.decided', beside.decided'⟩

end Fixture.Beside

def Log.Console.shape (c : Console) : Level × Bool := (c.level, c.painted.isSome)

namespace Log.Root

def fixture (r : Root) : Fixture := ⟨r.files, r.terminal⟩

structure Parallel (x y : Fixture) (attached : List Outlet) (r r' : Root) : Prop where
  left : r.fixture = x
  right : r'.fixture = y
  attached : ∀ o ∈ attached, o ∈ r.outlets
  level : r'.level = r.level
  console : r'.console = r.console
  outlets : r'.outlets = r.outlets
  size : r'.consoles.size = r.consoles.size
  shape : ∀ i : Nat, (r'.consoles[i]?).map Console.shape = (r.consoles[i]?).map Console.shape

namespace Parallel

variable {x y : Fixture} {attached : List Outlet} {r r' : Root}

theorem diagonal (parallel : Parallel x y attached r r') : Parallel x x attached r r :=
  ⟨parallel.left, parallel.left, parallel.attached, rfl, rfl, rfl, rfl, fun _ => rfl⟩

theorem diagonal' (parallel : Parallel x y attached r r') : Parallel y y attached r' r' :=
  ⟨parallel.right, parallel.right, fun o inside => parallel.outlets ▸ parallel.attached o inside,
    rfl, rfl,
    rfl, rfl, fun _ => rfl⟩

theorem isEnabled (parallel : Parallel x y attached r r') (importance : Importance) :
    r'.isEnabled importance = r.isEnabled importance := by
  simp only [Root.isEnabled, parallel.level]

theorem noted (parallel : Parallel x y attached r r') (heard heard' : List Heard) :
    Parallel x y attached { r with heard } { r' with heard := heard' } :=
  ⟨parallel.left, parallel.right, parallel.attached, parallel.level, parallel.console,
    parallel.outlets,
    parallel.size, parallel.shape⟩

theorem attach (parallel : Parallel x y attached r r') (o : Outlet) :
    Parallel x y attached (r.attach o) (r'.attach o) := by
  unfold Root.attach
  rw [parallel.outlets]
  split
  · exact parallel
  · obtain ⟨left, right, attached, level, console, outlets, size, shape⟩ := parallel
    exact ⟨left, right, fun o inside => List.mem_append_left _ (attached o inside), level,
      console, rfl, size,
      shape⟩

theorem openConsole (parallel : Parallel x y attached r r') :
    Parallel x y attached r.openConsole r'.openConsole := by
  obtain ⟨left, right, among, level, console, outlets, size, shape⟩ := parallel
  unfold Root.openConsole
  rw [size]
  have made : Parallel x y attached
      { r with consoles := r.consoles.push {}, console := some r.consoles.size }
      { r' with consoles := r'.consoles.push {}, console := some r.consoles.size } := by
    refine ⟨left, right, among, level, rfl, outlets, by simp [size], fun i => ?_⟩
    simp only [Array.getElem?_push, size]
    split
    · rfl
    · exact shape i
  exact made.attach _

/-- The consoles may be changed on both sides, as long as they keep a common shape. -/
theorem modifyConsole (parallel : Parallel x y attached r r') {f g : Console → Console}
    (same : ∀ c c' : Console, c'.shape = c.shape → (g c').shape = (f c).shape) :
    Parallel x y attached (r.modifyConsole f) (r'.modifyConsole g) := by
  obtain ⟨left, right, attached, level, console, outlets, size, shape⟩ := parallel
  unfold Root.modifyConsole
  rw [console]
  cases shared : r.console with
  | none => exact ⟨left, right, attached, level, console, outlets, size, shape⟩
  | some j =>
    refine ⟨left, right, attached, level, rfl, outlets, by simp [size], fun i => ?_⟩
    have here := shape i
    simp only [Array.getElem?_modify]
    split
    · cases found : r.consoles[i]? <;> cases found' : r'.consoles[i]? <;>
        simp_all only [Option.map_none, Option.map_some, Option.some.injEq, reduceCtorEq]
      exact same _ _ here
    · exact here

theorem dress (parallel : Parallel x y attached r r') (asked : Bool) :
    Parallel x y attached (r.dress asked) (r'.dress asked) :=
  parallel.modifyConsole fun c c' same => by
    simp only [Console.shape, Prod.mk.injEq] at same ⊢
    exact ⟨same.1, rfl⟩

theorem setConsoleLevel (parallel : Parallel x y attached r r') (level : Level) :
    Parallel x y attached (r.setConsoleLevel level) (r'.setConsoleLevel level) :=
  parallel.modifyConsole fun c c' same => by
    simp only [Console.shape, Prod.mk.injEq] at same ⊢
    exact ⟨trivial, same.2⟩

theorem withLevel (parallel : Parallel x y attached r r') (level : Level) :
    Parallel x y attached { r with level } { r' with level } :=
  ⟨parallel.left, parallel.right, parallel.attached, rfl, parallel.console, parallel.outlets,
    parallel.size,
    parallel.shape⟩

theorem setLevel (parallel : Parallel x y attached r r') (level : Level) :
    Parallel x y attached (r.setLevel level) (r'.setLevel level) :=
  (parallel.setConsoleLevel level).withLevel level

theorem withTerminal (parallel : Parallel x y attached r r') (terminal : Option Bool) :
    Parallel { x with terminal } { y with terminal } attached { r with terminal }
      { r' with terminal } := by
  obtain ⟨rfl, rfl, attached, level, console, outlets, size, shape⟩ := parallel
  exact ⟨rfl, rfl, attached, level, console, outlets, size, shape⟩

theorem addFile {among : List Outlet} (parallel : Parallel x y among r r')
    (same : y.files.size = x.files.size) (f f' : File) :
    Parallel { x with files := x.files.push f } { y with files := y.files.push f' }
      (.file x.files.size :: among) (r.addFile f) (r'.addFile f') := by
  obtain ⟨rfl, rfl, attached, level, console, outlets, size, shape⟩ := parallel
  have same : r'.files.size = r.files.size := same
  unfold Root.addFile
  rw [same]
  have bare : Parallel ⟨r.files.push f, r.terminal⟩ ⟨r'.files.push f', r'.terminal⟩ among
      { r with files := r.files.push f } { r' with files := r'.files.push f' } :=
    ⟨rfl, rfl, attached, level, console, outlets, size, shape⟩
  have added := bare.attach (.file r.files.size)
  refine { added with attached := fun o inside => ?_ }
  rcases List.mem_cons.1 inside with rfl | further
  · show _ ∈ (Root.attach _ _).outlets
    unfold Root.attach
    split
    · assumption
    · exact List.mem_append_right _ List.mem_cons_self
  · exact added.attached o further

end Parallel

end Log.Root

/-! Surroundings -/

namespace Surroundings

structure Parallel (x y : Fixture) (attached : List Outlet) (s t : Surroundings) : Prop where
  environment : t.environment = s.environment
  file : t.file = s.file
  shared : t.shared = s.shared
  readings : t.readings = s.readings
  root : Root.Parallel x y attached s.root t.root

namespace Parallel

variable {x y : Fixture} {attached : List Outlet} {s t : Surroundings}

theorem modifyRoot (parallel : Parallel x y attached s t) {f g : Root → Root}
    (kept : Root.Parallel x y attached s.root t.root →
      Root.Parallel x y attached (f s.root) (g t.root)) :
    Agree (Parallel x y attached) (· = ·) (Surroundings.modifyRoot f s)
        (Surroundings.modifyRoot g t) :=
  .ok rfl ⟨parallel.environment, parallel.file, parallel.shared, parallel.readings,
    kept parallel.root⟩

theorem exists_warn (lines : List Nat) (r : Root) : ∃ heard, warn lines r = { r with heard } := by
  induction lines generalizing r with
  | nil => exact ⟨r.heard, rfl⟩
  | cons n lines ih =>
    obtain ⟨heard, said⟩ : ∃ heard, r.say .warning fileLogger (complaint n) = { r with heard } := by
      unfold Root.say
      split
      · exact ⟨_, rfl⟩
      · exact ⟨r.heard, rfl⟩
    obtain ⟨heard', rest⟩ := ih { r with heard }
    refine ⟨heard', ?_⟩
    rw [show warn (n :: lines) r = warn lines (r.say .warning fileLogger (complaint n)) from rfl,
      said, rest]

theorem warned (parallel : Parallel x y attached s t) :
    Parallel x y attached s.warned t.warned := by
  obtain ⟨heard, said⟩ := exists_warn s.unreadable s.root
  obtain ⟨heard', said'⟩ := exists_warn t.unreadable t.root
  refine ⟨parallel.environment, parallel.file, parallel.shared, parallel.readings, ?_⟩
  show Root.Parallel x y attached (warn _ _) (warn _ _)
  rw [said, said']
  exact parallel.root.noted heard heard'

theorem sharedSettings (parallel : Parallel x y attached s t) :
    Agree (Parallel x y attached) (· = ·) (Surroundings.sharedSettings s)
      (Surroundings.sharedSettings t) := by
  have sources : t.sources [] = s.sources [] := by
    simp only [Surroundings.sources, parallel.environment, parallel.file]
  cases shared : s.shared with
  | some kept =>
    rw [sharedSettings_of_kept shared, sharedSettings_of_kept (parallel.shared.trans shared)]
    exact .ok rfl parallel
  | none =>
    have shared' := parallel.shared.trans shared
    have warned := parallel.warned
    cases read : Settings.resolve (s.sources []) with
    | ok settings =>
      rw [sharedSettings_of_resolve shared read, sharedSettings_of_resolve shared' (sources ▸ read)]
      refine .ok (by rw [parallel.readings]) ?_
      exact ⟨warned.environment, warned.file, by simp only [keep, parallel.readings],
        by simp only [keep, parallel.readings], warned.root⟩
    | error problems =>
      rw [sharedSettings_of_refused shared read, sharedSettings_of_refused shared' (sources ▸ read)]
      exact .error warned

theorem dress (parallel : Parallel x y attached s t) (settings : Settings) :
    Agree (Parallel x y attached) (· = ·) (Surroundings.dress settings s)
      (Surroundings.dress settings t) :=
  parallel.modifyRoot fun root => (root.dress settings.useColors).setLevel _

theorem initialise (parallel : Parallel x y attached s t) :
    Agree (Parallel x y attached) (· = ·) (Surroundings.initialise s)
        (Surroundings.initialise t) := by
  have same : t.root.console.isNone = s.root.console.isNone := by rw [parallel.root.console]
  cases there : s.root.console.isNone with
  | false =>
    rw [initialise_of_some there, initialise_of_some (same.trans there)]
    exact .ok rfl parallel
  | true =>
    rw [initialise_of_none there, initialise_of_none (same.trans there)]
    have opened : Parallel x y attached s.opening t.opening :=
      ⟨parallel.environment, parallel.file, parallel.shared, parallel.readings,
        parallel.root.openConsole⟩
    refine opened.sharedSettings.bind fun found found' s t same parallel => ?_
    obtain rfl := same
    exact parallel.dress found.2

theorem applySettings (parallel : Parallel x y attached s t) (given : Option Settings) :
    Agree (Parallel x y attached) (· = ·) (Surroundings.applySettings given s)
      (Surroundings.applySettings given t) := by
  have known {s t : Surroundings} (parallel : Parallel x y attached s t) (settings : Settings) :
      Agree (Parallel x y attached) (· = ·) (Surroundings.applySettings (some settings) s)
        (Surroundings.applySettings (some settings) t) := by
    rw [applySettings_some]
    exact parallel.initialise.bind fun _ _ _ _ _ parallel => parallel.dress settings
  cases given with
  | some settings => exact known parallel settings
  | none =>
    rw [applySettings_none, applySettings_none]
    refine parallel.sharedSettings.bind fun found found' s t same parallel => ?_
    obtain rfl := same
    exact known parallel found.2

end Parallel

end Surroundings

/-! Worlds -/

structure World.Parallel (x y : Fixture) (attached : List Outlet) (w v : World) : Prop where
  rest : v = { w with around := v.around }
  around : Surroundings.Parallel x y attached w.around v.around

namespace World.Parallel

variable {x y : Fixture} {attached : List Outlet} {w v : World}

theorem diagonal (parallel : w.Parallel x y attached v) : w.Parallel x x attached w :=
  ⟨rfl, rfl, rfl, rfl, rfl, parallel.around.root.diagonal⟩

theorem diagonal' (parallel : w.Parallel x y attached v) : v.Parallel y y attached v :=
  ⟨rfl, rfl, rfl, rfl, rfl, parallel.around.root.diagonal'⟩

end World.Parallel

namespace Act

def within (s : Surroundings) : EStateM.Result Fault World α → EStateM.Result Fault World α
  | .ok a u => .ok a { u with around := s }
  | .error f u => .error f { u with around := s }

/-- A computation neither looks at the surroundings nor changes them. -/
def Apart (m : Act α) : Prop := ∀ w s, m { w with around := s } = within s (m w)

variable {m : Act α} {w u v : World} {a : α} {f : Fault} {x y : Fixture} {attached : List Outlet}

theorem Apart.around_after (apart : Apart m) (w : World) : (m.after w).around = w.around := by
  have same : m w = within w.around (m w) := apart w w.around
  rw [after, same]
  cases m w <;> rfl

theorem Apart.agree (apart : Apart m) (parallel : w.Parallel x y attached v) :
    Agree (World.Parallel x y attached) (· = ·) (m w) (m v) := by
  obtain ⟨rest, around⟩ := parallel
  have same := apart.around_after w
  rw [rest, apart w v.around]
  cases run : m w with
  | ok a u =>
    rw [after_of_ok run] at same
    exact .ok rfl ⟨rfl, same.symm ▸ around⟩
  | error f u =>
    rw [after_of_error run] at same
    exact .error ⟨rfl, same.symm ▸ around⟩

theorem apart_of_liftExcept {r : Except Fault α} (run : ∀ w, m w = liftExcept r w) : Apart m := by
  intro w s
  rw [run, run]
  cases r <;> rfl

theorem agree_around {V : α → β → Prop} {m : Surrounded α} {m' : Surrounded β}
    (parallel : w.Parallel x y attached v)
    (agree : Agree (Surroundings.Parallel x y attached) V (m w.around) (m' v.around)) :
    Agree (World.Parallel x y attached) V (around m w) (around m' v) := by
  have same (s t : Surroundings) :
      { v with around := t } = { { w with around := s } with around := t } := by
    rw [parallel.rest]
  simp only [around]
  generalize m w.around = first at agree
  generalize m' v.around = second at agree
  cases agree with
  | ok related states => exact .ok related ⟨same _ _, states⟩
  | error states => exact .error ⟨same _ _, states⟩

theorem agree_attempt {m m' : Act α}
    (agree : Agree (World.Parallel x y attached) (· = ·) (m w) (m' v)) :
    Agree (World.Parallel x y attached) (· = ·) (attempt m w) (attempt m' v) := by
  rw [attempt_eq, attempt_eq]
  generalize m w = first at agree
  generalize m' v = second at agree
  cases agree with
  | ok same states => exact .ok (congrArg Except.ok same) states
  | error states => exact .ok rfl states

theorem parallel_after {V : α → β → Prop} {m : Act α} {m' : Act β}
    (agree : Agree (World.Parallel x y attached) V (m w) (m' v)) :
    (m.after w).Parallel x y attached (m'.after v) := by
  rw [after, after]
  generalize m w = first at agree
  generalize m' v = second at agree
  cases agree with
  | ok _ states => exact states
  | error states => exact states

theorem value?_of_agree {m m' : Act α}
    (agree : Agree (World.Parallel x y attached) (· = ·) (m w) (m' v)) :
    m'.value? v = m.value? w := by
  rw [value?, value?]
  generalize m w = first at agree
  generalize m' v = second at agree
  cases agree with
  | ok same _ => exact congrArg some same.symm
  | error _ => rfl

theorem apart_pure (a : α) : Apart (pure a) := fun _ _ => rfl

theorem Apart.bind {k : α → Act β} (first : Apart m) (next : ∀ a, Apart (k a)) :
    Apart (m >>= k) := by
  intro w s
  rw [bind_run, bind_run, first w s]
  cases m w with
  | ok a u => exact next a u s
  | error f u => rfl

def Shallow (m : Act α) : Prop := ∀ w f u, m w = .error f u → f.kind ≠ .recursion

theorem shallow_pure (a : α) : Shallow (pure a) := fun _ _ _ failed => by cases failed

theorem Shallow.bind {m : Act α} {g : α → Act β} (first : Shallow m) (next : ∀ a, Shallow (g a)) :
    Shallow (m >>= g) := by
  intro w f u failed
  rw [bind_run] at failed
  cases run : m w with
  | ok a u' => exact next a u' f u (by simpa [run] using failed)
  | error f' u' =>
    rw [run] at failed
    obtain ⟨rfl, rfl⟩ := EStateM.Result.error.inj failed
    exact first w f' u' run

end Act

/-! Calls -/

namespace Logging

variable {h : Host} {x y : Fixture} {attached : List Outlet} {w v : World} {c : Call}

def Call.LooksApart (h : Host) : Call → Prop
  | .logger name wanted => Apart (Script.loggerNamed h name) ∧ Apart (Script.levelOf h wanted)
  | .level wanted => Apart (Script.levelOf h wanted)
  | .handler | .settings _ => True
  | .file _ _ _ => False

theorem agree_initialise (parallel : w.Parallel x y attached v) :
    Agree (World.Parallel x y attached) (· = ·) (around Surroundings.initialise w)
      (around Surroundings.initialise v) :=
  agree_around parallel parallel.around.initialise

theorem agree_setLevel {wanted : Value} (apart : Apart (Script.levelOf h wanted))
    (parallel : w.Parallel x y attached v) :
    Agree (World.Parallel x y attached) (· = ·) (Script.setLevel h wanted w)
      (Script.setLevel h wanted v) := by
  refine (agree_initialise parallel).bind fun _ _ w v _ parallel => ?_
  refine (apart.agree parallel).bind fun level level' w v same parallel => ?_
  obtain rfl := same
  have set := parallel.around.modifyRoot (f := (·.setConsoleLevel level))
    (g := (·.setConsoleLevel level)) (·.setConsoleLevel level)
  refine (agree_around parallel set).bind fun _ _ w v _ parallel => ?_
  refine (apart.agree parallel).bind fun level level' w v same parallel => ?_
  obtain rfl := same
  exact agree_around parallel (parallel.around.modifyRoot (·.withLevel level))

theorem Call.LooksApart.agree (apart : c.LooksApart h) (parallel : w.Parallel x y attached v) :
    Agree (World.Parallel x y attached) (· = ·) (c.run h w) (c.run h v) := by
  cases c with
  | logger name wanted =>
    have found : Agree (World.Parallel x y attached) (· = ·) (Script.findLogger h name wanted w)
        (Script.findLogger h name wanted v) := by
      refine (agree_initialise parallel).bind fun _ _ w v _ parallel => ?_
      cases wanted.isNothing with
      | true => exact (apart.1.agree parallel)
      | false => exact (agree_setLevel apart.2 parallel).bind fun _ _ w v _ => apart.1.agree
    exact found.map fun _ _ _ => rfl
  | level wanted => exact agree_setLevel apart parallel
  | handler => exact agree_initialise parallel
  | settings given => exact agree_around parallel (parallel.around.applySettings given)
  | file => exact apart.elim

end Logging

/-! Records -/

namespace Record

variable {h : Host} {r : Record} {importance : Importance} {x y : Fixture} {attached : List Outlet}
  {w v u u' : World} {out out' : Output} {level : Level}

structure Legible (h : Host) (r : Record) : Prop where
  columns : Apart (r.columns h)
  text : Apart (r.text h)
  shallow : Shallow (r.columns h)
  shallowText : Shallow (r.text h)

theorem lineText_counted {painted : Value} {b : Bool} (counts : h.Counts painted b) (r : Record) :
    r.lineText h painted = (do pure ((← r.columns h).line b)) := by
  funext w
  rw [lineText_eq, bind_of_ok (counts w)]

/-- Records are legible whose names are spelled and whose time and text are always told. -/
theorem legible_of_spells {logger path function message : String} {number line : Int}
    {moment : Log.Moment}
    (spells : r.Spells logger path function number line)
    (dated : ∀ w, moment? w r.created = .ok moment) (told : ∀ w, r.text h w = .ok message w) :
    r.Legible h := by
  have made (w : World) :
      r.columns h w = .ok (columnsWith logger path function number line moment message) w := by
    rw [columns_spelled spells (dated w), told w]
  refine ⟨fun w s => ?_, fun w s => ?_, fun w f u failed => ?_, fun w f u failed => ?_⟩
  · rw [made, made]
    rfl
  · rw [told, told]
    rfl
  · cases (made w).symm.trans failed
  · cases (told w).symm.trans failed

theorem written_run {line : Act String} (shallow : Shallow line) (w : World) :
    written importance level line w = if importance.reaches level.rank then
      .ok ((line.value? w).elim "" (· ++ "\n")) (line.after w) else .ok "" w := by
  rw [written]
  cases importance.reaches level.rank with
  | false => rfl
  | true =>
    rw [if_neg (by simp), if_pos rfl, bind_run, attempt_eq]
    cases run : line w with
    | ok s u => rw [value?_of_ok run, after_of_ok run]; rfl
    | error f u =>
      rw [value?_of_error run, after_of_error run]
      simp only [if_neg (shallow w f u run)]
      rfl

theorem Legible.shallow_lineText (legible : r.Legible h) {painted : Value} {b : Bool}
    (counts : h.Counts painted b) : Shallow (r.lineText h painted) := by
  rw [lineText_counted counts]
  exact legible.shallow.bind fun c => shallow_pure _

theorem Legible.apart_lineText (legible : r.Legible h) {painted : Value} {b : Bool}
    (counts : h.Counts painted b) : Apart (r.lineText h painted) := by
  rw [lineText_counted counts]
  exact legible.columns.bind fun c => apart_pure _

theorem Legible.apart_bareText (legible : r.Legible h) : Apart (r.bareText h) := by
  refine legible.text.bind fun message => ?_
  split <;> exact apart_pure _

theorem Legible.shallow_bareText (legible : r.Legible h) : Shallow (r.bareText h) := by
  refine legible.shallowText.bind fun message => ?_
  split <;> exact shallow_pure _

theorem apart_importance (r : Record) : Apart r.importance := by
  intro w s
  unfold importance
  generalize r.level = level
  cases level <;> rfl

theorem levelName_told (compared : r.importance w = .ok importance v) :
    ∃ name, ∀ u, levelName h r.level u = .ok name u := by
  unfold Record.importance at compared
  generalize r.level = level at compared ⊢
  cases level with
  | int place n => exact ⟨_, levelName_int h place n⟩
  | flag b => cases b <;> exact ⟨_, fun _ => rfl⟩
  | float place number =>
    obtain ⟨s, text⟩ := Host.textOf_simple (v := .float place number) trivial
    unfold levelName
    cases number.whole?.bind Level.nameOf? with
    | some name => exact ⟨.word name, fun _ => rfl⟩
    | none => exact ⟨.word ("Level " ++ s), fun u => bind_of_ok (text h u)⟩
  | _ => simp [Value.int?, bind_run] at compared

theorem agree_written {line line' : Act String} (shallow : Shallow line) (shallow' : Shallow line')
    (parallel : w.Parallel x y attached v)
    (ends : (line.after w).Parallel x y attached (line'.after v)) :
    Agree (World.Parallel x y attached) (fun _ _ => True) (written importance level line w)
      (written importance level line' v) := by
  rw [written_run shallow, written_run shallow']
  split
  · exact .ok trivial ends
  · exact .ok trivial parallel

theorem Legible.after_lineText (legible : r.Legible h) {painted painted' : Value} {b b' : Bool}
    (counts : h.Counts painted b) (counts' : h.Counts painted' b')
    (parallel : w.Parallel x y attached v) :
    ((r.lineText h painted).after w).Parallel x y attached ((r.lineText h painted').after v) := by
  have same : (r.lineText h painted').after v = (r.lineText h painted).after v := by
    simp only [lineText_counted counts, lineText_counted counts', after, bind_run]
    cases r.columns h v <;> rfl
  rw [same]
  exact parallel_after ((legible.apart_lineText counts).agree parallel)

theorem Legible.agree_hear (legible : r.Legible h) (compared : r.importance u = .ok importance u')
    (parallel : w.Parallel x y attached v) :
    Agree (World.Parallel x y attached) (· = ·) (r.hear h w) (r.hear h v) := by
  obtain ⟨name, told⟩ := levelName_told (h := h) compared
  refine (agree_attempt (legible.text.agree parallel)).bind
    fun message message' w v same parallel => ?_
  obtain rfl := same
  rw [bind_of_ok (told w), bind_of_ok (told v)]
  exact agree_around parallel (parallel.around.modifyRoot (f := (·.hear _)) (g := (·.hear _))
    fun root => root.noted _ _)

theorem Legible.agree_takeTo (legible : r.Legible h) (beside : x.Beside h y)
    (compared : r.importance u = .ok importance u') (o : Outlet) (out out' : Output)
    (parallel : w.Parallel x y attached v) :
    Agree (World.Parallel x y attached) (fun _ _ => True) (r.takeTo h importance out o w)
      (r.takeTo h importance out' o v) := by
  have root := parallel.around.root
  rw [takeTo, takeTo, bind_of_ok (get_run w), bind_of_ok (get_run v)]
  cases o with
  | journal =>
    exact (legible.agree_hear compared parallel).bind fun _ _ w v _ parallel => .pure
      trivial parallel
  | console i =>
    rcases none_or_some_of_map (root.shape i) with ⟨here, there⟩ | ⟨c, c', here, there, same⟩
    · simp only [here, there]
      exact .pure trivial parallel
    · obtain ⟨level, laid⟩ := Prod.mk.inj same
      simp only [here, there, show c'.level = c.level from level]
      refine Agree.bind (V := fun _ _ => True) ?_ fun _ _ w v _ parallel => .pure trivial parallel
      cases layout : c.painted <;> cases layout' : c'.painted <;>
        simp only [layout, layout', Option.isSome_none, Option.isSome_some, reduceCtorEq] at laid ⊢
      · exact agree_written legible.shallow_bareText legible.shallow_bareText parallel
          (parallel_after (legible.apart_bareText.agree parallel))
      · exact agree_written (legible.shallow_lineText (counts_flag _))
          (legible.shallow_lineText (counts_flag _)) parallel
          (legible.after_lineText (counts_flag _) (counts_flag _) parallel)
  | file i =>
    rcases none_or_some_of_map (beside.mark i) with ⟨here, there⟩ | ⟨f, f', here, there, same⟩
    · rw [← root.left] at here
      rw [← root.right] at there
      simp only [show w.around.root.files[i]? = none from here,
        show v.around.root.files[i]? = none from there]
      exact .pure trivial parallel
    · obtain ⟨b, counts⟩ := beside.decided f (Array.mem_of_getElem? here)
      obtain ⟨b', counts'⟩ := beside.decided' f' (Array.mem_of_getElem? there)
      obtain ⟨-, level⟩ := Prod.mk.inj same
      rw [← root.left] at here
      rw [← root.right] at there
      simp only [show w.around.root.files[i]? = some f from here,
        show v.around.root.files[i]? = some f' from there, level]
      exact (agree_written (legible.shallow_lineText counts)
        (legible.shallow_lineText counts') parallel
        (legible.after_lineText counts counts' parallel)).bind
          fun _ _ w v _ parallel => .pure trivial parallel

theorem Legible.agree_foldlM (legible : r.Legible h) (beside : x.Beside h y)
    (compared : r.importance u = .ok importance u') (outlets : List Outlet)
    (parallel : w.Parallel x y attached v) :
    Agree (World.Parallel x y attached) (fun _ _ => True)
      (outlets.foldlM (r.takeTo h importance) out w)
      (outlets.foldlM (r.takeTo h importance) out' v) :=
  Agree.foldlM (V := fun _ _ => True) (m := r.takeTo h importance)
    (k := r.takeTo h importance) outlets
    (fun o _ out out' _ _ _ parallel => legible.agree_takeTo beside compared o out out' parallel)
      trivial
    parallel

/-- Delivering a record does the same in both runs, apart from what the handlers write. -/
theorem Legible.agree_deliver (legible : r.Legible h) (beside : x.Beside h y)
    (parallel : w.Parallel x y attached v) :
    Agree (World.Parallel x y attached) (fun _ _ => True) (r.deliver h w) (r.deliver h v) := by
  refine ((apart_importance r).agree parallel).bind_run
    fun importance importance' w' v' compared same parallel => ?_
  obtain rfl := same
  rw [bind_of_ok (get_run w'), bind_of_ok (get_run v')]
  simp only [parallel.around.root.isEnabled, parallel.around.root.outlets]
  exact (legible.agree_foldlM beside compared _ parallel).bind
    fun _ _ w v _ parallel => .pure trivial parallel

end Record

end EventTasks
