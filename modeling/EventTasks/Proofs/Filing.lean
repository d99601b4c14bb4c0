import EventTasks.Proofs.Terminals

/-!
What comes to stand in a log file that is added to the root. Which records reach the file, and what
their columns say, has nothing to do with the terminal. But the lines are painted only if colours
were asked for and the error stream was a terminal when the file was added. So if colours were asked
for, the file is another one on a terminal than elsewhere as soon as anything was written to it.
-/
namespace EventTasks

open Act Log

/-! Painted and plain lines -/

namespace Log

open Text (isHalf)

theorem code_whole (c : Color) : c.code.toList.any isHalf = false := by
  cases c <;> decide

theorem any_isHalf_ink (painted : Bool) (c : Color) (s : String) :
    (ink painted c s).toList.any isHalf = s.toList.any isHalf := by
  cases painted with
  | false => rfl
  | true => simp [ink, Color.paint, code_whole, List.any_append]

namespace Columns

theorem any_isHalf_line (c : Columns) (painted : Bool) :
    (c.line painted).toList.any isHalf = (c.line false).toList.any isHalf := by
  simp only [toList_line, List.any_append, any_isHalf_ink]

theorem length_line_lt (c : Columns) : (c.line false).length < (c.line true).length := by
  have longer (color : Color) (s : String) : s.length < (ink true color s).length := by
    simp [ink, Color.paint, Color.code]
    omega
  have time := longer .lightBlack c.time
  have level := longer c.style.1 c.level
  have logger := longer c.style.2 c.logger
  have message := longer c.style.2 c.message
  have origin := longer .lightBlack c.origin
  have plain := congrArg List.length (c.toList_line false)
  have painted := congrArg List.length (c.toList_line true)
  simp only [List.length_append, String.length_toList, ink, Bool.false_eq_true, if_false] at plain
  simp only [List.length_append, String.length_toList] at painted
  omega

end Columns

end Log

namespace Text

theorem unencodable?_isSome (s : String) :
    (unencodable? (fun _ => false) s).isSome = s.toList.any isHalf := by
  simp only [unencodable?, Option.isSome_map, Bool.not_false, Bool.and_true]
  rw [Bool.eq_iff_iff, List.find?_isSome, List.any_eq_true]
  constructor
  · rintro ⟨⟨c, i⟩, inside, half⟩
    exact ⟨c, List.fst_mem_of_mem_zipIdx inside, half⟩
  · rintro ⟨c, inside, half⟩
    obtain ⟨i, there, same⟩ := List.getElem_of_mem inside
    exact ⟨(c, i), by simp [List.mem_zipIdx_iff_getElem?, ← same, there], half⟩

end Text

namespace Logging

def fileLine (painted : Bool) (c : Columns) : String := Record.storable (c.line painted ++ "\n")

/-- Lines with the same columns take more room if they are painted, unless nothing can be stored. -/
theorem fileLines_painted (cs : List Columns) :
    String.join (cs.map (fileLine true)) = "" ∧ String.join (cs.map (fileLine false)) = "" ∨
      0 < (String.join (cs.map (fileLine false))).length ∧
        (String.join (cs.map (fileLine false))).length <
        (String.join (cs.map (fileLine true))).length := by
  induction cs with
  | nil => exact .inl ⟨rfl, rfl⟩
  | cons c cs ih =>
    simp only [List.map_cons, String.join_cons, String.length_append]
    have whole (painted : Bool) :
        (Text.unencodable? (fun _ => false) (c.line painted ++ "\n")).isSome =
        (c.line false).toList.any Text.isHalf := by
      rw [Text.unencodable?_isSome, String.toList_append, List.any_append, c.any_isHalf_line]
      simp [show Text.isHalf '\n' = false from by decide]
    cases broken : (c.line false).toList.any Text.isHalf with
    | true =>
      have nothing (painted : Bool) : fileLine painted c = "" := by
        simp [fileLine, Record.storable, whole, broken]
      rcases ih with ⟨painted, plain⟩ | less
      · exact .inl (by simp [nothing, painted, plain])
      · exact .inr (by simpa [nothing] using less)
    | false =>
      have line (painted : Bool) : fileLine painted c = c.line painted ++ "\n" := by
        simp [fileLine, Record.storable, whole, broken]
      have longer := c.length_line_lt
      have newline : "\n".length = 1 := by decide
      refine .inr ?_
      rw [line, line, String.length_append, String.length_append]
      rcases ih with ⟨painted, plain⟩ | ⟨some, less⟩
      · rw [painted, plain]
        omega
      · omega

/-- Two files with the same lines are the same if both are painted, or neither is, or if they are
empty. -/
theorem fileLines_eq_iff (cs : List Columns) (b t t' : Bool) :
    String.join (cs.map (fileLine (b && t))) = String.join (cs.map (fileLine (b && t'))) ↔
      b = false ∨ t = t' ∨ String.join (cs.map (fileLine (b && t))) = "" := by
  rcases fileLines_painted cs with ⟨painted, plain⟩ | ⟨some, less⟩
  · cases b <;> cases t <;> cases t' <;> simp [painted, plain]
  · have differ : String.join (cs.map (fileLine true)) ≠ String.join (cs.map (fileLine false)) := by
      intro same
      rw [same] at less
      omega
    have filled : String.join (cs.map (fileLine false)) ≠ "" := fun empty => by
      rw [empty] at some
      cases some
    have filled' : String.join (cs.map (fileLine true)) ≠ "" := fun empty => by
      rw [empty] at less
      cases less
    cases b <;> cases t <;> cases t' <;> simp [differ, differ.symm, filled, filled']

end Logging

/-! One record -/

namespace Log.Root

theorem lookup_filterMap {α : Type} (names : List String) (g : String → Option (α × Nat))
    (name : String) : (names.filterMap fun n => (g n).map fun p => (n, p.2)).lookup name =
      if name ∈ names then (g name).map Prod.snd else none := by
  induction names with
  | nil => rfl
  | cons n names ih =>
    cases found : g n with
    | none =>
      rw [List.filterMap_cons_none (by simp [found]), ih]
      by_cases same : name = n <;> simp [same, found]
    | some p =>
      rw [List.filterMap_cons_some (by rw [found]; rfl), List.lookup_cons, ih]
      by_cases same : name = n
      · subst same
        simp [found]
      · have other : (name == n) = false := by simpa using same
        simp [other, same]

theorem lookup_fileNames {r : Root} {files : Array File} {f : File}
    (added : r.files = files.push f) :
    r.fileNames.lookup f.name = some files.size := by
  rw [fileNames, lookup_filterMap, added, if_pos]
  · simp [List.zipIdx_append, List.filter_append]
  · rw [List.mem_eraseDups]
    simp

end Log.Root

namespace Record

variable {h : Host} {r : Record} {importance : Importance} {x y : Fixture} {attached : List Outlet}
  {w v u u' : World} {out : Output} {p : Nat} {f : File} {b : Bool} {name : String}

def turn (h : Host) (r : Record) (importance : Importance) (o : Outlet) (w : World) : World :=
  ((w.around.root.outlets.takeWhile (· ≠ o)).foldlM (r.takeTo h importance) {}).after w

/-- The columns of the line that a record leaves in the file at some place, if it leaves one. -/
def columnsIn? (h : Host) (p : Nat) (r : Record) (w : World) : Option Columns :=
  match r.importance.value? w, w.around.root.files[p]? with
  | some importance, some f =>
    if w.around.root.isEnabled importance && importance.reaches f.level.rank then
      (r.columns h).value? (r.turn h importance (.file p) w)
    else none
  | _, _ => none

def leaves (h : Host) (name : String) (r : Record) (w : World) : String :=
  (((r.deliver h).value? w).bind fun d => d.files.lookup name).getD ""

theorem written_ok {level : Level} {line : Act String} (shallow : Shallow line) (w : World) :
    ∃ text w', written importance level line w = .ok text w' := by
  rw [written_run shallow]
  split <;> exact ⟨_, _, rfl⟩

theorem Legible.stores (legible : r.Legible h) {painted : Value} (counts : h.Counts painted b)
    {level : Level} {text : String}
    (wrote : written importance level (r.lineText h painted) w = .ok text v) :
    storable text = if importance.reaches level.rank then
      ((r.columns h).value? w).elim "" (Logging.fileLine b) else "" := by
  have nothing : storable "" = "" := rfl
  rw [written_run (legible.shallow_lineText counts)] at wrote
  cases reaches : importance.reaches level.rank with
  | false =>
    rw [reaches, if_neg Bool.false_ne_true] at wrote
    obtain ⟨rfl, -⟩ := EStateM.Result.ok.inj wrote
    exact nothing
  | true =>
    rw [reaches, if_pos rfl] at wrote
    obtain ⟨rfl, -⟩ := EStateM.Result.ok.inj wrote
    have line : (r.lineText h painted).value? w =
        ((r.columns h).value? w).map (Columns.line b) := by
      rw [lineText_counted counts, value?, value?, bind_run]
      cases r.columns h w <;> rfl
    rw [if_pos rfl, line]
    cases (r.columns h).value? w with
    | none => exact nothing
    | some c => simp only [Option.map_some, Option.elim_some, Logging.fileLine]

theorem Legible.takeTo_elsewhere (legible : r.Legible h)
    (compared : r.importance u = .ok importance u')
    {o : Outlet} (other : ∀ i, o = .file i → w.around.root.files[i]? = none) (out : Output) :
    ∃ out' w', r.takeTo h importance out o w = .ok out' w' ∧ out'.files = out.files := by
  rw [takeTo, bind_of_ok (get_run w)]
  cases o with
  | journal =>
    obtain ⟨name, told⟩ := levelName_told (h := h) compared
    obtain ⟨message, v, tried⟩ := attempt_run (r.text h) w
    obtain ⟨w', heard⟩ : ∃ w', r.hear h w = .ok () w' := by
      rw [hear, bind_of_ok tried, bind_of_ok (told v)]
      exact ⟨_, rfl⟩
    exact ⟨out, w', bind_of_ok heard, rfl⟩
  | console i =>
    cases here : w.around.root.consoles[i]? with
    | none =>
      simp only [here]
      exact ⟨out, w, rfl, rfl⟩
    | some c =>
      simp only [here]
      cases c.painted with
      | none =>
        obtain ⟨text, w', wrote⟩ : ∃ text w', written importance c.level (r.bareText h) w =
            .ok text w' :=
          written_ok legible.shallow_bareText w
        exact ⟨_, w', bind_of_ok wrote, rfl⟩
      | some painted =>
        obtain ⟨text, w', wrote⟩ : ∃ text w',
            written importance c.level (r.lineText h (.flag painted)) w = .ok text w' :=
          written_ok (legible.shallow_lineText (counts_flag painted)) w
        exact ⟨_, w', bind_of_ok wrote, rfl⟩
  | file i =>
    simp only [other i rfl]
    exact ⟨out, w, rfl, rfl⟩

theorem Legible.takeTo_file (legible : r.Legible h) (here : w.around.root.files[p]? = some f)
    (counts : h.Counts f.painted b) (out : Output) :
    ∃ out' w', r.takeTo h importance out (.file p) w = .ok out' w' ∧
      out'.files = out.files ++ [(p, if importance.reaches f.level.rank then
        ((r.columns h).value? w).elim "" (Logging.fileLine b) else "")] := by
  obtain ⟨text, w', wrote⟩ : ∃ text w', written importance f.level (r.lineText h f.painted) w =
    .ok text w' := written_ok (legible.shallow_lineText counts) w
  rw [takeTo, bind_of_ok (get_run w)]
  simp only [here]
  exact ⟨_, w', bind_of_ok wrote, by rw [legible.stores counts wrote]⟩

/-- Sinks that take their turns one after the other never fail. What is stored comes from the files
among them. -/
theorem Legible.foldlM_takeTo (legible : r.Legible h) (beside : x.Beside h x)
    (compared : r.importance u = .ok importance u') (outlets : List Outlet)
    (parallel : w.Parallel x x attached w) (out : Output) :
    ∃ out' w' more, outlets.foldlM (r.takeTo h importance) out w = .ok out' w' ∧
      w'.Parallel x x attached w' ∧ out'.files = out.files ++ more ∧
      ∀ entry ∈ more, .file entry.1 ∈ outlets := by
  induction outlets generalizing w out with
  | nil =>
    exact ⟨out, w, [], rfl, parallel, (List.append_nil _).symm, fun _ inside => absurd inside
      List.not_mem_nil⟩
  | cons o outlets ih =>
    obtain ⟨out₁, w₁, first, took, files₁, from₁⟩ : ∃ out₁ w₁ first,
        r.takeTo h importance out o w = .ok out₁ w₁ ∧ out₁.files = out.files ++ first ∧
          ∀ entry ∈ first, o = .file entry.1 := by
      by_cases filed : ∃ i f, o = .file i ∧ w.around.root.files[i]? = some f
      · obtain ⟨i, f, rfl, here⟩ := filed
        have files : w.around.root.files = x.files :=
          congrArg Fixture.files parallel.around.root.left
        obtain ⟨b, counts⟩ := beside.decided f (files ▸ Array.mem_of_getElem? here)
        obtain ⟨out₁, w₁, took, stored⟩ := legible.takeTo_file here counts out
        exact ⟨out₁, w₁, _, took, stored, fun entry inside => by rw [List.mem_singleton.1 inside]⟩
      · have other (i : Nat) (same : o = .file i) : w.around.root.files[i]? = none :=
          Option.eq_none_iff_forall_ne_some.2 fun f here => filed ⟨i, f, same, here⟩
        obtain ⟨out₁, w₁, took, stored⟩ := legible.takeTo_elsewhere compared other out
        exact ⟨out₁, w₁, [], took, by rw [stored, List.append_nil], fun _ inside => absurd inside
          List.not_mem_nil⟩
    have kept := parallel_after (legible.agree_takeTo beside compared o out out parallel)
    rw [after_of_ok took] at kept
    obtain ⟨out₂, w₂, rest, folded, kept₂, files₂, from₂⟩ := ih kept out₁
    refine ⟨out₂, w₂, first ++ rest, ?_, kept₂, ?_, fun entry inside => ?_⟩
    · rw [List.foldlM_cons, bind_of_ok took, folded]
    · rw [files₂, files₁, List.append_assoc]
    · rcases List.mem_append.1 inside with early | late
      · exact from₁ entry early ▸ List.mem_cons_self
      · exact List.mem_cons_of_mem o (from₂ entry late)

theorem importance_ok (compared : r.importance w = .ok importance v) : v = w := by
  unfold Record.importance at compared
  generalize r.level = level at compared
  cases level with
  | flag | int | float => exact (EStateM.Result.ok.inj compared).2.symm
  | _ => simp [Value.int?, bind_run] at compared

theorem lookup_none {entries : List (Nat × String)} (other : ∀ entry ∈ entries, entry.1 ≠ p) :
    entries.lookup p = none :=
  List.lookup_eq_none_iff.2 fun entry inside => by simpa using (other entry inside).symm

theorem lookup_map (entries : List (String × Nat)) (g : Nat → String) (name : String) :
    (entries.map fun q => (q.1, g q.2)).lookup name = (entries.lookup name).map g := by
  induction entries with
  | nil => rfl
  | cons entry entries ih =>
    rw [List.map_cons, List.lookup_cons, List.lookup_cons, ih]
    cases name == entry.1 <;> rfl

/-- Through all sinks that are attached, with the file among them: it stores its line when its turn
comes. -/
theorem Legible.foldlM_outlets (legible : r.Legible h) (beside : x.Beside h x)
    (compared : r.importance w = .ok importance w) (parallel : w.Parallel x x attached w)
    (among : .file p ∈ attached) (there : x.files[p]? = some f) (counts : h.Counts f.painted b) :
    ∃ out w', w.around.root.outlets.foldlM (r.takeTo h importance) {} w = .ok out w' ∧
      w'.around.root.files = x.files ∧
      out.files.lookup p = some (if importance.reaches f.level.rank then
        ((r.columns h).value? (r.turn h importance (.file p) w)).elim "" (Logging.fileLine b)
        else "") := by
  obtain ⟨before, behind, outlets, early⟩ :=
    List.eq_append_cons_of_mem (parallel.around.root.attached _ among)
  obtain ⟨out₁, w₁, more₁, folded₁, kept₁, files₁, from₁⟩ :=
    legible.foldlM_takeTo beside compared before parallel {}
  have here : w₁.around.root.files[p]? = some f := by
    rw [← there, ← kept₁.around.root.left]
    rfl
  obtain ⟨out₂, w₂, took, files₂⟩ := legible.takeTo_file here counts out₁
  have kept₂ := parallel_after (legible.agree_takeTo beside compared (.file p) out₁ out₁ kept₁)
  rw [after_of_ok took] at kept₂
  obtain ⟨out₃, w₃, more₃, folded₃, kept₃, files₃, -⟩ :=
    legible.foldlM_takeTo beside compared behind kept₂ out₂
  have turned : r.turn h importance (.file p) w = w₁ := by
    have other (o : Outlet) (inside : o ∈ before) : decide (o ≠ .file p) = true := by
      have : o ≠ .file p := fun same => early (same ▸ inside)
      simpa using this
    have first : w.around.root.outlets.takeWhile (· ≠ .file p) = before := by
      rw [outlets, List.takeWhile_append_of_pos other]
      simp
    rw [turn, first, after_of_ok folded₁]
  refine ⟨out₃, w₃, ?_, congrArg Fixture.files kept₃.around.root.left, ?_⟩
  · rw [outlets, List.foldlM_append, bind_of_ok folded₁, List.foldlM_cons, bind_of_ok took, folded₃]
  · have absent : more₁.lookup p = none :=
      lookup_none fun entry inside same => early (same ▸ from₁ entry inside)
    rw [files₃, files₂, files₁, turned, List.nil_append, List.append_assoc,
      List.lookup_append, absent]
    simp

theorem leaves_eq (compared : r.importance w = .ok importance w)
    (named : ∀ root : Root, root.files = x.files → root.fileNames.lookup name = some p)
    (kept : v.around.root.files = x.files)
    (folded : (if w.around.root.isEnabled importance then w.around.root.outlets else []).foldlM
      (r.takeTo h importance) {} w = .ok out v) :
    r.leaves h name w = (out.files.lookup p).getD "" := by
  have run : r.deliver h w = .ok ⟨w.around.root.isEnabled importance, out.console,
      v.around.root.fileNames.map fun q => (q.1, (out.files.lookup q.2).getD "")⟩ v := by
    rw [deliver, bind_of_ok compared, bind_of_ok (get_run w), bind_of_ok folded]
    rfl
  have looked := lookup_map v.around.root.fileNames (fun i => (out.files.lookup i).getD "") name
  rw [named _ kept] at looked
  rw [leaves, value?_of_ok run, Option.bind_some]
  exact congrArg (·.getD "") looked

theorem Legible.leaves_eq (legible : r.Legible h) (beside : x.Beside h x)
    (parallel : w.Parallel x x attached w) (among : .file p ∈ attached)
    (there : x.files[p]? = some f)
    (counts : h.Counts f.painted b)
    (named : ∀ root : Root, root.files = x.files → root.fileNames.lookup name = some p) :
    r.leaves h name w = (r.columnsIn? h p w).elim "" (Logging.fileLine b) := by
  have files : w.around.root.files = x.files := congrArg Fixture.files parallel.around.root.left
  cases compared : r.importance w with
  | error fault u =>
    have refused : r.deliver h w = .error fault u := bind_of_error compared
    rw [leaves, value?_of_error refused, columnsIn?, value?_of_error compared]
    rfl
  | ok importance u =>
    obtain rfl := importance_ok compared
    simp only [columnsIn?, value?_of_ok compared, files, there]
    cases enabled : u.around.root.isEnabled importance with
    | false =>
      rw [leaves_eq compared named files (by rw [enabled]; rfl)]
      rfl
    | true =>
      obtain ⟨out, v, folded, kept, stored⟩ :=
        legible.foldlM_outlets beside compared parallel among there counts
      rw [leaves_eq compared named kept (by rw [enabled]; exact folded), stored]
      cases importance.reaches f.level.rank <;> rfl

/-- Whether a record reaches a file, and with which columns, is the same in both runs. -/
theorem Legible.columnsIn?_eq (legible : r.Legible h) (beside : x.Beside h y)
    (parallel : w.Parallel x y attached v) : r.columnsIn? h p v = r.columnsIn? h p w := by
  have root := parallel.around.root
  have left : w.around.root.files = x.files := congrArg Fixture.files root.left
  have right : v.around.root.files = y.files := congrArg Fixture.files root.right
  rw [columnsIn?, columnsIn?, value?_of_agree ((apart_importance r).agree parallel), left, right]
  cases compared : r.importance w with
  | error fault u => rw [value?_of_error compared]
  | ok importance u =>
    rw [value?_of_ok compared]
    rcases none_or_some_of_map (beside.mark p) with ⟨here, there⟩ | ⟨f, f', here, there, same⟩
    · rw [here, there]
    · obtain ⟨-, level⟩ := Prod.mk.inj same
      have turned : (r.turn h importance (.file p) w).Parallel x y attached
          (r.turn h importance (.file p) v) := by
        rw [turn, turn, root.outlets]
        exact parallel_after (legible.agree_foldlM beside compared _ parallel)
      simp only [here, there, root.isEnabled, level,
        value?_of_agree (legible.columns.agree turned)]

end Record

/-! One file -/

def World.onTerminal (w : World) (t : Option Bool) : World :=
  { w with around := { w.around with root := { w.around.root with terminal := t } } }

namespace Script

variable {h : Host} {x y : Fixture} {w v : World} {id : String} {wanted colors : Value} {b : Bool}

def fileLevel (h : Host) (wanted : Value) : Act Level :=
  if wanted.isNothing then pure (.number 0) else levelOf h wanted

def fileFor (h : Host) (id : String) (wanted colors : Value) : Act File := do
  around Surroundings.initialise
  let painted ← paintedOf h colors
  let level ← fileLevel h wanted
  pure ⟨id, level, painted⟩

theorem addFile_eq : addFile h id wanted colors = (do
    let file ← fileFor h id wanted colors
    around (Surroundings.addFile file)
    pure file) := by
  simp only [addFile, fileFor, fileLevel, bind_assoc]
  cases wanted.isNothing <;> simp [pure_bind]

structure Follows (h : Host) (id : String) (b : Bool) (x : Fixture) (f : File) : Prop where
  name : f.name = id
  painted : h.Counts f.painted (b && x.terminal == some true)

theorem follows_paintedOf (counts : h.Counts colors b) (w : World) : ∃ painted,
    paintedOf h colors w = .ok painted w ∧
      h.Counts painted (b && w.around.root.terminal == some true) := by
  rw [paintedOf, bind_of_ok (counts w)]
  cases b with
  | true => exact ⟨_, rfl, counts_flag _⟩
  | false => exact ⟨_, rfl, counts⟩

theorem agree_fileFor (counts : h.Counts colors b)
    (apart : wanted.isNothing = false → Apart (levelOf h wanted)) (parallel : w.Parallel x y [] v) :
    Agree (World.Parallel x y [])
      (fun f f' => f'.mark = f.mark ∧ Follows h id b x f ∧ Follows h id b y f')
      (fileFor h id wanted colors w) (fileFor h id wanted colors v) := by
  refine (Logging.agree_initialise parallel).bind fun _ _ w v _ parallel => ?_
  have left : w.around.root.terminal = x.terminal :=
    congrArg Fixture.terminal parallel.around.root.left
  have right : v.around.root.terminal = y.terminal :=
    congrArg Fixture.terminal parallel.around.root.right
  obtain ⟨painted, run, paints⟩ := follows_paintedOf counts w
  obtain ⟨painted', run', paints'⟩ := follows_paintedOf counts v
  rw [left] at paints
  rw [right] at paints'
  rw [bind_of_ok run, bind_of_ok run']
  have judged :
      Agree (World.Parallel x y []) (· = ·) (fileLevel h wanted w) (fileLevel h wanted v) := by
    unfold fileLevel
    cases given : wanted.isNothing with
    | true => exact .pure rfl parallel
    | false => exact (apart given).agree parallel
  refine judged.bind fun level level' w v same parallel => .pure ?_ parallel
  exact ⟨by rw [same]; rfl, ⟨rfl, paints⟩, ⟨rfl, paints'⟩⟩

/-- Adding a file in two runs: it fails in both with the same fault, or in both the file that was
added follows the terminal. -/
theorem addFile_cases (beside : x.Beside h y) (counts : h.Counts colors b)
    (apart : wanted.isNothing = false → Apart (levelOf h wanted)) (parallel : w.Parallel x y [] v) :
    (∃ fault u u', addFile h id wanted colors w = .error fault u ∧
      addFile h id wanted colors v = .error fault u') ∨
    ∃ f f' u u', addFile h id wanted colors w = .ok f u ∧ addFile h id wanted colors v = .ok f' u' ∧
      u.Parallel { x with files := x.files.push f } { y with files := y.files.push f' }
        [.file x.files.size] u' ∧
      Fixture.Beside h { x with files := x.files.push f } { y with files := y.files.push f' } ∧
      Follows h id b x f ∧ Follows h id b y f' := by
  have agree : Agree _ _ (fileFor h id wanted colors w) (fileFor h id wanted colors v) :=
    agree_fileFor counts apart parallel
  rw [addFile_eq, bind_run, bind_run]
  generalize fileFor h id wanted colors w = first at agree
  generalize fileFor h id wanted colors v = second at agree
  cases agree with
  | error => exact .inl ⟨_, _, _, rfl, rfl⟩
  | @ok f f' u u' related parallel =>
    obtain ⟨same, follows, follows'⟩ := related
    refine .inr ⟨f, f', _, _, rfl, rfl, ⟨?_, ?_⟩, beside.push same follows.painted follows'.painted,
      follows, follows'⟩
    · rw [parallel.rest]
    · obtain ⟨environment, file, shared, readings, root⟩ := parallel.around
      exact ⟨environment, file, shared, readings, root.addFile beside.size f f'⟩

end Script

/-! Runs -/

namespace Logging

variable {h : Host} {x y : Fixture} {attached : List Outlet} {w v : World} {p : Nat}
  {f : File} {b : Bool}
  {name : String} {use : Use} {uses : List Use}

/-- A record is logged, or one of the logging functions is called, or the error stream becomes a
terminal or ceases to be one. -/
inductive Use where
  | record (r : Record)
  | call (c : Call)
  | terminal (t : Option Bool)

namespace Use

def run (h : Host) : Use → Act Unit
  | record r => (fun _ => ()) <$> r.deliver h
  | call c => c.run h
  | terminal t => around (Surroundings.modifyRoot ({ · with terminal := t }))

def Fair (h : Host) : Use → Prop
  | record r => r.Legible h
  | call c => c.LooksApart h
  | terminal _ => True

def text (h : Host) (name : String) (w : World) : Use → String
  | record r => r.leaves h name w
  | call _ | terminal _ => ""

def columns? (h : Host) (p : Nat) (w : World) : Use → Option Columns
  | record r => r.columnsIn? h p w
  | call _ | terminal _ => none

/-- After the same use in both runs the loggers are such again, with the same files. -/
theorem Fair.after (fair : use.Fair h) (beside : x.Beside h y)
    (parallel : w.Parallel x y attached v) :
    ∃ x' y', x'.files = x.files ∧ y'.files = y.files ∧
      ((use.run h).after w).Parallel x' y' attached ((use.run h).after v) := by
  cases use with
  | record r =>
    have agree : Agree (World.Parallel x y attached) (· = ·) ((Use.record r).run h w)
        ((Use.record r).run h v) :=
      (Record.Legible.agree_deliver fair beside parallel).map fun _ _ _ => rfl
    exact ⟨x, y, rfl, rfl, parallel_after agree⟩
  | call c => exact ⟨x, y, rfl, rfl, parallel_after (Call.LooksApart.agree fair parallel)⟩
  | terminal t =>
    obtain ⟨environment, file, shared, readings, root⟩ := parallel.around
    refine ⟨{ x with terminal := t }, { y with terminal := t }, rfl, rfl, ?_,
      environment, file, shared,
      readings, root.withTerminal t⟩
    rw [parallel.rest]
    rfl

end Use

def lines (h : Host) (p : Nat) : List Use → World → List Columns
  | [], _ => []
  | use :: uses, w => (use.columns? h p w).toList ++ lines h p uses ((use.run h).after w)

/-- What records leave in the latest file of a name, one after the other. -/
def content (h : Host) (name : String) : List Use → World → String
  | [], _ => ""
  | use :: uses, w => use.text h name w ++ content h name uses ((use.run h).after w)

theorem lines_eq (fair : ∀ use ∈ uses, use.Fair h) (beside : x.Beside h y)
    (parallel : w.Parallel x y attached v) : lines h p uses v = lines h p uses w := by
  induction uses generalizing x y w v with
  | nil => rfl
  | cons use uses ih =>
    have first := fair use List.mem_cons_self
    have same : use.columns? h p v = use.columns? h p w := by
      cases use with
      | record r => exact Record.Legible.columnsIn?_eq first beside parallel
      | call | terminal => rfl
    obtain ⟨x', y', left, right, parallel'⟩ := first.after beside parallel
    rw [lines, lines, same, ih (fun use inside => fair use (List.mem_cons_of_mem _ inside))
      (beside.of_files left right) parallel']

/-- The file holds the lines that reached it, all of them painted or none. -/
theorem content_eq (fair : ∀ use ∈ uses, use.Fair h) (beside : x.Beside h x)
    (parallel : w.Parallel x x attached w) (among : .file p ∈ attached)
    (there : x.files[p]? = some f)
    (counts : h.Counts f.painted b)
    (named : ∀ root : Root, root.files = x.files → root.fileNames.lookup name = some p) :
    content h name uses w = String.join ((lines h p uses w).map (fileLine b)) := by
  induction uses generalizing x w with
  | nil => rfl
  | cons use uses ih =>
    have first := fair use List.mem_cons_self
    have text : use.text h name w = (use.columns? h p w).elim "" (fileLine b) := by
      cases use with
      | record r => exact Record.Legible.leaves_eq first beside parallel among there counts named
      | call | terminal => rfl
    obtain ⟨x', y', left, -, parallel'⟩ := first.after beside parallel
    have rest := ih (fun use inside => fair use (List.mem_cons_of_mem _ inside))
      (beside.of_files left left)
      parallel'.diagonal (left ▸ there) (left ▸ named)
    rw [content, lines, text, rest, List.map_append, String.join_append]
    cases use.columns? h p w <;> simp

/-- A file that is added on a terminal and in another run on a terminal or off it, and what comes of
it in the other run. -/
theorem content_added {wanted colors : Value}
    (decided : ∀ f ∈ w.around.root.files, ∃ b, h.Counts f.painted b) (counts : h.Counts colors b)
    (apart : wanted.isNothing = false → Apart (Script.levelOf h wanted))
    (fair : ∀ use ∈ uses, use.Fair h) (t : Option Bool) :
    (∃ fault u u', Script.addFile h name wanted colors (w.onTerminal (some true)) = .error fault u ∧
      Script.addFile h name wanted colors (w.onTerminal t) = .error fault u') ∨
    ∃ f f' u u', Script.addFile h name wanted colors (w.onTerminal (some true)) = .ok f u ∧
      Script.addFile h name wanted colors (w.onTerminal t) = .ok f' u' ∧
      .file w.around.root.files.size ∈ u'.around.root.outlets ∧
      lines h w.around.root.files.size uses u' = lines h w.around.root.files.size uses u ∧
      content h name uses u' = String.join ((lines h w.around.root.files.size uses u).map
        (fileLine (b && t == some true))) := by
  have parallel : (w.onTerminal (some true)).Parallel ⟨w.around.root.files, some true⟩
      ⟨w.around.root.files, t⟩ [] (w.onTerminal t) :=
    ⟨rfl, rfl, rfl, rfl, rfl, rfl, rfl, fun _ inside => absurd inside List.not_mem_nil, rfl,
      rfl, rfl, rfl,
      fun _ => rfl⟩
  have beside : Fixture.Beside h ⟨w.around.root.files, some true⟩ ⟨w.around.root.files, t⟩ :=
    ⟨rfl, decided, decided⟩
  rcases Script.addFile_cases beside counts apart parallel with
    failed | ⟨f, f', u, u', run, run', added, beside, -, follows⟩
  · exact .inl failed
  · have named (root : Root) (files : root.files = w.around.root.files.push f') :
        root.fileNames.lookup name = some w.around.root.files.size :=
      follows.name ▸ Root.lookup_fileNames files
    have same := lines_eq (p := w.around.root.files.size) fair beside added
    have whole := content_eq fair beside.diagonal' added.diagonal' List.mem_cons_self
      Array.getElem?_push_size follows.painted named
    exact .inr ⟨f, f', u, u', run, run', added.around.root.diagonal'.attached _ List.mem_cons_self,
      same, same ▸ whole⟩

/-- `add_file_handler` in one world, with `sys.stderr` a terminal or not. Either it fails alike in
both; or the file is attached, and the same lines reach it whatever happens then. They are painted
if colours were asked for and `sys.stderr` was a terminal when the file was added, and plain
otherwise. So where colours were asked for, the two files differ unless nothing was written. -/
theorem content_onTerminal {wanted colors : Value}
    (decided : ∀ f ∈ w.around.root.files, ∃ b, h.Counts f.painted b) (counts : h.Counts colors b)
    (apart : wanted.isNothing = false → Apart (Script.levelOf h wanted))
    (fair : ∀ use ∈ uses, use.Fair h) :
    (∃ fault, ∀ t, ∃ u, Script.addFile h name wanted colors (w.onTerminal t) = .error fault u) ∨
    ∃ columns : List Columns, ∀ t, ∃ f u,
      Script.addFile h name wanted colors (w.onTerminal t) = .ok f u ∧
      .file w.around.root.files.size ∈ u.around.root.outlets ∧
      lines h w.around.root.files.size uses u = columns ∧
      content h name uses u = String.join (columns.map (fileLine (b && t == some true))) ∧
      ∀ t' f' u', Script.addFile h name wanted colors (w.onTerminal t') = .ok f' u' →
        (content h name uses u = content h name uses u' ↔
          b = false ∨ (t == some true) = (t' == some true) ∨ content h name uses u = "") := by
  have added (t : Option Bool) : _ ∨ ∃ f f' u u', Script.addFile h name wanted colors _ =
      .ok f u ∧ _ :=
    content_added decided counts apart fair t
  cases first : Script.addFile h name wanted colors (w.onTerminal (some true)) with
  | error fault u =>
    refine .inl ⟨fault, fun t => ?_⟩
    rcases added t with ⟨fault', u₁, u', run, run'⟩ | ⟨f, f', u₁, u', run, -⟩
    · obtain ⟨rfl, -⟩ := EStateM.Result.error.inj (first.symm.trans run)
      exact ⟨u', run'⟩
    · cases first.symm.trans run
  | ok f u =>
    have told (t : Option Bool) :
        ∃ f' u', Script.addFile h name wanted colors (w.onTerminal t) = .ok f' u' ∧
        .file w.around.root.files.size ∈ u'.around.root.outlets ∧
        lines h w.around.root.files.size uses u' = lines h w.around.root.files.size uses u ∧
        content h name uses u' = String.join ((lines h w.around.root.files.size uses u).map
          (fileLine (b && t == some true))) := by
      rcases added t with ⟨fault', u₁, u', run, -⟩ | ⟨f₁, f', u₁, u', run, run', rest⟩
      · cases first.symm.trans run
      · obtain ⟨-, rfl⟩ := EStateM.Result.ok.inj (first.symm.trans run)
        exact ⟨f', u', run', rest⟩
    refine .inr ⟨lines h w.around.root.files.size uses u, fun t => ?_⟩
    obtain ⟨f₁, u₁, run, attached, same, whole⟩ := told t
    refine ⟨f₁, u₁, run, attached, same, whole, fun t' f' u' run' => ?_⟩
    obtain ⟨f₂, u₂, run₂, -, -, whole'⟩ := told t'
    obtain ⟨-, rfl⟩ := EStateM.Result.ok.inj (run'.symm.trans run₂)
    rw [whole, whole']
    exact fileLines_eq_iff _ _ _ _

def repeatedly : List Use := [.record Record.cutOff, .terminal (some true), .record Record.cutOff,
  .call (.level (.word "ERROR")), .record Record.cutOff]

theorem fair_repeatedly : ∀ use ∈ repeatedly, use.Fair h := by
  have legible : Record.cutOff.Legible h :=
    Record.legible_of_spells ⟨⟨0, rfl⟩, ⟨0, rfl⟩, ⟨0, rfl⟩, ⟨0, rfl⟩, ⟨0, rfl⟩⟩
      (fun _ => rfl) fun _ => rfl
  obtain ⟨verdict, judged⟩ := Script.levelOf_simple (v := .word "ERROR") trivial
  intro use inside
  simp only [repeatedly, List.mem_cons, List.not_mem_nil, or_false] at inside
  rcases inside with rfl | rfl | rfl | rfl | rfl
  · exact legible
  · trivial
  · exact legible
  · exact apart_of_liftExcept (judged h)
  · exact legible

/-- With colours asked for, the two files differ. -/
theorem content_onTerminal_repeatedly : ∃ f u f' u',
    Script.addFile (Host.ofDepth 1) "tasks.log" (.word "INFO") (.flag true)
      (World.start.onTerminal (some true)) = .ok f u ∧
    Script.addFile (Host.ofDepth 1) "tasks.log" (.word "INFO") (.flag true)
      (World.start.onTerminal (some false)) = .ok f' u' ∧
    content (Host.ofDepth 1) "tasks.log" repeatedly u ≠
      content (Host.ofDepth 1) "tasks.log" repeatedly u' := by
  obtain ⟨verdict, judged⟩ := Script.levelOf_simple (v := .word "INFO") trivial
  obtain ⟨f, u, run⟩ := exists_of_succeeds (show (Script.addFile (Host.ofDepth 1) "tasks.log"
    (.word "INFO") (.flag true)).succeeds (World.start.onTerminal (some true)) =
      true by decide +kernel)
  have filled :
      content (Host.ofDepth 1) "tasks.log" repeatedly ((Script.addFile (Host.ofDepth 1) "tasks.log"
      (.word "INFO") (.flag true)).after (World.start.onTerminal (some true))) ≠
        "" := by decide +kernel
  rw [after_of_ok run] at filled
  have either :
      (∃ fault, ∀ t, ∃ u, Script.addFile (Host.ofDepth 1) "tasks.log" (.word "INFO") (.flag true)
      (World.start.onTerminal t) = .error fault u) ∨ _ :=
    content_onTerminal (fun f inside => absurd inside (Array.not_mem_empty f)) (counts_flag true)
      (fun _ => apart_of_liftExcept (judged _)) (fair_repeatedly (h := Host.ofDepth 1))
  rcases either with ⟨fault, fails⟩ | ⟨columns, succeeds⟩
  · obtain ⟨u', failed⟩ := fails (some true)
    cases run.symm.trans failed
  · obtain ⟨f₁, u₁, run₁, -, -, -, differs⟩ := succeeds (some true)
    obtain ⟨-, rfl⟩ := EStateM.Result.ok.inj (run.symm.trans run₁)
    obtain ⟨f', u', run', -⟩ := succeeds (some false)
    refine ⟨f, u, f', u', run, run', fun same => ?_⟩
    rcases (differs _ _ _ run').1 same with plain | alike | empty
    · cases plain
    · cases alike
    · exact filled empty

end Logging

end EventTasks
