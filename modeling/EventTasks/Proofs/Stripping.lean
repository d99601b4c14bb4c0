import EventTasks.Proofs.Validity
import Mathlib.Data.List.TakeWhile

/-!
What is left of a painted line when its terminal codes are deleted. Texts of a record may hold codes
of their own, whole ones and ones that are cut off. A code that is cut off at the end of a column is
completed neither by the code that follows it in a painted line nor by the separator in a plain one,
so both lines leave the same. If no text holds the escape character, what is left of the painted
line is the plain one.
-/
namespace EventTasks

open Act

namespace Log

open Color (escape)

/-! Terminal codes -/

def isParameter (c : Char) : Bool := c.isDigit || c = ';'

/-- A terminal code: the escape character, an opening bracket, parameters, and the letter `m`. -/
def IsCode (code : List Char) : Prop :=
  ∃ parameters : List Char, (∀ c ∈ parameters, isParameter c = true) ∧
    code = [escape, '['] ++ parameters ++ ['m']

def behindCode? : List Char → Option (List Char)
  | c :: '[' :: rest =>
    if c = escape then
      match rest.dropWhile isParameter with
      | 'm' :: rest => some rest
      | _ => none
    else none
  | _ => none

section codes

variable {s t code rest parameters : List Char} {c : Char}

theorem isParameter_final : isParameter 'm' = false := by decide

theorem dropWhile_parameters (inside : ∀ c ∈ parameters, isParameter c = true) (rest : List Char) :
    (parameters ++ 'm' :: rest).dropWhile isParameter = 'm' :: rest := by
  rw [List.dropWhile_append_of_pos inside, List.dropWhile_cons_of_neg (by simp [isParameter_final])]

theorem behindCode?_eq_some : behindCode? s = some rest ↔ ∃ code,
    IsCode code ∧ s = code ++ rest := by
  constructor
  · intro found
    unfold behindCode? at found
    split at found
    · next c tail =>
      split at found
      · next first =>
        subst first
        split at found
        · next final ended =>
          obtain rfl := Option.some.inj found
          refine ⟨[escape, '['] ++ tail.takeWhile isParameter ++ ['m'],
            ⟨_, fun c inside => List.mem_takeWhile_imp inside, rfl⟩, ?_⟩
          have whole := List.takeWhile_append_dropWhile (p := isParameter) (l := tail)
          rw [ended] at whole
          simp [whole]
        · cases found
      · cases found
    · cases found
  · rintro ⟨_, ⟨parameters, inside, rfl⟩, rfl⟩
    have ended := dropWhile_parameters inside rest
    simp [behindCode?, ended]

theorem length_lt_of_behindCode? (found : behindCode? s = some rest) : rest.length < s.length := by
  obtain ⟨code, ⟨parameters, -, rfl⟩, rfl⟩ := behindCode?_eq_some.1 found
  simp
  omega

def strip (s : List Char) : List Char :=
  match s with
  | [] => []
  | c :: cs =>
    match _found : behindCode? (c :: cs) with
    | some rest => strip rest
    | none => c :: strip cs
termination_by s.length
decreasing_by
  · exact length_lt_of_behindCode? _found
  · exact Nat.lt_succ_self cs.length

theorem strip_code (isCode : IsCode code) (rest : List Char) :
    strip (code ++ rest) = strip rest := by
  have found : behindCode? (code ++ rest) = some rest := behindCode?_eq_some.2 ⟨code, isCode, rfl⟩
  obtain ⟨parameters, -, rfl⟩ := isCode
  simp only [List.cons_append, List.nil_append] at found ⊢
  rw [strip]
  split
  · next rest' found' => exact congrArg strip (Option.some.inj (found'.symm.trans found))
  · next none => cases none.symm.trans found

theorem strip_cons (none : behindCode? (c :: s) = .none) : strip (c :: s) = c :: strip s := by
  rw [strip]
  split
  · next rest found => cases none.symm.trans found
  · rfl

theorem strip_cons_of_ne (other : c ≠ escape) : strip (c :: s) = c :: strip s := by
  refine strip_cons (Option.eq_none_iff_forall_ne_some.2 fun rest found => ?_)
  obtain ⟨_, ⟨parameters, -, rfl⟩, whole⟩ := behindCode?_eq_some.1 found
  exact other (List.cons.inj whole).1

theorem strip_of_not_mem (clean : escape ∉ s) : strip s = s := by
  induction s with
  | nil => rw [strip]
  | cons c s ih =>
    rw [List.mem_cons, not_or] at clean
    rw [strip_cons_of_ne (Ne.symm clean.1), ih clean.2]

/-! Where texts meet -/

/-- A text does not go on with a code that is cut off before it. -/
def Stops (rest : List Char) : Prop := ∀ c ∈ rest.head?, c ≠ '[' ∧ isParameter c = false ∧ c ≠ 'm'

theorem behindCode?_append_of_stops (stops : Stops rest) (none : behindCode? (c :: s) = .none) :
    behindCode? (c :: (s ++ rest)) = .none := by
  refine Option.eq_none_iff_forall_ne_some.2 fun behind found => ?_
  obtain ⟨_, ⟨parameters, inside, rfl⟩, whole⟩ := behindCode?_eq_some.1 found
  rw [← List.cons_append] at whole
  rcases List.append_eq_append_iff.1 whole with ⟨more, code, rfl⟩ | ⟨more, here, -⟩
  · cases more with
    | nil =>
      have complete : behindCode? (c :: s) = some [] :=
        behindCode?_eq_some.2 ⟨_, ⟨parameters, inside, rfl⟩, by simpa using code.symm⟩
      cases none.symm.trans complete
    | cons d more =>
      -- The code goes on in `rest`, whose first character is thus one of those behind the escape.
      obtain ⟨bracket, parameter, final⟩ := stops d rfl
      have tail : '[' :: (parameters ++ ['m']) = s ++ d :: more := by
        simpa using (List.cons.inj code).2
      have member : d ∈ '[' :: (parameters ++ ['m']) := tail ▸ by simp
      simp only [List.mem_cons, List.mem_append, List.not_mem_nil, or_false] at member
      rcases member with rfl | among | rfl
      · exact bracket rfl
      · exact absurd (inside d among) (by simp [parameter])
      · exact final rfl
  · have complete : behindCode? (c :: s) = some more :=
      behindCode?_eq_some.2 ⟨_, ⟨parameters, inside, rfl⟩, here⟩
    cases none.symm.trans complete

/-- A text is stripped up to where it is stopped. -/
theorem strip_append (stops : Stops rest) (s : List Char) :
    strip (s ++ rest) = strip s ++ strip rest := by
  induction s using strip.induct with
  | case1 => simp [strip]
  | case2 c s behind found ih =>
    obtain ⟨code, isCode, whole⟩ := behindCode?_eq_some.1 found
    rw [whole, List.append_assoc, strip_code isCode, strip_code isCode, ih]
  | case3 c s none ih =>
    have further := behindCode?_append_of_stops stops none
    rw [List.cons_append, strip_cons further, strip_cons none, ih, List.cons_append]

end codes

/-! Lines -/

theorem isCode_code (c : Color) : IsCode c.code.toList := by
  have inside : c.parameters.toList.all isParameter = true := by cases c <;> rfl
  exact ⟨c.parameters.toList, List.all_eq_true.1 inside, by simp [Color.code]⟩

theorem stops_code (c : Color) (rest : List Char) : Stops (c.code.toList ++ rest) := by
  intro d head
  have first : (c.code.toList ++ rest).head? = some escape := by simp [Color.code]
  obtain rfl := Option.some.inj (first.symm.trans head)
  decide

/-- Painted or not, a column that is stopped leaves what its text leaves. -/
theorem strip_ink {rest : List Char} (stops : Stops rest) (painted : Bool) (c : Color)
    (s : String) :
    strip ((ink painted c s).toList ++ rest) = strip s.toList ++ strip rest := by
  cases painted with
  | false => exact strip_append stops s.toList
  | true =>
    calc strip ((ink true c s).toList ++ rest)
      _ = strip (c.code.toList ++ (s.toList ++ (Color.reset.code.toList ++ rest))) := by
        simp [ink, Color.paint]
      _ = strip s.toList ++ strip (Color.reset.code.toList ++ rest) := by
        rw [strip_code (isCode_code c), strip_append (stops_code .reset rest)]
      _ = strip s.toList ++ strip rest := by rw [strip_code (isCode_code .reset)]

theorem stops_space (rest : List Char) : Stops (' ' :: rest) := by
  intro c head
  obtain rfl := Option.some.inj head
  decide

theorem strip_separator (rest : List Char) :
    strip (" | ".toList ++ rest) = " | ".toList ++ strip rest := by
  have separator : " | ".toList = [' ', '|', ' '] := by decide
  simp only [separator, List.cons_append, List.nil_append]
  rw [strip_cons_of_ne (by decide), strip_cons_of_ne (by decide), strip_cons_of_ne (by decide)]

theorem strip_space (rest : List Char) : strip (" ".toList ++ rest) = " ".toList ++ strip rest :=
  strip_cons_of_ne (by decide)

namespace Columns

variable (c : Columns)

theorem toList_line (painted : Bool) : (c.line painted).toList =
    (ink painted .lightBlack c.time).toList ++ (" | ".toList ++
      ((ink painted c.style.1 c.level).toList ++ (" | ".toList ++
        ((ink painted c.style.2 c.logger).toList ++ (" | ".toList ++
          ((ink painted c.style.2 c.message).toList ++ (" ".toList ++
            ((ink painted .lightBlack c.origin).toList ++ [])))))))) := by
  simp [line, String.intercalate_cons_cons]

/-- What a line leaves, painted or not: what each column leaves by itself. -/
theorem strip_line (painted : Bool) : strip (c.line painted).toList =
    strip c.time.toList ++ (" | ".toList ++ (strip c.level.toList ++ (" | ".toList ++
      (strip c.logger.toList ++ (" | ".toList ++ (strip c.message.toList ++ (" ".toList ++
        (strip c.origin.toList ++ [])))))))) := by
  have separated (rest : List Char) : Stops (" | ".toList ++ rest) := stops_space _
  have spaced (rest : List Char) : Stops (" ".toList ++ rest) := stops_space _
  have ended : Stops [] := fun c head => by cases head
  have nothing : strip [] = [] := strip_of_not_mem List.not_mem_nil
  rw [toList_line, strip_ink (separated _), strip_separator, strip_ink (separated _),
    strip_separator,
    strip_ink (separated _), strip_separator, strip_ink (spaced _), strip_space,
      strip_ink ended, nothing]

structure Clean : Prop where
  time : escape ∉ c.time.toList
  level : escape ∉ c.level.toList
  logger : escape ∉ c.logger.toList
  message : escape ∉ c.message.toList
  origin : escape ∉ c.origin.toList

variable {c}

/-- If no text of a line holds the escape character, the painted line leaves the plain one. -/
theorem Clean.strip_line (clean : c.Clean) :
    strip (c.line true).toList = (c.line false).toList := by
  obtain ⟨time, level, logger, message, origin⟩ := clean
  rw [Columns.strip_line, toList_line, strip_of_not_mem time, strip_of_not_mem level,
    strip_of_not_mem logger, strip_of_not_mem message, strip_of_not_mem origin]
  rfl

end Columns

/-! Texts that hold no escape character -/

theorem escape_ne_of_isDigit {c : Char} (digit : c.isDigit = true) : c ≠ escape := by
  rintro rfl
  exact absurd digit (by decide)

theorem not_mem_twoDigits (n : Int) : escape ∉ (Moment.twoDigits n).toList := by
  have digits : ∀ d < 10, (Nat.digitChar d).isDigit = true := by decide
  have digit (m : Nat) := (escape_ne_of_isDigit (digits (m % 10) (Nat.mod_lt _ (by decide)))).symm
  simp only [Moment.twoDigits, String.toList_ofList, List.mem_cons, List.not_mem_nil,
    or_false, not_or]
  exact ⟨digit _, digit _⟩

theorem not_mem_stamp (m : Moment) : escape ∉ m.stamp.toList := by
  have dash : escape ∉ "-".toList := by decide
  have gap : escape ∉ " ".toList := by decide
  have colon : escape ∉ ":".toList := by decide
  simp only [Moment.stamp, String.toList_append, List.mem_append, not_or]
  simp only [dash, gap, colon, not_mem_twoDigits, not_false_eq_true, and_self]

theorem not_mem_toString (i : Int) : escape ∉ (toString i).toList := by
  have digits (n : Nat) : escape ∉ n.repr.toList := fun inside => by
    rw [Nat.toList_repr] at inside
    exact escape_ne_of_isDigit (Nat.isDigit_of_mem_toDigits (by decide) (by decide) inside) rfl
  cases i with
  | ofNat n => exact digits n
  | negSucc n =>
    show escape ∉ ("-" ++ n.succ.repr).toList
    rw [String.toList_append, List.mem_append, not_or]
    exact ⟨by decide, digits _⟩

theorem not_mem_column {s : String} (clean : escape ∉ s.toList) (width : Nat) :
    escape ∉ (column width s).toList := by
  rw [column, String.toList_append, String.toList_ofList, List.mem_append, not_or]
  refine ⟨clean, fun inside => ?_⟩
  exact absurd (List.eq_of_mem_replicate inside) (by decide)

theorem not_mem_fileName {path : String} (clean : escape ∉ path.toList) :
    escape ∉ (fileName path).toList := fun inside => by
  rw [fileName, String.toList_ofList, List.mem_reverse] at inside
  exact clean (List.mem_reverse.1 (List.takeWhile_subset _ inside))

def Level.nameFor (n : Int) : String := (Level.nameOf? n).getD ("Level " ++ toString n)

theorem not_mem_nameFor (n : Int) : escape ∉ (Level.nameFor n).toList := by
  have known : ∀ v ∈ Severity.all, escape ∉ v.name.toList := by decide
  unfold Level.nameFor
  cases named : Level.nameOf? n with
  | none =>
    rw [Option.getD_none, String.toList_append, List.mem_append, not_or]
    exact ⟨by decide, not_mem_toString n⟩
  | some name =>
    unfold Level.nameOf? at named
    split at named
    · obtain rfl := Option.some.inj named
      show escape ∉ "NOTSET".toList
      decide
    · obtain ⟨v, found, rfl⟩ := Option.map_eq_some_iff.1 named
      exact known v (List.mem_of_find?_eq_some found)

end Log

namespace Record

open Log
open Color (escape)

/-! Both lines of a record -/

def paletteOf (name : String) : Color × Color :=
  match Severity.ofName? name with
  | some v => v.style
  | none => (.reset, .reset)

theorem colorsFor_painted (name : String) (w : World) :
    colorsFor true name w = .ok (paletteOf name) w := by
  by_cases known : ∃ v : Severity, v.name = name
  · obtain ⟨v, rfl⟩ := known
    cases v <;> rfl
  · have other (v : Severity) : (name == v.name) = false :=
      beq_false_of_ne fun same => known ⟨v, same.symm⟩
    have names : levelStyles.map Prod.fst = Severity.all.map Severity.name := by decide
    have lacks : levelStyles.lookup name = none := List.lookup_eq_none_iff.2 fun p hp => by
      obtain ⟨v, -, same⟩ := List.mem_map.1 (names ▸ List.mem_map_of_mem hp)
      rw [← same, bne, other v]
      rfl
    have absent : styleOf name = ("reset", "reset") := by rw [styleOf, lacks]; rfl
    have unknown : Severity.ofName? name = none := by
      refine Option.eq_none_iff_forall_ne_some.2 fun v found => known ⟨v, ?_⟩
      exact Severity.ofName?_eq_some.1 found
    rw [colorsFor, paletteOf, absent, unknown]
    rfl

def columns (h : Host) (r : Record) : Act Columns := do
  let name ← levelName h r.level
  let style := paletteOf (name.text?.getD "")
  let time := (← liftExcept (moment? (← get) r.created)).stamp
  let function ← h.formatted r.function
  let file ← r.fileText h
  let line ← h.formatted r.line
  let level ← h.columnOf levelWidth name
  let logger ← h.columnOf loggerWidth r.name
  let message ← r.text h
  let origin := "- (" ++ function ++ " - " ++ file ++ ":" ++ line ++ ")"
  pure { time, style, level, logger, message, origin }

theorem lineText_eq (h : Host) (painted : Value) (r : Record) : r.lineText h painted = (do
    let painted ← h.truth painted
    let c ← r.columns h
    pure (c.line painted)) := by
  have colors : colorsFor true = fun name => pure (paletteOf name) := funext₂ colorsFor_painted
  refine congrArg (h.truth painted >>= ·) (funext fun painted => ?_)
  cases painted with
  | true => simp only [columns, colors, bind_assoc, pure_bind]
  | false =>
    -- a plain line has no use for its colours
    simp only [columns, colorsFor, Bool.false_eq_true, if_false, bind_assoc, pure_bind]
    rfl

theorem lineText_flag (h : Host) (painted : Bool) (r : Record) (w : World) :
    r.lineText h (.flag painted) w = match r.columns h w with
      | .ok c u => .ok (c.line painted) u
      | .error f u => .error f u := by
  have counted : h.truth (.flag painted) w = .ok painted w := rfl
  rw [lineText_eq, bind_of_ok counted, bind_run]
  cases r.columns h w <;> rfl

/-- The names of a record are texts, its level and its line whole numbers. Its message and its
arguments may be anything. -/
structure Spells (r : Record) (logger path function : String) (level line : Int) : Prop where
  name : ∃ place, r.name = .text place logger
  path : ∃ place, r.path = .text place path
  function : ∃ place, r.function = .text place function
  level : ∃ place, r.level = .int place level
  line : ∃ place, r.line = .int place line

section spelled

variable {h : Host} {r : Record} {w : World} {logger path function : String} {level line : Int}
  {moment : Log.Moment}

theorem levelName_int (h : Host) (place : Nat) (n : Int) (w : World) :
    levelName h (.int place n) w = .ok (.word (Level.nameFor n)) w := by
  unfold levelName Level.nameFor
  simp only [Value.int?, Option.bind_some]
  cases Level.nameOf? n <;> rfl

def columnsWith (logger path function : String) (level line : Int) (moment : Log.Moment)
    (message : String) : Columns where
  time := moment.stamp
  style := paletteOf (Level.nameFor level)
  level := column levelWidth (Level.nameFor level)
  logger := column loggerWidth logger
  message := message
  origin := "- (" ++ function ++ " - " ++ fileName path ++ ":" ++ toString line ++ ")"

/-- Where names and numbers are spelled and the time can be told, the message decides whether there
is a line. -/
theorem columns_spelled (spells : r.Spells logger path function level line)
    (dated : moment? w r.created = .ok moment) :
    r.columns h w = match r.text h w with
      | .ok message u => .ok (columnsWith logger path function level line moment message) u
      | .error f u => .error f u := by
  obtain ⟨⟨_, named⟩, ⟨_, placed⟩, ⟨_, called⟩, ⟨_, levelled⟩, ⟨_, numbered⟩⟩ := spells
  have time : liftExcept (moment? w r.created) w = .ok moment w := by
    rw [dated]
    rfl
  have function_eq : h.formatted r.function w = .ok function w := by rw [called]; rfl
  have file : r.fileText h w = .ok (fileName path) w := by rw [fileText, placed]; rfl
  have line_eq : h.formatted r.line w = .ok (toString line) w := by rw [numbered]; rfl
  have levelColumn : h.columnOf levelWidth (.word (Level.nameFor level)) w =
      .ok (column levelWidth (Level.nameFor level)) w := rfl
  have loggerColumn : h.columnOf loggerWidth r.name w = .ok (column loggerWidth logger) w := by
    rw [named]
    rfl
  rw [columns, levelled, bind_of_ok (levelName_int h _ _ w), bind_of_ok (get_run w),
    bind_of_ok time,
    bind_of_ok function_eq, bind_of_ok file, bind_of_ok line_eq, bind_of_ok levelColumn,
    bind_of_ok loggerColumn, bind_run]
  cases r.text h w <;> rfl

theorem clean_columnsWith {message : String} (level line : Int) (moment : Log.Moment)
    (logger_clean : escape ∉ logger.toList) (path_clean : escape ∉ path.toList)
    (function_clean : escape ∉ function.toList) (message_clean : escape ∉ message.toList) :
    (columnsWith logger path function level line moment message).Clean where
  time := not_mem_stamp moment
  level := not_mem_column (not_mem_nameFor level) _
  logger := not_mem_column logger_clean _
  message := message_clean
  origin := by
    have opening : escape ∉ "- (".toList := by decide
    have between : escape ∉ " - ".toList := by decide
    have colon : escape ∉ ":".toList := by decide
    have closing : escape ∉ ")".toList := by decide
    simp only [columnsWith, String.toList_append, List.mem_append, not_or]
    exact ⟨⟨⟨⟨⟨⟨opening, function_clean⟩, between⟩, not_mem_fileName path_clean⟩, colon⟩,
      not_mem_toString line⟩, closing⟩

/-- The painted and the plain line of a record fail alike, or both leave the same when their
terminal codes are deleted; where the plain line holds no escape character, the painted one leaves
it. If the names of the record are texts and its time can be told, what fails is `getMessage`, and
it is the texts of the record that must not hold the escape character. `COLORS` has both colours of
every level name. -/
theorem strip_lineText (h : Host) (r : Record) (w : World) :
    ((∃ f u, ∀ painted, r.lineText h (.flag painted) w = .error f u) ∨
      ∃ painted plain u, r.lineText h (.flag true) w = .ok painted u ∧
        r.lineText h (.flag false) w = .ok plain u ∧ strip painted.toList = strip plain.toList ∧
        (escape ∉ plain.toList → strip painted.toList = plain.toList)) ∧
    (∀ logger path function level line moment, r.Spells logger path function level line →
      moment? w r.created = .ok moment →
      (∀ f u, r.text h w = .error f u → ∀ painted, r.lineText h (.flag painted) w = .error f u) ∧
      ∀ message u, r.text h w = .ok message u → ∃ painted plain,
        r.lineText h (.flag true) w = .ok painted u ∧ r.lineText h (.flag false) w = .ok plain u ∧
        (escape ∉ logger.toList → escape ∉ path.toList → escape ∉ function.toList →
          escape ∉ message.toList → strip painted.toList = plain.toList)) ∧
    ∀ level u, ∃ colors, colorsFor true level u = .ok colors u := by
  refine ⟨?_, ?_, fun level u => ⟨_, colorsFor_painted level u⟩⟩
  · cases found : r.columns h w with
    | error f u =>
      refine .inl ⟨f, u, fun painted => ?_⟩
      rw [lineText_flag, found]
    | ok c u =>
      have same : strip (c.line true).toList = strip (c.line false).toList :=
        (c.strip_line true).trans (c.strip_line false).symm
      refine .inr ⟨c.line true, c.line false, u, ?_, ?_, same, fun clean => ?_⟩
      · rw [lineText_flag, found]
      · rw [lineText_flag, found]
      · exact same.trans (strip_of_not_mem clean)
  · intro logger path function level line moment spells dated
    have decides := columns_spelled spells dated (h := h)
    constructor
    · intro f u failed painted
      rw [lineText_flag, decides, failed]
    · intro message u made
      let c := columnsWith logger path function level line moment message
      refine ⟨c.line true, c.line false, ?_, ?_, fun logger path function message => ?_⟩
      · rw [lineText_flag, decides, made]
      · rw [lineText_flag, decides, made]
      · exact (clean_columnsWith level line moment logger path function message).strip_line

def cutOff : Record where
  name := .word "parser"
  level := .number 25
  path := .word "lib/rules.py"
  line := .number 7
  message := .word "half\x1b[1"
  args := .inOrder []
  function := .word "visit"
  created := .number 0
  failing := false

/-- A message that ends with a code that is cut off. -/
theorem strip_lineText_cutOff : ∃ painted plain,
    cutOff.lineText (Host.ofDepth 1) (.flag true) World.start = .ok painted World.start ∧
    cutOff.lineText (Host.ofDepth 1) (.flag false) World.start = .ok plain World.start ∧
    strip painted.toList = strip plain.toList := by
  obtain ⟨agree, spelled, -⟩ := strip_lineText (Host.ofDepth 1) cutOff World.start
  have spells : cutOff.Spells "parser" "lib/rules.py" "visit" 25 7 :=
    ⟨⟨0, rfl⟩, ⟨0, rfl⟩, ⟨0, rfl⟩, ⟨0, rfl⟩, ⟨0, rfl⟩⟩
  have dated : moment? World.start cutOff.created = .ok (Log.Moment.ofSeconds 0) := rfl
  obtain ⟨painted, plain, colored, uncolored, -⟩ :=
    (spelled _ _ _ _ _ _ spells dated).2 "half\x1b[1" World.start rfl
  rcases agree with ⟨f, u, fails⟩ | ⟨painted', plain', u, colored', uncolored', same, -⟩
  · cases (fails true).symm.trans colored
  · obtain ⟨rfl, rfl⟩ := EStateM.Result.ok.inj (colored'.symm.trans colored)
    obtain ⟨rfl, -⟩ := EStateM.Result.ok.inj (uncolored'.symm.trans uncolored)
    exact ⟨_, _, colored, uncolored, same⟩

end spelled

end Record

end EventTasks
