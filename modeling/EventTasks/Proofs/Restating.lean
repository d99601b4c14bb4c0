import EventTasks.Proofs.Validity

/-!
Settings that are stated anew. The values of the fields of any settings, given by name, make the
same settings again, whatever the environment and the settings file hold there: a value given by
name decides its field, and names of severities and colours are read as what they name. So reading a
level or a colour a second time changes nothing.
-/
namespace EventTasks

open Act

namespace Settings

def valueOf (s : Settings) (p q : Nat) : Field → Value
  | .devMode => .flag s.devMode
  | .logLevel => .text p s.logLevel.name
  | .attachLogger => .flag s.attachLogger
  | .prefixColor => .text q s.prefixColor.name
  | .useColors => .flag s.useColors

def Field.all : List Field := [devMode, logLevel, attachLogger, prefixColor, useColors]

/-- Some keyword arguments are those of all fields of the settings, in any order. -/
def Restates (given : List (String × Value)) (s : Settings) : Prop :=
  ∃ p q, given.Perm (Field.all.map fun f => (f.name, s.valueOf p q f))

/-! Names -/

theorem Field.mem_all (f : Field) : f ∈ Field.all := by cases f <;> decide

theorem Field.lower_name_inj {f g : Field} (same : Text.lower f.name = g.name) : f = g := by
  have differ : ∀ f ∈ Field.all, ∀ g ∈ Field.all, Text.lower f.name = g.name → f = g := by decide
  exact differ f f.mem_all g g.mem_all same

theorem Field.lower_name (f : Field) : Text.lower f.name = f.name := by cases f <;> decide

theorem upper_trim_name (v : Log.Severity) : Text.upper (Text.trim v.name) = v.name := by
  cases v <;> decide

theorem severityOf?_name (v : Log.Severity) : severityOf? v.name = some v :=
  severityOf?_eq_some.2 (upper_trim_name v)

theorem readSeverity_eq_ok {text : String} {v : Log.Severity} :
    readSeverity text = .ok v ↔ severityOf? text = some v := by
  unfold readSeverity
  cases severityOf? text <;> simp

theorem readColorName_eq_ok {name : String} {c : Log.Color} : readColorName name = .ok c ↔
    c.name = name := by
  rw [← Log.Color.ofName?_eq_some, readColorName]
  cases Log.Color.ofName? name <;> simp

theorem readSeverity_name (h : Host) (place : Nat) (v : Log.Severity) (w : World) :
    Script.readSeverity h (.text place v.name) w = .ok (.ok v) w := by
  have text : h.textOf (.text place v.name) w = .ok v.name w := rfl
  rw [Script.readSeverity, bind_run, attempt_eq, bind_run]
  simp only [text, severityOf?_name, pure_run]

section restates

variable {given : List (String × Value)} {s : Settings} {u : World} {h : Host}

theorem Restates.choice? (restates : Restates given s) {name : String}
    (other : ∀ f ∈ Field.all, f.name ≠ name) : given.lookup name = none ∧
      Script.choice? given name = none := by
  obtain ⟨p, q, perm⟩ := restates
  have none : given.lookup name = none := by
    refine List.lookup_eq_none_iff.2 fun entry inside => ?_
    obtain ⟨f, among, rfl⟩ := List.mem_map.1 (perm.mem_iff.1 inside)
    simpa using (other f among).symm
  exact ⟨none, by rw [Script.choice?, none]⟩

theorem Restates.deciding? (restates : Restates given s) {sources : Sources}
    (offered : sources.given = given.map fun p => (p.1, Host.inputOf u p.2)) :
    ∃ p q, ∀ f, sources.deciding? f = some (Host.inputOf u (s.valueOf p q f)) := by
  obtain ⟨p, q, perm⟩ := restates
  refine ⟨p, q, fun f => ?_⟩
  have member (entry : String × Input) : entry ∈ sources.given ↔
      ∃ g, entry = (g.name, Host.inputOf u (s.valueOf p q g)) := by
    rw [offered, (perm.map _).mem_iff]
    simp only [List.map_map, List.mem_map, Function.comp_apply]
    constructor
    · rintro ⟨g, -, rfl⟩
      exact ⟨g, rfl⟩
    · rintro ⟨g, rfl⟩
      exact ⟨g, g.mem_all, rfl⟩
  have found : (sources.given.find? fun p => Text.lower p.1 == f.name).isSome := by
    refine List.find?_isSome.2 ⟨_, (member _).2 ⟨f, rfl⟩, ?_⟩
    simpa using f.lower_name
  obtain ⟨entry, first⟩ := Option.isSome_iff_exists.1 found
  obtain ⟨g, rfl⟩ := (member entry).1 (List.mem_of_find?_eq_some first)
  obtain rfl : g = f := Field.lower_name_inj (by simpa using List.find?_some first)
  have given : sources.given? g = some (Host.inputOf u (s.valueOf p q g)) := by
    rw [Sources.given?, first]
    rfl
  rw [Sources.deciding?, given]

theorem Restates.fileOf (restates : Restates given s) (h : Host) (u : World) :
    ∃ file u', Script.fileOf h given u = .ok file u' := by
  have unnamed : given.lookup "_env_file" = none := (restates.choice? (by decide)).1
  have usual : Script.encodingOf h given = pure .utf8 := by
    rw [Script.encodingOf, (restates.choice? (by decide)).2]
  rw [Script.fileOf, unnamed]
  show ∃ file u', Script.readFile h given u = .ok file u'
  rw [Script.readFile, bind_run]
  simp only [get_run]
  cases u.around.file with
  | none => exact ⟨none, u, rfl⟩
  | some text =>
    simp only [usual, pure_bind, Encoding.decode_utf8]
    have decoded : liftExcept (.ok text : Except Fault String) u = .ok text u := rfl
    obtain ⟨u', warned⟩ : ∃ u', around (Surroundings.warnOfLines (Assignments.unreadable text)) u =
        .ok () u' := by
      rw [around, Surroundings.warnOfLines_run]
      exact ⟨_, rfl⟩
    exact ⟨some text, u', (bind_of_ok decoded).trans (bind_of_ok warned)⟩

theorem Restates.sourcesOf (restates : Restates given s) (h : Host) (u : World) :
    ∃ sources u', Script.sourcesOf h given u = .ok sources u' ∧
      sources.given = given.map fun p => (p.1, Host.inputOf u' p.2) := by
  have left {name : String} (other : ∀ f ∈ Field.all, f.name ≠ name) := (restates.choice? other).2
  obtain ⟨file, u', read⟩ := restates.fileOf h u
  have exact_eq : Script.flagChoice h given "_case_sensitive" false = pure false := by
    rw [Script.flagChoice, left (by decide)]
  have skip_eq : Script.flagChoice h given "_env_ignore_empty" true = pure true := by
    rw [Script.flagChoice, left (by decide)]
  have parts : Script.checkPartCount h given = pure () := by
    rw [Script.checkPartCount, left (by decide)]
  have word (usual : String) : Script.wordOf h given usual = pure (some usual) := by
    rw [Script.wordOf, left (by decide)]
  have used : Script.isWordUsed given = true := by
    rw [Script.isWordUsed, left (by decide)]
  have secrets : Script.checkSecrets h given = pure () := by
    rw [Script.checkSecrets, left (by decide)]
  rw [Script.sourcesOf]
  simp only [exact_eq, skip_eq, parts, word, used, secrets, pure_bind]
  rw [bind_of_ok read]
  exact ⟨_, u', rfl, rfl⟩

theorem Restates.settingsOf (restates : Restates given s) (h : Host) (u : World) :
    ∃ u', Script.settingsOf h given u = .ok s u' := by
  obtain ⟨sources, u', found, offered⟩ := restates.sourcesOf h u
  obtain ⟨p, q, decides⟩ := restates.deciding? offered
  have flag (f : Field) (b : Bool) (here : s.valueOf p q f = .flag b) :
      Script.readFlag h sources f = pure (.ok b) := by
    rw [Script.readFlag, decides, here]
    rfl
  have level : Script.readSeverity h (s.valueOf p q .logLevel) u' = .ok (.ok s.logLevel) u' :=
    readSeverity_name h p s.logLevel u'
  have color : readColor (Host.inputOf u' (s.valueOf p q .prefixColor)) = .ok s.prefixColor :=
    readColorName_eq_ok.2 rfl
  refine ⟨u', ?_⟩
  rw [Script.settingsOf, bind_of_ok found]
  have held (f : Field) : (Host.inputOf u' (s.valueOf p q f)).value = s.valueOf p q f := rfl
  simp only [flag .devMode s.devMode rfl, flag .attachLogger s.attachLogger rfl,
    flag .useColors s.useColors rfl, decides, held, pure_bind]
  rw [bind_of_ok level]
  simp only [resolveWith, field, decides, color, pure_run]

end restates

/-! Reading a second time -/

/-- Settings that were made are made again when their fields are given by name, in any world:
reading a level or a colour a second time gives the same. -/
theorem remade (h : Host) :
    (∀ given w settings w', Script.settingsOf h given w = .ok settings w' →
      ∀ again, Restates again settings → ∀ u, ∃ u', Script.settingsOf h again u = .ok settings u') ∧
    (∀ s settings s', Surroundings.readSettings s = .ok settings s' →
      ∀ again, Restates again settings → ∀ u, ∃ u', Script.settingsOf h again u = .ok settings u') ∧
    (∀ text v, readSeverity text = .ok v → Text.upper (Text.trim text) = v.name ∧
      Text.upper (Text.trim v.name) = v.name ∧ readSeverity v.name = .ok v) ∧
    ∀ name c, readColorName name = .ok c → c.name = name ∧ readColorName c.name = .ok c := by
  refine ⟨?_, ?_, ?_, ?_⟩
  · intro given w settings w' _ again restates u
    exact restates.settingsOf h u
  · intro s settings s' _ again restates u
    exact restates.settingsOf h u
  · intro text v accepted
    exact ⟨severityOf?_eq_some.1 (readSeverity_eq_ok.1 accepted), upper_trim_name v,
      readSeverity_eq_ok.2 (severityOf?_name v)⟩
  · intro name c accepted
    exact ⟨readColorName_eq_ok.1 accepted, readColorName_eq_ok.2 rfl⟩

def loud : World := { World.opening Opening.rules with
  around := { Surroundings.start with environment := [("CONFORMANCE_LOG_LEVEL", "loud")] } }

/-- Settings made elsewhere are made again there. -/
theorem remade_loud : ∃ settings w', Script.settingsOf (Host.ofDepth 1)
    [("log_level", .word " warning ")]
      (World.opening Opening.rules) = .ok settings w' ∧
    (∃ f s, Surroundings.readSettings loud.around = .error f s) ∧
    ∃ u', Script.settingsOf (Host.ofDepth 1) [("use_colors", .flag true), ("dev_mode", .flag false),
      ("log_level", .word "WARNING"), ("attach_logger", .flag true),
      ("prefix_color", .word "light_black")] loud = .ok settings u' := by
  have here : Script.settingsOf (Host.ofDepth 1) [("log_level", .word " warning ")]
      (World.opening Opening.rules) = .ok { logLevel := .warning } _ := rfl
  refine ⟨_, _, here, ⟨_, _, rfl⟩, (remade (Host.ofDepth 1)).1 _ _ _ _ here _ ⟨0, 0, ?_⟩ loud⟩
  exact (List.perm_append_singleton ("use_colors", Value.flag true) _).symm

end Settings

end EventTasks
