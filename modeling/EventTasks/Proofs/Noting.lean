import EventTasks.Proofs.Stripping
import EventTasks.Proofs.LateBinding

/-!
What is noted of a message that a task forwards.
-/
namespace EventTasks

open Act Log

namespace Record

def ofMessage (severity : Severity) (logger message path function : String) (line created : Int) :
    Record where
  name := .word logger
  level := .number severity.number
  path := .word path
  line := .number line
  message := .word message
  args := .inOrder []
  function := .word function
  created := .number created
  failing := false

section ofMessage

variable {h : Host} {w : World} (severity : Severity) (logger message path function : String)
  (line created : Int)

theorem text_ofMessage :
    (ofMessage severity logger message path function line created).text h w = .ok message w := rfl

theorem lineText_ofMessage {moment : Log.Moment}
    (dated : Log.Moment.ofSeconds? created = .ok moment) :
    ∃ front back, (ofMessage severity logger message path function line created).lineText h
      (.flag false) w = .ok (front ++ message ++ back) w := by
  let r := ofMessage severity logger message path function line created
  have spells : r.Spells logger path function severity.number line :=
    ⟨⟨_, rfl⟩, ⟨_, rfl⟩, ⟨_, rfl⟩, ⟨_, rfl⟩, ⟨_, rfl⟩⟩
  let c := columnsWith logger path function severity.number line moment message
  have columns : r.columns h w = .ok c w := columns_spelled spells dated
  refine ⟨c.time ++ " | " ++ c.level ++ " | " ++ c.logger ++ " | ", " " ++ c.origin, ?_⟩
  show r.lineText h (.flag false) w = _
  rw [lineText_flag, columns]
  simp [c, columnsWith, Columns.line, ink, String.intercalate_cons_cons, String.append_assoc]

end ofMessage

end Record

namespace Task

/-- The message that a forwarder logs: the prefix, and for each argument a space and its text. -/
def message (settings : Settings) (name : String) (texts : List String) : String :=
  texts.foldl (fun m t => m ++ " " ++ t)
    (if settings.useColors then settings.prefixColor.paint ("[" ++ name ++ "]")
      else "[" ++ name ++ "]")

theorem intercalate_eq_foldl (first : String) (texts : List String) :
    String.intercalate " " (first :: texts) = texts.foldl (fun m t => m ++ " " ++ t) first := by
  induction texts generalizing first with
  | nil => rw [String.intercalate_singleton, List.foldl_nil]
  | cons t texts ih =>
    rw [List.foldl_cons, ← ih, String.intercalate_cons_cons, String.intercalate_cons_append]

def HaveTexts (h : Host) (w : World) (args : List Value) (texts : List String) : Prop :=
  ∀ s, ∃ u, h.textsOf args { w.later.later with around := s } = .ok texts u ∧ u.around = s

variable {w : World} {i j r k : Nat} {text : String} {info : ForwarderInfo} {args : List Value}
  {texts : List String} {settings : Settings} {op : LogOp}

theorem haveTexts_of_forall₂ {h : Host}
    (told : List.Forall₂ (fun v t => ∀ u, h.textOf v u = .ok t u) args texts) (w : World) :
    HaveTexts h w args texts := fun s => by
  refine ⟨{ w.later.later with around := s }, ?_, rfl⟩
  induction told with
  | nil => rfl
  | cons first rest ih => rw [Host.textsOf, bind_of_ok (first _), bind_of_ok ih, pure_run]

/-- A method of `ConformanceLogger` logs the texts of its arguments with a space between them. -/
theorem log_run {h : Host} {u : World} (op : LogOp) (v : Value)
    (told : h.textsOf args w = .ok texts u) :
    Calling.library h (.log op) true (v :: args) [] w =
      .ok .nothing { u with around := { u.around with
      root := u.around.root.say op.severity Calling.capabilityLogger
        (String.intercalate " " texts) } } := by
  have matched : (Operation.log op).signature.bind (v :: args) [] = .ok ([v], args) := by
    simp [Operation.signature, Signature.bind, Signature.namedFault?, Signature.argument?]
  have plain : Calling.library h (.log op) true (v :: args) [] w = Calling.log h op args w := by
    show Calling.plain h (.log op) (v :: args) [] w = _
    rw [Calling.plain, matched]
    rfl
  rw [plain, Calling.log, bind_of_ok told]
  rfl

section forwarder

variable (speaks : SpeaksTo w info i r text) (there : w.forwarders[j]? = some info)
  (name : info.name = op.name) (usual : w.ReadsUsually r)
  (means : w.Means r op.name (.library (.log op)))
  (told : HaveTexts (Host.ofDepth k) w args texts)

include speaks there name usual means told

/-- Once the settings are read, the message is logged, and nothing else happens to the
surroundings. -/
theorem forwarder_run {found : Nat × Settings} {s : Surroundings}
    (read : Surroundings.sharedSettings w.around = .ok found s) :
    ∃ u, (Host.ofDepth (k + 2)).call (.function (.forwarder j)) args [] w = .ok .nothing u ∧
      u.around = { s with
        root := s.root.say op.severity Calling.capabilityLogger (message found.2 text texts) } := by
  obtain ⟨u, run, same⟩ := told s
  let first := if found.2.useColors then found.2.prefixColor.paint ("[" ++ text ++ "]")
    else "[" ++ text ++ "]"
  have asked : around Surroundings.sharedSettings w.later.later =
      .ok found { w.later.later with around := s } := by
    rw [around, show w.later.later.around = w.around from rfl, read]
  have fronted : (Host.ofDepth k).textsOf (front found.2 text :: args)
      { w.later.later with around := s } = .ok (first :: texts) u := by
    rw [Host.textsOf, bind_of_ok (show (Host.ofDepth k).textOf (front found.2 text) _ = .ok first _
      from rfl), bind_of_ok run, pure_run]
  have method := Host.attr_means (h := Host.ofDepth (k + 1)) usual (name ▸ means)
  have whole := (speaks.call there method .later args).trans ((bind_of_ok asked).trans
    ((Host.call_method k _ r (.log op) _).trans (log_run op (.object r) fronted)))
  refine ⟨_, whole, ?_⟩
  rw [intercalate_eq_foldl, ← same]
  rfl

variable (gives : w.around.Gives settings)

include gives

/-- What is heard of a call of a forwarder: the message, if its severity reaches the level of the
root, and before it the warnings of reading the settings. -/
theorem forwarder_heard :
    ∃ u, (Host.ofDepth (k + 2)).call (.function (.forwarder j)) args [] w = .ok .nothing u ∧
      u.around.root.heard = (if w.around.root.level.rank ≤ op.severity.number then
        [Root.entry op.severity Calling.capabilityLogger (message settings text texts)] else []) ++
          w.around.warnings ++ w.around.root.heard := by
  obtain ⟨number, s, read, -, alike⟩ := Surroundings.sharedSettings_gives gives
  obtain ⟨u, run, logged⟩ := forwarder_run speaks there name usual means told read
  refine ⟨u, run, ?_⟩
  rw [logged, Root.heard_say, Root.isEnabled_severity, alike.level,
    Surroundings.heard_sharedSettings read]
  by_cases heard : w.around.root.level.rank ≤ op.severity.number <;> simp [heard]

/-- Calling a forwarder of a log method, while its task is installed on a runner that has the
method, logs one message if its severity reaches the level of the root, and none otherwise, besides
the warnings of a settings file that is read by the way. The message has the severity of the method;
it is the prefix, then a space and the text of each argument. It is never formatted with arguments,
and a plain line shows it as it is. -/
theorem forwarder_notes :
    ∃ u, (Host.ofDepth (k + 2)).call (.function (.forwarder j)) args [] w = .ok .nothing u ∧
      u.around.root.heard = (if w.around.root.level.rank ≤ op.severity.number then
        [Root.entry op.severity Calling.capabilityLogger (message settings text texts)] else []) ++
          w.around.warnings ++ w.around.root.heard ∧
      ∀ path function line created (h : Host) x,
        let record := Record.ofMessage op.severity Calling.capabilityLogger
          (message settings text texts) path function line created
        record.text h x = .ok (message settings text texts) x ∧
        ∀ moment, Log.Moment.ofSeconds? created = .ok moment → ∃ front back,
          record.lineText h (.flag false) x =
            .ok (front ++ message settings text texts ++ back) x := by
  obtain ⟨u, run, heard⟩ := forwarder_heard speaks there name usual means told gives
  refine ⟨u, run, heard, ?_⟩
  intro path function line created h x
  constructor
  · exact Record.text_ofMessage _ _ _ path function line created
  · intro moment dated
    exact Record.lineText_ofMessage _ _ _ path function line created dated

end forwarder

end Task

open EventTasks.Task

namespace Opening

def voice : ForwarderInfo := ⟨.object task, .word "info", "info", "ConformanceTask.info"⟩

def talking (around : Surroundings) : World :=
  { World.opening rules with
    objects := (World.opening rules).objects.modify emitter fun o =>
      { o with cls := Library.runnerClass }
    dicts := (World.opening rules).dicts.modify 1 (·.setText runnerField (.object emitter))
    forwarders := #[voice]
    around }

def garbled : Surroundings := { Surroundings.start with file := some "a b" }

theorem speaksTo_talking (around : Surroundings) :
    SpeaksTo (talking around) voice task emitter "Base" where
  task := rfl
  usual := ⟨show World.start.hook? Library.taskClass "__getattribute__" = none by decide,
    show World.start.hook? Library.taskClass "__getattr__" = none by decide⟩
  holds := ⟨1, rfl, by simp [talking, World.opening, World.start]⟩
  prefixes := ⟨rfl, rfl⟩
  runner :=
    .of_own rfl (show World.start.definition? Library.taskClass runnerField = none by decide)
  named := ⟨.word "Base", .inr ⟨rfl, rfl, rfl⟩, fun _ _ => rfl⟩

theorem means_talking (around : Surroundings) :
    (talking around).Means emitter LogOp.info.name (.library (.log .info)) := ⟨rfl, rfl⟩

theorem usual_talking (around : Surroundings) : (talking around).ReadsUsually emitter :=
  ⟨show World.start.hook? Library.runnerClass "__getattribute__" = none by decide,
    show World.start.hook? Library.runnerClass "__getattr__" = none by decide⟩

/-- The arguments may hold percent signs and braces; the message is logged once. -/
theorem forwarder_notes_talking : ∃ u,
    (Host.ofDepth 3).call (.function (.forwarder 0)) [.word "100%s [done]", .word "a\nb"] []
      (talking .start) = .ok .nothing u ∧ u.around.root.heard =
        [Root.entry .info Calling.capabilityLogger
          ((Color.lightBlack).paint "[Base]" ++ " 100%s [done] a\nb")] := by
  have there : (talking .start).forwarders[0]? = some voice := rfl
  have name : voice.name = LogOp.info.name := rfl
  have gives : (talking .start).around.Gives {} := rfl
  have told : HaveTexts (Host.ofDepth 1) (talking .start) [.word "100%s [done]", .word "a\nb"]
      ["100%s [done]", "a\nb"] :=
    haveTexts_of_forall₂ (.cons (fun _ => rfl) (.cons (fun _ => rfl) .nil)) _
  obtain ⟨u, run, heard, -⟩ := forwarder_notes (speaksTo_talking .start) there name
    (usual_talking .start) (means_talking .start) told gives
  exact ⟨u, run, heard⟩

/-- A line of the settings file that cannot be read is warned of by the way, so that two messages
are logged. -/
theorem forwarder_heard_twice : (talking garbled).around.Gives {} ∧
    (talking garbled).around.root.heard = [] ∧ ∃ u,
      (Host.ofDepth 3).call (.function (.forwarder 0)) [.word "x"] [] (talking garbled) =
        .ok .nothing u ∧ u.around.root.heard.length = 2 := by
  have there : (talking garbled).forwarders[0]? = some voice := rfl
  have name : voice.name = LogOp.info.name := rfl
  have gives : (talking garbled).around.Gives {} := rfl
  have told : HaveTexts (Host.ofDepth 1) (talking garbled) [.word "x"] ["x"] :=
    haveTexts_of_forall₂ (.cons (fun _ => rfl) .nil) _
  obtain ⟨u, run, heard⟩ := forwarder_heard (speaksTo_talking garbled) there name
    (usual_talking garbled) (means_talking garbled) told gives
  refine ⟨gives, rfl, u, run, ?_⟩
  rw [heard]
  rfl

end Opening

end EventTasks
