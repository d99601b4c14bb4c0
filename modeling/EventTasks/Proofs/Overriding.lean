import EventTasks.Proofs.Creating
import EventTasks.Proofs.Engaging

/-!
What is given for the handler of an event and what an install subscribes to it. A given key leads to
a registry key; an install names the handler of each registry key by itself. Where both come to one
name, what was given is subscribed. They do for a key that is given as it stands in the registry, if
it is no identifier and keeps its letters in upper case, and for an identifier and the key of its
event.
-/
namespace EventTasks

open Act

namespace Text

theorem upperChar_ne_nil (c : Char) : upperChar c ≠ [] := by
  have texts : ∀ entry ∈ upperTexts, entry.2 ≠ [] := by decide
  unfold upperChar imageOf
  split
  · simp
  · split
    · rename_i entry found
      simpa using texts entry (List.mem_of_find?_eq_some found)
    · split <;> simp

theorem upper_ne_empty {s : String} (nonempty : s ≠ "") : upper s ≠ "" := by
  intro empty
  have none : s.toList.flatMap upperChar = [] := by
    have same := congrArg String.toList empty
    rwa [upper, String.toList_ofList] at same
  cases letters : s.toList with
  | nil => exact nonempty (String.toList_eq_nil_iff.1 letters)
  | cons c rest =>
    rw [letters, List.flatMap_cons] at none
    exact upperChar_ne_nil c (List.append_eq_nil_iff.1 none).1

theorem toUpper_ascii {c : Char} (ascii : c.toNat < 128) :
    c.toUpper.toNat < 128 ∧ c.toUpper.toLower = c.toLower := by
  have all : ∀ n < 128, (Char.ofNat n).toUpper.toNat < 128 ∧
      (Char.ofNat n).toUpper.toLower = (Char.ofNat n).toLower := by decide
  rw [← Char.ofNat_toNat c]
  exact all c.toNat ascii

theorem lowerFrom_ascii {cs : List Char} (ascii : ∀ c ∈ cs, c.toNat < 128) (before : List Char) :
    lowerFrom before cs = cs.map Char.toLower := by
  induction cs generalizing before with
  | nil => rfl
  | cons c rest ih =>
    have here := ascii c (by simp)
    have other : c ≠ 'Σ' := by
      rintro rfl
      exact absurd here (by decide)
    rw [lowerFrom, if_neg other, lowerChar, if_pos here, ih fun c hc => ascii c (by simp [hc])]
    rfl

theorem flatMap_upperChar_ascii {cs : List Char} (ascii : ∀ c ∈ cs, c.toNat < 128) :
    cs.flatMap upperChar = cs.map Char.toUpper := by
  induction cs with
  | nil => rfl
  | cons c rest ih =>
    rw [List.flatMap_cons, upperChar, if_pos (ascii c (by simp)),
      ih fun c hc => ascii c (by simp [hc])]
    rfl

/-- In a text of the first letters upper case loses nothing that lower case keeps. -/
theorem lower_upper_of_ascii {s : String} (ascii : ∀ c ∈ s.toList, c.toNat < 128) :
    lower (upper s) = lower s := by
  have still : ∀ c ∈ s.toList.map Char.toUpper, c.toNat < 128 := by
    intro c hc
    obtain ⟨a, ha, rfl⟩ := List.mem_map.1 hc
    exact (toUpper_ascii (ascii a ha)).1
  rw [lower, upper, String.toList_ofList, flatMap_upperChar_ascii ascii, lowerFrom_ascii still,
    lower, lowerFrom_ascii ascii, List.map_map]
  congr 1
  exact List.map_congr_left fun c hc => (toUpper_ascii (ascii c hc)).2

end Text

namespace Naming

/-- The first text, given as a key of `handlers`, is meant for the registry key: it is that key
itself, or the identifier of its event. -/
inductive Leads : String → String → Prop where
  | itself {key : String} (other : ParseEvent.ofIdentifier? key = none)
    (cased : Text.lower (Text.upper key) = Text.lower key) : Leads key key
  | event (e : ParseEvent) : Leads e.identifier e.name

theorem registryKey_identifier (e : ParseEvent) : registryKey e.identifier = e.name := by
  have all : ∀ e ∈ ParseEvent.all, registryKey e.identifier = e.name := by decide
  exact all e (by cases e <;> decide)

theorem registryKey_ne_empty {s : String} (nonempty : s ≠ "") : registryKey s ≠ "" := by
  have names : ∀ e ∈ ParseEvent.all, e.name ≠ "" := by decide
  unfold registryKey
  split
  · rename_i e found
    exact names e (List.mem_of_find?_eq_some found)
  · exact Text.upper_ne_empty nonempty

/-- Then the handler of what is given is the handler of the key. -/
theorem Leads.handlerName? {s key : String} (leads : Leads s key) (nonempty : s ≠ "") :
    Naming.handlerName? (registryKey s) = Naming.handlerName? key := by
  cases leads with
  | itself other cased =>
    have upper : registryKey s = Text.upper s := by rw [registryKey, other]
    rw [Naming.handlerName?, if_neg (registryKey_ne_empty nonempty), Naming.handlerName?,
      if_neg nonempty, upper, cased]
  | event e => rw [registryKey_identifier]

end Naming

def Beginning.rule : Dictionary := .ofTexts [("RULE", .function (.library (.task .init)))]

namespace Task

variable {w u w' : World} {i d : Nat} {s : String} {f : Ref}

def Reaches (s : String) (f : Ref) (entry : Value × Value) (q : Value × Ref) : Prop :=
  q.1 = entry.2 ∧ ∀ place key, entry.1 = .text place key → Naming.Leads s key → q.2 = f

/-- What is shown under the name of a handler is resolved for the keys of that name. -/
theorem reaches_of_resolved {h : Host} {entry : Value × Value} {q : Value × Ref} (nonempty : s ≠ "")
    (usual : u.ReadsUsually i) (holds : u.Holds i d)
    (shows : u.Shows i (Naming.handlerWord ++ Text.lower (Naming.registryKey s)) (.ref f))
    (resolved : Resolved h u i d entry q) : Reaches s f entry q := by
  refine ⟨resolved.event, fun place key text leads => ?_⟩
  obtain ⟨place', key', n, v, v', text', named, kept, read⟩ := resolved.read
  obtain ⟨-, rfl⟩ := Value.text.inj (text.symm.trans text')
  have name : n = Naming.handlerWord ++ Text.lower (Naming.registryKey s) := by
    have same := (leads.handlerName? nonempty).trans named
    rw [Naming.handlerName?, if_neg (Naming.registryKey_ne_empty nonempty)] at same
    exact (Option.some.inj same).symm
  subst name
  have given := Host.attrOrNothing_gives (h := h) (kept.readsUsually usual)
    (.inl (kept.shows holds (.inr id) (handlerName_ne named) shows))
  exact (Value.ref.inj (EStateM.Result.ok.inj (given.symm.trans read)).1).symm

theorem exists_of_reaches {entries : List (Value × Value)} {pairs : List (Value × Ref)}
    (reached : List.Forall₂ (Reaches s f) entries pairs) {entry : Value × Value}
    (inside : entry ∈ entries) {place : Nat} {key : String} (text : entry.1 = .text place key)
    (leads : Naming.Leads s key) : (entry.2, f) ∈ pairs := by
  obtain ⟨q, found, first⟩ := exists_of_forall₂ reached.flip inside
  have same : q = (entry.2, f) := Prod.ext first.1 (first.2 place key text leads)
  exact same ▸ found

/-- What is given in `handlers` for a registry key, as that key or by the identifier of its event,
is the handler of the key. A task made with it, and installed while what it shows under the names of
its handlers is as before, subscribes it to what the registry has under the key. -/
theorem override_reaches {name handlers : Value} {place k : Nat} (isNew : NewObject k w i d)
    (readable : obstacle? (Host.ofDepth k) w (w.objectClassOf i) = none)
    (given : Given w d handlers [(.text place s, .ref f)]) (nonempty : s ≠ "")
    (callable : w.isCallable (.ref f) = true) (simple : name.IsSimple)
    (named : name = .nothing → IsNamed w i)
    (settable : w.Settable i (Naming.handlerWord ++ Text.lower (Naming.registryKey s))) :
    (∀ key, Naming.Leads s key →
      Naming.handlerName? (Naming.registryKey s) = Naming.handlerName? key) ∧
    ∃ w', create (Host.ofDepth (k + 3)) (.object i) name handlers w = .ok .nothing w' ∧
      Made k w w' i d name [(Naming.handlerWord ++ Text.lower (Naming.registryKey s), .ref f)] ∧
      ∀ u reg l options flag r e p depth v u', OffersEmitter u i d reg l options flag r e p →
        (∀ n x, Naming.isHandlerName n = true → w'.Shows i n x → u.Shows i n x) →
        install (Host.ofDepth depth) (.object i) options u = .ok v u' →
        (∃ pairs, List.Forall₂ (Reaches s f) l.entries pairs ∧
          u'.tableAt p = (u.tableAt p).subscribeAll (handed pairs)) ∧
        ∀ entry ∈ l.entries, ∀ place key, entry.1 = .text place key → Naming.Leads s key →
          ∃ topic, entry.2.key = .ok topic ∧ f ∈ (u'.tableAt p).listeners topic := by
  refine ⟨fun key leads => leads.handlerName? nonempty, ?_⟩
  let handler := Naming.handlerWord ++ Text.lower (Naming.registryKey s)
  let shown : Value → String := fun _ => Text.quoted s
  let key : Value → String := fun _ => Naming.registryKey s
  have legible : ∀ e ∈ [(Value.text place s, Value.ref f)], Legible (Host.ofDepth (k + 3)) d w e.1
      (shown e.1) (key e.1) := by
    intro e he
    rw [List.mem_singleton.1 he]
    exact legible_text _ d w place s
  obtain ⟨w', outcome⟩ := create_eq isNew given simple named legible fun e _ => settable
  have fine : [(Value.text place s, Value.ref f)].findSome? (spoils? w shown key) = none := by
    simp [spoils?, callable, key, Naming.registryKey_ne_empty nonempty]
  rw [fine, readable] at outcome
  obtain ⟨run, made⟩ := outcome
  have made : Made k w w' i d name [(handler, .ref f)] := made
  have handles : Naming.isHandlerName handler = true :=
    isHandlerName_namedFor key (.nothing, .nothing)
  have shown : w'.Shows i handler (.ref f) := by
    have receives := made.receives handler handles
    have last : lastFor [(handler, Value.ref f)] handler = some (.ref f) := by
      simp [lastFor]
    have own : (w'.attributesOf i).text? handler = some (.ref f) := by
      rw [last] at receives
      generalize (w'.attributesOf i).text? handler = found at receives
      cases receives
      rfl
    exact made.shows handler _ handles own
  refine ⟨w', run, made, fun u reg l options flag r e p depth v u' offersEmitter stays done => ?_⟩
  obtain ⟨-, pairs, handed, installed⟩ := install_done offersEmitter done
  obtain ⟨k', -, resolved⟩ := handed.resolved
  have reached : List.Forall₂ (Reaches s f) l.entries pairs := resolved.imp fun _ _ =>
    reaches_of_resolved nonempty offersEmitter.ordinary.usual offersEmitter.ordinary.holds
      (stays handler _ handles shown)
  refine ⟨⟨pairs, reached, handed.table⟩, fun entry inside place key text leads => ?_⟩
  have pair := exists_of_reaches reached inside text leads
  obtain ⟨topic, key⟩ := key_of_refused installed.keyed pair
  refine ⟨topic, key, ?_⟩
  rw [handed.table, Table.listeners_subscribeAll]
  exact List.mem_append_right _
    (Table.mem_handlersFor.2 ⟨_, mem_handed installed.keyed pair key, rfl⟩)

/-- What is given for `RULE` is subscribed to `parse:rule`. -/
theorem override_reaches_rule : ∃ w' v u' topic,
    create (Host.ofDepth 5) (.object Opening.task) .nothing (.ref (.dict 3))
      (World.beginning Beginning.rule) = .ok .nothing w' ∧
    install (Host.ofDepth 5) (.object Opening.task)
      (.options 0 (.object Opening.emitter) (some false)) w' = .ok v u' ∧
    (Value.word "parse:rule").key = .ok topic ∧
    .function (.library (.task .init)) ∈ (u'.tableAt 0).listeners topic := by
  have given : Given (World.beginning Beginning.rule) 1 (.ref (.dict 3))
      [(.word "RULE", .function (.library (.task .init)))] :=
    Beginning.isGiven (Dictionary.textual_ofTexts _) rfl Beginning.size_dicts
  obtain ⟨-, w', created, made, reaches⟩ := override_reaches (k := 2) Beginning.isNew
    Beginning.obstacle?_eq given (by decide) rfl (show Value.nothing.IsSimple from trivial)
    (fun _ => Beginning.named) (Beginning.settable_handler (by decide +kernel))
  obtain ⟨v, u', run⟩ : ∃ v u', (do
      let _ ← create (Host.ofDepth 5) (.object Opening.task) .nothing (.ref (.dict 3))
      install (Host.ofDepth 5) (.object Opening.task)
        (.options 0 (.object Opening.emitter) (some false)) : Act Value)
      (World.beginning Beginning.rule) = .ok v u' := exists_of_succeeds (by decide +kernel)
  rw [bind_of_ok created] at run
  obtain ⟨-, subscribed⟩ :=
    reaches w' _ _ _ _ _ _ _ 5 v u' (Beginning.offersEmitter made trivial (some false))
    (fun _ _ _ => id) run
  have inside : (Value.word "RULE", Value.word "parse:rule") ∈ Value.registryEntries :=
    List.mem_map_of_mem (a := ("RULE", "parse:rule")) (by decide)
  obtain ⟨topic, key, heard⟩ := subscribed _ inside 0 "RULE" rfl
    (.itself (by decide) (Text.lower_upper_of_ascii (by simp)))
  exact ⟨w', v, u', topic, created, run, key, heard⟩

def renamed : World :=
  let start := World.beginning (.ofTexts [("parse:rule", .function (.library (.task .init)))])
  { start with
    classes := start.classes.modify Library.taskClass fun info =>
      { info with body := ("events", .ref (.dict start.dicts.size)) :: info.body }
    dicts := start.dicts.push (.ofTexts [("parse:rule", .event .rule)]) }

/-- A registry key that is an identifier, or one that upper case does not keep, is not reached by
itself. -/
theorem override_misses : ∃ w' f u',
    create (Host.ofDepth 5) (.object Opening.task) .nothing (.ref (.dict 3)) renamed =
      .ok .nothing w' ∧
    install (Host.ofDepth 5) (.object Opening.task)
      (.options 0 (.object Opening.emitter) (some false)) w' = .error f u' ∧
    f.kind = .missingHandler ∧
    Naming.handlerName? (Naming.registryKey "parse:rule") ≠ Naming.handlerName? "parse:rule" ∧
    Naming.handlerName? (Naming.registryKey "ß") ≠ Naming.handlerName? "ß" := by
  obtain ⟨_, u, run⟩ : ∃ v u, (do
      let made ← create (Host.ofDepth 5) (.object Opening.task) .nothing (.ref (.dict 3))
      let outcome ← attempt (install (Host.ofDepth 5) (.object Opening.task)
        (.options 0 (.object Opening.emitter) (some false)))
      if made.isNothing ∧ endedIn .missingHandler outcome then pure ()
      else throw .noRunner : Act Unit) renamed = .ok v u :=
    exists_of_succeeds (by decide +kernel)
  obtain ⟨made, w', created, run⟩ := bind_eq_ok.1 run
  obtain ⟨outcome, u', tried, run⟩ := bind_eq_ok.1 run
  split at run
  · rename_i all
    obtain rfl := Value.eq_of_isNothing all.1
    obtain ⟨f, installed, kind⟩ := exists_of_endedIn tried all.2
    exact ⟨w', f, u', created, installed, kind, by decide +kernel, by decide +kernel⟩
  · cases run

end Task

end EventTasks
