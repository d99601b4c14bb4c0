import EventTasks.Proofs.Making
import EventTasks.Proofs.Opening

/-!
What making a task comes to, for whatever is given for its handlers. If its class has all that an
install needs, the new task is ordinary. The world of the examples holds a new object of the class
of tasks, an emitter that was just made, and a mapping of handlers.
-/
namespace EventTasks

open Act EventTasks.Task

namespace Task

variable {w w' : World} {i d k : Nat} {name : Value} {given : List (String × Value)} {reg : Ref}
  {l : Listing}

/-- The class of a new object has what `install` needs of a task, its handlers apart. -/
structure Outfit (w : World) (i d : Nat) (reg : Ref) (l : Listing) : Prop extends
    Registers w d reg l where
  operations : ∀ op ∈ installing,
    w.definition? (w.objectClassOf i) op.name = some (.function (.library (.task op)))
  kind : w.UsualKind (w.objectClassOf i)
  entries : ∃ o, w.definition? (w.objectClassOf i) "__dict__" = some (.ref (.aspect o .attributes))
  flag : ∃ v : Value, v.IsSimple ∧ w.Shows i Options.flagField v
  events : w.Shows i "events" (.ref reg)
  capability : ∃ k, w.Shows i "log_capability" (.cls k) ∧ w.Surveyable k ∧
    w.LeavesReading (w.objectClassOf i) k

structure Equipped (w : World) (i d : Nat) (reg : Ref) (l : Listing) : Prop extends
    Outfit w i d reg l where
  handlers : ∀ key n, Naming.handlerName? key = some n → w.Quiet i n

theorem Made.shows_class (made : Made k w w' i d name given) (isNew : NewObject k w i d)
    {n : String} {v : Value}
    (other : Naming.isHandlerName n = false) (free : n ∉ fields) (hn : n ≠ "__annotations__")
    (shows : w.Shows i n v) : w'.Shows i n v := by
  rcases shows with ⟨own, -⟩ | ⟨-, entry, datum⟩
  · simp [isNew.lacks] at own
  · refine .inr ⟨made.others n other free, ?_, made.kept.isDatum.2 datum⟩
    rw [made.kept.objectClassOf, made.kept.definition? hn, entry]

/-- A new task of a class with an outfit has default internals. -/
theorem Made.internals (made : Made k w w' i d name given) (isNew : NewObject k w i d)
    (outfit : Outfit w i d reg l)
    (simple : name.IsSimple) (named : name = .nothing → IsNamed w i) :
    DefaultInternals w' i d reg l := by
  have kept := made.kept
  have shown {n : String} {v : Value} (hn : n ∈ [Options.flagField, "events", "log_capability"])
      (shows : w.Shows i n v) : w'.Shows i n v := by
    have outside : ∀ n ∈ [Options.flagField, "events", "log_capability"],
        Naming.isHandlerName n = false ∧ n ∉ fields ∧ n ≠ "__annotations__" := by decide
    obtain ⟨other, free, hn⟩ := outside n hn
    exact made.shows_class isNew other free hn shows
  have set := kept.settable (n := runnerField) (by decide) (isNew.settable _ (by decide))
  exact { outfit.toRegisters.of_keeps kept outfit.apart with
    standard := kept.standard isNew.standard
    usual := kept.readsUsually isNew.usual
    holds := kept.holds isNew.holds
    textual := by
      have textual : (w.dictAt d).Textual := isNew.empty ▸ Dictionary.textual_empty
      exact kept.textual textual
    sets := set.always
    settable := fun n hn => by
      simp only [List.mem_cons, List.not_mem_nil, or_false] at hn
      rcases hn with rfl | rfl
      · exact set
      · exact kept.settable (by decide) (isNew.settable _ (by decide))
    operations := fun op hop => by
      have outside : ∀ op ∈ installing, Naming.isHandlerName op.name = false ∧ op.name ∉ fields ∧
          op.name ≠ "__annotations__" := by decide
      obtain ⟨other, free, hn⟩ := outside op hop
      refine ⟨made.others _ other free, ?_⟩
      rw [kept.objectClassOf, kept.definition? hn]
      exact outfit.operations op hop
    kind := by
      rw [kept.objectClassOf]
      exact kept.usualKind outfit.kind
    entries := by
      rw [kept.objectClassOf, kept.definition? (by decide)]
      exact outfit.entries
    named := isNew.isNamed kept made.name simple named
    flag := outfit.flag.imp fun v => .imp_right (shown (by simp))
    events := shown (by simp) outfit.events
    capability := by
      obtain ⟨c, now, surveyable, leaves⟩ := outfit.capability
      rw [kept.objectClassOf]
      exact ⟨c, shown (by simp) now, kept.surveyable surveyable, kept.leavesReading leaves⟩
    forwarders := made.forwarders }

theorem Made.ordinary (made : Made k w w' i d name given) (isNew : NewObject k w i d)
    (equipped : Equipped w i d reg l) (simple : name.IsSimple)
    (named : name = .nothing → IsNamed w i) : Ordinary w' i d reg l :=
  { made.internals isNew equipped.toOutfit simple named with
    handlers := fun key n named =>
      made.kept.quiet (handlerName_ne named) (equipped.handlers key n named) }

end Task

/-- An opening whose task is still to be made. The mapping at 3 is given for its handlers. -/
def World.beginning (given : Dictionary) : World :=
  { World.opening given with dicts := (World.opening given).dicts.setIfInBounds 1 {} }

namespace Beginning

open Opening

variable {given : Dictionary} {k : Nat}

theorem kept : Keeps (.own 1) (World.opening given) (World.beginning given) :=
  { Keeps.refl (.own 1) (World.opening given) with
    dicts := grownBut_setIfInBounds (P := (· = 1)) rfl _ _
    attributes := fun n hn => absurd trivial hn
    textual := fun _ => Dictionary.textual_empty
    dictsSize := by simp [World.beginning] }

/-- None of the entries of the class of tasks and of the classes above it is an object. -/
theorem noObjects : ∀ k ∈ Library.taskClass :: World.start.orderOf Library.taskClass,
    ∀ p ∈ (World.start.classInfo k).body, p.2.objectPlace? = none := by decide

theorem hasPlainEntries :
    (World.beginning given).HasPlainEntries Library.taskClass fun _ => False where
  standard _ _ := .refl _
  kind := show World.start.UsualKind Library.taskClass by unfold World.UsualKind; decide
  plain k hk p hp _ := World.isPlainEntry_of_noObject (noObjects k hk p hp)
  doc := id

theorem tells_above {w : World} : ∀ b ∈ (World.start.classInfo Library.taskClass).bases,
    ∀ p ∈ (World.start.classInfo b).body, Capability.TellsClass w p.2 := by
  have along : ∀ b ∈ (World.start.classInfo Library.taskClass).bases,
      b ∈ Library.taskClass :: World.start.orderOf Library.taskClass := by decide
  exact fun b hb p hp => (World.isPlainEntry_of_noObject (noObjects b (along b hb) p hp)).tells

theorem settable_handler {n : String} (handler : Naming.isHandlerName n = true) :
    (World.beginning given).Settable task n := by
  refine ⟨show World.start.hook? Library.taskClass "__setattr__" =
    none by decide, fun e found => ?_⟩
  obtain ⟨f, rfl⟩ := Value.eq_of_isFunction (isFunction_of_handler handler found)
  rfl

theorem isNew : NewObject k (World.beginning given) task 1 where
  standard _ _ := .refl _
  usual := kept.readsUsually usual_task
  holds := kept.holds holds_task
  empty := rfl
  bindable := bindable_of_plain (kept.readsUsually usual_task)
    (show World.start.hook? Library.taskClass "__setattr__" = none by decide) hasPlainEntries
    tells_above fun _ => False.elim
  operations op hop := by
    simp only [List.mem_cons, List.not_mem_nil, or_false] at hop
    rcases hop with rfl | rfl | rfl <;> rfl
  settable n hn := by
    refine ⟨show World.start.hook? Library.taskClass "__setattr__" =
      none by decide, fun e found => ?_⟩
    have lacking : ∀ n ∈ fields, n ≠ "name" →
        World.start.definition? Library.taskClass n = none := by
      decide
    by_cases name : n = "name"
    · subst name
      obtain rfl := Option.some.inj found
      rfl
    · exact absurd (found.symm.trans (lacking n hn name)) (by simp)

theorem obstacle?_eq : obstacle? (Host.ofDepth k)
    (World.beginning given) Library.taskClass = none :=
  List.findSome?_eq_none_iff.2 fun _ _ => (offers_of_plain hasPlainEntries _ id).1

theorem isGiven {w : World} (textual : given.Textual) (here : w.dictAt 3 = given)
    (inside : 3 < w.dicts.size) : Given w 1 (.ref (.dict 3)) given.toPairs :=
  .mapping (l := listing given) (by rw [← here]; rfl)
    (fun s same => by
      obtain rfl := Option.some.inj same
      exact ⟨_, textual.slots, by simp [listing, Dictionary.toPairs]⟩)
    (fun q same => by
      obtain rfl := Ref.dict.inj same
      exact ⟨by decide, inside⟩)

theorem size_dicts : 3 < (World.beginning given).dicts.size := by
  simp [World.beginning, World.opening, World.start]

theorem equipped :
    Equipped (World.beginning given) task 1 .registry ⟨Value.registryEntries, none⟩ where
  operations op hop := by
    simp only [installing, List.mem_cons, List.not_mem_nil, or_false] at hop
    rcases hop with rfl | rfl | rfl | rfl <;> rfl
  entries := ⟨Library.taskClass, rfl⟩
  flag := ⟨.nothing, trivial, .inr ⟨rfl, rfl, rfl⟩⟩
  events := .inr ⟨rfl, rfl, rfl⟩
  apart := trivial
  listing := rfl
  sound s same := by simp at same
  keys e found := by
    obtain ⟨p, -, rfl⟩ := List.mem_map.1 found
    exact ⟨_, _, rfl⟩
  plain e found := by
    obtain ⟨p, -, rfl⟩ := List.mem_map.1 found
    exact Value.plain_of_objectsIn rfl _
  kind := hasPlainEntries.kind
  capability := ⟨Library.loggerClass, .inr ⟨rfl, rfl, rfl⟩, kept.surveyable surveyable,
    fun _ _ _ _ found => (hasPlainEntries.definition? id found).unhooked⟩
  handlers key n named := kept.quiet (handlerName_ne named)
    (quiet_handler (isHandlerName_of_handlerName? named))

theorem named : IsNamed (World.beginning given) task :=
    ⟨.word "Base", trivial, .inr ⟨rfl, rfl, rfl⟩⟩

theorem offersEmitter {w' : World} {name : Value} {early : List (String × Value)}
    (made : Made k (World.beginning given) w' task 1 name early) (simple : name.IsSimple)
    (attach : Option Bool) : OffersEmitter w' task 1 .registry ⟨Value.registryEntries, none⟩
      (.options 0 (.object emitter) attach) (.ofFlag? attach) emitter 2 0 where
  ordinary := made.ordinary isNew equipped simple fun _ => named
  offers := .decoded _ _ _
  simple := Value.isSimple_ofFlag? attach
  apart := by decide
  readable := made.kept.readable (kept.readable readable)
  former := ⟨_, (made.idle isNew).runner⟩
  serves := (reachable.serves.of_keeps kept (.inl (by decide)) id).of_keeps made.kept
    (.inl (by decide)) id

def told (v : Value) : String := Text.quoted (v.text?.getD "")
def meant (v : Value) : String := Naming.registryKey (v.text?.getD "")

theorem legible {h : Host} {d : Nat} {w : World} (textual : given.Textual) :
    ∀ e ∈ given.toPairs, Legible h d w e.1 (told e.1) (meant e.1) := by
  intro e found
  obtain ⟨entry, inside, rfl⟩ := List.mem_map.1 found
  obtain ⟨place, s, name, -⟩ := textual.named entry inside
  have text : entry.toPair.1 = .text place s := name
  rw [text]
  exact legible_text h d w place s

def spellings : Dictionary :=
  .ofTexts [("rule", .function (.library (.task .init))),
    ("parse:rule", .function (.library (.emitter .on)))]

def balking : World :=
  { World.beginning spellings with
    classes := (World.start.classes.modify Library.taskClass fun info =>
        { info with body := ("other", .object 6) :: info.body }).push
      { name := "Entry", qualifiedName := "Entry", bases := [Library.objectClass],
        order := [50, Library.objectClass], body :=
          [("__get__", .function (.library (.task .init)))],
        kind := Library.typeClass }
    objects := (World.beginning spellings).objects.push { cls := 50 } }

def balk : Fault := .arity "ConformanceTask.init" (.tooMany 1 1 3)

theorem standard_balking : balking.Standard := fun c inside => by
  have early : ∀ c ∈ Library.basics, c < World.start.classes.size ∧
    c ≠ Library.taskClass := by decide
  obtain ⟨known, other⟩ := early c inside
  have same : balking.classInfo c = World.start.classInfo c := by
    simp only [World.classInfo, balking, Array.getElem?_push]
    rw [if_neg (by simpa using Nat.ne_of_lt known), Array.getElem?_modify, if_neg other.symm]
  exact same ▸ .refl _

theorem entries_balking : balking.HasPlainEntries Library.taskClass (· = "other") where
  standard := standard_balking
  kind := by unfold World.UsualKind; decide
  plain k hk p hp even := by
    have bodies : ∀ k ∈ Library.taskClass :: balking.orderOf Library.taskClass,
        ∀ p ∈ (balking.classInfo k).body, p.1 ≠ "other" → p.2.objectPlace? = none := by decide
    exact World.isPlainEntry_of_noObject (bodies k hk p hp even)
  doc := by decide

theorem fails_balking {u : World} {s : Scope} (kept : Keeps s balking u) : ∃ u',
    entryOf (Host.ofDepth (k + 1)) Library.taskClass "other" u = .error balk u' := by
  have entry : u.definition? Library.taskClass "other" = some (.object 6) := by
    rw [kept.definition? (by decide)]
    rfl
  have above : u.definition? (u.classInfo Library.taskClass).kind "other" = none := by
    rw [kept.definition? (by decide), (kept.classes _).kind]
    rfl
  have hook : u.hookOf? (.object 6) "__get__" = some (.function (.library (.task .init))) := by
    rw [kept.hookOf? (by decide)]
    rfl
  have read : (Host.ofDepth (k + 1)).attr (.cls Library.taskClass) "other" u =
      .error balk u := by
    rw [Host.attr_class_of_none above, entry]
    show ((get : Act World) >>= _) u = _
    simp only [bind_run, get_run, hook]
    rfl
  refine ⟨u, bind_of_error ?_⟩
  rw [Host.attr?, orMissing, tryCatch_run, map_run, read]
  rfl

theorem obstacle?_balking :
    obstacle? (Host.ofDepth (k + 1)) balking (balking.objectClassOf task) = some balk := by
  rw [show balking.objectClassOf task = Library.taskClass from rfl]
  have known : "other" ∈ namesAlong balking (balking.orderOf Library.taskClass) := by decide +kernel
  obtain ⟨u, failed⟩ := fails_balking (k := k) (.refl (.own 1) balking)
  have refused : refusal? (Host.ofDepth (k + 1)) balking Library.taskClass "other" = some balk := by
    rw [refusal?, failed]
  cases found : obstacle? (Host.ofDepth (k + 1)) balking Library.taskClass with
  | none =>
    have readable := List.findSome?_eq_none_iff.1 found "other" known
    simp [refused] at readable
  | some f =>
    obtain ⟨n, -, refuses⟩ := List.exists_of_findSome?_eq_some found
    by_cases strange : n = "other"
    · rw [← refused, ← strange, refuses]
    · rw [(offers_of_plain entries_balking _ strange).1] at refuses
      cases refuses

theorem isNew_balking : NewObject (k + 1) balking task 1 where
  standard := standard_balking
  usual := ⟨by decide, by decide⟩
  holds := ⟨rfl, by decide⟩
  empty := rfl
  bindable := bindable_of_plain ⟨by decide, by decide⟩ (by decide) entries_balking
    (by
      have bodies : ∀ b ∈ (balking.classInfo Library.taskClass).bases,
          ∀ p ∈ (balking.classInfo b).body, p.2.objectPlace? = none := by decide
      exact fun b hb p hp => (World.isPlainEntry_of_noObject (bodies b hb p hp)).tells)
    fun n strange => ⟨_, fun u kept => by subst strange; exact fails_balking kept⟩
  operations op hop := by
    simp only [List.mem_cons, List.not_mem_nil, or_false] at hop
    rcases hop with rfl | rfl | rfl <;> rfl
  settable n hn := by
    have inert : ∀ n ∈ fields, (balking.definition? Library.taskClass n).all
        (fun e => !balking.decidesChange e) = true := by decide
    refine ⟨by decide, fun e found => ?_⟩
    simpa [show balking.definition? Library.taskClass n = some e from found] using inert n hn

theorem named_balking : IsNamed balking task := ⟨.word "Base", trivial, .inr ⟨rfl, rfl, rfl⟩⟩

theorem settable_balking : ∀ e ∈ spellings.toPairs, balking.Settable task (namedFor meant e).1 := by
  have names : ∀ e ∈ spellings.toPairs, (namedFor meant e).1 = "on_rule" := by decide +kernel
  intro e he
  refine ⟨by decide, fun v found => ?_⟩
  rw [names e he] at found
  obtain rfl := Option.some.inj found
  rfl

end Beginning

namespace Task

variable {w : World} {i d k : Nat} {name handlers : Value} {entries : List (Value × Value)}
  {shown key : Value → String}

/-- `ConformanceTask.__init__` fails exactly if an entry of `handlers` is bad, with the fault of the
first bad entry (a `TypeError` where it cannot be called, a `ValueError` where its key is empty), or
else if `inspect.getmembers` fails on the class, with the fault of the first name that cannot be
read. Otherwise every handler is what was given for it last, or what the class has under its name,
bound to the task, and no other attribute depends on what was given. -/
theorem create_decides (isNew : NewObject k w i d) (given : Given w d handlers entries)
    (simple : name.IsSimple) (named : name = .nothing → IsNamed w i)
    (legible : ∀ e ∈ entries, Legible (Host.ofDepth (k + 3)) d w e.1 (shown e.1) (key e.1))
    (settable : ∀ e ∈ entries, w.Settable i (namedFor key e).1) :
    (∀ f, (∃ w', create (Host.ofDepth (k + 3)) (.object i) name handlers w = .error f w') ↔
      (entries.findSome? (spoils? w shown key)).or
        (obstacle? (Host.ofDepth k) w (w.objectClassOf i)) = some f) ∧
    (∀ e ∈ entries, ∀ f, spoils? w shown key e = some f →
      f.kind = if w.isCallable e.2 then .value else .type) ∧
    (entries.findSome? (spoils? w shown key) = none →
      obstacle? (Host.ofDepth k) w (w.objectClassOf i) = none → ∃ w',
        create (Host.ofDepth (k + 3)) (.object i) name handlers w = .ok .nothing w' ∧
        Made k w w' i d name (entries.map (namedFor key))) := by
  obtain ⟨w', outcome⟩ := create_eq isNew given simple named legible settable
  refine ⟨fun f => ?_, fun e _ f => kind_of_spoils, fun fine readable => ?_⟩
  · cases failing : (entries.findSome? (spoils? w shown key)).or
        (obstacle? (Host.ofDepth k) w (w.objectClassOf i)) with
    | some g =>
      rw [failing] at outcome
      refine ⟨fun ⟨u, failed⟩ => ?_, fun same => ⟨w', Option.some.inj same ▸ outcome⟩⟩
      rw [(EStateM.Result.error.inj (outcome.symm.trans failed)).1]
    | none =>
      rw [failing] at outcome
      refine ⟨fun ⟨u, failed⟩ => ?_, fun same => by simp at same⟩
      cases outcome.1.symm.trans failed
  · rw [fine, readable] at outcome
    exact ⟨w', outcome⟩

/-- Two keys of one event: the last one counts. With a class attribute whose `__get__` raises, the
same call raises. -/
theorem create_decides_spellings :
    (∃ w', create (Host.ofDepth 3) (.object Opening.task) .nothing (.ref (.dict 3))
        (World.beginning Beginning.spellings) = .ok .nothing w' ∧
      (w'.attributesOf Opening.task).text? "on_rule" = some (.function (.library (.emitter .on)))) ∧
    ∃ w', create (Host.ofDepth 4)
      (.object Opening.task) .nothing (.ref (.dict 3)) Beginning.balking =
      .error Beginning.balk w' := by
  have textual : Beginning.spellings.Textual := Dictionary.textual_ofTexts _
  have nothing : Value.nothing.IsSimple := trivial
  obtain ⟨fails, -, -⟩ := create_decides Beginning.isNew_balking
    (Beginning.isGiven textual rfl Beginning.size_dicts) nothing (fun _ => Beginning.named_balking)
      (Beginning.legible textual) Beginning.settable_balking
  have fine : Beginning.spellings.toPairs.findSome?
      (spoils? Beginning.balking Beginning.told Beginning.meant) = none := by decide +kernel
  refine ⟨?_, (fails _).2 (by rw [fine, Beginning.obstacle?_balking, Option.none_or])⟩
  obtain ⟨-, -, makes⟩ := create_decides Beginning.isNew
    (Beginning.isGiven textual rfl Beginning.size_dicts) nothing (fun _ => Beginning.named)
    (Beginning.legible textual) fun e _ => Beginning.settable_handler (isHandlerName_namedFor _ e)
  obtain ⟨w', run, made⟩ := makes (by decide +kernel) Beginning.obstacle?_eq
  refine ⟨w', run, ?_⟩
  have receives := made.receives "on_rule" (by decide)
  have last : lastFor (Beginning.spellings.toPairs.map (namedFor Beginning.meant)) "on_rule" =
      some (.function (.library (.emitter .on))) := by
    have pairs : Beginning.spellings.toPairs = [(.word "rule", .function (.library (.task .init))),
      (.word "parse:rule", .function (.library (.emitter .on)))] := rfl
    have second :
        "on_rule" = Naming.handlerWord ++ Text.lower (Beginning.meant (.word "parse:rule")) := by
      decide +kernel
    rw [pairs, List.map_cons, lastFor_cons, List.map_cons, lastFor_cons, namedFor, if_pos second]
    rfl
  rw [last] at receives
  generalize (w'.attributesOf Opening.task).text? "on_rule" = found at receives
  cases receives
  rfl

/-- A class attribute that is no handler and whose `__get__` raises is enough for `__init__` to
fail, also without `handlers`. -/
theorem create_balks : ∃ w',
    create (Host.ofDepth 4) (.object Opening.task) .nothing .nothing Beginning.balking =
      .error Beginning.balk w' ∧
    Beginning.balk.kind = .type ∧ Naming.isHandlerName "other" = false := by
  have legible : ∀ e ∈ ([] : List (Value × Value)), Legible (Host.ofDepth 4) 1 Beginning.balking e.1
      (Beginning.told e.1) (Beginning.meant e.1) := by simp
  obtain ⟨w', outcome⟩ := create_eq Beginning.isNew_balking .nothing
    (show Value.nothing.IsSimple from trivial) (fun _ => Beginning.named_balking) legible (by simp)
  rw [Beginning.obstacle?_balking] at outcome
  exact ⟨w', outcome, rfl, by decide⟩

end Task

end EventTasks
