import EventTasks.Proofs.Emitting
import EventTasks.Proofs.Installing

/-!
How everything starts: a task and an emitter that were just made, and any registry of texts and
plain identifiers. They are in order, the task is idle, and the emitter has no listeners.
-/
namespace EventTasks

open Act EventTasks.Task

/-- The starting world with a task and an emitter that were just made. The task has a registry of
its own. -/
def World.opening (registry : Dictionary) : World :=
  { World.start with
    objects := World.start.objects ++
      #[{ cls := Library.taskClass, attributes := some 1 },
        { cls := Library.emitterClass, attributes := some 2 }]
    dicts := World.start.dicts ++
      #[.ofTexts [(runnerField, .nothing), (forwardersField, .ref (.names 0)),
          (subscriptionsField, .ref (.list 0)), ("events", .ref (.dict 3))],
        .ofTexts [(Emitter.tableName, .ref (.table 0))], registry]
    lists := #[[]]
    tables := #[{}]
    gatherings := #[{}] }

namespace Opening

def task : Nat := 4
def emitter : Nat := 5

variable {registry : Dictionary}

def isProperty : Value → Bool
  | .ref (.property _) => true
  | _ => false

theorem objectPlace?_of_definition? {c : Nat} (hc : c ∈ [Library.taskClass, Library.emitterClass])
    {n : String} {e : Value} (found : (World.opening registry).definition? c n = some e) :
    e.objectPlace? = none := by
  have bodies : ∀ c ∈ [Library.taskClass, Library.emitterClass], ∀ k ∈ World.start.orderOf c,
      ∀ p ∈ (World.start.classInfo k).body, p.2.objectPlace? = none := by decide
  obtain ⟨k, hk, inside⟩ := World.mem_of_definition? found
  exact bodies c hc k hk (n, e) inside

theorem hookOf?_of_definition? {c : Nat} (hc : c ∈ [Library.taskClass, Library.emitterClass])
    {n m : String} {e : Value} (found : (World.opening registry).definition? c n = some e) :
    (World.opening registry).hookOf? e m = none := by
  rw [World.hookOf?, objectPlace?_of_definition? hc found]

def listing (registry : Dictionary) : Listing := ⟨registry.toPairs, some registry.slots⟩

theorem holds_task : (World.opening registry).Holds task 1 :=
  ⟨rfl, by simp [World.opening, World.start]⟩

theorem usual_task : (World.opening registry).ReadsUsually task :=
  ⟨show World.start.hook? Library.taskClass "__getattribute__" = none by decide,
    show World.start.hook? Library.taskClass "__getattr__" = none by decide⟩

theorem standard : (World.opening registry).Standard := fun _ _ => .refl _

theorem definition?_task (n : String) :
    (World.opening registry).definition? ((World.opening registry).objectClassOf task) n =
      World.start.definition? Library.taskClass n := rfl

theorem shows_own {n : String} {v : Value}
    (own : ((World.opening registry).attributesOf task).text? n = some v)
    (lacking : World.start.definition? Library.taskClass n = none) :
    (World.opening registry).Shows task n v :=
  .of_own own ((definition?_task n).trans lacking)

theorem isFunction_of_handler {n : String} {e : Value} (handler : Naming.isHandlerName n = true)
    (found : World.start.definition? Library.taskClass n = some e) : e.isFunction = true := by
  have bodies : ∀ k ∈ World.start.orderOf Library.taskClass, ∀ q ∈ (World.start.classInfo k).body,
      Naming.isHandlerName q.1 = true → q.2.isFunction = true := by decide
  obtain ⟨k, hk, inside⟩ := World.mem_of_definition? found
  exact bodies k hk _ inside handler

theorem quiet_handler {n : String} (handler : Naming.isHandlerName n = true) :
    (World.opening registry).Quiet task n := by
  intro e found
  obtain ⟨f, rfl⟩ := Value.eq_of_isFunction (isFunction_of_handler handler found)
  exact ⟨rfl, fun p same => by simp [Value.function] at same⟩

theorem surveyable : (World.opening registry).Surveyable Library.loggerClass where
  kind := show World.start.UsualKind Library.loggerClass by unfold World.UsualKind; decide
  kinds := by
    have kinds : ∀ c ∈ World.start.orderOf Library.loggerClass, (World.start.classInfo c).kind ∈
        [Library.typeClass, Library.abstractTypeClass, Library.protocolTypeClass] := by decide
    exact kinds
  entries := by
    have bodies : ∀ c ∈ World.start.orderOf Library.loggerClass,
        ∀ p ∈ (World.start.classInfo c).body, p.2.objectPlace? = none := by decide
    intro c hc n j _ inside
    simpa [Value.object, Value.objectPlace?] using bodies c hc _ inside

theorem ordinary (textual : registry.Textual)
    (plain : ∀ e ∈ registry.toPairs, e.2.Plain (World.opening registry)) :
    Ordinary (World.opening registry) task 1 (.dict 3) (listing registry) where
  standard := standard
  usual := usual_task
  holds := holds_task
  textual := Dictionary.textual_ofTexts _
  sets := show World.start.hook? Library.taskClass "__setattr__" = none by decide
  settable n hn := by
    refine ⟨show World.start.hook? Library.taskClass "__setattr__" = none by decide, fun e he => ?_⟩
    have lacking : ∀ n ∈ [runnerField, subscriptionsField],
        World.start.definition? Library.taskClass n = none := by decide
    exact absurd (he.symm.trans (lacking n hn)) (by simp)
  operations op hop := by
    simp only [installing, List.mem_cons, List.not_mem_nil, or_false] at hop
    rcases hop with rfl | rfl | rfl | rfl <;> exact ⟨rfl, rfl⟩
  kind := show World.start.UsualKind Library.taskClass by unfold World.UsualKind; decide
  handlers key n named := quiet_handler (isHandlerName_of_handlerName? named)
  entries := ⟨Library.taskClass, rfl⟩
  named := ⟨.word "Base", trivial, .inr ⟨rfl, rfl, rfl⟩⟩
  flag := ⟨.nothing, trivial, .inr ⟨rfl, rfl, rfl⟩⟩
  events := .inl ⟨rfl, fun e found => by
    obtain rfl : Value.registry = e := Option.some.inj found
    rfl⟩
  apart := ⟨by decide, by simp [World.opening, World.start]⟩
  listing := rfl
  sound s same := by
    obtain rfl := Option.some.inj same
    exact ⟨_, textual.slots, by simp [listing, Dictionary.toPairs]⟩
  keys e found := by
    obtain ⟨entry, inside, rfl⟩ := List.mem_map.1 found
    obtain ⟨place, key, name, -⟩ := textual.named entry inside
    exact ⟨place, key, name⟩
  plain := plain
  capability := ⟨Library.loggerClass, .inr ⟨rfl, rfl, rfl⟩, surveyable,
    fun _ _ _ _ found => hookOf?_of_definition? (c := Library.taskClass) (by decide) found⟩
  forwarders := ⟨0, shows_own rfl (by decide), fun m found => absurd found List.not_mem_nil⟩

theorem idle : Idle (World.opening registry) task :=
  ⟨shows_own rfl (by decide), 0, shows_own rfl (by decide), rfl⟩

theorem isEmitter : (World.opening registry).IsEmitter emitter 2 0 where
  usual := ⟨show World.start.hook? Library.emitterClass "__getattribute__" = none by decide,
    show World.start.hook? Library.emitterClass "__getattr__" = none by decide⟩
  holds := ⟨rfl, by simp [World.opening, World.start]⟩
  table := .of_own rfl
    (show World.start.definition? Library.emitterClass Emitter.tableName = none by decide)
  inside := by simp [World.opening]
  on := ⟨rfl, rfl⟩
  off := ⟨rfl, rfl⟩
  cls := rfl

theorem reachable : Emitter.Reachable emitter 2 0 (World.opening registry) :=
  .opened isEmitter rfl

theorem readable : (World.opening registry).Readable emitter where
  usual := isEmitter.usual
  quiet n _ e found := by
    refine ⟨hookOf?_of_definition? (c := Library.emitterClass) (by decide) found, fun p same => ?_⟩
    have bodies : ∀ k ∈ World.start.orderOf Library.emitterClass,
        ∀ q ∈ (World.start.classInfo k).body, isProperty q.2 = false := by decide
    obtain ⟨k, hk, inside⟩ := World.mem_of_definition? found
    subst same
    exact absurd (bodies k hk _ inside) (by simp [isProperty])

theorem settings : (World.opening registry).around.Gives {} :=
  show Settings.resolve (Surroundings.start.sources []) = .ok {} from rfl

theorem offersRunner (textual : registry.Textual)
    (plain : ∀ e ∈ registry.toPairs, e.2.Plain (World.opening registry)) (attach : Option Bool) :
    OffersRunner (World.opening registry) task 1 (.dict 3) (listing registry)
      (.options 0 (.object emitter) attach) (.ofFlag? attach) emitter 2 where
  ordinary := ordinary textual plain
  offers := .decoded _ _ _
  simple := Value.isSimple_ofFlag? attach
  apart := by decide
  readable := readable
  former := ⟨_, idle.runner⟩

def rules : Dictionary := .ofTexts [("RULE", .event .rule)]

theorem handlerName_rules {e : Value × Value} {place : Nat} {key n : String}
    (found : e ∈ (listing rules).entries) (same : e.1 = .text place key)
    (named : Naming.handlerName? key = some n) : n = "on_rule" := by
  obtain rfl : e = (.word "RULE", .event .rule) := List.mem_singleton.1 found
  obtain ⟨-, rfl⟩ := Value.text.inj same
  exact Option.some.inj (named.symm.trans (by decide))

theorem plain_rules : ∀ e ∈ rules.toPairs, e.2.Plain (World.opening rules) := by
  have inert : ∀ e ∈ rules.toPairs, e.2.objectsIn = [] := by decide
  exact fun e found => Value.plain_of_objectsIn (inert e found) _

theorem offersRunner_rules : OffersRunner (World.opening rules) task 1 (.dict 3) (listing rules)
    (.options 0 (.object emitter) (some false)) (.ofFlag? (some false)) emitter 2 :=
  offersRunner (Dictionary.textual_ofTexts _) plain_rules (some false)

def tangled : Dictionary := .ofTexts [("RULE", .event .rule), ("ROOT", .ref (.dict 3))]

theorem plain_tangled : ∀ e ∈ tangled.toPairs, e.2.Plain (World.opening tangled) := by
  have inert : ∀ e ∈ tangled.toPairs, e.2.objectsIn = [] := by decide
  exact fun e found => Value.plain_of_objectsIn (inert e found) _

theorem offersRunner_tangled : OffersRunner (World.opening tangled) task 1 (.dict 3)
    (listing tangled)
    (.options 0 (.object emitter) (some false)) (.ofFlag? (some false)) emitter 2 :=
  offersRunner (Dictionary.textual_ofTexts _) plain_tangled (some false)

end Opening

end EventTasks
