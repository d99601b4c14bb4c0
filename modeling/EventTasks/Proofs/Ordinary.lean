import EventTasks.Proofs.Offering
import EventTasks.Proofs.Iterating

/-!
Ordinary tasks. Nothing written stands in the way of installing them: the operations are the
library's, the name and the flag are simple, the registry is a mapping of texts whose identifiers
are told apart by their keys, and the capability is a class whose entries leave alone what every
object has. What an operation of the task changes leaves it ordinary.
-/
namespace EventTasks

open Act

def IsPublic (n : String) : Prop := "_".toList.isPrefixOf n.toList = false

theorem IsPublic.ne {n : String} (isPublic : IsPublic n) : n ≠ "__annotations__" := by
  rintro rfl
  revert isPublic
  simp [IsPublic]

namespace World

/-- What the class of an object has under a name, if anything, is no descriptor of its own. -/
def Quiet (w : World) (i : Nat) (n : String) : Prop :=
  ∀ e, w.definition? (w.objectClassOf i) n = some e →
    w.hookOf? e "__get__" = none ∧ ∀ p, e ≠ .ref (.property p)

def DefinesAlong (w : World) (k : Nat) (n : String) : Prop :=
  ∃ c ∈ w.orderOf k, ∃ e, (n, e) ∈ (w.classInfo c).body

def LeavesReading (w : World) (c k : Nat) : Prop :=
  ∀ n e, IsPublic n → w.DefinesAlong k n → w.definition? c n = some e → w.hookOf? e "__get__" = none

def UsualKind (w : World) (c : Nat) : Prop :=
  (w.classInfo c).kind ∈
    [Library.typeClass, Library.abstractTypeClass, Library.protocolTypeClass]

/-- `logger_methods` can go through the class without calling written code. -/
structure Surveyable (w : World) (k : Nat) : Prop where
  kind : w.UsualKind k
  kinds : ∀ c ∈ w.orderOf k, w.UsualKind c
  entries : ∀ c ∈ w.orderOf k, ∀ n j, n ≠ "__annotations__" →
    (n, .object j) ∈ (w.classInfo c).body → w.ReadsUsually j ∧
      w.definition? (w.objectClassOf j) "__class__" =
        some (.ref (.aspect Library.objectClass .cls))

end World

def Ref.IsApart (w : World) (d : Nat) : Ref → Prop
  | .registry => True
  | .dict p => p ≠ d ∧ p < w.dicts.size
  | _ => False

namespace Keeps

variable {s : Scope} {w w' : World}

theorem usualKind {c : Nat} (kept : Keeps s w w') (usual : w.UsualKind c) : w'.UsualKind c := by
  rw [World.UsualKind, (kept.classes c).kind]
  exact usual

theorem surveyable {k : Nat} (kept : Keeps s w w') (surveyable : w.Surveyable k) :
    w'.Surveyable k where
  kind := kept.usualKind surveyable.kind
  kinds c hc := kept.usualKind (surveyable.kinds c (kept.orderOf k ▸ hc))
  entries c hc n j hn found := by
    obtain ⟨usual, cls⟩ := surveyable.entries c (kept.orderOf k ▸ hc) n j hn
      (((kept.classes c).entries _ found).resolve_left fun made => hn made.1)
    rw [kept.objectClassOf, kept.definition? (by decide)]
    exact ⟨kept.readsUsually usual, cls⟩

theorem quiet {i : Nat} {n : String} (kept : Keeps s w w') (hn : n ≠ "__annotations__")
    (quiet : w.Quiet i n) : w'.Quiet i n := by
  intro e found
  rw [kept.objectClassOf, kept.definition? hn] at found
  rw [kept.hookOf? (by decide)]
  exact quiet e found

theorem definesAlong {k : Nat} {n : String} (kept : Keeps s w w') (isPublic : IsPublic n)
    (defines : w'.DefinesAlong k n) : w.DefinesAlong k n := by
  obtain ⟨c, hc, e, found⟩ := defines
  exact ⟨c, kept.orderOf k ▸ hc, e,
    ((kept.classes c).entries _ found).resolve_left fun made => isPublic.ne made.1⟩

theorem leavesReading {c k : Nat} (kept : Keeps s w w') (leaves : w.LeavesReading c k) :
    w'.LeavesReading c k := by
  intro n e isPublic defines found
  rw [kept.definition? isPublic.ne] at found
  rw [kept.hookOf? (by decide)]
  exact leaves n e isPublic (kept.definesAlong isPublic defines) found

theorem isApart {r : Ref} {d : Nat} (kept : Keeps s w w') (apart : r.IsApart w d) :
    r.IsApart w' d := by
  cases r with
  | dict p => exact ⟨apart.1, Nat.lt_of_lt_of_le apart.2 kept.dictsSize⟩
  | registry => trivial
  | _ => exact apart.elim

theorem listing? {r : Ref} (kept : Keeps s w w') (apart : r.IsApart w s.place) :
    w'.listing? r = w.listing? r := by
  cases r with
  | dict p => simp only [World.listing?, kept.dictAt apart.2 apart.1]
  | registry => rfl
  | _ => exact apart.elim

end Keeps

namespace Task

theorem handlerName_ne {key n : String} (named : Naming.handlerName? key = some n) :
    n ≠ "__annotations__" := by
  rintro rfl
  unfold Naming.handlerName? at named
  split at named
  · simp at named
  · have front := congrArg (fun s => s.toList.head?) (Option.some.inj named)
    simp [Naming.handlerWord] at front

theorem isHandlerName_of_handlerName? {key n : String} (named : Naming.handlerName? key = some n) :
    Naming.isHandlerName n = true := by
  unfold Naming.handlerName? at named
  split at named
  · simp at named
  · rw [← Option.some.inj named, Naming.isHandlerName, String.toList_append]
    exact List.isPrefixOf_iff_prefix.2 (List.prefix_append _ _)

def installing : List TaskOp := [.parseOptions, .resolveHandlers, .attachLogger, .makeForwarder]

/-- A task whose class leaves everything that `install` and `destroy` use, its handlers apart, as
`ConformanceTask` defines it. -/
structure DefaultInternals (w : World) (i d : Nat) (r : Ref) (l : Listing) : Prop where
  standard : w.Standard
  usual : w.ReadsUsually i
  holds : w.Holds i d
  textual : (w.dictAt d).Textual
  sets : w.hook? (w.objectClassOf i) "__setattr__" = none
  settable : ∀ n ∈ [runnerField, subscriptionsField], w.Settable i n
  operations : ∀ op ∈ installing, w.Means i op.name (.library (.task op))
  kind : w.UsualKind (w.objectClassOf i)
  entries : ∃ o, w.definition? (w.objectClassOf i) "__dict__" = some (.ref (.aspect o .attributes))
  named : IsNamed w i
  flag : ∃ v : Value, v.IsSimple ∧ w.Shows i Options.flagField v
  events : w.Shows i "events" (.ref r)
  apart : r.IsApart w d
  listing : w.listing? r = some l
  sound : l.Sound
  keys : ∀ e ∈ l.entries, ∃ place key, e.1 = .text place key
  plain : ∀ e ∈ l.entries, e.2.Plain w
  capability : ∃ k, w.Shows i "log_capability" (.cls k) ∧ w.Surveyable k ∧
    w.LeavesReading (w.objectClassOf i) k
  forwarders : ∃ g, w.Shows i forwardersField (.ref (.names g)) ∧ (w.namesAt g).Texts

/-- Moreover its handlers are no properties or other descriptors. -/
structure Ordinary (w : World) (i d : Nat) (r : Ref) (l : Listing) : Prop
    extends DefaultInternals w i d r l where
  handlers : ∀ key n, Naming.handlerName? key = some n → w.Quiet i n

def essentials : List String :=
  ["name", Options.flagField, "events", "log_capability", forwardersField] ++
    installing.map TaskOp.name

theorem ne_of_essential {n : String} (hn : n ∈ essentials) :
    n ≠ "__annotations__" ∧ n ≠ runnerField ∧ n ≠ subscriptionsField := by
  have all : ∀ m ∈ essentials, m ≠ "__annotations__" ∧ m ≠ runnerField ∧
      m ≠ subscriptionsField := by decide
  exact all n hn

variable {s : Scope} {w w' : World} {i d : Nat} {r : Ref} {l : Listing} {n : String}

theorem DefaultInternals.present (internals : DefaultInternals w i d r l) (hn : n ∈ essentials) :
    ¬ ((w.attributesOf i).text? n = none ∧ w.definition? (w.objectClassOf i) n = none) := by
  have shown {m : String} {v : Value} (shows : w.Shows i m v) :
      ¬ ((w.attributesOf i).text? m = none ∧ w.definition? (w.objectClassOf i) m = none) := by
    rintro ⟨own, entry⟩
    rcases shows with ⟨here, -⟩ | ⟨-, there, -⟩
    · rw [own] at here
      simp at here
    · rw [entry] at there
      simp at there
  rcases List.mem_append.1 hn with hn | hn
  · simp only [List.mem_cons, List.not_mem_nil, or_false] at hn
    rcases hn with rfl | rfl | rfl | rfl | rfl
    · obtain ⟨_, _, shows⟩ := internals.named
      exact shown shows
    · obtain ⟨_, _, shows⟩ := internals.flag
      exact shown shows
    · exact shown internals.events
    · obtain ⟨_, shows, -⟩ := internals.capability
      exact shown shows
    · obtain ⟨_, shows, -⟩ := internals.forwarders
      exact shown shows
  · obtain ⟨op, hop, rfl⟩ := List.mem_map.1 hn
    rintro ⟨-, entry⟩
    rw [(internals.operations op hop).2] at entry
    simp at entry

/-- A mapping from texts to plain identifiers, which a task with its attributes at `d` can have as
its `events`. -/
structure Registers (w : World) (d : Nat) (r : Ref) (l : Listing) : Prop where
  apart : r.IsApart w d
  listing : w.listing? r = some l
  sound : l.Sound
  keys : ∀ e ∈ l.entries, ∃ place key, e.1 = .text place key
  plain : ∀ e ∈ l.entries, e.2.Plain w

theorem DefaultInternals.registers (internals : DefaultInternals w i d r l) : Registers w d r l :=
    { internals with }

theorem Registers.of_keeps (registers : Registers w d r l) (kept : Keeps s w w')
    (apart : r.IsApart w s.place) : Registers w' d r l :=
  { registers with
    apart := kept.isApart registers.apart
    listing := (kept.listing? apart).trans registers.listing
    plain := fun e he => kept.plain.2 (registers.plain e he) }

/-- What does not change these attributes leaves the task its default internals; only its name and
its registry may be other ones. -/
theorem DefaultInternals.of_keeps_register {r' : Ref} {l' : Listing}
    (internals : DefaultInternals w i d r l)
    (kept : Keeps s w w')
    (outside : ∀ n ∈ essentials, n ≠ "name" → n ≠ "events" → d ≠ s.place ∨ ¬ s.names n)
    (named : IsNamed w' i) (events : w'.Shows i "events" (.ref r'))
    (registers : Registers w' d r' l') :
    DefaultInternals w' i d r' l' := by
  have shows {n : String} {v : Value} (hn : n ∈ essentials) (other : n ≠ "name")
      (other' : n ≠ "events")
      (now : w.Shows i n v) : w'.Shows i n v :=
    kept.shows internals.holds (outside n hn other other') (ne_of_essential hn).1 now
  have same : w'.objectClassOf i = w.objectClassOf i := kept.objectClassOf i
  exact { registers with
    standard := kept.standard internals.standard
    usual := kept.readsUsually internals.usual
    holds := kept.holds internals.holds
    textual := by
      by_cases here : d = s.place
      · subst here
        exact kept.textual internals.textual
      · rw [kept.dictAt internals.holds.inside here]
        exact internals.textual
    sets := by
      rw [same, kept.hook? (by decide)]
      exact internals.sets
    settable := fun n hn => kept.settable (by
      rcases List.mem_cons.1 hn with rfl | hn
      · decide
      · rw [List.mem_singleton.1 hn]
        decide) (internals.settable n hn)
    operations := fun op hop => by
      have hn : op.name ∈ essentials := List.mem_append_right _ (List.mem_map_of_mem hop)
      have others : ∀ op ∈ installing, op.name ≠ "name" ∧ op.name ≠ "events" := by decide
      exact kept.means internals.holds (outside _ hn (others op hop).1 (others op hop).2)
        (ne_of_essential hn).1 (internals.operations op hop)
    kind := same ▸ kept.usualKind internals.kind
    entries := by
      rw [same, kept.definition? (by decide)]
      exact internals.entries
    named := named
    flag := by
      obtain ⟨v, simple, now⟩ := internals.flag
      exact ⟨v, simple, shows (by decide) (by decide) (by decide) now⟩
    events := events
    capability := by
      obtain ⟨k, now, surveyable, leaves⟩ := internals.capability
      exact ⟨k, shows (by decide) (by decide) (by decide) now, kept.surveyable surveyable,
        same ▸ kept.leavesReading leaves⟩
    forwarders := by
      obtain ⟨g, now, texts⟩ := internals.forwarders
      exact ⟨g, shows (by decide) (by decide) (by decide) now, kept.texts g texts⟩ }

/-- What changes neither these attributes nor the registry leaves the task its default internals;
only the name may be another one. -/
theorem DefaultInternals.of_keeps_named (internals : DefaultInternals w i d r l)
    (kept : Keeps s w w')
    (apart : r.IsApart w s.place)
    (outside : ∀ n ∈ essentials, n ≠ "name" → d ≠ s.place ∨ ¬ s.names n) (named : IsNamed w' i) :
    DefaultInternals w' i d r l :=
  internals.of_keeps_register kept (fun n hn other _ => outside n hn other) named
    (kept.shows internals.holds (outside _ (by decide) (by decide)) (by decide) internals.events)
    (internals.registers.of_keeps kept apart)

theorem DefaultInternals.of_keeps (internals : DefaultInternals w i d r l) (kept : Keeps s w w')
    (apart : r.IsApart w s.place) (outside : ∀ n ∈ essentials, d ≠ s.place ∨ ¬ s.names n) :
    DefaultInternals w' i d r l := by
  obtain ⟨v, simple, now⟩ := internals.named
  exact internals.of_keeps_named kept apart (fun n hn _ => outside n hn)
    ⟨v, simple, kept.shows internals.holds (outside _ (by decide)) (by decide) now⟩

/-- An ordinary task stays ordinary. -/
theorem Ordinary.of_internals (ordinary : Ordinary w i d r l) (kept : Keeps s w w')
    (internals : DefaultInternals w' i d r l) : Ordinary w' i d r l :=
  { internals with
    handlers := fun key n named =>
      kept.quiet (handlerName_ne named) (ordinary.handlers key n named) }

theorem Ordinary.of_keeps (ordinary : Ordinary w i d r l) (kept : Keeps s w w')
    (apart : r.IsApart w s.place) (outside : ∀ n ∈ essentials, d ≠ s.place ∨ ¬ s.names n) :
    Ordinary w' i d r l :=
  ordinary.of_internals kept (ordinary.toDefaultInternals.of_keeps kept apart outside)

end Task

end EventTasks
