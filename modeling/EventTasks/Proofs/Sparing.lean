import EventTasks.Proofs.Company
import EventTasks.Proofs.Speaking

/-!
What spares a task. Tasks are looked at from outside here: between two worlds a task is spared if it
stays in order, its class means what it meant, and its own attributes are the same, except under
some names. It does not matter what else was changed, or made, meanwhile.
-/
namespace EventTasks

open Act EventTasks.Task

/-- Some tasks, none of which holds its attributes where another one or the registry of one does. -/
structure Cast where
  actors : List Actor
  objects : ∀ m ∈ actors, ∀ m' ∈ actors, m.object = m'.object → m = m'
  places : ∀ m ∈ actors, ∀ m' ∈ actors, m.place = m'.place → m = m'
  registries : ∀ m ∈ actors, ∀ m' ∈ actors, m.registry ≠ .dict m'.place

namespace Actor

def HasDefaultInternals (m : Actor) (w : World) : Prop :=
    DefaultInternals w m.object m.place m.registry m.listing

def own? (m : Actor) (w : World) (n : String) : Option Value := (w.attributesOf m.object).text? n

def Lacks (m : Actor) (w : World) (n : String) : Prop := (Scope.fresh w m.object m.place).names n

structure Spared (m : Actor) (may : String → Prop) (w w' : World) : Prop where
  internals : m.HasDefaultInternals w'
  own : ∀ n, ¬ may n → m.own? w' n = m.own? w n
  defined : ∀ n, n ≠ "__annotations__" →
    w'.definition? (w'.objectClassOf m.object) n = w.definition? (w.objectClassOf m.object) n
  decided : ∀ n e, n ≠ "__annotations__" → w.definition? (w.objectClassOf m.object) n = some e →
    w'.comesFirst e = w.comesFirst e ∧ (w'.IsDatum e ↔ w.IsDatum e)
  /-- The pairs in its books are still the same ones. -/
  recorded : ¬ may subscriptionsField → ∀ q items,
    m.own? w subscriptionsField = some (.ref (.list q)) → w.lists[q]? = some items →
      w'.lists[q]? = some items

variable {m : Actor} {may may' : String → Prop} {s : Scope} {u v w w' : World}
  {n : String} {x : Value}

namespace Spared

theorem refl (internals : m.HasDefaultInternals w) : m.Spared may w w :=
  ⟨internals, fun _ _ => rfl, fun _ _ => rfl, fun _ _ _ _ => ⟨rfl, .rfl⟩, fun _ _ _ _ => id⟩

theorem trans (h : m.Spared may u v) (h' : m.Spared may v w) : m.Spared may u w where
  internals := h'.internals
  own n hn := (h'.own n hn).trans (h.own n hn)
  defined n hn := (h'.defined n hn).trans (h.defined n hn)
  decided n e hn found := by
    obtain ⟨first, datum⟩ := h.decided n e hn found
    obtain ⟨first', datum'⟩ := h'.decided n e hn ((h.defined n hn).trans found)
    exact ⟨first'.trans first, datum'.trans datum⟩
  recorded other q items booked list := h'.recorded other q items
    ((h.own _ other).trans booked) (h.recorded other q items booked list)

theorem mono (h : m.Spared may w w') (more : ∀ n, may n → may' n) : m.Spared may' w w' where
  internals := h.internals
  own n hn := h.own n fun may => hn (more n may)
  defined := h.defined
  decided := h.decided
  recorded other := h.recorded fun may => other (more _ may)

theorem of_internals (internals : m.HasDefaultInternals w) (internals' : m.HasDefaultInternals w')
    (kept : Keeps s w w')
    (outside : ∀ n, ¬ may n → m.place ≠ s.place ∨ ¬ s.names n) : m.Spared may w w' where
  internals := internals'
  own n hn := kept.own internals.holds (outside n hn)
  defined n hn := by rw [kept.objectClassOf, kept.definition? hn]
  decided _ e _ _ := ⟨kept.comesFirst e, kept.isDatum⟩
  recorded _ q items _ list := kept.lists q items id list

/-- What leaves alone the registry and all that the task needs leaves it in order. -/
theorem of_keeps (internals : m.HasDefaultInternals w) (kept : Keeps s w w')
    (apart : m.registry.IsApart w s.place)
    (outside : ∀ n, ¬ may n → m.place ≠ s.place ∨ ¬ s.names n) (spare : ∀ n ∈ essentials, ¬ may n) :
    m.Spared may w w' :=
  of_internals internals (DefaultInternals.of_keeps internals kept apart fun n hn => outside n
    (spare n hn)) kept outside

theorem lacks (h : m.Spared may w w') (free : ¬ may n) : m.Lacks w' n ↔ m.Lacks w n := by
  refine and_congr_right fun hn => ?_
  have own : (w'.attributesOf m.object).text? n = (w.attributesOf m.object).text? n := h.own n free
  rw [own, h.defined n hn]

end Spared

theorem HasDefaultInternals.shows (internals : m.HasDefaultInternals w)
    (hn : n ∈ [runnerField, subscriptionsField])
    (own : m.own? w n = some x) : w.Shows m.object n x := by
  refine .inl ⟨own, fun e found => ?_⟩
  have undecided := (internals.settable n hn).above e found
  unfold World.comesFirst
  cases e.objectPlace? <;> simp [undecided]

end Actor

structure Cast.Spares (cast : Cast) (may : Actor → String → Prop) (w w' : World) : Prop where
  actors : ∀ m ∈ cast.actors, m.HasDefaultInternals w → m.Spared (may m) w w'
  forwarders : Grown w.forwarders w'.forwarders
  lists : w.lists.size ≤ w'.lists.size

namespace Cast

variable {cast : Cast} {may may' : Actor → String → Prop} {s : Scope} {u v w w' : World}
  {m m' : Actor}

theorem isApart (internals : m.HasDefaultInternals w) (actor : m ∈ cast.actors)
    (actor' : m' ∈ cast.actors) :
    m.registry.IsApart w m'.place := by
  have apart := internals.apart
  have other := cast.registries m actor m' actor'
  cases registry : m.registry with
  | dict p =>
    rw [registry] at apart other
    exact ⟨fun same => other (same ▸ rfl), apart.2⟩
  | registry => trivial
  | _ =>
    rw [registry] at apart
    exact apart.elim

namespace Spares

theorem refl (cast : Cast) (may : Actor → String → Prop) (w : World) : cast.Spares may w w :=
  ⟨fun _ _ internals => .refl internals, .refl _ _, Nat.le_refl _⟩

theorem trans (h : cast.Spares may u v) (h' : cast.Spares may v w) : cast.Spares may u w where
  actors m actor internals :=
    have spared := h.actors m actor internals
    spared.trans (h'.actors m actor spared.internals)
  forwarders := h.forwarders.trans h'.forwarders
  lists := h.lists.trans h'.lists

theorem mono (h : cast.Spares may w w') (more : ∀ m ∈ cast.actors, ∀ n, may m n → may' m n) :
    cast.Spares may' w w' where
  actors m actor internals := (h.actors m actor internals).mono (more m actor)
  forwarders := h.forwarders
  lists := h.lists

/-- What changes attributes of one task spares the others. -/
theorem of_keeps (kept : Keeps s w w')
    (actor : m ∈ cast.actors) (place : s.place = m.place)
    (own : m.HasDefaultInternals w → m.Spared (may m) w w') : cast.Spares may w w' where
  actors m' actor' internals := by
    by_cases same : m' = m
    · exact same ▸ own (same ▸ internals)
    · have other : m'.place ≠ s.place := fun here =>
        same (cast.places m' actor' m actor (here.trans place))
      exact .of_internals internals (DefaultInternals.of_keeps internals kept
        (place ▸ isApart internals actor' actor) fun _ _ => .inl other) kept fun _ _ => .inl other
  forwarders := kept.forwarded
  lists := kept.lists.size_le

theorem of_other (kept : Keeps s w w')
    (other : ∀ m ∈ cast.actors, m.place ≠ s.place ∧ m.registry.IsApart w s.place) :
    cast.Spares may w w' where
  actors m actor internals :=
    .of_internals internals (DefaultInternals.of_keeps internals kept (other m actor).2
    fun _ _ => .inl (other m actor).1) kept fun _ _ => .inl (other m actor).1
  forwarders := kept.forwarded
  lists := kept.lists.size_le

theorem of_rests (kept : ∀ d, Keeps ⟨d, fun _ => False, s.tables⟩ w w') : cast.Spares may w w' where
  actors m actor internals :=
    .of_internals internals (DefaultInternals.of_keeps internals (kept m.place)
    (isApart internals actor actor) fun _ _ => .inr id) (kept m.place) fun _ _ => .inr id
  forwarders := (kept 0).forwarded
  lists := (kept 0).lists.size_le

theorem of_untouched (same : Untouched w w') : cast.Spares may w w' :=
  of_rests (s := .nothing 0) fun d => (same d).toKeeps

end Spares

end Cast

structure World.KeepsClasses (w w' : World) : Prop where
  bodies : ∀ c n, n ≠ "__annotations__" →
    (w'.classInfo c).body.lookup n = (w.classInfo c).body.lookup n
  recalls : w.Recalls w'

namespace World.KeepsClasses

variable {s : Scope} {u v w w' : World}

theorem refl (w : World) : w.KeepsClasses w := ⟨fun _ _ _ => rfl, .of_eq rfl⟩

theorem trans (h : u.KeepsClasses v) (h' : v.KeepsClasses w) : u.KeepsClasses w where
  bodies c n hn := (h'.bodies c n hn).trans (h.bodies c n hn)
  recalls c x known := h'.recalls c x (h.recalls c x known)

theorem of_keeps (kept : Keeps s w w') (recalls : w.Recalls w') : w.KeepsClasses w' :=
  ⟨fun c n hn => (kept.classes c).lookup n hn, recalls⟩

end World.KeepsClasses

end EventTasks
