import EventTasks.Proofs.Emitting
import EventTasks.Proofs.Numbering

/-!
Events that abide by a law. A class may have scripted code that numbers and compares its objects,
and such code may do and answer anything. What an emitter needs of it is that it answers the same
each time, or refuses each time, and leaves the emitter alone meanwhile. Then an event is looked for
in the same way each time, and subscribing a handler and taking it back change the table as they do
for plain events. That comparing is an equivalence is not needed for that.
-/
namespace EventTasks

open Act

namespace Emitter

structure Stands (inForce : World → Prop) (r e p : Nat) (s : Subscriptions) (w : World) : Prop where
  inForce : inForce w
  emitter : w.IsEmitter r e p
  same : w.subscriptionsAt p = s

/-- How the events of an emitter are hashed and compared: the hosts, events and worlds that this is
said of, the hash of each event, if it has one, and which events are equal. Asking may do anything
that leaves this and the emitter alone. -/
structure Law (r e p : Nat) where
  hosts : Host → Prop
  inForce : World → Prop
  covers : Value → Prop
  number : Value → Option Int
  alike : Value → Value → Bool
  /-- What is made anew, and the tables, do not matter. -/
  lasts : ∀ {w : World} (tables lists bound stamps), inForce w →
    inForce { w with tables := tables, lists := lists, bound := bound, stamps := stamps }
  numbers : ∀ {h v n s w}, hosts h → covers v → number v = some n → Stands inForce r e p s w →
    ∃ k w', h.numberOf v w = .ok (n, k) w' ∧ Stands inForce r e p s w'
  refuses : ∀ {h v s w}, hosts h → covers v → number v = none → Stands inForce r e p s w →
    ∃ fault w', h.numberOf v w = .error fault w' ∧ Stands inForce r e p s w'
  compares : ∀ {h u v n s w}, hosts h → covers u → covers v → number u = some n →
    number v = some n →
    Stands inForce r e p s w → ∃ w', h.equals u v w = .ok (alike u v) w' ∧ Stands inForce r e p s w'

namespace Law

variable {r e p : Nat}

def same (law : Law r e p) (u v : Value) : Bool :=
  (law.number u).isSome && decide (law.number u = law.number v) && law.alike u v

theorem same_eq_true {law : Law r e p} {u v : Value} :
    law.same u v = true ↔ ∃ n, law.number u = some n ∧ law.number v = some n ∧
        law.alike u v = true := by
  simp only [same, Bool.and_eq_true, Option.isSome_iff_exists, decide_eq_true_eq]
  constructor
  · rintro ⟨⟨⟨n, hu⟩, numbers⟩, alike⟩
    exact ⟨n, hu, numbers ▸ hu, alike⟩
  · rintro ⟨n, hu, hv, alike⟩
    exact ⟨⟨⟨n, hu⟩, hu.trans hv.symm⟩, alike⟩

/-- Having one hash and being equal is an equivalence. -/
structure IsEquivalence (law : Law r e p) : Prop where
  symm : ∀ {u v}, law.covers u → law.covers v → law.same u v = true → law.same v u = true
  trans : ∀ {u v x}, law.covers u → law.covers v → law.covers x → law.same u v = true →
    law.same v x = true → law.same u x = true

structure Names (law : Law r e p) (topic : Topic) : Prop where
  covered : law.covers topic.event
  read : ∃ n, law.number topic.event = some n ∧
    ∃ (h : Host) (w w' : World), h.numberOf topic.event w = .ok (n, topic.key) w'

/-- Each channel is found by the hash of its event, and no event equals that of an earlier
channel. -/
structure Orders (law : Law r e p) (s : Subscriptions) : Prop where
  names : ∀ c ∈ s.table, law.Names c.topic
  distinct : (s.table.map fun c => c.topic.key).Nodup
  apart : s.table.Pairwise fun c d => law.same c.topic.event d.topic.event = false
  slots : s.slots.Sound (s.table.map fun c => (law.number c.topic.event).getD 0)

def position? (law : Law r e p) (s : Subscriptions) (v : Value) : Option Nat :=
  ((s.slots.met ((law.number v).getD 0)).find? fun q =>
    (s.table[q.1]?).any fun c => law.same c.topic.event v).map Prod.fst

def key? (law : Law r e p) (s : Subscriptions) (v : Value) : Option Key :=
  (law.position? s v).bind fun i => (s.table[i]?).map fun c => c.topic.key

variable {law : Law r e p} {h : Host} {s : Subscriptions} {w : World} {u v : Value}
  {n : Int} {f : Ref}

/-! What the law is in force in -/

abbrev Within (law : Law r e p) (s : Subscriptions) (w : World) : Prop :=
  Stands law.inForce r e p s w

theorem Within.of_keeps (within : law.Within s w) (scope : Scope) (tables lists bound stamps)
    (kept : Keeps scope w
      { w with tables := tables, lists := lists, bound := bound, stamps := stamps })
    (spares : scope.Spares e) {s' : Subscriptions} (same : tables[p]?.getD {} = s') :
    law.Within s' { w with tables := tables, lists := lists, bound := bound, stamps := stamps } :=
  ⟨law.lasts _ _ _ _ within.inForce, kept.isEmitter spares within.emitter, same⟩

theorem Within.putTable (within : law.Within s w) (s' : Subscriptions) :
    law.Within s' (w.putTable p s') :=
  within.of_keeps (.table 0 p) _ _ _ _ (.putTable rfl s') (.inr ⟨id, id, id⟩)
    (World.subscriptionsAt_putTable within.emitter.inside)

theorem Within.pushList (within : law.Within s w) (l : List Value) :
    law.Within s { w with lists := w.lists.push l } :=
  within.of_keeps (.nothing e) _ _ _ _ (.pushList l) (Scope.spares_nothing e e) within.same

theorem Within.pushBound (within : law.Within s w) (v : Value) (f : Function) :
    law.Within s (w.pushBound v f) :=
  within.of_keeps (.nothing e) _ _ _ _ (.pushBound v f) (Scope.spares_nothing e e) within.same

/-! Counting as the same -/

theorem same_of_isSame (host : law.hosts h) (within : law.Within s w) (hu : law.covers u)
    (hv : law.covers v) (numbered : (law.number u).isSome) (number : law.number v = some n)
    (one : u.isSame v = true) : law.same u v = true := by
  obtain ⟨m, hm⟩ := Option.isSome_iff_exists.1 numbered
  obtain ⟨k, x, run, -⟩ := law.numbers host hu hm within
  obtain ⟨l, y, run', -⟩ := law.numbers host hv number within
  rw [Host.numberOf_congr u v one, run'] at run
  obtain ⟨same, -⟩ := EStateM.Result.ok.inj run
  obtain ⟨rfl, -⟩ := Prod.mk.inj same
  obtain ⟨z, compared, -⟩ := law.compares host hu hv hm number within
  have equal : h.equals u v w = .ok true w := by
    cases u <;> cases v <;> simp_all [Host.equals]
  rw [equal] at compared
  obtain ⟨alike, -⟩ := EStateM.Result.ok.inj compared
  exact same_eq_true.2 ⟨n, hm, number, alike.symm⟩

theorem same_of_key (host : law.hosts h) (within : law.Within s w) {a b : Topic} (ha : law.Names a)
    (hb : law.Names b) (key : a.key = b.key) : law.same a.event b.event = true := by
  obtain ⟨n, hn, _, _, _, run⟩ := ha.read
  obtain ⟨m, hm, _, _, _, run'⟩ := hb.read
  obtain ⟨-, rfl, equal⟩ :=
    Host.equals_of_numberOf a.event b.event (r := []) (s := []) run run' (by rw [key])
  obtain ⟨z, compared, -⟩ := law.compares host ha.covered hb.covered hn hm within
  obtain ⟨alike, -⟩ := EStateM.Result.ok.inj ((equal h w).symm.trans compared)
  exact same_eq_true.2 ⟨n, hn, hm, alike.symm⟩

/-! Searching -/

theorem position?_eq_some {i : Nat} (found : law.position? s v = some i) :
    ∃ c, s.table[i]? = some c ∧ law.same c.topic.event v = true := by
  obtain ⟨q, hq, rfl⟩ := Option.map_eq_some_iff.1 found
  have counts := (List.find?_eq_some_iff_append.1 hq).1
  cases there : s.table[q.1]? with
  | none => simp [there] at counts
  | some c => exact ⟨c, rfl, by simpa [there] using counts⟩

theorem position?_eq_none (orders : law.Orders s) :
    law.position? s v = none ↔ ∀ c ∈ s.table, law.same c.topic.event v = false := by
  constructor
  · intro absent c found
    by_contra counts
    have counts : law.same c.topic.event v = true := by simpa using counts
    obtain ⟨n, hc, hv, -⟩ := same_eq_true.1 counts
    obtain ⟨i, there⟩ := List.mem_iff_getElem?.1 found
    have met : (i, n) ∈ s.slots.met ((law.number v).getD 0) := by
      rw [hv]
      exact Slots.mem_met orders.slots (by simp [there, hc])
    have none := List.find?_eq_none.1 (Option.map_eq_none_iff.1 absent) (i, n) met
    simp [there, counts] at none
  · intro apart
    refine Option.map_eq_none_iff.2 (List.find?_eq_none.2 fun q _ => ?_)
    cases there : s.table[q.1]? with
    | none => simp
    | some c => simp [apart c (List.mem_of_getElem? there)]

theorem position?_congr {table : Table}
    (topics : table.map Channel.topic = s.table.map Channel.topic) :
    law.position? { s with table } v = law.position? s v := by
  have along (i : Nat) : (table[i]?).map Channel.topic = (s.table[i]?).map Channel.topic := by
    simpa using congrArg (·[i]?) topics
  simp only [position?]
  congr 2
  funext q
  have at_q := along q.1
  cases hc : table[q.1]? <;> cases hd : s.table[q.1]? <;> simp_all

theorem key?_congr {table : Table} (topics : table.map Channel.topic = s.table.map Channel.topic) :
    law.key? { s with table } v = law.key? s v := by
  have along (i : Nat) : (table[i]?).map (fun c => c.topic.key) = (s.table[i]?).map fun c =>
      c.topic.key := by
    simpa [Function.comp_def] using congrArg (fun l => (l[i]?).map Topic.key) topics
  simp only [key?, position?_congr topics, along]

/-- A search for an event ends where the law says, and the law is still in force. -/
theorem locate_law (host : law.hosts h) (within : law.Within s w) (orders : law.Orders s)
    (covered : law.covers v) (number : law.number v = some n) :
    ∃ w', h.locate (Host.knownIn p) v n Host.searches w = .ok (law.position? s v) w' ∧
      law.Within s w' := by
  have now : ∀ u, law.Within s u → Host.knownIn p u = .ok (.ofSubscriptions s) u :=
      fun u stands => by
    rw [← stands.same]
    rfl
  have judges : ∀ q ∈ (Known.ofSubscriptions s).slots.met n, ∃ name,
      Host.Judges h (law.Within s) (.ofSubscriptions s) v n (law.same · v) q name := by
    intro q met
    have row := Slots.getElem?_of_mem_met orders.slots met
    obtain ⟨c, there, numbered⟩ : ∃ c, s.table[q.1]? = some c ∧
        (law.number c.topic.event).getD 0 = q.2 := by simpa using row
    have names := orders.names c (List.mem_of_getElem? there)
    obtain ⟨m, hm, -⟩ := names.read
    obtain rfl : m = q.2 := by simpa [hm] using numbered
    refine ⟨c.topic.event, by simp [Known.ofSubscriptions, Table.events, there], fun one => ?_,
      fun other _ => ?_, fun alike u stands => ?_⟩
    · exact same_of_isSame host within names.covered covered (by simp [hm]) number one
    · by_contra counts
      obtain ⟨l, hl, hl', -⟩ := same_eq_true.1 (by simpa using counts)
      exact other (Option.some.inj (hm.symm.trans (hl.trans (hl'.symm.trans number))))
    · have numbers : law.same c.topic.event v = law.alike c.topic.event v := by
        simp [same, hm, number, alike]
      rw [numbers]
      exact law.compares host names.covered covered hm (alike ▸ number) stands
  obtain ⟨w', run, stands⟩ := Host.locate_judged now judges within 999
  refine ⟨w', ?_, stands⟩
  rw [show Host.searches = 999 + 1 from rfl, run, position?, number]
  congr 3
  funext q
  cases there : s.table[q.1]? <;> simp [Known.ofSubscriptions, Table.events, there]

/-- An event with a hash is found where the law says. -/
theorem topicIn_law (host : law.hosts h) (within : law.Within s w) (orders : law.Orders s)
    (covered : law.covers v) (number : law.number v = some n) :
    ∃ k w', law.Names ⟨v, k⟩ ∧ law.Within s w' ∧ h.topicIn p v w =
      .ok (n, ⟨v, (law.key? s v).getD k⟩, law.position? s v) w' := by
  obtain ⟨k, u, numbered, stands⟩ := law.numbers host covered number within
  obtain ⟨w', located, stands'⟩ := locate_law host stands orders covered number
  refine ⟨k, w', ⟨covered, n, number, h, w, u, numbered⟩, stands', ?_⟩
  rw [Host.topicIn, bind_of_ok numbered]
  simp only
  rw [bind_of_ok located]
  cases found : law.position? s v with
  | none => simp [key?, found]
  | some i => simp [key?, found, bind_run, World.tableAt, stands'.same]

theorem topicIn_refused (host : law.hosts h) (within : law.Within s w) (covered : law.covers v)
    (number : law.number v = none) :
    ∃ fault w', h.topicIn p v w = .error fault w' ∧ law.Within s w' := by
  obtain ⟨fault, u, refused, stands⟩ := law.refuses host covered number within
  exact ⟨fault, u, Host.topicIn_unhashed refused, stands⟩

end Law

end Emitter

end EventTasks
