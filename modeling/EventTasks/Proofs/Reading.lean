import EventTasks.Attribute
import EventTasks.Proofs.Keeping

/-!
Reading attributes where no written code is asked: an object whose class reads in the usual way
shows a value, its own or the one that stands in its class, or has a function of its class as a
method. What is read so stays so while a scope is kept to.
-/
namespace EventTasks

open Act

namespace World

structure ReadsUsually (w : World) (i : Nat) : Prop where
  always : w.hook? (w.objectClassOf i) "__getattribute__" = none
  missing : w.hook? (w.objectClassOf i) "__getattr__" = none

structure Holds (w : World) (i place : Nat) : Prop where
  held : w.objects[i]?.bind ObjectInfo.attributes = some place
  inside : place < w.dicts.size

def IsDatum (w : World) : Value → Prop
  | .ref (.function _) | .ref (.staticMethod _) | .ref (.classMethod _) | .ref (.property _)
  | .ref (.slot _) | .ref (.aspect _ _) => False
  | v => w.hookOf? v "__get__" = none

/-- Reading the attribute gives this value, the object's own or as it stands in its class. -/
def Shows (w : World) (i : Nat) (n : String) (v : Value) : Prop :=
  ((w.attributesOf i).text? n = some v ∧
    ∀ e, w.definition? (w.objectClassOf i) n = some e → w.comesFirst e = false) ∨
  ((w.attributesOf i).text? n = none ∧ w.definition? (w.objectClassOf i) n = some v ∧ w.IsDatum v)

/-- The attribute is a method of the object's class. -/
def Means (w : World) (i : Nat) (n : String) (f : Function) : Prop :=
  (w.attributesOf i).text? n = none ∧
    w.definition? (w.objectClassOf i) n = some (.function f)

variable {w : World} {i place : Nat}

theorem Holds.attributesOf_eq (holds : w.Holds i place) : w.attributesOf i = w.dictAt place := by
  simp [attributesOf, attributes?, holds.held]

theorem findEntry_congr {w w' : World} {n : String}
    (classes : ∀ c, (w.classInfo c).Alike (w'.classInfo c))
    (hn : n ≠ "__annotations__") (order : List Nat) :
    w'.findEntry order n = w.findEntry order n := by
  unfold findEntry
  congr 1
  funext c
  rw [(classes c).lookup n hn]

theorem mem_of_findEntry {w : World} {order : List Nat} {n : String} {p : Nat × Value}
    (found : w.findEntry order n = some p) : p.1 ∈ order ∧ (n, p.2) ∈ (w.classInfo p.1).body := by
  obtain ⟨c, searched, here⟩ := List.exists_of_findSome?_eq_some found
  obtain ⟨v, looked, rfl⟩ := Option.map_eq_some_iff.1 here
  obtain ⟨front, behind, body, -⟩ := List.lookup_eq_some_iff.1 looked
  exact ⟨searched, by simp [body]⟩

theorem mem_of_definition? {w : World} {c : Nat} {n : String} {e : Value}
    (found : w.definition? c n = some e) : ∃ k ∈ w.orderOf c, (n, e) ∈ (w.classInfo k).body := by
  obtain ⟨p, entry, rfl⟩ := Option.map_eq_some_iff.1 found
  exact ⟨p.1, mem_of_findEntry entry⟩

/-- What an object has of its own is shown where its class has nothing under the name. -/
theorem Shows.of_own {n : String} {v : Value} (own : (w.attributesOf i).text? n = some v)
    (lacking : w.definition? (w.objectClassOf i) n = none) : w.Shows i n v :=
  .inl ⟨own, fun e found => absurd (found.symm.trans lacking) (by simp)⟩

theorem exists_ref_of_isCallable {v : Value} (callable : w.isCallable v = true) :
    ∃ f, v = .ref f := by
  cases v with
  | ref f => exact ⟨f, rfl⟩
  | _ => simp [World.isCallable] at callable

end World

namespace Keeps

variable {s : Scope} {w w' : World} {i place : Nat} {n : String} {v : Value} {f : Function}

theorem orderOf (kept : Keeps s w w') (c : Nat) : w'.orderOf c = w.orderOf c :=
  (kept.classes c).order

theorem definition? (kept : Keeps s w w') (hn : n ≠ "__annotations__") (c : Nat) :
    w'.definition? c n = w.definition? c n := by
  rw [World.definition?, World.definition?, kept.orderOf, World.findEntry_congr kept.classes hn]

theorem hook? (kept : Keeps s w w') (hn : n ≠ "__annotations__") (c : Nat) :
    w'.hook? c n = w.hook? c n := by
  rw [World.hook?, World.hook?, kept.orderOf, World.findEntry_congr kept.classes hn]

theorem objectClassOf (kept : Keeps s w w') (i : Nat) : w'.objectClassOf i = w.objectClassOf i := by
  rw [World.objectClassOf, World.objectClassOf, kept.objects]

theorem hookOf? (kept : Keeps s w w') (hn : n ≠ "__annotations__") (v : Value) :
    w'.hookOf? v n = w.hookOf? v n := by
  unfold World.hookOf?
  cases v.objectPlace? with
  | none => rfl
  | some i => simp only [kept.objectClassOf, kept.hook? hn]

theorem decidesChange (kept : Keeps s w w') (v : Value) :
    w'.decidesChange v = w.decidesChange v := by
  unfold World.decidesChange
  simp only [kept.hookOf? (n := "__set__") (by decide),
    kept.hookOf? (n := "__delete__") (by decide)]

theorem comesFirst (kept : Keeps s w w') (v : Value) : w'.comesFirst v = w.comesFirst v := by
  unfold World.comesFirst
  rw [kept.hookOf? (by decide), kept.decidesChange]

theorem isDatum (kept : Keeps s w w') : w'.IsDatum v ↔ w.IsDatum v := by
  unfold World.IsDatum
  simp only [kept.hookOf? (n := "__get__") (by decide)]

theorem isCallable (kept : Keeps s w w') (v : Value) : w'.isCallable v = w.isCallable v := by
  unfold World.isCallable
  split
  · rw [kept.objectClassOf, kept.definition? (by decide)]
  all_goals rfl

theorem plain (kept : Keeps s w w') : v.Plain w' ↔ v.Plain w := by
  unfold Value.Plain
  simp only [kept.objectClassOf, kept.hook? (n := "__hash__") (by decide),
    kept.hook? (n := "__eq__") (by decide)]

theorem readsUsually (kept : Keeps s w w') (usual : w.ReadsUsually i) : w'.ReadsUsually i := by
  refine ⟨?_, ?_⟩
  · rw [kept.objectClassOf, kept.hook? (by decide)]
    exact usual.always
  · rw [kept.objectClassOf, kept.hook? (by decide)]
    exact usual.missing

theorem holds (kept : Keeps s w w') (holds : w.Holds i place) : w'.Holds i place :=
  ⟨kept.objects ▸ holds.held, Nat.lt_of_lt_of_le holds.inside kept.dictsSize⟩

theorem dictAt (kept : Keeps s w w') (inside : place < w.dicts.size) (other : place ≠ s.place) :
    w'.dictAt place = w.dictAt place := by
  have stays := kept.dicts place w.dicts[place] other (Array.getElem?_eq_getElem inside)
  simp [World.dictAt, stays, inside]

theorem own (kept : Keeps s w w') (holds : w.Holds i place)
    (outside : place ≠ s.place ∨ ¬ s.names n) :
    (w'.attributesOf i).text? n = (w.attributesOf i).text? n := by
  rw [(kept.holds holds).attributesOf_eq, holds.attributesOf_eq]
  by_cases same : place = s.place
  · subst same
    exact kept.attributes n (outside.resolve_left (· rfl))
  · rw [kept.dictAt holds.inside same]

theorem shows (kept : Keeps s w w') (holds : w.Holds i place)
    (outside : place ≠ s.place ∨ ¬ s.names n) (hn : n ≠ "__annotations__")
    (shows : w.Shows i n v) : w'.Shows i n v := by
  unfold World.Shows
  rw [kept.own holds outside, kept.objectClassOf, kept.definition? hn, kept.isDatum]
  simp only [kept.comesFirst]
  exact shows

theorem means (kept : Keeps s w w') (holds : w.Holds i place)
    (outside : place ≠ s.place ∨ ¬ s.names n) (hn : n ≠ "__annotations__")
    (means : w.Means i n f) : w'.Means i n f := by
  unfold World.Means
  rw [kept.own holds outside, kept.objectClassOf, kept.definition? hn]
  exact means

end Keeps

/-! Reading -/

namespace Host

variable {h : Host} {w : World} {i : Nat} {n : String} {v : Value} {f : Function}

theorem attr_eq_usual (usual : w.ReadsUsually i) (n : String) :
    h.attr (.object i) n w = h.usualAttribute (.object i) n w := by
  have always := usual.always
  have missing := usual.missing
  rw [attr, bind_run]
  simp [Value.object, always, missing]

theorem fetch_datum (datum : w.IsDatum v) (owner : Option Value) (c : Nat) :
    h.fetch v owner c w = .ok v w := by
  cases v with
  | ref r =>
    cases r with
    | subject t =>
      cases t with
      | object j =>
        have hook : w.hookOf? (.ref (.subject (.object j))) "__get__" = none := datum
        cases owner <;> simp [fetch, fetchHeld, bind_run, hook]
      | cls c => cases owner <;> rfl
    | function | staticMethod | classMethod | property | slot | aspect => exact datum.elim
    | _ => cases owner <;> rfl
  | _ => cases owner <;> rfl

theorem attr_shows (usual : w.ReadsUsually i) (shows : w.Shows i n v) :
    h.attr (.object i) n w = .ok v w := by
  rw [attr_eq_usual usual, usualAttribute, bind_run]
  simp only [get_run, Value.object, Value.objectPlace?, World.classOf, World.classOfRef]
  rcases shows with ⟨own, above⟩ | ⟨own, entry, datum⟩
  · cases he : w.definition? (w.objectClassOf i) n with
    | none => simp only [own, pure_run]
    | some e => simp only [own, above e he, Bool.false_eq_true, if_false, pure_run]
  · simp only [own, entry]
    exact fetch_datum datum _ _

theorem attr_means (usual : w.ReadsUsually i) (means : w.Means i n f) :
    h.attr (.object i) n w =
      .ok (.ref (.method w.later.stamps (.object i) f)) w.later := by
  rw [attr_eq_usual usual, usualAttribute, bind_run]
  simp only [get_run, Value.object, Value.objectPlace?, World.classOf, World.classOfRef, means.1,
    means.2]
  rfl

end Host

end EventTasks
