import EventTasks.Proofs.Attaching
import EventTasks.Task.Construction

/-!
Going through a class for its handlers. Every name that is defined along its search order is read
from the class; those of handlers that give something to call are the handlers, and the first name
that cannot be read ends it. A class none of whose entries decides what reading it means can be gone
through.
-/
namespace EventTasks

open Act

namespace World

structure IsPlainEntry (w : World) (e : Value) : Prop where
  tells : Capability.TellsClass w e
  hooks : ∀ n ∈ ["__get__", "__set__", "__delete__"], w.hookOf? e n = none

theorem IsPlainEntry.unhooked {w : World} {e : Value} (plain : w.IsPlainEntry e) :
    w.hookOf? e "__get__" = none := plain.hooks _ (by simp)

theorem isPlainEntry_of_noObject {w : World} {e : Value} (none : e.objectPlace? = none) :
    w.IsPlainEntry e where
  tells j same := by simp [same, Value.object, Value.objectPlace?] at none
  hooks m _ := by rw [hookOf?, none]

/-- A class of one of the usual kinds whose entries, except under some odd names, are no
descriptors. -/
structure HasPlainEntries (w : World) (c : Nat) (odd : String → Prop) : Prop where
  standard : w.Standard
  kind : w.UsualKind c
  plain : ∀ k ∈ c :: w.orderOf c, ∀ p ∈ (w.classInfo k).body, ¬ odd p.1 → w.IsPlainEntry p.2
  doc : ¬ odd "__doc__"

theorem HasPlainEntries.definition? {w : World} {c : Nat} {n : String} {e : Value}
    {odd : String → Prop} (entries : w.HasPlainEntries c odd) (even : ¬ odd n)
    (found : w.definition? c n = some e) : w.IsPlainEntry e := by
  obtain ⟨k, hk, inside⟩ := mem_of_definition? found
  exact entries.plain k (List.mem_cons_of_mem _ hk) _ inside even

end World

namespace Keeps

variable {s : Scope} {w w' : World} {c : Nat} {e : Value} {odd : String → Prop}

theorem isPlainEntry (kept : Keeps s w w') (plain : w.IsPlainEntry e) : w'.IsPlainEntry e where
  tells := plain.tells.of_keeps kept
  hooks n hn := by
    have outside : ∀ m ∈ ["__get__", "__set__", "__delete__"], m ≠ "__annotations__" := by decide
    rw [kept.hookOf? (outside n hn)]
    exact plain.hooks n hn

theorem hasPlainEntries (kept : Keeps s w w') (entries : w.HasPlainEntries c odd) :
    w'.HasPlainEntries c odd where
  standard := kept.standard entries.standard
  kind := kept.usualKind entries.kind
  plain k hk p hp even := by
    rw [kept.orderOf] at hk
    rcases (kept.classes k).entries p hp with ⟨-, q, made⟩ | there
    · exact World.isPlainEntry_of_noObject (by rw [made]; rfl)
    · exact kept.isPlainEntry (entries.plain k hk p there even)
  doc := entries.doc

theorem offersCall (kept : Keeps s w w') (e : Value) : w'.offersCall e = w.offersCall e := by
  unfold World.offersCall
  split
  · rfl
  · exact kept.isCallable _

end Keeps

namespace Act

variable {w w' : World} {m : Act Value} {v : Value}

def Finds (m : Act Value) (w : World) : Prop :=
  ∃ w', Untouched w w' ∧
    ((∃ v, m w = .ok v w') ∨ ∃ f : Fault, f.isMissing = true ∧ m w = .error f w')

theorem finds_of_ok (run : m w = .ok v w') (same : Untouched w w') : Finds m w :=
  ⟨w', same, .inl ⟨v, run⟩⟩

theorem finds_of_missing {f : Fault} (missing : f.isMissing = true) (run : m w = .error f w) :
    Finds m w := ⟨w, .refl w, .inr ⟨f, missing, run⟩⟩

theorem forM_still {l : List α} {f : α → Act Unit} (still : ∀ x ∈ l, f x w = .ok () w) :
    l.forM f w = .ok () w := by
  induction l with
  | nil => rfl
  | cons x l ih =>
    exact (bind_of_ok (still x (by simp))).trans (ih fun y hy => still y (by simp [hy]))

end Act

theorem Naming.isHandlerName_ne {n m : String} (named : Naming.isHandlerName n = true)
    (other : Naming.isHandlerName m = false) : n ≠ m := by
  rintro rfl
  simp [named] at other

theorem World.Pauses.untouched {w w' : World} (pauses : w.Pauses w') : Untouched w w' :=
  fun _ => pauses.rests

namespace Host

variable {h : Host} {w : World} {c k : Nat} {n : String} {e v : Value}

theorem attr?_of_finds (finds : Finds (h.attr v n) w) :
    ∃ found w', h.attr? v n w = .ok found w' ∧ Untouched w w' := by
  obtain ⟨w', same, ⟨x, run⟩ | ⟨f, missing, run⟩⟩ := finds
  · exact ⟨some x, w', by rw [attr?, orMissing, tryCatch_run, map_run, run], same⟩
  · refine ⟨none, w', ?_, same⟩
    rw [attr?, orMissing, tryCatch_run, map_run, run]
    simp [missing]

/-! What classes of classes define -/

def isStock : Value → Bool
  | .text _ _ | .nothing => true
  | .ref (.function _) | .ref (.staticMethod _) | .ref (.classMethod _) => true
  | .ref (.aspect _ _) | .ref (.dict _) => true
  | _ => false

theorem isStock_of_kind (standard : w.Standard) (usual : w.UsualKind c)
    (entry : w.definition? (w.classInfo c).kind n = some e) :
    isStock e = true ∧ Naming.isHandlerName n = false := by
  have stock : ∀ k ∈ [Library.typeClass, Library.abstractTypeClass, Library.protocolTypeClass],
      k ∈ Library.basics ∧ ∀ m ∈ World.start.orderOf k, m ∈ Library.basics ∧
        ∀ p ∈ (World.start.classInfo m).body,
          isStock p.2 = true ∧ Naming.isHandlerName p.1 = false := by decide
  obtain ⟨inside, along⟩ := stock _ usual
  obtain ⟨m, hm, found⟩ := World.mem_of_definition? entry
  have order : w.orderOf (w.classInfo c).kind = World.start.orderOf (w.classInfo c).kind :=
    (standard _ inside).order
  obtain ⟨basic, body⟩ := along m (order ▸ hm)
  rcases (standard m basic).entries _ found with ⟨rfl, q, rfl⟩ | there
  · exact ⟨rfl, rfl⟩
  · exact body (n, e) there

theorem finds_annotationsOf (c : Nat) : Finds (annotationsOf c) w := by
  have kept : Untouched w ((annotationsOf c).after w) := fun _ => after_annotationsOf c
  cases fixed : (w.classInfo c).isFixed with
  | true =>
    have run : annotationsOf c w =
        .error (.missingClassAttribute (w.classInfo c).name "__annotations__") w := by
      rw [annotationsOf, bind_of_ok (get_run w)]
      simp only [fixed, if_true, throw_run]
    exact finds_of_missing rfl run
  | false =>
    cases run : annotationsOf c w with
    | ok v w' => exact finds_of_ok run (after_of_ok run ▸ kept)
    | error f w' =>
      rw [annotationsOf, bind_of_ok (get_run w)] at run
      simp only [fixed, Bool.false_eq_true, if_false] at run
      cases known : (w.classInfo c).body.lookup "__annotations__" <;> simp only [known] at run <;>
        cases run

theorem finds_aspectOf (c : Nat) (a : Aspect) : Finds (aspectOf (.cls c) a) w := by
  cases a with
  | annotations => exact finds_annotationsOf c
  | body => exact finds_of_ok rfl .later
  | abstract =>
    show Finds (classAspect c .abstract) w
    rw [Finds, classAspect, bind_of_ok (get_run w)]
    cases (w.classInfo c).body.lookup "__abstractmethods__" with
    | some v => exact finds_of_ok rfl (.refl w)
    | none => exact finds_of_missing (f := .missingHook "__abstractmethods__") rfl rfl
  | place =>
    show Finds (classAspect c .place) w
    rw [Finds, classAspect, bind_of_ok (get_run w)]
    cases (w.classInfo c).body.lookup "__module__" with
    | some v => exact finds_of_ok rfl (.refl w)
    | none =>
      cases (w.classInfo c).isFixed with
      | true => exact finds_of_ok rfl (.refl w)
      | false => exact finds_of_missing (f := .missingHook "__module__") rfl rfl
  | _ => exact finds_of_ok rfl (.refl w)

/-- What the class of a class defines is read from the class without doing anything. -/
theorem finds_stock (stock : isStock e = true)
    (doc : ∀ e, (w.classInfo c).body.lookup "__doc__" = some e → w.hookOf? e "__get__" = none) :
    Finds (h.fetch e (some (.cls c)) k) w := by
  cases e with
  | text | nothing => exact finds_of_ok rfl (.refl w)
  | ref r =>
    cases r with
    | function f => exact finds_of_ok rfl .later
    | staticMethod f => exact finds_of_ok rfl (.refl w)
    | classMethod f => exact finds_of_ok rfl .later
    | dict q => exact finds_of_ok rfl (.refl w)
    | aspect o a =>
      by_cases described : a = .doc
      · subst described
        have told : aspectOf (.cls c) .doc w =
            .ok (((w.classInfo c).body.lookup "__doc__").getD .nothing) w := rfl
        rw [Finds, fetch, bind_of_ok told]
        cases found : (w.classInfo c).body.lookup "__doc__" with
        | none => exact finds_of_ok rfl (.refl w)
        | some e =>
          obtain ⟨v, w', run, pauses, -⟩ := fetchHeld_class (h := h) (doc e found) c
          exact finds_of_ok run pauses.untouched
      · have told : h.fetch (.ref (.aspect o a)) (some (.cls c)) k =
            aspectOf (.cls c) a >>= pure := by
          rw [fetch]
          congr
          cases a <;> first | rfl | exact absurd rfl described
        rw [told, bind_pure]
        exact finds_aspectOf c a
    | _ => simp [isStock] at stock
  | _ => simp [isStock] at stock

/-! Reading from a class -/

theorem attr_class_of_none (above : w.definition? (w.classInfo c).kind n = none) :
    h.attr (.cls c) n w = (match w.definition? c n with
      | some e => h.fetch e none c
      | none => throw (w.missing (.cls c) n)) w := by
  show h.classAttribute c n w = _
  rw [classAttribute, bind_of_ok (get_run w)]
  simp only [above, Option.filter_none]
  cases w.definition? c n <;> rfl

theorem finds_attr {odd : String → Prop} (entries : w.HasPlainEntries c odd) (even : ¬ odd n) :
    Finds (h.attr (.cls c) n) w := by
  have own {e : Value} (entry : w.definition? c n = some e) : Finds (h.fetch e none c) w := by
    obtain ⟨v, w', run, pauses, -⟩ :=
      fetch_class (h := h) (entries.definition? even entry).unhooked c
    exact finds_of_ok run pauses.untouched
  cases above : w.definition? (w.classInfo c).kind n with
  | none =>
    rw [Finds, attr_class_of_none above]
    cases entry : w.definition? c n with
    | none => exact finds_of_missing (f := w.missing (.cls c) n) rfl rfl
    | some e => exact own entry
  | some e =>
    obtain ⟨stock, -⟩ := isStock_of_kind entries.standard entries.kind above
    have found : Finds (h.fetch e (some (.cls c)) (w.classInfo c).kind) w :=
      finds_stock stock fun d here => by
        obtain ⟨front, behind, body, -⟩ := List.lookup_eq_some_iff.1 here
        exact (entries.plain c (by simp) ("__doc__", d) (by simp [body]) entries.doc).unhooked
    have read : h.attr (.cls c) n w =
        (match (some e).filter w.comesFirst, w.definition? c n with
        | some e, _ => h.fetch e (some (.cls c)) (w.classInfo c).kind
        | none, some e => h.fetch e none c
        | none, none => h.fetch e (some (.cls c)) (w.classInfo c).kind) w := by
      show h.classAttribute c n w = _
      rw [classAttribute, bind_of_ok (get_run w)]
      simp only [above]
      cases (some e).filter w.comesFirst <;> cases w.definition? c n <;> rfl
    rw [Finds, read, Option.filter_some]
    cases w.comesFirst e with
    | true => exact found
    | false =>
      cases entry : w.definition? c n with
      | none => exact found
      | some e => exact own entry

end Host

namespace Task

variable {h : Host} {w u : World} {c d i : Nat} {n : String}

def refusal? (h : Host) (w : World) (c : Nat) (n : String) : Option Fault :=
  match entryOf h c n w with
  | .ok _ _ => none
  | .error f _ => some f

def Offers (h : Host) (w : World) (c : Nat) (n : String) : Bool :=
  Naming.isHandlerName n && match entryOf h c n w with
    | .ok v u => u.isCallable v
    | .error _ _ => false

/-- `inspect.getmembers` on a class ends alike whatever attributes the object at `d` comes to have
meanwhile, and changes nothing unless it fails. -/
structure Explorable (h : Host) (d : Nat) (w : World) (c : Nat) : Prop where
  above : ∀ u, Keeps (.own d) w u → u.classes = w.classes →
    ∃ u', (w.classInfo c).bases.forM (checkEntries h) u = .ok () u' ∧ Untouched u u'
  refuses : ∀ n ∈ namesAlong w (w.orderOf c), ∀ u, Keeps (.own d) w u →
    refusal? h u c n = refusal? h w c n
  offers : ∀ n ∈ namesAlong w (w.orderOf c), ∀ u, Keeps (.own d) w u →
    Offers h u c n = Offers h w c n
  still : ∀ n ∈ namesAlong w (w.orderOf c), refusal? h w c n = none → ∀ u, Keeps (.own d) w u →
    Untouched u ((entryOf h c n).after u)

def offered (h : Host) (w : World) (c : Nat) : List String :=
  (namesAlong w (w.orderOf c)).filter (Offers h w c)

theorem namesAlong_eq (classes : u.classes = w.classes) (c : Nat) :
    namesAlong u (u.orderOf c) = namesAlong w (w.orderOf c) := by
  simp only [namesAlong, World.orderOf, World.classInfo, classes]

/-- What `inspect.getmembers` on a class fails with. -/
def obstacle? (h : Host) (w : World) (c : Nat) : Option Fault :=
  (namesAlong w (w.orderOf c)).findSome? (refusal? h w c)

/-- The handlers among some names are those that the class has, unless one of the names cannot be
read. -/
theorem handlersAmong_eq (explorable : Explorable h d w c) {names : List String}
    (along : ∀ n ∈ names, n ∈ namesAlong w (w.orderOf c)) (kept : Keeps (.own d) w u) :
    match names.findSome? (refusal? h w c) with
    | some f => ∃ u', handlersAmong h c names u = .error f u'
    | none => ∃ u', handlersAmong h c names u = .ok (names.filter (Offers h w c)) u' ∧
        Untouched u u' := by
  induction names generalizing u with
  | nil => exact ⟨u, rfl, .refl u⟩
  | cons n names ih =>
    have here := along n (by simp)
    have refused := explorable.refuses n here u kept
    have callable := explorable.offers n here u kept
    rw [List.findSome?_cons]
    cases read : entryOf h c n u with
    | error f u' =>
      have failed : refusal? h u c n = some f := by rw [refusal?, read]
      rw [← refused, failed]
      exact ⟨u', by rw [handlersAmong, bind_of_error read]⟩
    | ok v u₁ =>
      have given : refusal? h u c n = none := by rw [refusal?, read]
      have same : Untouched u u₁ := by
        have still := explorable.still n here (refused.symm.trans given) u kept
        rwa [after_of_ok read] at still
      have isHandler : (u₁.isCallable v && Naming.isHandlerName n) = Offers h w c n := by
        rw [← callable, Offers, read, Bool.and_comm]
      have rest := ih (fun m hm => along m (by simp [hm])) (kept.trans same.keeps)
      rw [← refused, given]
      have front : handlersAmong h c (n :: names) u = (do
          let others ← handlersAmong h c names
          pure (if Offers h w c n then n :: others else others) : Act (List String)) u₁ := by
        rw [handlersAmong, bind_of_ok read, bind_of_ok (get_run u₁), isHandler]
      simp only [front]
      cases obstacle : names.findSome? (refusal? h w c) with
      | some f =>
        rw [obstacle] at rest
        obtain ⟨u', failed⟩ := rest
        exact ⟨u', bind_of_error failed⟩
      | none =>
        rw [obstacle] at rest
        obtain ⟨u', run, same'⟩ := rest
        refine ⟨u', ?_, same.trans same'⟩
        rw [bind_of_ok run, List.filter_cons]
        cases Offers h w c n <;> rfl

theorem mem_offered : n ∈ offered h w c ↔
    n ∈ namesAlong w (w.orderOf c) ∧ Offers h w c n = true := List.mem_filter

theorem isHandlerName_of_offered (inside : n ∈ offered h w c) : Naming.isHandlerName n = true :=
  (Bool.and_eq_true_iff.1 (mem_offered.1 inside).2).1

theorem exists_definition?_of_offered (inside : n ∈ offered h w c) :
    ∃ e, w.definition? c n = some e := by
  obtain ⟨along, -⟩ := mem_offered.1 inside
  rw [namesAlong, Text.Sorted.mem_ofList] at along
  obtain ⟨k, hk, named⟩ := List.mem_flatMap.1 along
  obtain ⟨p, hp, rfl⟩ := List.mem_map.1 named
  have known : ((w.classInfo k).body.lookup p.1).isSome :=
    List.lookup_isSome_iff.2 ⟨p, hp, by simp⟩
  have found : (w.findEntry (w.orderOf c) p.1).isSome :=
    List.findSome?_isSome_iff.2 ⟨k, hk, by simpa using known⟩
  obtain ⟨q, entry⟩ := Option.isSome_iff_exists.1 found
  exact ⟨q.2, by rw [World.definition?, entry]; rfl⟩

/-- `_get_handlers` gives the names of the handlers of the class in a new list. -/
theorem handlerNames_eq (explorable : Explorable h d w (w.objectClassOf i))
    (kept : Keeps (.own d) w u)
    (classes : u.classes = w.classes) :
    match obstacle? h w (w.objectClassOf i) with
    | some f => ∃ u', handlerNames h (.object i) u = .error f u'
    | none => ∃ p u', handlerNames h (.object i) u = .ok (.ref (.list p)) u' ∧ Untouched u u' ∧
        u'.lists[p]? = some ((offered h w (w.objectClassOf i)).map .word) := by
  have cls : u.objectClassOf i = w.objectClassOf i := kept.objectClassOf i
  have known (k : Nat) : u.classInfo k = w.classInfo k := by simp only [World.classInfo, classes]
  obtain ⟨u₁, checked, same₁⟩ := explorable.above u kept classes
  have told : handlerNames h (.object i) u = (do
      let names ← handlersAmong h (w.objectClassOf i) (namesAlong w (w.orderOf (w.objectClassOf i)))
      newList (names.map .word) : Act Value) u₁ := by
    rw [handlerNames, bind_of_ok (get_run u)]
    have own : u.classOf (.object i) = w.objectClassOf i := cls
    simp only [own, known, namesAlong_eq classes]
    exact bind_of_ok checked
  have among := handlersAmong_eq explorable (fun _ => id) (kept.trans same₁.keeps)
  rw [told, obstacle?]
  cases obstacle : (namesAlong w (w.orderOf (w.objectClassOf i))).findSome?
      (refusal? h w (w.objectClassOf i)) with
  | some f =>
    rw [obstacle] at among
    obtain ⟨u', failed⟩ := among
    exact ⟨u', bind_of_error failed⟩
  | none =>
    rw [obstacle] at among
    obtain ⟨u₂, run, same₂⟩ := among
    exact ⟨u₂.lists.size, _, (bind_of_ok run).trans rfl,
      (same₁.trans same₂).trans fun _ => .pushList _, Array.getElem?_push_size⟩

/-! Classes with plain entries -/

variable {odd : String → Prop}

theorem entryOf_handler (entries : w.HasPlainEntries c odd) (even : ¬ odd n)
    (named : Naming.isHandlerName n = true) :
    ∃ v w', entryOf h c n w = .ok v w' ∧
        w'.isCallable v = (w.definition? c n).any w.offersCall := by
  have above : w.definition? (w.classInfo c).kind n = none := by
    cases entry : w.definition? (w.classInfo c).kind n with
    | none => rfl
    | some e =>
      have other := (Host.isStock_of_kind entries.standard entries.kind entry).2
      simp [named] at other
  have read := Host.attr_class_of_none (h := h) above
  cases entry : w.definition? c n with
  | none =>
    have missing : h.attr? (.cls c) n w = .ok none w := by
      rw [entry] at read
      rw [Host.attr?, orMissing, tryCatch_run, map_run, read]
      rfl
    have absent : (do pure (((← get).definition? c n).getD .nothing) : Act Value) w =
        .ok .nothing w := by rw [bind_of_ok (get_run w), entry]; rfl
    exact ⟨.nothing, w, (bind_of_ok missing).trans absent, rfl⟩
  | some e =>
    obtain ⟨v, w', run, pauses, callable⟩ :=
      Host.fetch_class (h := h) (entries.definition? even entry).unhooked c
    have given : h.attr? (.cls c) n w = .ok (some v) w' := by
      rw [entry] at read
      rw [Host.attr?, orMissing, tryCatch_run, map_run, read.trans run]
    have same : w'.isCallable v = w.isCallable v :=
      (pauses.rests (s := .nothing 0)).toKeeps.isCallable v
    exact ⟨v, w', by rw [entryOf, bind_of_ok given]; rfl, by rw [same, callable]; rfl⟩

/-- Every name can be read from such a class, and what it defines under the name of a handler
decides whether it has that handler. -/
theorem offers_of_plain (entries : w.HasPlainEntries c odd) (h : Host) (even : ¬ odd n) :
    refusal? h w c n = none ∧ Untouched w ((entryOf h c n).after w) ∧
      Offers h w c n = (Naming.isHandlerName n && (w.definition? c n).any w.offersCall) := by
  obtain ⟨found, w', run, same⟩ := Host.attr?_of_finds (Host.finds_attr (h := h) entries even)
  have given : ∃ v, entryOf h c n w = .ok v w' := by
    rw [entryOf, bind_of_ok run]
    cases found with
    | some v => exact ⟨v, rfl⟩
    | none => exact ⟨_, rfl⟩
  obtain ⟨v, read⟩ := given
  refine ⟨by rw [refusal?, read], by rwa [after_of_ok read], ?_⟩
  cases named : Naming.isHandlerName n with
  | false => simp [Offers, named]
  | true =>
    obtain ⟨v', w'', read', callable⟩ := entryOf_handler (h := h) entries even named
    rw [Offers, named, read', ← callable]

/-- An object that leaves alone what every object has can be asked for its class. -/
theorem checkEntry_eq {e : Value} (tells : Capability.TellsClass w e) :
    (do if e.objectPlace?.isSome then
          let _ ← h.attr? e "__class__" : Act Unit) w = .ok () w := by
  cases place : e.objectPlace? with
  | none => rfl
  | some j =>
    obtain rfl : e = .object j := by
      unfold Value.objectPlace? at place
      split at place
      · rw [Option.some.inj place]
        rfl
      · simp at place
    obtain ⟨usual, cls⟩ := tells j rfl
    have told : h.attr? (.object j) "__class__" w = .ok (some (.cls (w.objectClassOf j))) w := by
      rw [Host.attr?, orMissing, tryCatch_run, map_run, Host.attr_class usual cls]
    simp only [Option.isSome_some, if_true, bind_run, told, pure_run]

def FailsAlike (h : Host) (d : Nat) (w : World) (c : Nat) (n : String) : Prop :=
  ∃ f, ∀ u, Keeps (.own d) w u → ∃ u', entryOf h c n u = .error f u'

/-- `inspect.getmembers` goes through a class with plain entries, if reading the odd names always
fails alike. -/
theorem explorable_of_plain (entries : w.HasPlainEntries c odd)
    (above : ∀ b ∈ (w.classInfo c).bases, ∀ p ∈ (w.classInfo b).body, Capability.TellsClass w p.2)
    (fails : ∀ n, odd n → FailsAlike h d w c n) : Explorable h d w c where
  above u kept classes := by
    have known (k : Nat) : u.classInfo k = w.classInfo k := by simp only [World.classInfo, classes]
    refine ⟨u, forM_still fun b hb => (bind_of_ok (get_run u)).trans (forM_still fun p hp => ?_),
      .refl u⟩
    rw [known] at hp
    exact checkEntry_eq ((above b hb p hp).of_keeps kept)
  refuses n _ u kept := by
    by_cases strange : odd n
    · obtain ⟨f, failing⟩ := fails n strange
      obtain ⟨u₁, now⟩ := failing u kept
      obtain ⟨u₂, before⟩ := failing w (.refl _ w)
      simp only [refusal?, now, before]
    · rw [(offers_of_plain (kept.hasPlainEntries entries) h strange).1,
        (offers_of_plain entries h strange).1]
  offers n _ u kept := by
    by_cases strange : odd n
    · obtain ⟨f, failing⟩ := fails n strange
      obtain ⟨u₁, now⟩ := failing u kept
      obtain ⟨u₂, before⟩ := failing w (.refl _ w)
      simp only [Offers, now, before]
    · rw [(offers_of_plain (kept.hasPlainEntries entries) h strange).2.2,
        (offers_of_plain entries h strange).2.2]
      cases named : Naming.isHandlerName n with
      | false => rfl
      | true =>
        rw [kept.definition? (Naming.isHandlerName_ne named (by decide))]
        congr 2
        exact funext fun e => kept.offersCall e
  still n _ readable u kept := by
    by_cases strange : odd n
    · obtain ⟨f, failing⟩ := fails n strange
      obtain ⟨u', failed⟩ := failing w (.refl _ w)
      simp [refusal?, failed] at readable
    · exact (offers_of_plain (kept.hasPlainEntries entries) h strange).2.1

end Task

end EventTasks
