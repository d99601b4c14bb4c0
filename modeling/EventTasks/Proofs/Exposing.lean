import EventTasks.Proofs.Making
import EventTasks.Proofs.Reviewing

/-!
The handlers that a task exposes. Its table goes through the handlers bound at construction and then
through the names that the registry adds, reads each, and keeps those that can be called. Nothing is
assumed of the handlers but that reading them does nothing and that they stay what they are.
-/
namespace EventTasks

open Act

/-! Lists in which each item counts where it stands first -/

theorem eraseDups_of_nodup {names : List String} (distinct : names.Nodup) :
    names.eraseDups = names := by
  induction names with
  | nil => rfl
  | cons n names ih =>
    obtain ⟨new, distinct⟩ := List.nodup_cons.1 distinct
    have others : names.filter (fun m => !m == n) = names :=
      List.filter_eq_self.2 fun m inside => by
        simpa using fun same : m = n => new (same ▸ inside)
    rw [List.eraseDups_cons, others, ih distinct]

theorem eraseDups_append_cons {front rest : List String} {n : String} (known : n ∈ front) :
    (front ++ n :: rest).eraseDups = (front ++ rest).eraseDups := by
  have dropped : (n :: rest).removeAll front = rest.removeAll front := by
    simp [List.removeAll, known]
  rw [List.eraseDups_append, List.eraseDups_append, dropped]

theorem eraseDups_append_filter (front rest : List String) (p : String → Bool) :
    (front.filter p ++ (rest.filter (· ∉ front)).filter p).eraseDups =
      ((front ++ rest).filter p).eraseDups := by
  rw [List.filter_append, List.eraseDups_append, List.eraseDups_append]
  congr 2
  simp only [List.removeAll, List.filter_filter]
  refine List.filter_congr fun n _ => ?_
  cases here : p n <;> simp [here]

namespace Host

variable {h : Host} {w : World} {r : Ref} {l : Listing} {vs : List Value} {names : List String}

/-! Looking among texts -/

theorem isAmongItems_texts (spells : Spells vs names) (place : Nat) (n : String) (left : Nat)
    (enough : names.length < left) :
    h.isAmongItems (.text place n) left (.rest vs) w = .ok (decide (n ∈ names)) w := by
  induction spells generalizing left with
  | nil =>
    obtain ⟨left, rfl⟩ : ∃ m, left = m + 1 := ⟨left - 1, by simp at enough; omega⟩
    rfl
  | @cons v m vs names first rest ih =>
    obtain ⟨place', rfl⟩ := first
    obtain ⟨left, rfl⟩ : ∃ k, left = k + 1 := ⟨left - 1, by simp at enough; omega⟩
    have plain (place : Nat) (s : String) : (Value.text place s).Plain w := by
      simp [Value.Plain, Value.objectsIn]
    have compared := equals_plain (h := h) (.text place' m) (.text place n) (plain place' m)
      (plain place n) (k := [.text m]) (l := [.text n]) rfl rfl
    have one : h.next (.rest (.text place' m :: vs)) w = .ok (some (.text place' m, .rest vs)) w :=
      rfl
    rw [isAmongItems, bind_of_ok one]
    simp only [bind_run, compared]
    by_cases same : m = n
    · simp [same]
    · have other : n ≠ m := Ne.symm same
      simp only [List.cons.injEq, Atom.text.injEq, same, and_true, decide_false, Bool.false_eq_true,
        if_false]
      rw [ih left (by simp at enough; omega)]
      simp [other]

theorem holds_texts (spells : Spells vs names) (stamp place : Nat) (n : String) :
    h.holds (.tuple stamp vs) (.text place n) w = .ok (decide (n ∈ names)) w := by
  have noText : (Value.tuple stamp vs).text? = none := rfl
  have iterated (recover : Fault → Act Cursor) :
      (tryCatch (h.iterate (.tuple stamp vs)) recover : Act Cursor) w = .ok (.rest vs) w := rfl
  rw [holds, bind_of_ok (get_run w)]
  · simp only [noText]
    rw [bind_of_ok (iterated _), bind_of_ok (get_run w)]
    exact isAmongItems_texts spells place n _ (by simp [ahead, mostItems, spells.length_eq])
  · simp

/-! All names of a mapping -/

theorem expect_listing (listing : w.listing? r = some l) : h.expect (.ref r) w = .ok () w := by
  have nothing (name : String) : h.ask? (.ref r) name [] w = .ok none w :=
    ask?_of_none (by rw [World.hookOf?, (noSubject_of_listing listing).1]) []
  have sized : h.givenLength? (.ref r) w = .ok none w := bind_of_ok (nothing "__len__")
  simp only [expect, bind_run, attempt_eq, sized, pure_run, Option.map_none, Option.isSome_none,
    Bool.not_false, if_true, nothing]

theorem items_of_other {v : Value} (noTuple : ∀ stamp xs, v ≠ .tuple stamp xs)
    (noList : ∀ p, v ≠ .ref (.list p)) : h.items v w = (do
      let cursor ← h.iterate v
      h.expect v
      let found ← h.foldCursor (fun found x => pure (x :: found)) cursor []
      pure found.reverse : Act (List Value)) w := by
  rw [items, bind_of_ok (get_run w)]
  split
  · exact absurd rfl (noTuple _ _)
  · exact absurd rfl (noList _)
  · rfl

theorem items_listing (sound : l.Sound) (listing : w.listing? r = some l) :
    h.items (.ref r) w = .ok (l.entries.map Prod.fst) w := by
  have gathered (found : List Value) (entries : List (Value × Value)) :
      (entries.foldlM (fun found e => pure (e.1 :: found)) found : Act (List Value)) w =
        .ok ((entries.map Prod.fst).reverse ++ found) w := by
    induction entries generalizing found with
    | nil => rfl
    | cons e entries ih =>
      rw [List.foldlM_cons]
      exact (bind_of_ok rfl).trans ((ih (e.1 :: found)).trans (by simp))
  have each : ∀ e ∈ l.entries, Leaves (fun (_ : List Value) u => u = w)
      (fun found e => do pure ((← partOf .keys e) :: found)) e := by
    rintro e - found u found' u' rfl run
    exact (EStateM.Result.ok.inj run).2.symm
  have fold := foldCursor_rows (h := h) sound (fun _ u same => same ▸ listing) each [] rfl
  have noList : ∀ p, Value.ref r ≠ .ref (.list p) := by
    rintro p same
    obtain rfl := Value.ref.inj same
    simp [World.listing?] at listing
  rw [items_of_other (by simp) noList, bind_of_ok (iterate_listing listing),
    bind_of_ok (expect_listing listing),
    bind_of_ok (fold.trans (gathered [] l.entries)), pure_run, List.append_nil,
      List.reverse_reverse]

end Host

namespace Stays

variable {w u : World} {i d : Nat}

theorem isCallable (same : Stays w u) (holds : w.Holds i d) (v : Value) :
    u.isCallable v = w.isCallable v := (same d holds.inside).toKeeps.isCallable v

theorem pushDict (d : Dictionary) : Stays w { w with dicts := w.dicts.push d } := fun _ inside =>
  ⟨.pushDict_of_lt inside d, .of_eq rfl, rfl, rfl, rfl, rfl⟩

end Stays

def World.Computes (w : World) : Value → Prop
  | .ref (.property _) | .ref (.slot _) | .ref (.aspect _ _) => True
  | e => w.hookOf? e "__get__" ≠ none

theorem World.not_computes {w : World} {e : Value} (isFunction : e.isFunction = true) :
    ¬ w.Computes e := by
  obtain ⟨f, rfl⟩ := Value.eq_of_isFunction isFunction
  exact fun computes => computes rfl

namespace Task

variable {h : Host} {w u : World} {i d m : Nat} {n : String} {r : Ref} {l : Listing} {x y : Value}
  {vs : List Value} {names : List String} {found : Dictionary}

/-! Handlers that last -/

def callKey? (w : World) (v : Value) : Option Key := if w.isCallable v then v.key.toOption else none

theorem exists_callKey {v : Value} (callable : w.isCallable v = true) :
    ∃ k, v.key = .ok k ∧ callKey? w v = some k := by
  obtain ⟨f, rfl⟩ := World.exists_ref_of_isCallable callable
  have keyed : ∃ k, (Value.ref f).key = .ok k := by
    cases f with
    | subject | function | method | bound | staticMethod => exact ⟨_, rfl⟩
    | _ => simp [World.isCallable] at callable
  obtain ⟨k, key⟩ := keyed
  exact ⟨k, key, by simp [callKey?, callable, key, Except.toOption]⟩

theorem isCallable_of_callKey {v : Value} {k : Key} (called : callKey? w v = some k) :
    w.isCallable v = true ∧ v.key = .ok k := by
  unfold callKey? at called
  split at called
  · rename_i callable
    obtain ⟨k', key, -⟩ := exists_callKey callable
    simp only [key, Except.toOption, Option.some.injEq] at called
    exact ⟨callable, called ▸ key⟩
  · simp at called

theorem isCallable_eq_isSome {v : Value} {k : Option Key} (called : callKey? w v = k) :
    w.isCallable v = k.isSome := by
  cases callable : w.isCallable v with
  | true =>
    obtain ⟨k', -, called'⟩ := exists_callKey callable
    rw [← called, called']
    rfl
  | false =>
    rw [← called, callKey?, callable]
    rfl

/-- An attribute that can be read without changing anything, and is the same thing to call each
time, or never one. -/
def Lasts (m : Nat) (w : World) (i : Nat) (n : String) : Prop :=
  ∃ k : Option Key, ∀ depth ≥ m, ∀ u, Stays w u → ∃ v u',
    (Host.ofDepth depth).attrOrNothing (.object i) n u = .ok v u' ∧ Untouched u u' ∧
      callKey? u' v = k

theorem Lasts.of_stays (lasts : Lasts m w i n) (same : Stays w u) : Lasts m u i n := by
  obtain ⟨k, reads⟩ := lasts
  exact ⟨k, fun depth deep v since => reads depth deep v (same.trans since)⟩

theorem Lasts.firm (lasts : Lasts m w i n) {depth : Nat} (deep : m ≤ depth) :
    Firm (Host.ofDepth depth) w i n := by
  obtain ⟨k, reads⟩ := lasts
  refine ⟨k.isSome, fun u same => ?_⟩
  obtain ⟨v, u', run, same', called⟩ := reads depth deep u same.stays
  exact ⟨v, u', run, same', isCallable_eq_isSome called⟩

/-- A value that is shown lasts, whatever it is, and so does an attribute that is missing. -/
theorem lasts_of_gives (usual : w.ReadsUsually i) (holds : w.Holds i d) (hn : n ≠ "__annotations__")
    (gives : w.Gives i n x) : Lasts m w i n := by
  refine ⟨callKey? w x, fun depth _ u same => ⟨x, u, ?_, .refl u, ?_⟩⟩
  · have kept := (same d holds.inside).toKeeps
    exact Host.attrOrNothing_gives (kept.readsUsually usual) (kept.gives holds (.inr id) hn gives)
  · rw [callKey?, same.isCallable holds]
    rfl

/-- A function of the class is another method each time it is read, but the same thing to call. -/
theorem lasts_of_entry {e : Value} (usual : w.ReadsUsually i) (holds : w.Holds i d)
    (hn : n ≠ "__annotations__") (own : (w.attributesOf i).text? n = none)
    (entry : w.definition? (w.objectClassOf i) n = some e) (held : ¬ w.Computes e) :
    Lasts m w i n := by
  have reads (k : Key) (fetched : ∀ (h : Host) u, Stays w u → ∃ v u',
      h.fetch e (some (.object i)) (w.objectClassOf i) u = .ok v u' ∧ Untouched u u' ∧
        callKey? u' v = some k) : Lasts m w i n := by
    refine ⟨some k, fun depth _ u same => ?_⟩
    have kept := (same d holds.inside).toKeeps
    have entry' : u.definition? (u.objectClassOf i) n = some e := by
      rw [kept.objectClassOf, kept.definition? hn, entry]
    obtain ⟨v, u', run, same', called⟩ := fetched (Host.ofDepth depth) u same
    have read := attr_of_class (h := Host.ofDepth depth) (kept.readsUsually usual)
      ((kept.own holds (.inr id)).trans own) entry'
    rw [kept.objectClassOf, run] at read
    refine ⟨v, u', ?_, same', called⟩
    rw [Host.attrOrNothing, orMissing, tryCatch_run, read]
  have shown (datum : w.IsDatum e) : Lasts m w i n :=
    lasts_of_gives usual holds hn (.inl (.inr ⟨own, entry, datum⟩))
  cases e with
  | ref r =>
    cases r with
    | function f =>
      exact reads [.method (.object i) f] fun h u _ => ⟨_, _, rfl, .later, rfl⟩
    | staticMethod f => exact reads [.ref (.function f)] fun h u _ => ⟨_, _, rfl, .refl u, rfl⟩
    | classMethod f =>
      exact reads [.method (.cls (w.objectClassOf i)) f] fun h u _ => ⟨_, _, rfl, .later, rfl⟩
    | property | slot | aspect => exact absurd trivial held
    | _ => exact shown (not_not.1 held)
  | _ => exact shown (not_not.1 held)

def Finds (h : Host) (w : World) (i : Nat) (n : String) (v : Value) : Prop :=
  ∃ u u', Stays w u ∧ h.attrOrNothing (.object i) n u = .ok v u'

theorem Lasts.key_eq (lasts : Lasts m w i n) (holds : w.Holds i d) {depth depth' : Nat}
    (deep : m ≤ depth) (deep' : m ≤ depth') (finds : Finds (Host.ofDepth depth) w i n x)
    (finds' : Finds (Host.ofDepth depth') w i n y) (callable : w.isCallable x = true) :
    ∃ k, x.key = .ok k ∧ y.key = .ok k := by
  obtain ⟨k, reads⟩ := lasts
  obtain ⟨u₁, v₁, same₁, run₁⟩ := finds
  obtain ⟨u₂, v₂, same₂, run₂⟩ := finds'
  obtain ⟨x', v₁', run₁', same₁', called₁⟩ := reads depth deep u₁ same₁
  obtain ⟨y', v₂', run₂', -, called₂⟩ := reads depth' deep' u₂ same₂
  obtain ⟨rfl, rfl⟩ := EStateM.Result.ok.inj (run₁.symm.trans run₁')
  obtain ⟨rfl, rfl⟩ := EStateM.Result.ok.inj (run₂.symm.trans run₂')
  have now : v₁.isCallable x = true := by
    rw [Stays.isCallable (same₁.trans same₁'.stays) holds, callable]
  obtain ⟨k', key, called⟩ := exists_callKey now
  have same : k = some k' := called₁.symm.trans called
  exact ⟨k', key, (isCallable_of_callKey (called₂.trans same)).2⟩

def handlesNow (h : Host) (w : World) (i : Nat) (n : String) : Bool :=
  match h.attrOrNothing (.object i) n w with
  | .ok v u => u.isCallable v
  | .error _ _ => false

theorem handlesNow_iff : handlesNow h w i n = true ↔ Handles h w i n := by
  unfold handlesNow Handles
  cases h.attrOrNothing (.object i) n w with
  | ok v u => exact ⟨fun yes => ⟨v, u, rfl, yes⟩, fun ⟨v', u', run, yes⟩ => by cases run; exact yes⟩
  | error f u => exact ⟨fun no => by simp at no, fun ⟨_, _, run, _⟩ => by cases run⟩

/-- Reading a lasting attribute later on gives something that can be called exactly if it does
now. -/
theorem Lasts.read (lasts : Lasts m w i n) {depth : Nat} (deep : m ≤ depth) (same : Stays w u) :
    ∃ v u', (Host.ofDepth depth).attrOrNothing (.object i) n u = .ok v u' ∧ Untouched u u' ∧
      u'.isCallable v = handlesNow (Host.ofDepth depth) w i n := by
  obtain ⟨k, reads⟩ := lasts
  obtain ⟨v, u', run, same', called⟩ := reads depth deep u same
  obtain ⟨v₀, u₀, run₀, -, called₀⟩ := reads depth deep w (.refl w)
  refine ⟨v, u', run, same', ?_⟩
  rw [handlesNow, run₀, isCallable_eq_isSome called]
  exact (isCallable_eq_isSome called₀).symm

theorem Lasts.handles_iff (lasts : Lasts m w i n) {depth depth' : Nat} (deep : m ≤ depth)
    (deep' : m ≤ depth') (same : Stays w u) :
    Handles (Host.ofDepth depth) w i n ↔ Handles (Host.ofDepth depth') u i n := by
  obtain ⟨k, reads⟩ := lasts
  have decided {depth : Nat} {u : World} (deep : m ≤ depth) (same : Stays w u) :
      Handles (Host.ofDepth depth) u i n ↔ k.isSome = true := by
    obtain ⟨v, u', run, -, called⟩ := reads depth deep u same
    rw [← handlesNow_iff, handlesNow, run, ← isCallable_eq_isSome called]
  rw [decided deep (.refl w), decided deep' same]

/-! The table -/

/-- Reading attributes one after the other gathers those that can be called, each where its name
stands first. -/
theorem readCallable_eq {depth : Nat} (deep : m ≤ depth) (holds : w.Holds i d)
    (spells : Spells vs names) (lasts : ∀ n ∈ names, Lasts m w i n) (same : Stays w u)
    (textual : found.Textual) :
    ∃ T u', readCallable (Host.ofDepth depth) (.object i) found vs u = .ok T u' ∧ Untouched u u' ∧
      T.Textual ∧
      T.textNames = (found.textNames ++
        names.filter (handlesNow (Host.ofDepth depth) w i)).eraseDups ∧
      ∀ n x, T.text? n = some x → found.text? n = some x ∨
        Finds (Host.ofDepth depth) w i n x ∧ w.isCallable x = true := by
  induction spells generalizing u found with
  | nil =>
    exact ⟨found, u, rfl, .refl u, textual,
      by simp [eraseDups_of_nodup textual.nodup_textNames], fun _ _ => .inl⟩
  | @cons v n vs names first rest ih =>
    obtain ⟨place, rfl⟩ := first
    obtain ⟨x, u₁, run, same₁, decided⟩ := (lasts n (by simp)).read deep same
    have since : Stays w u₁ := same.trans same₁.stays
    have finds : Finds (Host.ofDepth depth) w i n x := ⟨u, u₁, same, run⟩
    have named : Host.nameOf (.text place n) u = .ok n u := rfl
    rw [readCallable, bind_of_ok named, bind_of_ok run, bind_of_ok (get_run u₁)]
    cases callable : u₁.isCallable x with
    | false =>
      have lacks : handlesNow (Host.ofDepth depth) w i n = false := decided.symm.trans callable
      obtain ⟨T, u', runs, same', textual', names', values⟩ :=
        ih (fun n hn => lasts n (by simp [hn])) since textual
      refine ⟨T, u', ?_, same₁.trans same', textual', ?_, values⟩
      · simp only [Bool.false_eq_true, if_false]
        exact runs
      · rw [names', List.filter_cons, lacks]
        simp
    | true =>
      have handles : handlesNow (Host.ofDepth depth) w i n = true := decided.symm.trans callable
      obtain ⟨d', stored, textual₁, texts, names₁⟩ :=
        Host.storeIn_text (h := Host.ofDepth depth) (w := u₁) textual place n x
      obtain ⟨T, u', runs, same', textual', names', values⟩ :=
        ih (fun n hn => lasts n (by simp [hn])) since textual₁
      refine ⟨T, u', ?_, same₁.trans same', textual', ?_, fun m y found' => ?_⟩
      · simp only [if_true]
        exact (bind_of_ok stored).trans runs
      · rw [names', names₁, List.filter_cons, if_pos handles]
        split
        · rename_i known
          exact (eraseDups_append_cons known).symm
        · rw [List.append_assoc]
          rfl
      · rcases values m y found' with here | there
        · rw [texts m] at here
          split at here
          · rename_i same'
            obtain rfl := Option.some.inj here
            exact .inr ⟨same' ▸ finds, (since.isCallable holds x).symm.trans callable⟩
          · exact .inl here
        · exact .inr there

def namesFor (entries : List (Value × Value)) : List String :=
  entries.filterMap fun e => e.1.text?.bind Naming.handlerName?

def AreNamed (entries : List (Value × Value)) : Prop :=
  ∀ e ∈ entries, ∃ place key, e.1 = .text place key ∧ key ≠ ""

theorem exists_handlerName {key : String} (nonempty : key ≠ "") :
    ∃ n, Naming.handlerName? key = some n := by
  cases named : Naming.handlerName? key with
  | some n => exact ⟨n, rfl⟩
  | none => exact absurd (handlerName?_eq_none.1 named) nonempty

theorem namesFor_cons {place : Nat} {key : String} {event : Value} {entries : List (Value × Value)}
    (named : Naming.handlerName? key = some n) :
    namesFor ((.text place key, event) :: entries) = n :: namesFor entries := by
  simp [namesFor, Value.text?, named]

theorem isHandlerName_of_mem_namesFor {entries : List (Value × Value)}
    (found : n ∈ namesFor entries) :
    Naming.isHandlerName n = true := by
  obtain ⟨e, -, named⟩ := List.mem_filterMap.1 found
  obtain ⟨key, -, named⟩ := Option.bind_eq_some_iff.1 named
  exact isHandlerName_of_handlerName? named

theorem addName_eq (bound : Spells vs names) {key : String}
    (named : Naming.handlerName? key = some n)
    (place : Nat) (more : List Value) : addName h (.tuple 0 vs) more (.text place key) w =
      .ok (if n ∈ names then more else more ++ [.word n]) w := by
  have told : handlerName h (.text place key) w = .ok n w := by
    simp only [handlerName, named, pure_run]
  have held := Host.holds_texts (h := h) (w := w) bound 0 0 n
  rw [addName, bind_of_ok told]
  refine (bind_of_ok held).trans ?_
  by_cases known : n ∈ names
  · simp only [known, decide_true, if_true, pure_run]
  · simp only [known, decide_false, Bool.false_eq_true, if_false]
    exact bind_of_ok told

theorem foldlM_addName {entries : List (Value × Value)} (areNamed : AreNamed entries)
    (bound : Spells vs names) {more : List Value} {others : List String}
    (spells : Spells more others) :
    ∃ more', (entries.foldlM (fun found e => addName h (.tuple 0 vs) found e.1) more : Act _) w =
        .ok more' w ∧ Spells more' (others ++ (namesFor entries).filter (· ∉ names)) := by
  induction entries generalizing more others with
  | nil => exact ⟨more, rfl, by simpa [namesFor] using spells⟩
  | cons e entries ih =>
    obtain ⟨key', event⟩ := e
    obtain ⟨place, key, rfl, nonempty⟩ : ∃ place key, key' = .text place key ∧ key ≠ "" :=
      areNamed (key', event) (by simp)
    obtain ⟨n, named⟩ := exists_handlerName nonempty
    have step := addName_eq (h := h) (w := w) bound named place more
    rw [List.foldlM_cons]
    have grown : Spells (if n ∈ names then more else more ++ [.word n])
        (others ++ if n ∈ names then [] else [n]) := by
      split
      · simpa using spells
      · exact List.rel_append spells (.cons ⟨0, rfl⟩ .nil)
    obtain ⟨more', run, spells'⟩ := ih (fun e he => areNamed e (by simp [he])) grown
    refine ⟨more', (bind_of_ok step).trans run, ?_⟩
    rw [namesFor_cons named, List.filter_cons]
    by_cases known : n ∈ names
    · simpa [known] using spells'
    · simpa [known] using spells'

structure Bound (w : World) (i d q : Nat) : Prop where
  shows : w.Shows i handlersField (.ref (.dict q))
  apart : q ≠ d
  inside : q < w.dicts.size
  textual : (w.dictAt q).Textual
  handlers : ∀ n ∈ (w.dictAt q).textNames, Naming.isHandlerName n = true

/-- What the property `handlers` gives: the handlers bound at construction, then those of the
registry in its order, as far as they can be called. -/
structure Exposes (h : Host) (w : World) (i q : Nat) (l : Listing) (T : Dictionary) : Prop where
  textual : T.Textual
  names : T.textNames = (((w.dictAt q).textNames ++ namesFor l.entries).filter
    (handlesNow h w i)).eraseDups
  finds : ∀ n x, T.text? n = some x → Finds h w i n x ∧ w.isCallable x = true

theorem Exposes.isSome_iff {q : Nat} {T : Dictionary} (exposes : Exposes h w i q l T)
    (inside : n ∈ namesFor l.entries) : (T.text? n).isSome ↔ Handles h w i n := by
  rw [← Dictionary.mem_textNames, exposes.names, List.mem_eraseDups, List.mem_filter,
    handlesNow_iff]
  simp [inside]

def exposeFrom (h : Host) (self : Value) (bound : List Value) : Act Value := do
  let events ← h.attr self "events"
  let more ← h.foldItems events (addName h (.tuple 0 bound)) []
  newDict (← readCallable h self {} (bound ++ more))

theorem handlers_def (h : Host) (self : Value) : handlers h self = (do
    let held ← h.attr self handlersField
    if ← h.truth held then exposeFrom h self (← h.items held) else exposeFrom h self []) := rfl

/-- The names of the bound handlers are followed by those that the registry adds. -/
theorem exposeFrom_eq {depth : Nat} (deep : m ≤ depth) (reviewable : Reviewable w i d r l)
    (areNamed : AreNamed l.entries) (spells : Spells vs names)
    (bound : ∀ n ∈ names, Naming.isHandlerName n = true)
    (lasts : ∀ n, Naming.isHandlerName n = true → Lasts m w i n) :
    ∃ place w₁, exposeFrom (Host.ofDepth depth) (.object i) vs w = .ok (.ref (.dict place)) w₁ ∧
      Stays w w₁ ∧ (w₁.dictAt place).Textual ∧
      (w₁.dictAt place).textNames = ((names ++ namesFor l.entries).filter
        (handlesNow (Host.ofDepth depth) w i)).eraseDups ∧
      ∀ n x, (w₁.dictAt place).text? n = some x →
        Finds (Host.ofDepth depth) w i n x ∧ w.isCallable x = true := by
  have registry := Host.attr_shows (h := Host.ofDepth depth) reviewable.usual reviewable.events
  have leaves : ∀ e ∈ l.entries, Host.Leaves (fun (_ : List Value) u => u = w)
      (addName (Host.ofDepth depth) (.tuple 0 vs)) e.1 := by
    rintro e he found u found' u' rfl run
    obtain ⟨place, key, text, nonempty⟩ := areNamed e he
    obtain ⟨n, named⟩ := exists_handlerName nonempty
    rw [text, addName_eq spells named] at run
    exact (EStateM.Result.ok.inj run).2.symm
  have added := Host.foldItems_names (h := Host.ofDepth depth) reviewable.sound
    (fun _ u same => same ▸ reviewable.listing) leaves [] rfl
  obtain ⟨more, gathered, spells'⟩ :=
    foldlM_addName (h := Host.ofDepth depth) (w := w) areNamed spells
    (.nil : Spells [] [])
  have all : ∀ n ∈ names ++ (namesFor l.entries).filter (· ∉ names), Lasts m w i n := by
    intro n inside
    rcases List.mem_append.1 inside with inside | inside
    · exact lasts n (bound n inside)
    · exact lasts n (isHandlerName_of_mem_namesFor (List.mem_filter.1 inside).1)
  obtain ⟨T, u, read, same, textual, names', values⟩ := readCallable_eq deep reviewable.holds
    (List.rel_append spells spells') all (.refl w) Dictionary.textual_empty
  have there : ({ u with dicts := u.dicts.push T } : World).dictAt u.dicts.size = T := by
    simp [World.dictAt]
  refine ⟨u.dicts.size, { u with dicts := u.dicts.push T }, ?_, same.stays.trans (.pushDict T),
    by rwa [there], ?_, fun n x found => ?_⟩
  · rw [exposeFrom, bind_of_ok registry, bind_of_ok (added.trans gathered), bind_of_ok read]
    rfl
  · rw [there, names', ← eraseDups_append_filter, List.filter_append]
    rfl
  · rw [there] at found
    exact (values n x found).resolve_left (by simp [Dictionary.text?, Dictionary.find?])

/-- The property `handlers` can be read, and reading it changes nothing. -/
theorem handlers_eq {depth q : Nat} (deep : m ≤ depth) (reviewable : Reviewable w i d r l)
    (bound : Bound w i d q) (areNamed : AreNamed l.entries)
    (lasts : ∀ n, Naming.isHandlerName n = true → Lasts m w i n) :
    ∃ place w₁, handlers (Host.ofDepth depth) (.object i) w = .ok (.ref (.dict place)) w₁ ∧
      Stays w w₁ ∧ Exposes (Host.ofDepth depth) w i q l (w₁.dictAt place) := by
  have held := Host.attr_shows (h := Host.ofDepth depth) reviewable.usual bound.shows
  have listing : w.listing? (.dict q) = some ⟨(w.dictAt q).toPairs, some (w.dictAt q).slots⟩ := rfl
  have sound : Listing.Sound ⟨(w.dictAt q).toPairs, some (w.dictAt q).slots⟩ := fun s same => by
    obtain rfl := Option.some.inj same
    exact ⟨_, bound.textual.slots, by simp [Dictionary.toPairs]⟩
  have spells : Spells ((w.dictAt q).toPairs.map Prod.fst) (w.dictAt q).textNames := by
    rw [Dictionary.toPairs, List.map_map]
    exact bound.textual.spells
  obtain ⟨place, w₁, run, same, textual, names', finds⟩ :=
    exposeFrom_eq deep reviewable areNamed spells bound.handlers lasts
  refine ⟨place, w₁, ?_, same, textual, names', finds⟩
  rw [handlers_def, bind_of_ok held, bind_of_ok (Host.truth_listing listing)]
  -- an empty table counts as false and is not gone through
  cases none : (w.dictAt q).toPairs with
  | nil => simpa [none] using run
  | cons e entries =>
    simp only [List.isEmpty_cons, Bool.not_false, if_true]
    rw [bind_of_ok (Host.items_listing sound listing)]
    exact run

end Task

end EventTasks
