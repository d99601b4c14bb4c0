import EventTasks.Proofs.Binding
import EventTasks.Proofs.Resolving

/-!
The table of what is given for the handlers of a task. Each entry is checked: what is given must be
something that can be called, and its key must come to a name. The first entry that fails ends it;
otherwise every handler has the last of what was given for it.
-/
namespace EventTasks

open Act

def lastFor (given : List (String × Value)) (n : String) : Option Value := given.reverse.lookup n

theorem lastFor_cons (p : String × Value) (given : List (String × Value)) (n : String) :
    lastFor (p :: given) n = (lastFor given n).or (if n = p.1 then some p.2 else none) := by
  rw [lastFor, List.reverse_cons, List.lookup_append]
  congr 1
  rw [lookup_entry, List.lookup_nil]

theorem mem_of_lastFor {given : List (String × Value)} {n : String} {v : Value}
    (found : lastFor given n = some v) : (n, v) ∈ given := by
  obtain ⟨front, behind, split, -⟩ := List.lookup_eq_some_iff.1 found
  rw [← List.mem_reverse, split]
  simp

def Yields (d : Nat) (w : World) (m : Act α) (a : α) : Prop :=
  ∀ u, Keeps (.own d) w u → u.classes = w.classes →
    ∃ u', m u = .ok a u' ∧ (∀ e, Keeps (.nothing e) u u') ∧ u'.classes = u.classes

theorem Keeps.trans_new {d p : Nat} {u v w : World} (kept : Keeps (.own d) u v)
    (later : Keeps (.own p) v w) (inside : d < u.dicts.size) (new : u.dicts.size ≤ p) :
    Keeps (.own d) u w := by
  have here : d < v.dicts.size := Nat.lt_of_lt_of_le inside kept.dictsSize
  have same : w.dictAt d = v.dictAt d := later.dictAt here (show d ≠ p by omega)
  exact {
    classes := fun c => (kept.classes c).trans (later.classes c)
    objects := later.objects.trans kept.objects
    properties := later.properties.trans kept.properties
    functions := kept.functions.trans later.functions
    forwarded := kept.forwarded.trans later.forwarded
    lists := kept.lists.trans later.lists
    dicts := fun q x hq found => by
      have before : q < u.dicts.size := (Array.getElem?_eq_some_iff.1 found).1
      exact later.dicts q x (show q ≠ p by omega) (kept.dicts q x hq found)
    attributes := fun n hn => absurd trivial hn
    textual := fun texts => by
      show (w.dictAt d).Textual
      rw [same]
      exact kept.textual texts
    dictsSize := kept.dictsSize.trans later.dictsSize
    tables := kept.tables.trans later.tables
    tablesSize := kept.tablesSize.trans later.tablesSize
    texts := fun g => later.texts g ∘ kept.texts g }

theorem Keeps.listing?_of_classes {s : Scope} {w u : World} {r : Ref} (kept : Keeps s w u)
    (classes : u.classes = w.classes) (apart : ∀ q, r = .dict q → q ≠ s.place ∧ q < w.dicts.size) :
    u.listing? r = w.listing? r := by
  cases r with
  | dict q =>
    obtain ⟨other, inside⟩ := apart q rfl
    simp only [World.listing?, kept.dictAt inside other]
  | body stamp c => simp only [World.listing?, World.classInfo, classes]
  | _ => rfl

namespace Task

/-- A given key has a description and an event key, and finding them changes nothing. -/
structure Legible (h : Host) (d : Nat) (w : World) (v : Value) (shown key : String) : Prop where
  described : Yields d w (h.describe v) shown
  meant : Yields d w (registryKey h v) key

/-- What is wrong with an entry of the argument `handlers`. -/
def spoils? (w : World) (shown key : Value → String) (entry : Value × Value) : Option Fault :=
  if !w.isCallable entry.2 then some (.handlerNotCallable (shown entry.1))
  else if key entry.1 = "" then some .emptyEventKey
  else none

/-- What cannot be called is the wrong type of thing, and a key without a name is a wrong value. -/
theorem kind_of_spoils {w : World} {shown key : Value → String} {entry : Value × Value} {f : Fault}
    (spoilt : spoils? w shown key entry = some f) :
    f.kind = if w.isCallable entry.2 then .value else .type := by
  unfold spoils? at spoilt
  cases called : w.isCallable entry.2 with
  | false =>
    rw [called] at spoilt
    rw [← Option.some.inj spoilt]
    rfl
  | true =>
    simp only [called, Bool.not_true, Bool.false_eq_true, if_false] at spoilt
    split at spoilt
    · rw [← Option.some.inj spoilt]
      rfl
    · simp at spoilt

def namedFor (key : Value → String) (entry : Value × Value) : String × Value :=
  (Naming.handlerWord ++ Text.lower (key entry.1), entry.2)

theorem isHandlerName_namedFor (key : Value → String) (entry : Value × Value) :
    Naming.isHandlerName (namedFor key entry).1 = true := by
  rw [namedFor, Naming.isHandlerName, String.toList_append]
  exact List.isPrefixOf_iff_prefix.2 (List.prefix_append _ _)

variable {h : Host} {w u v : World} {i d p : Nat} {entry : Value × Value}
  {shown key : Value → String}
  {r : Ref} {l : Listing}

structure Tables (w u : World) (i d p : Nat) : Prop where
  kept : Keeps (.own d) w u
  classes : u.classes = w.classes
  holds : w.Holds i d
  usual : w.ReadsUsually i
  shows : u.Shows i overridesField (.ref (.dict p))
  new : w.dicts.size ≤ p
  inside : p < u.dicts.size
  texts : (u.dictAt p).Textual

structure Fills (p : Nat) (u v : World) : Prop where
  kept : Keeps (.own p) u v
  classes : v.classes = u.classes

theorem Fills.refl (p : Nat) (u : World) : Fills p u u := ⟨.refl _ u, rfl⟩

theorem Fills.trans {x : World} (h : Fills p u v) (h' : Fills p v x) : Fills p u x :=
  ⟨h.kept.trans h'.kept, h'.classes.trans h.classes⟩

theorem Fills.of_still (kept : ∀ e, Keeps (.nothing e) u v) (classes : v.classes = u.classes) :
    Fills p u v := ⟨(kept p).of_nothing (s := .own p), classes⟩

theorem Tables.filled (tables : Tables w u i d p) (fills : Fills p u v) : Tables w v i d p := by
  have inside := tables.holds.inside
  have other : d ≠ p := by have := tables.new; omega
  exact { tables with
    kept := tables.kept.trans_new fills.kept inside tables.new
    classes := fills.classes.trans tables.classes
    shows := fills.kept.shows (tables.kept.holds tables.holds) (.inl other) (by decide) tables.shows
    inside := Nat.lt_of_lt_of_le tables.inside fills.kept.dictsSize
    texts := fills.kept.textual tables.texts }

/-- One entry is taken into the table, or it is what is wrong with it that is said. -/
theorem takeOverride_eq (tables : Tables w u i d p)
    (legible : Legible h d w entry.1 (shown entry.1) (key entry.1)) :
    ∃ v, Fills p u v ∧
      match spoils? w shown key entry with
      | some f => takeOverride h (.object i) entry.1 entry.2 u = .error f v
      | none => takeOverride h (.object i) entry.1 entry.2 u = .ok () v ∧ ∀ n, (v.dictAt
          p).text? n =
          if n = (namedFor key entry).1 then some entry.2 else (u.dictAt p).text? n := by
  have callable := tables.kept.isCallable entry.2
  unfold spoils?
  cases called : w.isCallable entry.2 with
  | false =>
    obtain ⟨v, described, kept, classes⟩ := legible.described u tables.kept tables.classes
    refine ⟨v, .of_still kept classes, ?_⟩
    simp only [Bool.not_false, if_true]
    rw [takeOverride, bind_of_ok (get_run u)]
    simp only [callable, called, Bool.not_false, if_true]
    exact (bind_of_ok described).trans rfl
  | true =>
    obtain ⟨v, meant, kept, classes⟩ := legible.meant u tables.kept tables.classes
    have fills : Fills p u v := .of_still kept classes
    have now := tables.filled fills
    have read := Host.attr_shows (h := h) (tables.kept.readsUsually tables.usual) tables.shows
    have same : v.dictAt p = u.dictAt p :=
      (kept (p + 1)).dictAt tables.inside (show p ≠ p + 1 by omega)
    simp only [Bool.not_true, Bool.false_eq_true, if_false]
    have front : takeOverride h (.object i) entry.1 entry.2 u = (do
        let name ← handlerName h (.word (key entry.1))
        h.storeItem (.ref (.dict p)) (.word name) entry.2 : Act Unit) v := by
      rw [takeOverride, bind_of_ok (get_run u)]
      simp only [callable, called, Bool.not_true, Bool.false_eq_true, if_false]
      exact (bind_of_ok read).trans (bind_of_ok meant)
    by_cases empty : key entry.1 = ""
    · refine ⟨v, fills, ?_⟩
      simp only [empty, if_true]
      rw [front, empty]
      rfl
    · have named : handlerName h (.word (key entry.1)) v = .ok (namedFor key entry).1 v := by
        simp only [handlerName, Value.word, Naming.handlerName?, if_neg empty]
        rfl
      have stored : h.storeItem (.ref (.dict p)) (.word (namedFor key entry).1) entry.2 v =
          .ok () (v.putText p (namedFor key entry).1 entry.2) :=
        (bind_of_ok (get_run v)).trans (Host.storeAt_word now.texts _ _)
      refine ⟨v.putText p (namedFor key entry).1 entry.2, fills.trans ⟨?_, rfl⟩, ?_⟩
      · exact .putText (s := .own p) trivial _
      · simp only [empty, if_false]
        refine ⟨front.trans ((bind_of_ok named).trans stored), fun n => ?_⟩
        rw [World.dictAt_putText now.inside, Dictionary.text?_setText, same]

/-- Some entries of `handlers` are taken one after the other, up to the first bad one. -/
theorem foldlM_takeOverride {entries : List (Value × Value)} (tables : Tables w u i d p)
    (legible : ∀ e ∈ entries, Legible h d w e.1 (shown e.1) (key e.1)) :
    ∃ v, Fills p u v ∧
      match entries.findSome? (spoils? w shown key) with
      | some f => (entries.foldlM (fun _ e => do
          let _ ← newTuple [e.1, e.2]
          takeOverride h (.object i) e.1 e.2) () : Act Unit) u = .error f v
      | none => (entries.foldlM (fun _ e => do
          let _ ← newTuple [e.1, e.2]
          takeOverride h (.object i) e.1 e.2) () : Act Unit) u = .ok () v ∧
        ∀ n, (v.dictAt p).text? n =
          (lastFor (entries.map (namedFor key)) n).or ((u.dictAt p).text? n) := by
  induction entries generalizing u with
  | nil => exact ⟨u, .refl p u, rfl, fun _ => rfl⟩
  | cons e entries ih =>
    have later : Fills p u u.later := ⟨.later, rfl⟩
    obtain ⟨u₁, fills, outcome⟩ := takeOverride_eq (tables.filled later) (legible e (by simp))
    have first : (do
        let _ ← newTuple [e.1, e.2]
        takeOverride h (.object i) e.1 e.2 : Act Unit) u =
          takeOverride h (.object i) e.1 e.2 u.later := rfl
    rw [List.findSome?_cons, List.foldlM_cons]
    cases spoilt : spoils? w shown key e with
    | some f =>
      rw [spoilt] at outcome
      exact ⟨u₁, later.trans fills, bind_of_error (first.trans outcome)⟩
    | none =>
      rw [spoilt] at outcome
      obtain ⟨run, now⟩ := outcome
      have fills := later.trans fills
      obtain ⟨v, fills', outcome⟩ := ih (tables.filled fills) fun e he => legible e (by simp [he])
      refine ⟨v, fills.trans fills', ?_⟩
      rw [bind_of_ok (first.trans run)]
      cases rest : entries.findSome? (spoils? w shown key) with
      | some f =>
        rw [rest] at outcome
        exact outcome
      | none =>
        rw [rest] at outcome
        obtain ⟨run', now'⟩ := outcome
        refine ⟨run', fun n => ?_⟩
        have before : u.later.dictAt p = u.dictAt p := rfl
        rw [now' n, now n, List.map_cons, lastFor_cons, before, Option.or_assoc]
        congr 1
        split <;> rfl

theorem foldEntries_takeOverride (tables : Tables w u i d p) (standard : u.Standard)
    (sound : l.Sound) (listing : w.listing? r = some l)
    (apart : ∀ q, r = .dict q → q ≠ d ∧ q < w.dicts.size) {k : Nat}
    (legible : ∀ e ∈ l.entries, Legible (Host.ofDepth (k + 1)) d w e.1 (shown e.1) (key e.1)) :
    ∃ v, Fills p u v ∧
      match l.entries.findSome? (spoils? w shown key) with
      | some f => (Host.ofDepth (k + 1)).foldEntries (.ref r)
          (fun _ e => takeOverride (Host.ofDepth (k + 1)) (.object i) e.1 e.2) () u = .error f v
      | none => (Host.ofDepth (k + 1)).foldEntries (.ref r)
          (fun _ e => takeOverride (Host.ofDepth (k + 1)) (.object i) e.1 e.2) () u = .ok () v ∧
        ∀ n, (v.dictAt p).text? n =
          (lastFor (l.entries.map (namedFor key)) n).or ((u.dictAt p).text? n) := by
  have shownAt {v : World} (fills : Fills p u v) : v.listing? r = some l := by
    have now := tables.filled fills
    exact (now.kept.listing?_of_classes now.classes apart).trans listing
  have leaves : ∀ e ∈ l.entries, Host.Leaves (fun _ v => Fills p u v)
      (fun _ e => takeOverride (Host.ofDepth (k + 1)) (.object i) e.1 e.2) e := by
    intro e he _ v _ v' fills run
    obtain ⟨v₁, fills₁, outcome⟩ := takeOverride_eq (tables.filled fills) (legible e he)
    cases spoilt : spoils? w shown key e with
    | some f =>
      rw [spoilt] at outcome
      exact absurd (outcome.symm.trans run) (by simp)
    | none =>
      rw [spoilt] at outcome
      obtain ⟨-, rfl⟩ := EStateM.Result.ok.inj (run.symm.trans outcome.1)
      exact fills.trans fills₁
  obtain ⟨u₁, same, fills₁, fold⟩ :=
    Host.foldEntries_eq (P := fun _ v => Fills p u v) standard sound
    (shownAt (.refl p u)) (fun _ _ => shownAt) (fun _ v fills => fills.trans ⟨.later, rfl⟩) leaves
      ()
    (fun v same classes => .of_still (fun e => same e) classes) k
  obtain ⟨v, fills, outcome⟩ := foldlM_takeOverride (tables.filled fills₁) legible
  have kept : u₁.dictAt p = u.dictAt p :=
    (same (p + 1)).toKeeps.dictAt tables.inside (show p ≠ p + 1 by omega)
  refine ⟨v, fills₁.trans fills, ?_⟩
  rw [fold]
  rwa [kept] at outcome

/-! Keys that are told of and come to names without asking anything written -/

theorem yields_of_run {m : Act α} {a : α} (run : ∀ u, m u = .ok a u) : Yields d w m a :=
  fun u _ _ => ⟨u, run u, fun _ => .refl _ u, rfl⟩

/-- A text is the identifier of an event, or else stands for itself in upper case. -/
theorem legible_text (h : Host) (d : Nat) (w : World) (place : Nat) (s : String) :
    Legible h d w (.text place s) (Text.quoted s) (Naming.registryKey s) :=
  ⟨yields_of_run fun u => by rw [Host.describe]; rfl, yields_of_run fun _ => rfl⟩

end Task

end EventTasks
