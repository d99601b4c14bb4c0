import EventTasks.Proofs.Sending

/-!
What the contract asks of an object. Its class is asked first: whether it defines both ways of
subscribing, or what was found of it before. Then the object is asked whether it has both itself. In
either case being there is enough, and nothing counts as missing; whether anything can be called is
not asked. All that asking changes is what classes remember.
-/
namespace EventTasks

open Act

def Library.basics : List Nat :=
    [objectClass, contractClass, protocolClass, genericClass, typeClass,
  protocolTypeClass, abstractTypeClass, textClass, proxyClass, modelClass, optionsClass, dictClass,
  tableClass, namesClass]

/-- The library classes that tasks and emitters use define what they define at the start. -/
def World.Standard (w : World) : Prop :=
  ∀ c ∈ Library.basics, (World.start.classInfo c).Alike (w.classInfo c)

variable {s : Scope} {w w' : World} {c : Nat} {n : String}

theorem Keeps.standard (kept : Keeps s w w') (standard : w.Standard) : w'.Standard :=
  fun c hc => (standard c hc).trans (kept.classes c)

theorem World.Standard.definition? (standard : w.Standard) (hc : c ∈ Library.basics)
    (above : ∀ k ∈ World.start.orderOf c, k ∈ Library.basics) (hn : n ≠ "__annotations__") :
    w.definition? c n = World.start.definition? c n := by
  have order : w.orderOf c = World.start.orderOf c := (standard c hc).order
  have entries : ∀ l : List Nat, (∀ k ∈ l, k ∈ Library.basics) →
      w.findEntry l n = World.start.findEntry l n := by
    intro l inside
    induction l with
    | nil => rfl
    | cons k l ih =>
      have first := (standard k (inside k (by simp))).lookup n hn
      have others := ih fun k hk => inside k (by simp [hk])
      simp only [World.findEntry, List.findSome?_cons] at others ⊢
      rw [first, others]
  rw [World.definition?, World.definition?, order, entries _ above]

/-! What classes come to remember -/

theorem alike_fields (k : ClassInfo) (q : Nat) :
    k.Alike { k with body := setEntry "__annotations__" (.ref (.dict q)) k.body } where
  order := rfl
  kind := rfl
  lookup m hm := by simp [lookup_setEntry, hm]
  entries := by
    have among : ∀ (l : List (String × Value)), ∀ p ∈ setEntry "__annotations__" (.ref (.dict q)) l,
        p.1 = "__annotations__" ∧ (∃ q, p.2 = .ref (.dict q)) ∨ p ∈ l := by
      intro l
      induction l with
      | nil => simp [setEntry]
      | cons q l ih =>
        intro p found
        unfold setEntry at found
        split at found
        · rcases List.mem_cons.1 found with rfl | found
          · exact .inl ⟨rfl, _, rfl⟩
          · exact .inr (by simp [found])
        · rcases List.mem_cons.1 found with rfl | found
          · exact .inr (by simp)
          · exact (ih p found).imp_right fun inside => by simp [inside]
    exact among k.body

theorem World.classInfo_modify (w : World) (c : Nat) (f : ClassInfo → ClassInfo) (k : Nat) :
    ({ w with classes := w.classes.modify c f } : World).classInfo k =
      if c = k ∧ c < w.classes.size then f (w.classInfo k) else w.classInfo k := by
  simp only [World.classInfo, Array.getElem?_modify]
  by_cases same : c = k
  · subst same
    by_cases inside : c < w.classes.size <;> simp [inside]
  · simp [same]

namespace Keeps

theorem modifyClass {f : ClassInfo → ClassInfo}
    (alike : (w.classInfo c).Alike (f (w.classInfo c))) :
    Keeps s w { w with classes := w.classes.modify c f } :=
  { refl s w with
    classes := fun k => by
      rw [World.classInfo_modify]
      split
      · rename_i here
        exact here.1 ▸ alike
      · exact .refl _ }

end Keeps

theorem Rests.modifyClass {f : ClassInfo → ClassInfo}
    (alike : (w.classInfo c).Alike (f (w.classInfo c)))
    (recalls : ∀ v, (w.classInfo c).body.lookup "__annotations__" = some v →
      (f (w.classInfo c)).body.lookup "__annotations__" = some v) :
    Rests s w { w with classes := w.classes.modify c f } where
  toKeeps := .modifyClass alike
  recalls k v known := by
    rw [World.classInfo_modify]
    split
    · rename_i here
      obtain ⟨rfl, -⟩ := here
      exact recalls v known
    · exact known
  forwarders := rfl
  gatherings := rfl
  around := rfl
  names := rfl

theorem Rests.pushDict : Rests s w { w with dicts := w.dicts.push {} } :=
    ⟨.pushDict, .of_eq rfl, rfl, rfl, rfl, rfl⟩

theorem after_annotationsOf (c : Nat) : Rests s w ((annotationsOf c).after w) := by
  rw [annotationsOf]
  refine after_bind Rests.trans (.refl s w) fun v u run => ?_
  obtain ⟨rfl, rfl⟩ := EStateM.Result.ok.inj run
  dsimp only
  split
  · exact .refl s w
  · split
    · exact .refl s w
    · rename_i missing
      exact Rests.pushDict.trans (.modifyClass (alike_fields _ _) fun v known =>
        absurd (missing.symm.trans known) (by simp))

/-! Looking at classes -/

def World.verdict? (w : World) (c : Nat) : Option Bool :=
  (w.classInfo c).verdicts.lookup Library.contractClass

structure Recasts (w w' : World) : Prop where
  size : w'.classes.size = w.classes.size
  classes : ∀ c, ∃ body, w'.classInfo c = { w.classInfo c with body := body }

namespace Recasts

variable {u v w w' : World}

theorem of_eq (classes : w'.classes = w.classes) : Recasts w w' :=
  ⟨congrArg Array.size classes,
    fun c => ⟨(w.classInfo c).body, by rw [World.classInfo, classes]; rfl⟩⟩

theorem trans (h : Recasts u v) (h' : Recasts v w) : Recasts u w where
  size := h'.size.trans h.size
  classes c := by
    obtain ⟨body, first⟩ := h.classes c
    obtain ⟨body', second⟩ := h'.classes c
    exact ⟨body', by rw [second, first]⟩

theorem modifyBody (change : List (String × Value) → List (String × Value)) (c : Nat) :
    Recasts w
      { w with classes := w.classes.modify c fun k => { k with body := change k.body } } where
  size := Array.size_modify
  classes k := by
    rw [World.classInfo_modify]
    split
    · exact ⟨_, rfl⟩
    · exact ⟨(w.classInfo k).body, rfl⟩

theorem orderOf (h : Recasts w w') (c : Nat) : w'.orderOf c = w.orderOf c := by
  obtain ⟨body, same⟩ := h.classes c
  rw [World.orderOf, same]
  rfl

theorem isUnder (h : Recasts w w') (c k : Nat) : w'.isUnder c k = w.isUnder c k := by
  rw [World.isUnder, World.isUnder, h.orderOf]

theorem verdict? (h : Recasts w w') (c : Nat) : w'.verdict? c = w.verdict? c := by
  obtain ⟨body, same⟩ := h.classes c
  rw [World.verdict?, World.verdict?, same]

theorem registered (h : Recasts w w') (c : Nat) :
    (w'.classInfo c).registered = (w.classInfo c).registered := by
  obtain ⟨body, same⟩ := h.classes c
  rw [same]

theorem directlyUnder (h : Recasts w w') (c : Nat) :
    Runner.directlyUnder w' c = Runner.directlyUnder w c := by
  unfold Runner.directlyUnder
  rw [h.size]
  refine List.filter_congr fun k _ => ?_
  obtain ⟨body, same⟩ := h.classes k
  rw [same]

theorem annotationsOf (w : World) (c : Nat) : Recasts w ((annotationsOf c).after w) := by
  rw [EventTasks.annotationsOf]
  refine after_bind Recasts.trans (of_eq rfl) fun v u run => ?_
  obtain ⟨rfl, rfl⟩ := EStateM.Result.ok.inj run
  dsimp only
  split
  · exact of_eq rfl
  · split
    · exact of_eq rfl
    · exact (of_eq rfl : Recasts w { w with dicts := w.dicts.push {} }).trans (modifyBody _ c)

end Recasts

structure Inspected (w w' : World) : Prop extends Recasts w w' where
  untouched : Untouched w w'

namespace Inspected

variable {u v w w' : World}

theorem refl (w : World) : Inspected w w := ⟨.of_eq rfl, .refl w⟩

theorem trans (h : Inspected u v) (h' : Inspected v w) : Inspected u w :=
  ⟨h.toRecasts.trans h'.toRecasts, h.untouched.trans h'.untouched⟩

theorem later : Inspected w w.later := ⟨.of_eq rfl, .later⟩

end Inspected

/-! Reading what an object may have -/

namespace Host

variable {h : Host} {w : World} {i : Nat} {n : String} {v : Value}

theorem has_shows (usual : w.ReadsUsually i) (shows : w.Shows i n v) :
    h.has (.object i) n w = .ok true w := by
  rw [has, bind_run, attr?, orMissing, tryCatch_run, map_run, attr_shows usual shows]
  rfl

theorem attr_class (usual : w.ReadsUsually i)
    (cls : w.definition? (w.objectClassOf i) "__class__" =
      some (.ref (.aspect Library.objectClass .cls))) :
    h.attr (.object i) "__class__" w = .ok (.cls (w.objectClassOf i)) w := by
  rw [attr_eq_usual usual, usualAttribute, bind_run]
  simp only [get_run, Value.object, Value.objectPlace?, World.classOf, World.classOfRef, cls]
  cases (w.attributesOf i).text? "__class__" <;> rfl

theorem has_means {f : Function} (usual : w.ReadsUsually i) (means : w.Means i n f) :
    h.has (.object i) n w = .ok true w.later := by
  rw [has, bind_run, attr?, orMissing, tryCatch_run, map_run, attr_means usual means]
  rfl

theorem attr_missing (usual : w.ReadsUsually i) (own : (w.attributesOf i).text? n = none)
    (entry : w.definition? (w.objectClassOf i) n = none) :
    h.attr (.object i) n w = .error (w.missing (.object i) n) w := by
  rw [attr_eq_usual usual, usualAttribute, bind_run]
  simp only [get_run, Value.object, Value.objectPlace?, World.classOf, World.classOfRef, own,
    entry, throw_run]

theorem has_missing (usual : w.ReadsUsually i) (own : (w.attributesOf i).text? n = none)
    (entry : w.definition? (w.objectClassOf i) n = none) :
    h.has (.object i) n w = .ok false w := by
  rw [has, bind_run, attr?, orMissing, tryCatch_run, map_run, attr_missing usual own entry]
  rfl

end Host

/-! Asking classes -/

namespace World

def Defines (w : World) (c : Nat) (n : String) : Bool :=
  (w.findEntry (w.orderOf c) n).any fun e => !e.2.isNothing

def DefinesWays (w : World) (c : Nat) : Bool := Runner.ways.all (w.Defines c)

def withVerdict (w : World) (c : Nat) (found : Bool) : World :=
  { w with classes := w.classes.modify c fun info =>
      { info with verdicts := (Library.contractClass, found) :: info.verdicts } }

theorem verdict?_withVerdict {w : World} {c : Nat} (inside : c < w.classes.size) (found : Bool) :
    (w.withVerdict c found).verdict? c = some found := by
  rw [verdict?, withVerdict, classInfo_modify, if_pos ⟨rfl, inside⟩]
  rfl

structure Undeclared (w : World) : Prop where
  registered : (w.classInfo Library.contractClass).registered = []
  under : Runner.directlyUnder w Library.contractClass = []

end World

theorem untouched_withVerdict (w : World) (c : Nat) (found : Bool) :
    Untouched w (w.withVerdict c found) :=
  fun _ => .modifyClass ⟨rfl, rfl, fun _ _ => rfl, fun _ => .inr⟩ fun _ => id

namespace Runner

variable {h : Host} {w : World} {c : Nat} {n : String}

theorem defines_decides (hn : n ≠ "__annotations__") (order : List Nat) :
    ∃ w', defines n order w = .ok ((w.findEntry order n).any fun e => !e.2.isNothing) w' ∧
      Inspected w w' := by
  induction order generalizing w with
  | nil => exact ⟨w, rfl, .refl w⟩
  | cons k order ih =>
    rw [defines, bind_run]
    simp only [get_run]
    cases here : (w.classInfo k).body.lookup n with
    | some v => exact ⟨w, by simp [World.findEntry, here], .refl w⟩
    | none =>
      obtain ⟨x, w₁, run⟩ := attempt_run (annotationsOf k) w
      have kept : Inspected w w₁ :=
        ⟨after_of_ok run ▸ after_attempt (R := Recasts) (Recasts.annotationsOf w k),
          fun d => after_of_ok run ▸ after_attempt (R := Rests (.nothing d))
            (after_annotationsOf k)⟩
      obtain ⟨w', run', kept'⟩ := ih (w := w₁)
      rw [World.findEntry_congr (kept.untouched 0).classes hn] at run'
      refine ⟨w', ?_, kept.trans kept'⟩
      simp only [bind_run, run, run']
      simp [World.findEntry, here]

theorem definesAll_decides {names : List String} (outside : ∀ n ∈ names, n ≠ "__annotations__")
    (c : Nat) :
    ∃ w', definesAll (w.orderOf c) names w = .ok (names.all (w.Defines c)) w' ∧ Inspected w w' := by
  induction names generalizing w with
  | nil => exact ⟨w, rfl, .refl w⟩
  | cons n names ih =>
    obtain ⟨w₁, run, kept⟩ := defines_decides (w := w) (outside n (by simp)) (w.orderOf c)
    rw [definesAll, bind_of_ok run]
    cases found : (w.findEntry (w.orderOf c) n).any fun e => !e.2.isNothing with
    | false => exact ⟨w₁, by simp [World.Defines, found], kept⟩
    | true =>
      obtain ⟨w', run', kept'⟩ := ih (w := w₁) fun m hm => outside m (by simp [hm])
      have same : ∀ m ∈ names, w₁.Defines c m = w.Defines c m := by
        intro m hm
        rw [World.Defines, World.Defines, kept.orderOf,
          World.findEntry_congr (kept.untouched 0).classes (outside m (by simp [hm]))]
      have all : names.all (w₁.Defines c) = names.all (w.Defines c) := by
        rw [Bool.eq_iff_iff, List.all_eq_true, List.all_eq_true]
        exact forall₂_congr fun m hm => by rw [same m hm]
      rw [kept.orderOf, all] at run'
      refine ⟨w', ?_, kept.trans kept'⟩
      simp only [if_true, run', List.all_cons, World.Defines, found, Bool.true_and]

theorem ruleOn_decides (w : World) (c : Nat) :
    ∃ w', ruleOn c w = .ok (if w.DefinesWays c then .flag true else .undecided) w' ∧
      Inspected w w' := by
  have outside : ∀ n ∈ ways, n ≠ "__annotations__" := by decide
  obtain ⟨w', run, kept⟩ := definesAll_decides (w := w) outside c
  refine ⟨w', ?_, kept⟩
  rw [ruleOn, bind_of_ok (get_run w), bind_of_ok run]
  rfl

theorem isProtocol_eq (standard : w.Standard) :
    h.classAttribute Library.contractClass "_is_protocol" w = .ok (.flag true) w := by
  have kind : (w.classInfo Library.contractClass).kind = Library.protocolTypeClass :=
    (standard _ (by decide)).kind
  have above : w.definition? Library.protocolTypeClass "_is_protocol" = none :=
    standard.definition? (by decide) (by decide) (by decide)
  have entry : w.definition? Library.contractClass "_is_protocol" = some (.flag true) :=
    standard.definition? (by decide) (by decide) (by decide)
  rw [Host.classAttribute, bind_run]
  simp only [get_run, kind, above, entry, Option.filter_none]
  exact Host.fetch_datum (show w.IsDatum (.flag true) from rfl) none _

theorem isJudge_contract (standard : w.Standard) : isJudge w Library.contractClass = true := by
  have kind : (w.classInfo Library.contractClass).kind = Library.protocolTypeClass :=
    (standard _ (by decide)).kind
  have order : w.orderOf Library.protocolTypeClass =
      World.start.orderOf Library.protocolTypeClass :=
    (standard _ (by decide)).order
  simp only [isJudge, World.isUnder, kind, order]
  rfl

theorem firstWord_contract (standard : w.Standard) (c : Nat) :
    firstWord h Library.contractClass c w = ruleOn c w := by
  have rule : w.definition? Library.contractClass "__subclasshook__" =
      some (.function (.library (.contract .judge))) :=
    standard.definition? (by decide) (by decide) (by decide)
  rw [firstWord, bind_run]
  simp only [get_run, rule]
  rfl

theorem isSubclass_known {found : Bool} (standard : w.Standard)
    (known : w.verdict? c = some found) :
    isSubclass h Library.contractClass c w = .ok found w := by
  have known : (w.classInfo c).verdicts.lookup Library.contractClass = some found := known
  rw [isSubclass, bind_run]
  simp only [get_run]
  rw [countsAs, bind_run]
  simp only [get_run, isJudge_contract standard, Bool.not_true, Bool.false_eq_true, if_false, known,
    pure_run]

/-- A class that nothing was found of counts if it defines both ways. If it does not, and is not
declared a runner's, it does not count. -/
theorem isSubclass_unknown (standard : w.Standard) (unknown : w.verdict? c = none)
    (apart : w.DefinesWays c = false →
      w.isUnder c Library.contractClass = false ∧ w.Undeclared) :
    ∃ w₁, Inspected w w₁ ∧ isSubclass h Library.contractClass c w =
      .ok (w.DefinesWays c) (w₁.withVerdict c (w.DefinesWays c)) := by
  have unknown : (w.classInfo c).verdicts.lookup Library.contractClass = none := unknown
  obtain ⟨w₁, run, kept⟩ := ruleOn_decides w c
  rw [← firstWord_contract (h := h) standard] at run
  refine ⟨w₁, kept, ?_⟩
  rw [isSubclass, bind_run]
  simp only [get_run]
  rw [countsAs, bind_run]
  simp only [get_run, isJudge_contract standard, Bool.not_true, Bool.false_eq_true,
    if_false, unknown,
    bind_run, run]
  cases lacking : w.DefinesWays c with
  | true => rfl
  | false =>
    -- nothing stands under the contract either
    obtain ⟨apart, undeclared⟩ := apart lacking
    simp only [Bool.false_eq_true, if_false, bind_run, get_run, kept.isUnder, apart,
      kept.registered, kept.directlyUnder, undeclared.registered, undeclared.under,
      List.nil_append, anyOf, pure_run]
    rfl

end Runner

/-! Asking objects -/

namespace World

inductive Bears (w : World) (o : Nat) (n : String) : Bool → Prop where
  | value {v : Value} (shows : w.Shows o n v) : w.Bears o n (!v.isNothing)
  | method {f : Function} (means : w.Means o n f) : w.Bears o n true
  | missing (own : (w.attributesOf o).text? n = none)
    (entry : w.definition? (w.objectClassOf o) n = none) : w.Bears o n false

structure Stranger (w : World) (o e : Nat) : Prop extends w.Undeclared where
  usual : w.ReadsUsually o
  holds : w.Holds o e
  cls : w.definition? (w.objectClassOf o) "__class__" =
    some (.ref (.aspect Library.objectClass .cls))
  inside : w.objectClassOf o < w.classes.size
  apart : w.isUnder (w.objectClassOf o) Library.contractClass = false

/-- What the `Runner` protocol finds of a class that nobody registered: what it found before, or
whether the class defines `on` and `off`. -/
def Vouches (w : World) (c : Nat) : Bool := (w.verdict? c).getD (w.DefinesWays c)

end World

theorem Keeps.bears {s : Scope} {w w' : World} {o e : Nat} {n : String} {b : Bool}
    (kept : Keeps s w w') (holds : w.Holds o e) (outside : e ≠ s.place ∨ ¬ s.names n)
    (hn : n ≠ "__annotations__") (bears : w.Bears o n b) : w'.Bears o n b := by
  cases bears with
  | value shows => exact .value (kept.shows holds outside hn shows)
  | method means => exact .method (kept.means holds outside hn means)
  | missing own entry =>
    refine .missing ((kept.own holds outside).trans own) ?_
    rw [kept.objectClassOf, kept.definition? hn]
    exact entry

theorem Inspected.stranger {w w' : World} {o e : Nat} (kept : Inspected w w')
    (stranger : w.Stranger o e) : w'.Stranger o e := by
  have same := (kept.untouched e).toKeeps
  have cls := same.objectClassOf o
  exact {
    usual := same.readsUsually stranger.usual
    holds := same.holds stranger.holds
    cls := by
      rw [cls, same.definition? (by decide)]
      exact stranger.cls
    inside := by
      rw [cls, kept.size]
      exact stranger.inside
    apart := by
      rw [cls, kept.isUnder]
      exact stranger.apart
    registered := (kept.registered _).trans stranger.registered
    under := (kept.directlyUnder _).trans stranger.under }

namespace Runner

variable {h : Host} {w : World} {o e : Nat} {n : String} {there : String → Bool}

theorem namedClass_eq (usual : w.ReadsUsually o)
    (cls : w.definition? (w.objectClassOf o) "__class__" =
      some (.ref (.aspect Library.objectClass .cls))) :
    namedClass h (.object o) w = .ok (w.objectClassOf o) w := by
  rw [namedClass, bind_of_ok (Host.attr_class usual cls)]
  rfl

theorem offers_cons (usual : w.ReadsUsually o) {b : Bool} (bears : w.Bears o n b)
    (names : List String) :
    ∃ w', Inspected w w' ∧ offers h (.object o) (n :: names) w =
      (if b then offers h (.object o) names else pure false) w' := by
  cases bears with
  | @value v shows =>
    refine ⟨w, .refl w, ?_⟩
    rw [offers, bind_of_ok (Host.has_shows usual shows)]
    simp only [if_true]
    rw [bind_of_ok (Host.attr_shows usual shows)]
    cases v.isNothing <;> rfl
  | @method f means =>
    refine ⟨w.later.later, Inspected.later.trans .later, ?_⟩
    have usual' : w.later.ReadsUsually o := ⟨usual.always, usual.missing⟩
    have means' : w.later.Means o n f := means
    rw [offers, bind_of_ok (Host.has_means usual means)]
    simp only [if_true]
    rw [bind_of_ok (Host.attr_means usual' means')]
    rfl
  | missing own entry =>
    refine ⟨w, .refl w, ?_⟩
    rw [offers, bind_of_ok (Host.has_missing usual own entry)]
    rfl

theorem offers_decides (usual : w.ReadsUsually o) (holds : w.Holds o e) {names : List String}
    (outside : ∀ n ∈ names, n ≠ "__annotations__") (bears : ∀ n ∈ names, w.Bears o n (there n)) :
    ∃ w', offers h (.object o) names w = .ok (names.all there) w' ∧ Inspected w w' := by
  induction names generalizing w with
  | nil => exact ⟨w, rfl, .refl w⟩
  | cons n names ih =>
    obtain ⟨w₁, kept, step⟩ := offers_cons (h := h) usual (bears n (by simp)) names
    rw [step]
    cases found : there n with
    | false => exact ⟨w₁, by simp [found], kept⟩
    | true =>
      have same := (kept.untouched e).toKeeps
      obtain ⟨w', run, kept'⟩ := ih (same.readsUsually usual) (same.holds holds)
        (fun m hm => outside m (by simp [hm]))
        (fun m hm => same.bears holds (.inr id) (outside m (by simp [hm])) (bears m (by simp [hm])))
      exact ⟨w', by simp [found, run], kept.trans kept'⟩

/-- `issubclass(c, Runner)` for a class that nobody registered. -/
theorem isSubclass_decides (standard : w.Standard) (stranger : w.Stranger o e) :
    ∃ w', isSubclass h Library.contractClass (w.objectClassOf o) w =
        .ok (w.Vouches (w.objectClassOf o)) w' ∧
      Untouched w w' ∧ w'.verdict? (w.objectClassOf o) = some (w.Vouches (w.objectClassOf o)) := by
  unfold World.Vouches
  cases known : w.verdict? (w.objectClassOf o) with
  | some found => exact ⟨w, isSubclass_known standard known, .refl w, known⟩
  | none =>
    obtain ⟨w₁, kept, run⟩ :=
      isSubclass_unknown (h := h) standard known fun _ => ⟨stranger.apart, stranger.toUndeclared⟩
    exact ⟨_, run, kept.untouched.trans (untouched_withVerdict w₁ _ _),
      World.verdict?_withVerdict (kept.size ▸ stranger.inside) _⟩

/-- An object passes `isinstance(value, Runner)` if its class does, or if it has both `on` and `off`
itself. -/
theorem accepts_decides (standard : w.Standard) (stranger : w.Stranger o e)
    (bears : ∀ n ∈ ways, w.Bears o n (there n)) :
    ∃ w', accepts h (.object o) w = .ok (w.Vouches (w.objectClassOf o) || ways.all there) w' ∧
      Untouched w w' := by
  have outside : ∀ n ∈ ways, n ≠ "__annotations__" := by decide
  have other : w.objectClassOf o ≠ Library.contractClass := by
    intro same
    have order : w.orderOf Library.contractClass = World.start.orderOf Library.contractClass :=
      (standard _ (by decide)).order
    have under : Library.contractClass ∈ World.start.orderOf Library.contractClass := by decide
    have apart := stranger.apart
    rw [same, World.isUnder, order, decide_eq_false_iff_not] at apart
    exact apart under
  obtain ⟨w₁, first, kept₁, known₁⟩ := isSubclass_decides (h := h) standard stranger
  rw [accepts, bind_of_ok (get_run w), if_neg (show ¬ w.classOf (.object o) = _ from other),
    isInstance, bind_of_ok (isProtocol_eq standard),
    bind_of_ok (namedClass_eq stranger.usual stranger.cls),
    bind_of_ok first]
  cases vouches : w.Vouches (w.objectClassOf o) with
  | true => exact ⟨w₁, rfl, kept₁⟩
  | false =>
    have same := (kept₁ e).toKeeps
    obtain ⟨w₂, offered, kept₂⟩ := offers_decides (h := h) (same.readsUsually stranger.usual)
      (same.holds stranger.holds) outside
      fun n hn => same.bears stranger.holds (.inr id) (outside n hn) (bears n hn)
    have asked : h.truth (.flag true) w₁ = .ok true w₁ := rfl
    simp only [Bool.false_eq_true, if_false, bind_run, asked, if_true, offered]
    cases ways.all there with
    | true => exact ⟨w₂, rfl, kept₁.trans kept₂.untouched⟩
    | false =>
      -- the class is asked once more, and the contract remembers its answer
      have kept := kept₁.trans kept₂.untouched
      have now := (kept e).toKeeps
      have known₂ := kept₂.verdict? (w.objectClassOf o) |>.trans known₁
      rw [vouches] at known₂
      have cls := stranger.cls
      rw [← now.definition? (by decide), ← now.objectClassOf] at cls
      have again := isSubclass_known (h := h) (now.standard standard) known₂
      have real : w₂.classOf (.object o) = w.objectClassOf o := now.objectClassOf o
      simp only [Bool.false_eq_true, if_false, bind_run, get_run,
        namedClass_eq (now.readsUsually stranger.usual) cls, now.objectClassOf, again,
          real, if_true,
        pure_run, Bool.false_or]
      exact ⟨w₂, rfl, kept⟩

end Runner

end EventTasks
