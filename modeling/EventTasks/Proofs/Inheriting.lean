import EventTasks.Proofs.Lineage
import EventTasks.Proofs.Surveying

/-!
Which operations a capability offers, and in which order: the public names that one of its classes
other than the root class defines as an operation, in the order of their first definitions, when the
classes are gone through from the far end of the search order and each body from its first entry on.
What a class offers its heirs offer too, and an heir with a single base adds its own behind it.
-/
namespace EventTasks

open Act

/-! Names in the order in which they come first -/

def addNew (names : List String) (n : String) : List String :=
  if n ∈ names then names else names ++ [n]

section addNew

variable {names l : List String} {m n : String}

theorem isPrefix_foldl_addNew (l names : List String) : names <+: l.foldl addNew names := by
  induction l generalizing names with
  | nil => exact List.prefix_rfl
  | cons n l ih =>
    have one : names <+: addNew names n := by
      unfold addNew
      split
      · exact List.prefix_rfl
      · exact List.prefix_append _ _
    exact one.trans (ih (addNew names n))

theorem mem_addNew : m ∈ addNew names n ↔ m ∈ names ∨ m = n := by
  unfold addNew
  split
  · next known =>
    constructor
    · exact .inl
    · rintro (inside | rfl)
      · exact inside
      · exact known
  · simp

theorem mem_foldl_addNew : m ∈ l.foldl addNew names ↔ m ∈ names ∨ m ∈ l := by
  induction l generalizing names with
  | nil => simp
  | cons n l ih => rw [List.foldl_cons, ih, mem_addNew, List.mem_cons, or_assoc]

theorem nodup_foldl_addNew (nodup : names.Nodup) : (l.foldl addNew names).Nodup := by
  induction l generalizing names with
  | nil => exact nodup
  | cons n l ih =>
    apply ih
    unfold addNew
    split
    · exact nodup
    · next new =>
      refine List.nodup_append.2 ⟨nodup, List.pairwise_singleton _ _, ?_⟩
      rintro m inside m' last rfl
      exact new (List.mem_singleton.1 last ▸ inside)

/-- Names that are added one after the other stand in the order of their first places. -/
theorem pairwise_foldl_addNew (l : List String) :
    (l.foldl addNew []).Pairwise fun m n => l.idxOf m < l.idxOf n := by
  induction l using List.reverseRecOn with
  | nil => exact List.Pairwise.nil
  | append_singleton l n ih =>
    have known : ∀ m ∈ l.foldl addNew [], m ∈ l := fun m inside => by
      simpa using mem_foldl_addNew.1 inside
    have earlier : (l.foldl addNew []).Pairwise fun m m' => (l ++ [n]).idxOf m <
        (l ++ [n]).idxOf m' := by
      refine ih.imp_of_mem fun {m m'} hm hm' before => ?_
      rw [List.idxOf_append_of_mem (known m hm), List.idxOf_append_of_mem (known m' hm')]
      exact before
    rw [List.foldl_append, List.foldl_cons, List.foldl_nil, addNew]
    split
    · exact earlier
    · next new =>
      have fresh : n ∉ l := fun inside => new (mem_foldl_addNew.2 (.inr inside))
      refine List.pairwise_append.2 ⟨earlier, List.pairwise_singleton _ _, ?_⟩
      intro m hm m' hm'
      obtain rfl := List.mem_singleton.1 hm'
      rw [List.idxOf_append_of_mem (known m hm), List.idxOf_append_of_notMem fresh]
      have inside := List.idxOf_lt_length_iff.2 (known m hm)
      omega

end addNew

/-! What the classes along a search order define -/

def Value.isUnbound : Value → Bool
  | .ref (.staticMethod _) | .ref (.classMethod _) => true
  | _ => false

instance (n : String) : Decidable (IsPublic n) := inferInstanceAs (Decidable (_ = _))

namespace World

def isOperation (w : World) (v : Value) : Bool := v.isUnbound || w.isCallable v

def operationsIn (w : World) (c : Nat) : List String :=
  ((w.classInfo c).body.filter fun p => decide (IsPublic p.1) && w.isOperation p.2).map Prod.fst

/-- The public operations defined along the search order of a class, from the far end on, `object`
left out. -/
def operationsAlong (w : World) (k : Nat) : List String :=
  (w.orderOf k).reverse.flatMap fun c => if c = Library.objectClass then [] else w.operationsIn c

def HasOperation (w : World) (k : Nat) (n : String) : Prop :=
  ∃ c ∈ w.orderOf k, c ≠ Library.objectClass ∧
    ∃ v, (n, v) ∈ (w.classInfo c).body ∧ w.isOperation v = true

variable {w u : World} {b c k : Nat} {n : String}

theorem mem_operationsIn : n ∈ w.operationsIn c ↔
    IsPublic n ∧ ∃ v, (n, v) ∈ (w.classInfo c).body ∧ w.isOperation v = true := by
  simp only [operationsIn, List.mem_map, List.mem_filter, Bool.and_eq_true, decide_eq_true_eq]
  constructor
  · rintro ⟨⟨m, v⟩, ⟨inside, isPublic, isOperation⟩, rfl⟩
    exact ⟨isPublic, v, inside, isOperation⟩
  · rintro ⟨isPublic, v, inside, isOperation⟩
    exact ⟨(n, v), ⟨inside, isPublic, isOperation⟩, rfl⟩

theorem mem_operationsAlong : n ∈ w.operationsAlong k ↔ IsPublic n ∧ w.HasOperation k n := by
  simp only [operationsAlong, List.mem_flatMap, List.mem_reverse]
  constructor
  · rintro ⟨c, inside, found⟩
    split at found
    · simp at found
    · next other =>
      obtain ⟨isPublic, defined⟩ := mem_operationsIn.1 found
      exact ⟨isPublic, c, inside, other, defined⟩
  · rintro ⟨isPublic, c, inside, other, defined⟩
    refine ⟨c, inside, ?_⟩
    rw [if_neg other]
    exact mem_operationsIn.2 ⟨isPublic, defined⟩

/-- What a class finds behind what every object has is defined along its search order. -/
theorem hasOperation_of_hook? {v : Value} (found : w.hook? k n = some v)
    (isOne : w.isOperation v = true) :
    w.HasOperation k n := by
  obtain ⟨⟨c, v⟩, entry, rfl⟩ := Option.map_eq_some_iff.1 found
  obtain ⟨inside, here⟩ := mem_of_findEntry entry
  obtain ⟨along, other⟩ := List.mem_filter.1 inside
  exact ⟨c, along, by simpa using other, v, here, isOne⟩

theorem HasOperation.heir (ordered : w.Ordered k) (base : b ∈ (w.classInfo k).bases)
    (has : w.HasOperation b n) : w.HasOperation k n := by
  obtain ⟨c, inside, defined⟩ := has
  exact ⟨c, (ordered.sublist base).subset inside, defined⟩

/-- A class with a single base adds its own operations behind those of the base. -/
theorem operationsAlong_single (ordered : w.Ordered k) (single : (w.classInfo k).bases = [b])
    (above : w.Ordered b) : ∃ own, w.operationsAlong k = w.operationsAlong b ++ own := by
  refine ⟨if k = Library.objectClass then [] else w.operationsIn k, ?_⟩
  rw [operationsAlong, ordered.single single above, List.reverse_cons, List.flatMap_append,
    List.flatMap_singleton]
  rfl

end World

/-! Asking what is not an operation for its class -/

/-- Between two worlds nothing was changed, and no class came to remember more of itself. -/
structure Still (w u : World) : Prop where
  untouched : Untouched w u
  classes : u.classes = w.classes

namespace Still

variable {u v w : World}

theorem refl (w : World) : Still w w := ⟨.refl w, rfl⟩

theorem trans (h : Still u v) (h' : Still v w) : Still u w :=
  ⟨h.untouched.trans h'.untouched, h'.classes.trans h.classes⟩

theorem later : Still w w.later := ⟨.later, rfl⟩

theorem standard (still : Still w u) (standard : w.Standard) : u.Standard :=
  (still.untouched 0).toKeeps.standard standard

theorem classInfo (still : Still w u) (c : Nat) : u.classInfo c = w.classInfo c := by
  simp only [World.classInfo, still.classes]

theorem definition? (still : Still w u) (c : Nat) (n : String) :
    u.definition? c n = w.definition? c n := by
  simp only [World.definition?, World.findEntry, World.orderOf, still.classInfo]

theorem isOperation (still : Still w u) (v : Value) : u.isOperation v = w.isOperation v := by
  rw [World.isOperation, World.isOperation, (still.untouched 0).toKeeps.isCallable]

end Still

namespace World

def AsksClass (w : World) (h : Host) (v : Value) : Prop :=
  ∀ u, Still w u → Still u ((h.attr? v "__class__").after u)

def Answers (w : World) (h : Host) (v : Value) : Prop :=
  ∀ u, Still w u → ∃ c u', h.attr? v "__class__" u = .ok c u' ∧ Still u u'

theorem Answers.asks {w : World} {h : Host} {v : Value} (answers : w.Answers h v) :
    w.AsksClass h v := fun u still => by
  obtain ⟨c, u', run, still'⟩ := answers u still
  rwa [after_of_ok run]

structure TellsLineage (w : World) (c : Nat) : Prop where
  order : w.definition? (w.classInfo c).kind "__mro__" =
    some (.ref (.aspect Library.typeClass .order))
  body : w.definition? (w.classInfo c).kind "__dict__" =
    some (.ref (.aspect Library.typeClass .body))

theorem UsualKind.tellsLineage {w : World} {c : Nat} (usual : w.UsualKind c)
    (standard : w.Standard) :
    w.TellsLineage c where
  order := Host.definition?_kind standard usual (by decide) rfl rfl rfl
  body := Host.definition?_kind standard usual (by decide) rfl rfl rfl

theorem TellsLineage.still {w u : World} {c : Nat} (tells : w.TellsLineage c) (still : Still w u) :
    u.TellsLineage c where
  order := by rw [still.definition?, still.classInfo, tells.order]
  body := by rw [still.definition?, still.classInfo, tells.body]

/-- `logger_methods` can go through the class: each object under a public name in it that cannot be
called tells its class. -/
structure Surveyed (w : World) (h : Host) (k : Nat) : Prop where
  tells : w.TellsLineage k
  along : ∀ c ∈ w.orderOf k, w.TellsLineage c
  answers : ∀ c ∈ w.orderOf k, c ≠ Library.objectClass → ∀ n v, (n, v) ∈ (w.classInfo c).body →
    IsPublic n → w.isOperation v = false → v.objectPlace?.isSome → w.Answers h v

structure Listable (w : World) (h : Host) (k : Nat) : Prop where
  tells : w.TellsLineage k
  along : ∀ c ∈ w.orderOf k, w.TellsLineage c
  asks : ∀ c ∈ w.orderOf k, c ≠ Library.objectClass → ∀ n v, (n, v) ∈ (w.classInfo c).body →
    IsPublic n → w.isOperation v = false → v.objectPlace?.isSome → w.AsksClass h v

theorem Surveyed.listable {w : World} {h : Host} {k : Nat} (surveyed : w.Surveyed h k) :
    w.Listable h k :=
  { surveyed with
    asks := fun c along other n v entry isPublic datum place =>
      (surveyed.answers c along other n v entry isPublic datum place).asks }

/-- A class can be surveyed if all classes along its search order are of a usual kind, and no object
stands in any of them. -/
theorem surveyed_of_usualKind {w : World} {k : Nat} (standard : w.Standard)
    (usual : ∀ c ∈ k :: w.orderOf k, w.UsualKind c)
    (bodies : ∀ c ∈ w.orderOf k, ∀ p ∈ (w.classInfo c).body, p.2.objectPlace? = none) (h : Host) :
    w.Surveyed h k where
  tells := (usual k List.mem_cons_self).tellsLineage standard
  along c along := (usual c (List.mem_cons_of_mem _ along)).tellsLineage standard
  answers c along _ n v entry _ _ place := by simp [bodies c along (n, v) entry] at place

theorem Surveyed.base {w : World} {h : Host} {b k : Nat} (surveyed : w.Surveyed h k)
    (ordered : w.Ordered k) (base : b ∈ (w.classInfo k).bases) (above : w.Ordered b) :
    w.Surveyed h b := by
  have along : ∀ c ∈ w.orderOf b, c ∈ w.orderOf k :=
    fun c inside => (ordered.sublist base).subset inside
  obtain ⟨rest, order⟩ := above.cons
  have itself : b ∈ w.orderOf b := order ▸ List.mem_cons_self
  exact ⟨surveyed.along b (along b itself), fun c inside => surveyed.along c (along c inside),
    fun c inside => surveyed.answers c (along c inside)⟩

end World

theorem Keeps.mem_operationsAlong {s : Scope} {w u : World} {k : Nat} {n : String}
    (kept : Keeps s w u)
    (offered : n ∈ u.operationsAlong k) : n ∈ w.operationsAlong k := by
  obtain ⟨isPublic, c, inside, other, v, entry, isOne⟩ := World.mem_operationsAlong.1 offered
  refine World.mem_operationsAlong.2 ⟨isPublic, c, kept.orderOf k ▸ inside, other, v,
    ((kept.classes c).entries _ entry).resolve_left fun made => isPublic.ne made.1, ?_⟩
  rwa [World.isOperation, ← kept.isCallable]

namespace Capability

variable {w u : World} {h : Host} {v : Value} {n : String} {k depth : Nat} {fine : Prop}

/-- Asking for the class of an object twice, as `isinstance` does with two types. -/
theorem isOperation_goes
    (asks : w.isOperation v = false → v.objectPlace?.isSome → w.AsksClass h v)
    (answers : fine → w.isOperation v = false → v.objectPlace?.isSome → w.Answers h v)
    (still : Still w u) :
    Goes fine (Still w) (isOperation h v) u fun b _ => b = w.isOperation v := by
  have same := still.isOperation v
  by_cases unbound : v.isUnbound = true
  · rw [World.isOperation, unbound, Bool.true_or]
    unfold Value.isUnbound at unbound
    split at unbound
    · exact goes_pure still rfl
    · exact goes_pure still rfl
    · cases unbound
  · rw [isOperation]
    refine goes_bind_of_ok (get_run u) ?_
    simp only
    split
    · exact absurd rfl unbound
    · exact absurd rfl unbound
    · have decides : u.isCallable v = w.isOperation v := by
        rw [← same, World.isOperation, Bool.eq_false_of_not_eq_true unbound, Bool.false_or]
      rw [decides]
      cases isOne : w.isOperation v with
      | true => exact goes_pure still rfl
      | false =>
        cases place : v.objectPlace?.isSome with
        | false => exact goes_pure still rfl
        | true =>
          have asked {u : World} (still : Still w u) :
              Goes fine (Still w) (h.attr? v "__class__") u fun _ _ => True :=
            { stays := still.trans (asks isOne place u still)
              runs := fun good => by
                obtain ⟨c, u', run, -⟩ := answers good isOne place u still
                exact ⟨c, u', run⟩
              gives := fun _ _ _ => trivial }
          exact goes_bind (asked still) fun _ u₁ still₁ _ =>
            goes_bind (asked still₁) fun _ u₂ still₂ _ => goes_pure still₂ rfl

theorem startsWith_run (standard : u.Standard) (n : String) (depth : Nat) :
    ∃ u', (Host.ofDepth (depth + 1)).send (.word n) "startswith" [.word "_"] u =
      .ok (.flag ("_".toList.isPrefixOf n.toList)) u' ∧ Still u u' := by
  have goes (s : Scope) := Host.startsWith_goes (s := s) (depth + 1) standard n
  obtain ⟨x, u', run⟩ := (goes (.nothing 0)).runs (Nat.succ_ne_zero depth)
  obtain ⟨-, rfl, classes⟩ := (goes (.nothing 0)).of_ok run
  exact ⟨u', run, fun d => ((goes (.nothing d)).of_ok run).1, classes⟩

def addEntry (w : World) (names : List String) (p : String × Value) : List String :=
  if IsPublic p.1 ∧ w.isOperation p.2 = true then addNew names p.1 else names

def Asked (fine : Prop) (w : World) (h : Host) (body : List (String × Value)) : Prop :=
  ∀ n v, (n, v) ∈ body → IsPublic n → w.isOperation v = false → v.objectPlace?.isSome →
    w.AsksClass h v ∧ (fine → w.Answers h v)

theorem addOperation_run (standard : w.Standard) {body : List (String × Value)}
    (asked : Asked fine w (Host.ofDepth (depth + 1)) body) (inside : (n, v) ∈ body)
    (still : Still w u) (names : List String) :
    Goes fine (Still w)
      (addOperation (Host.ofDepth (depth + 1)) (names.map .word) (.word n, v)) u
      fun found _ => found = (addEntry w names (n, v)).map .word := by
  obtain ⟨u₁, run₁, still₁⟩ := startsWith_run (still.standard standard) n depth
  have truth : (Host.ofDepth (depth + 1)).truth (.flag ("_".toList.isPrefixOf n.toList)) u₁ =
      .ok ("_".toList.isPrefixOf n.toList) u₁ := rfl
  have still₁ := still.trans still₁
  rw [addOperation]
  refine goes_bind_of_ok run₁ (goes_bind_of_ok truth ?_)
  by_cases isPublic : IsPublic n
  · have isPrefix : "_".toList.isPrefixOf n.toList = false := isPublic
    simp only [isPrefix, Bool.false_eq_true, if_false]
    refine goes_bind_of_ok (isAmong_map_word n names) ?_
    by_cases known : n ∈ names
    · simp only [known, decide_true, if_true]
      exact goes_pure still₁ (by simp [addEntry, addNew, known])
    · simp only [known, decide_false, Bool.false_eq_true, if_false]
      refine goes_bind
        (isOperation_goes (fun datum place => (asked n v inside isPublic datum place).1)
        (fun good datum place => (asked n v inside isPublic datum place).2 good) still₁) ?_
      rintro _ u₂ still₂ rfl
      cases isOne : w.isOperation v with
      | true => exact goes_pure still₂ (by simp [addEntry, addNew, isPublic, isOne, known])
      | false => exact goes_pure still₂ (by simp [addEntry, isOne])
  · have isPrefix : "_".toList.isPrefixOf n.toList = true := eq_true_of_ne_false isPublic
    simp only [isPrefix, if_true]
    exact goes_pure still₁ (by simp [addEntry, isPublic])

theorem foldlM_addOperation (standard : w.Standard) {body : List (String × Value)}
    (asked : Asked fine w (Host.ofDepth (depth + 1)) body)
    (still : Still w u) (names : List String) :
    Goes fine (Still w) ((body.map fun p => (Value.word p.1, p.2)).foldlM (fun b e => do
        let _ ← newTuple [e.1, e.2]
        addOperation (Host.ofDepth (depth + 1)) b e) (names.map .word) : Act (List Value)) u
      fun found _ => found = (body.foldl (addEntry w) names).map .word := by
  induction body generalizing u names with
  | nil => exact goes_pure still rfl
  | cons p body ih =>
    obtain ⟨n, v⟩ := p
    rw [List.map_cons, List.foldlM_cons]
    refine goes_bind (goes_bind_of_ok (newTuple_run _ u)
      (addOperation_run standard asked List.mem_cons_self (still.trans .later) names)) ?_
    rintro _ u₁ still₁ rfl
    exact ih (fun n v inside => asked n v (List.mem_cons_of_mem _ inside)) still₁
      (addEntry w names (n, v))

theorem foldl_addEntry (c : Nat) (names : List String) :
    (w.classInfo c).body.foldl (addEntry w) names = (w.operationsIn c).foldl addNew names := by
  rw [World.operationsIn, List.foldl_map, List.foldl_filter]
  congr 1
  funext names p
  simp [addEntry]

theorem foldEntries_body_run (standard : w.Standard) {c : Nat}
    (asked : Asked fine w (Host.ofDepth (depth + 1)) (w.classInfo c).body)
    (still : Still w u) (stamp : Nat) (names : List String) :
    Goes fine (Still w) ((Host.ofDepth (depth + 1)).foldEntries (.ref (.body stamp c))
        (addOperation (Host.ofDepth (depth + 1))) (names.map .word)) u
      fun found _ => found = ((w.operationsIn c).foldl addNew names).map .word := by
  have listed {u' : World} (still' : Still w u') : u'.listing? (.body stamp c) =
      some ⟨(w.classInfo c).body.map fun p => (.word p.1, p.2), none⟩ := by
    rw [World.listing?, still'.classInfo]
  have leaves : ∀ e ∈ (w.classInfo c).body.map fun p => (Value.word p.1, p.2),
      Host.Leaves (fun b u' => (∃ known : List String, b = known.map .word) ∧ Still w u')
        (addOperation (Host.ofDepth (depth + 1))) e := by
    rintro e inside b u₁ b' u₂ ⟨⟨known, rfl⟩, still₁⟩ run
    obtain ⟨⟨n, v⟩, entry, rfl⟩ := List.mem_map.1 inside
    obtain ⟨still₂, rfl⟩ := (addOperation_run standard asked entry still₁ known).of_ok run
    exact ⟨⟨_, rfl⟩, still₂⟩
  obtain ⟨u₁, untouched, ⟨-, still₁⟩, fold⟩ := Host.foldEntries_eq
    (P := fun b u' => (∃ known : List String, b = known.map Value.word) ∧ Still w u')
    (still.standard standard) (fun _ slots => by simp at slots) (listed still)
    (fun _ _ now => listed now.2) (fun _ _ now => ⟨now.1, now.2.trans .later⟩) leaves
      (names.map .word)
    (fun u' untouched classes => ⟨⟨names, rfl⟩, still.trans ⟨untouched, classes⟩⟩) depth
  rw [← foldl_addEntry]
  exact goes_of_eq fold (foldlM_addOperation standard asked still₁ names)

theorem foldlM_classes_run (standard : w.Standard) (classes : List Nat)
    (tells : ∀ c ∈ classes, w.TellsLineage c)
    (asked : ∀ c ∈ classes, c ≠ Library.objectClass →
      Asked fine w (Host.ofDepth (depth + 1)) (w.classInfo c).body)
    (still : Still w u) (names : List String) :
    Goes fine (Still w) ((classes.map Value.cls).foldlM (fun (names : List Value) c => do
        if c.isSame (.cls Library.objectClass) then pure names
        else
          (Host.ofDepth (depth + 1)).foldEntries (← (Host.ofDepth (depth + 1)).ownEntries c)
            (addOperation (Host.ofDepth (depth + 1))) names) (names.map .word) : Act (List Value)) u
      fun found _ => found = ((classes.flatMap fun c =>
        if c = Library.objectClass then [] else w.operationsIn c).foldl
          addNew names).map .word := by
  induction classes generalizing u names with
  | nil => exact goes_pure still rfl
  | cons c classes ih =>
    have further := fun {u : World} (still : Still w u) (names : List String) =>
      ih (fun c inside => tells c (List.mem_cons_of_mem _ inside))
        (fun c inside => asked c (List.mem_cons_of_mem _ inside)) still names
    rw [List.map_cons, List.foldlM_cons, List.flatMap_cons, List.foldl_append]
    by_cases root : c = Library.objectClass
    · subst root
      exact goes_bind_of_ok rfl (further still names)
    · have other : (Value.cls c).isSame (.cls Library.objectClass) = false := by
        simpa [Value.isSame, Value.cls] using root
      have entries := Host.ownEntries_of_entry (Host.ofDepth (depth + 1))
        ((tells c List.mem_cons_self).still still).body
      simp only [other, root, Bool.false_eq_true, if_false]
      refine goes_bind (goes_bind_of_ok entries (foldEntries_body_run standard
        (asked c List.mem_cons_self root) (still.trans .later) u.later.stamps names)) ?_
      rintro _ u₁ still₁ rfl
      exact further still₁ ((w.operationsIn c).foldl addNew names)

/-- `logger_methods` changes nothing, and fails only where an object in one of the classes does not
tell its class. -/
theorem operations_still (standard : w.Standard)
    (listable : w.Listable (Host.ofDepth (depth + 1)) k) :
    Goes (w.Surveyed (Host.ofDepth (depth + 1)) k) (Still w)
      (operations (Host.ofDepth (depth + 1)) (.cls k)) w
      fun found _ => found = ((w.operationsAlong k).foldl addNew []).map .word := by
  obtain ⟨stamp, order⟩ := Host.attr_order_of_entry (Host.ofDepth (depth + 1)) listable.tells.order
  have asked (c : Nat) (inside : c ∈ (w.orderOf k).reverse) (other : c ≠ Library.objectClass) :
      Asked (w.Surveyed (Host.ofDepth (depth + 1)) k) w (Host.ofDepth (depth + 1))
        (w.classInfo c).body := fun n v entry isPublic datum place =>
    ⟨listable.asks c (List.mem_reverse.1 inside) other n v entry isPublic datum place,
        fun surveyed =>
      surveyed.answers c (List.mem_reverse.1 inside) other n v entry isPublic datum place⟩
  have goes := foldlM_classes_run standard (w.orderOf k).reverse
    (fun c inside => listable.along c (List.mem_reverse.1 inside)) asked (.refl w) []
  rw [List.map_reverse] at goes
  exact goes_bind_of_ok order goes

theorem operations_run (standard : w.Standard)
    (surveyed : w.Surveyed (Host.ofDepth (depth + 1)) k) :
    ∃ u, operations (Host.ofDepth (depth + 1)) (.cls k) w =
      .ok (((w.operationsAlong k).foldl addNew []).map .word) u ∧ Still w u := by
  have goes := operations_still standard surveyed.listable
  obtain ⟨names, u, run⟩ := goes.runs surveyed
  obtain ⟨still, rfl⟩ := goes.of_ok run
  exact ⟨u, run, still⟩

/-- `logger_methods` gives no name twice and no private one. Its names are the public ones that a
class in the search order, other than `object`, defines as an operation, in the order of their first
definitions when the order is walked from its end. A class has all operations of its bases, and one
with a single base has these first and in the same order. -/
theorem operations_inherit (standard : w.Standard)
    (surveyed : w.Surveyed (Host.ofDepth (depth + 1)) k) :
    ∃ names u, operations (Host.ofDepth (depth + 1))
      (.cls k) w = .ok (names.map .word) u ∧ Still w u ∧
      names.Nodup ∧ (∀ n ∈ names, IsPublic n) ∧ (∀ n, n ∈ names ↔ IsPublic n ∧ w.HasOperation k n) ∧
      (names.Pairwise fun m n => (w.operationsAlong k).idxOf m < (w.operationsAlong k).idxOf n) ∧
      (w.Ordered k → ∀ b ∈ (w.classInfo k).bases, w.Ordered b →
        ∃ above u', operations (Host.ofDepth (depth + 1)) (.cls b) w = .ok (above.map .word) u' ∧
          above ⊆ names ∧ ((w.classInfo k).bases = [b] → above <+: names)) := by
  have member (c : Nat) (n : String) : n ∈ (w.operationsAlong c).foldl addNew [] ↔
      IsPublic n ∧ w.HasOperation c n := by
    rw [mem_foldl_addNew, World.mem_operationsAlong]
    simp
  obtain ⟨u, run, still⟩ := operations_run standard surveyed
  refine ⟨_, u, run, still, nodup_foldl_addNew List.nodup_nil,
    fun n inside => ((member k n).1 inside).1,
    member k, pairwise_foldl_addNew _, fun ordered b base above => ?_⟩
  obtain ⟨u', run', -⟩ := operations_run standard (surveyed.base ordered base above)
  refine ⟨_, u', run', fun n inside => ?_, fun single => ?_⟩
  · obtain ⟨isPublic, has⟩ := (member b n).1 inside
    exact (member k n).2 ⟨isPublic, has.heir ordered base⟩
  · obtain ⟨own, same⟩ := World.operationsAlong_single ordered single above
    rw [same, List.foldl_append]
    exact isPrefix_foldl_addNew own _

def heirs (refuses : Bool) : World :=
  { World.start with
    classes := World.start.classes ++
      #[{ name := "Level", qualifiedName := "Level", bases := [Library.objectClass],
          order := [50, Library.objectClass],
          body := if refuses then [("__class__", .ref (.property 2))] else [],
          kind := Library.typeClass },
        { name := "Tracer", qualifiedName := "Tracer", bases := [Library.loggerClass],
          order := [51, Library.loggerClass, Library.objectClass],
          body := [("level", .object 4), ("trace", .function (.library (.log .info)))],
          kind := Library.typeClass }]
    objects := World.start.objects.push { cls := 50 }
    properties := World.start.properties.push
      { rule := .failing { kind := .ok .runtime, message := "" }, name := some "__class__" } }

theorem standard_heirs (refuses : Bool) : (heirs refuses).Standard := by
  intro c inside
  have early : ∀ c ∈ Library.basics, c < World.start.classes.size := by decide
  have same : (heirs refuses).classInfo c = World.start.classInfo c := by
    simp only [World.classInfo, heirs]
    rw [Array.getElem?_append_left (early c inside)]
  exact same ▸ .refl _

theorem ordered_heirs : ∀ refuses, ∀ c ∈ [50, 51], (heirs refuses).Ordered c := by
  unfold World.Ordered
  decide

theorem hasOperation_heirs (refuses : Bool) : (heirs refuses).HasOperation 51 "trace" := by
  have found : (heirs refuses).hook? 51 "trace" = some (.function (.library (.log .info))) := rfl
  exact World.hasOperation_of_hook? found rfl

theorem surveyed_heirs (h : Host) : (heirs false).Surveyed h 51 := by
  have usual : ∀ c ∈ (heirs false).orderOf 51, (heirs false).UsualKind c := by
    unfold World.UsualKind
    decide
  have tells : TellsClass (heirs false) (.object 4) := by
    intro j same
    obtain rfl : 4 = j := by simpa [Value.object] using same
    exact ⟨⟨by decide, by decide⟩, rfl⟩
  have objects : ∀ c ∈ (heirs false).orderOf 51, ∀ p ∈ ((heirs false).classInfo c).body,
      ∀ j ∈ p.2.objectPlace?, c ≠ Library.objectClass → j = 4 := by
    decide
  refine ⟨(usual 51 (by decide)).tellsLineage (standard_heirs false),
    fun c along => (usual c along).tellsLineage (standard_heirs false), ?_⟩
  intro c along other n v entry _ _ place u still
  have told : TellsClass (heirs false) v := by
    intro j same
    have known :=
      objects c along (n, v) entry j (by simp [same, Value.object, Value.objectPlace?]) other
    exact tells j (by rw [known])
  obtain ⟨k, run⟩ := (told.of_keeps (still.untouched 0).toKeeps).asked (h := h) place
  exact ⟨k, u, run, .refl u⟩

/-- An heir of the loggers with a function of its own: it has the operations of the loggers, and the
function behind them. -/
theorem operations_inherit_heirs : ∃ names above u u',
    operations (Host.ofDepth 5) (.cls 51) (heirs false) = .ok (names.map .word) u ∧
    operations (Host.ofDepth 5) (.cls Library.loggerClass)
      (heirs false) = .ok (above.map .word) u' ∧
    "info" ∈ names ∧ "trace" ∈ names ∧ above <+: names := by
  obtain ⟨names, u, run, -, -, -, member, -, further⟩ := operations_inherit (standard_heirs false)
    (surveyed_heirs (Host.ofDepth 5))
  obtain ⟨above, u', run', -, front⟩ :=
    further (ordered_heirs false 51 (by decide)) Library.loggerClass
    (by decide) rfl
  have found : (heirs false).hook? 51 "info" = some (.function (.library (.log .info))) := rfl
  refine ⟨names, above, u, u', run, run', ?_, ?_, front rfl⟩
  · exact (member "info").2 ⟨by decide, World.hasOperation_of_hook? found rfl⟩
  · exact (member "trace").2 ⟨by decide, hasOperation_heirs false⟩

/-- An object in the body of a class whose `__class__` raises makes `logger_methods` fail. -/
theorem operations_refuses :
    IsPublic "trace" ∧ (heirs true).HasOperation 51 "trace" ∧
      (∀ c ∈ [50, 51], (heirs true).Ordered c) ∧
    ¬ ∃ names u, operations (Host.ofDepth 5) (.cls 51) (heirs true) = .ok names u := by
  refine ⟨by decide, hasOperation_heirs true, ordered_heirs true, ?_⟩
  rintro ⟨names, u, run⟩
  obtain ⟨f, u', failed⟩ : ∃ f u', operations (Host.ofDepth 5) (.cls 51) (heirs true) =
      .error f u' :=
    exists_of_not_succeeds (by decide +kernel)
  cases run.symm.trans failed

end Capability

end EventTasks
