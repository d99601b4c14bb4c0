import EventTasks.Proofs.Resolving
import EventTasks.Capability

/-!
The operations that a capability offers, for a class that can be surveyed: names that are not
private. Finding them changes nothing.
-/
namespace EventTasks

open Act

def AreListed (w : World) (k : Nat) (names : List Value) : Prop :=
  ∀ v ∈ names, ∃ n, v = .word n ∧ IsPublic n ∧ w.DefinesAlong k n

/-! What a class of a usual kind tells of itself -/

namespace Host

variable {s : Scope} {w : World} {c k : Nat}

theorem definition?_usualKind (standard : w.Standard) (usual : w.UsualKind c) {n : String}
    (hn : n ≠ "__annotations__") :
    w.definition? (w.classInfo c).kind n = World.start.definition? (w.classInfo c).kind n := by
  have basic : ∀ k ∈ [Library.typeClass, Library.abstractTypeClass, Library.protocolTypeClass],
      k ∈ Library.basics ∧ ∀ m ∈ World.start.orderOf k, m ∈ Library.basics := by decide
  obtain ⟨inside, above⟩ := basic _ usual
  exact standard.definition? inside above hn

theorem definition?_kind (standard : w.Standard) (usual : w.UsualKind c) {n : String} {v : Value}
    (hn : n ≠ "__annotations__") (typed : World.start.definition? Library.typeClass n = some v)
    (abstract : World.start.definition? Library.abstractTypeClass n = some v)
    (protocol : World.start.definition? Library.protocolTypeClass n = some v) :
    w.definition? (w.classInfo c).kind n = some v := by
  rw [definition?_usualKind standard usual hn]
  simp only [World.UsualKind, List.mem_cons, List.not_mem_nil, or_false] at usual
  rcases usual with same | same | same
  · exact same ▸ typed
  · exact same ▸ abstract
  · exact same ▸ protocol

/-- What the class of a class defines stands in one of the bodies of the beginning. -/
theorem mem_of_kind (standard : w.Standard) (usual : w.UsualKind c) {n : String} {e : Value}
    (hn : n ≠ "__annotations__") (entry : w.definition? (w.classInfo c).kind n = some e) :
    ∃ m ∈ World.start.orderOf (w.classInfo c).kind, (n, e) ∈ (World.start.classInfo m).body :=
  World.mem_of_definition? ((definition?_usualKind standard usual hn).symm.trans entry)

theorem attr_order_of_entry (h : Host) (entry : w.definition? (w.classInfo c).kind "__mro__" =
    some (.ref (.aspect Library.typeClass .order))) :
    ∃ stamp, h.attr (.cls c) "__mro__" w = .ok (.tuple stamp ((w.orderOf c).map .cls)) w := by
  refine ⟨(w.classInfo c).orderStamp, ?_⟩
  show h.classAttribute c "__mro__" w = _
  rw [classAttribute, bind_run]
  simp only [get_run, entry]
  rfl

theorem attr_order (h : Host) (standard : w.Standard) (usual : w.UsualKind c) :
    ∃ stamp, h.attr (.cls c) "__mro__" w = .ok (.tuple stamp ((w.orderOf c).map .cls)) w :=
  attr_order_of_entry h (definition?_kind standard usual (by decide) rfl rfl rfl)

theorem ownEntries_of_entry (h : Host) (entry : w.definition? (w.classInfo c).kind "__dict__" =
    some (.ref (.aspect Library.typeClass .body))) :
    h.ownEntries (.cls c) w = .ok (.ref (.body w.later.stamps c)) w.later := by
  have read : h.attr (.cls c) "__dict__" w = .ok (.ref (.body w.later.stamps c)) w.later := by
    show h.classAttribute c "__dict__" w = _
    rw [classAttribute, bind_run]
    simp only [get_run, entry]
    rfl
  rw [ownEntries, bind_run, attr?, orMissing, tryCatch_run, map_run, read]
  rfl

theorem ownEntries_class (h : Host) (standard : w.Standard) (usual : w.UsualKind c) :
    h.ownEntries (.cls c) w = .ok (.ref (.body w.later.stamps c)) w.later :=
  ownEntries_of_entry h (definition?_kind standard usual (by decide) rfl rfl rfl)

theorem startsWith_goes (depth : Nat) (standard : w.Standard) (n : String) :
    Goes (depth ≠ 0) (Rests s w) ((ofDepth depth).send (.word n) "startswith" [.word "_"]) w
      fun v u => v = .flag ("_".toList.isPrefixOf n.toList) ∧ u.classes = w.classes := by
  have entry : w.definition? Library.textClass "startswith" =
      some (.function (.library (.text .startsWith))) :=
    standard.definition? (by decide) (by decide) (by decide)
  cases depth with
  | zero =>
    exact goes_of_error (send_bound_exhausted rfl rfl rfl entry _) (.pushBound _ _) (by simp)
  | succ depth =>
    have told : (ofDepth (depth + 1)).send (.word n) "startswith" [.word "_"] w =
        .ok (.flag ("_".toList.isPrefixOf n.toList))
          (w.pushBound (.word n) (.library (.text .startsWith))) :=
      (send_bound rfl rfl rfl entry depth _).trans rfl
    exact goes_of_ok told (.pushBound _ _) ⟨rfl, rfl⟩

end Host

namespace Capability

variable {h : Host} {s : Scope} {w : World} {v : Value} {names : List Value}

theorem isAmong_map_word (n : String) (known : List String) :
    isAmong h (.word n) (known.map .word) w = .ok (decide (n ∈ known)) w := by
  induction known with
  | nil => rfl
  | cons m known ih =>
    have plain (m : String) : (Value.word m).Plain w := by
      simp [Value.Plain, Value.word, Value.objectsIn]
    have equal := Host.equals_plain (h := h) (.word m) (.word n) (plain m) (plain n)
      (k := [.text m]) (l := [.text n]) rfl rfl
    rw [List.map_cons, isAmong, bind_of_ok equal]
    by_cases same : m = n
    · simp [same]
    · have other : n ≠ m := fun h => same h.symm
      simp only [List.cons.injEq, Atom.text.injEq, same, and_true, decide_false,
        Bool.false_eq_true, if_false, ih, List.mem_cons, other, false_or]

theorem exists_words (areNames : ∀ v ∈ names, ∃ m, v = .word m) :
    ∃ known : List String, names = known.map .word := by
  induction names with
  | nil => exact ⟨[], rfl⟩
  | cons x names ih =>
    obtain ⟨m, rfl⟩ := areNames x List.mem_cons_self
    obtain ⟨known, rfl⟩ := ih fun v hv => areNames v (List.mem_cons_of_mem _ hv)
    exact ⟨m :: known, rfl⟩

def TellsClass (w : World) (v : Value) : Prop :=
  ∀ j, v = .object j → w.ReadsUsually j ∧ w.definition? (w.objectClassOf j) "__class__" =
    some (.ref (.aspect Library.objectClass .cls))

theorem TellsClass.of_keeps {w' : World} (kept : Keeps s w w') (tells : TellsClass w v) :
    TellsClass w' v := fun j same => by
  obtain ⟨usual, cls⟩ := tells j same
  rw [kept.objectClassOf, kept.definition? (by decide)]
  exact ⟨kept.readsUsually usual, cls⟩

theorem TellsClass.asked (tells : TellsClass w v) (place : v.objectPlace?.isSome) :
    ∃ c, h.attr? v "__class__" w = .ok c w := by
  obtain ⟨j, rfl⟩ : ∃ j, v = .object j := by
    cases v with
    | ref r =>
      cases r with
      | subject t =>
        cases t with
        | object j => exact ⟨j, rfl⟩
        | cls c => simp [Value.objectPlace?] at place
      | _ => simp [Value.objectPlace?] at place
    | _ => simp [Value.objectPlace?] at place
  obtain ⟨usual, cls⟩ := tells j rfl
  refine ⟨some (.cls (w.objectClassOf j)), ?_⟩
  rw [Host.attr?, orMissing, tryCatch_run, map_run, Host.attr_class usual cls]

theorem isOperation_eq (tells : TellsClass w v) : ∃ b, isOperation h v w = .ok b w := by
  rw [isOperation, bind_run]
  simp only [get_run]
  split
  · exact ⟨true, rfl⟩
  · exact ⟨true, rfl⟩
  · cases w.isCallable v with
    | true => exact ⟨true, rfl⟩
    | false =>
      cases place : v.objectPlace?.isSome with
      | false => exact ⟨false, rfl⟩
      | true =>
        obtain ⟨c, run⟩ := tells.asked (h := h) place
        exact ⟨false, by simp only [Bool.false_eq_true, if_false, if_true, bind_run, run, pure_run]⟩

variable {w₀ : World} {k : Nat}

theorem addOperation_goes (depth : Nat) (standard : w.Standard) (areListed : AreListed w₀ k names)
    {n : String} (defines : w₀.DefinesAlong k n) (tells : n ≠ "__annotations__" → TellsClass w v) :
    Goes (depth ≠ 0) (Rests s w) (addOperation (Host.ofDepth depth) names (.word n, v)) w
      fun names u => AreListed w₀ k names ∧ u.classes = w.classes := by
  refine goes_bind (Host.startsWith_goes depth standard n) fun _ u kept found => ?_
  obtain ⟨rfl, classes⟩ := found
  have truth : (Host.ofDepth depth).truth (.flag ("_".toList.isPrefixOf n.toList)) u =
      .ok ("_".toList.isPrefixOf n.toList) u := rfl
  refine goes_bind_of_ok truth ?_
  cases isPublic : "_".toList.isPrefixOf n.toList with
  | true => exact goes_pure kept ⟨areListed, classes⟩
  | false =>
    obtain ⟨known, rfl⟩ := exists_words fun v hv => (areListed v hv).imp fun _ => And.left
    have among := isAmong_map_word (h := Host.ofDepth depth) (w := u) n known
    obtain ⟨isOne, asked⟩ := isOperation_eq (h := Host.ofDepth depth)
      ((tells (IsPublic.ne isPublic)).of_keeps kept.toKeeps)
    have added : AreListed w₀ k (known.map .word ++ [.word n]) := by
      intro v hv
      rcases List.mem_append.1 hv with hv | hv
      · exact areListed v hv
      · exact ⟨n, List.mem_singleton.1 hv, isPublic, defines⟩
    simp only [Bool.false_eq_true, if_false]
    refine goes_bind_of_ok among ?_
    cases decide (n ∈ known) with
    | true => exact goes_pure kept ⟨areListed, classes⟩
    | false =>
      simp only [Bool.false_eq_true, if_false]
      refine goes_bind_of_ok asked ?_
      cases isOne with
      | true => exact goes_pure kept ⟨added, classes⟩
      | false => exact goes_pure kept ⟨areListed, classes⟩

theorem foldEntries_body_goes (depth stamp : Nat) (standard : w.Standard) (c : Nat)
    (tells : ∀ n v, n ≠ "__annotations__" → (n, v) ∈ (w.classInfo c).body → TellsClass w v)
    (defines : ∀ n v, (n, v) ∈ (w.classInfo c).body → w₀.DefinesAlong k n)
    (areListed : AreListed w₀ k names) :
    Goes (depth ≠ 0) (Rests s w) ((Host.ofDepth depth).foldEntries (.ref (.body stamp c))
      (addOperation (Host.ofDepth depth)) names) w fun names u =>
        AreListed w₀ k names ∧ u.classes = w.classes := by
  have listing : w.listing? (.body stamp c) =
      some ⟨(w.classInfo c).body.map fun p => (.word p.1, p.2), none⟩ := rfl
  cases depth with
  | zero =>
    obtain ⟨w', run, kept⟩ := Host.send_items_exhausted standard listing
    exact goes_of_error (bind_of_error run) kept.rests (by simp)
  | succ depth =>
    have step : ∀ e ∈ ((w.classInfo c).body.map fun p => (Value.word p.1, p.2)), ∀ b u,
        Rests s w u → (AreListed w₀ k b ∧ u.classes = w.classes) →
        Goes (depth + 1 ≠ 0) (Rests s w) (addOperation (Host.ofDepth (depth + 1)) b e) u
          fun b' u' => AreListed w₀ k b' ∧ u'.classes = w.classes := by
      rintro e he b u kept ⟨areListed, classes⟩
      obtain ⟨⟨n, v⟩, inside, rfl⟩ := List.mem_map.1 he
      refine (addOperation_goes (depth + 1) (kept.standard standard) areListed
        (defines n v inside) fun hn => (tells n v hn inside).of_keeps kept.toKeeps).mono id
          (fun _ => kept.trans) fun b' u' _ found => ⟨found.1, found.2.trans classes⟩
    obtain ⟨w', kept, now, fold⟩ := Host.foldEntries_eq
      (P := fun b u => Rests s w u ∧ AreListed w₀ k b ∧ u.classes = w.classes) standard
      (fun _ slots => by simp at slots) listing
      (fun b u now => by simp only [World.listing?, World.classInfo, now.2.2])
      (fun b u now => ⟨now.1.trans .later, now.2⟩)
      (fun e he b u b' u' now run => (step e he b u now.1 now.2).of_ok run) names
      (fun u kept classes => ⟨kept.rests, areListed, classes⟩) depth
    refine goes_of_eq fold (goes_foldlM (fun e he b u kept now => ?_) kept.rests now.2)
    exact goes_bind_of_ok rfl (step e he b u.later (kept.trans .later) now)

/-- The operations of a class that can be surveyed are public, and defined along its search
order. -/
theorem operations_goes (depth : Nat) (standard : w.Standard) (surveyable : w.Surveyable k) :
    Goes (depth ≠ 0) (Rests s w) (operations (Host.ofDepth depth) (.cls k)) w
      fun names _ => AreListed w k names := by
  obtain ⟨stamp, order⟩ := Host.attr_order (Host.ofDepth depth) standard surveyable.kind
  refine goes_bind_of_ok order ?_
  refine Goes.mono (Q := fun names u => AreListed w k names ∧ u.classes = w.classes) ?_ id
    (fun _ => id) fun _ _ _ => And.left
  refine goes_foldlM (l := ((w.orderOf k).map Value.cls).reverse) ?_ (.refl s w)
    ⟨by simp [AreListed], rfl⟩
  rintro x hx names u kept ⟨areListed, classes⟩
  obtain ⟨c, hc, rfl⟩ := List.mem_map.1 (List.mem_reverse.1 hx)
  split
  · exact goes_pure kept ⟨areListed, classes⟩
  · refine goes_bind_of_ok (Host.ownEntries_class _ (kept.standard standard)
      (kept.usualKind (surveyable.kinds c hc))) ?_
    have kept' : Rests s w u.later := kept.trans .later
    have body : (u.later.classInfo c).body = (w.classInfo c).body := by
      simp only [World.classInfo, World.later, classes]
    refine (foldEntries_body_goes depth _ (kept'.standard standard) c
      (fun n v hn inside j same => ?_) (fun n v inside => ⟨c, hc, v, body ▸ inside⟩)
      areListed).mono id (fun _ => kept'.trans)
        fun names u' _ found => ⟨found.1, found.2.trans classes⟩
    have tells : TellsClass w v := fun j same =>
      surveyable.entries c hc n j hn (same ▸ body ▸ inside)
    exact (tells.of_keeps kept'.toKeeps) j same

end Capability

end EventTasks
