import EventTasks.Proofs.Identity
import EventTasks.Proofs.Probing
import EventTasks.Storing

/-!
Finding by key. When the names that are known are plain, have a key each, no two the same, and are
met by their numbers, a search finds a plain value exactly where its key stands, and nothing happens
to the world.
-/
namespace EventTasks

open Act

mutual

theorem Value.isSame_refl (v : Value) : v.isSame v = true := by
  cases v with
  | tuple s items =>
    cases items with
    | nil => rfl
    | cons v items => simp [Value.isSame, Value.areSame_refl (v :: items)]
  | _ => simp [Value.isSame]

theorem Value.areSame_refl (vs : List Value) : Value.areSame vs vs = true := by
  cases vs with
  | nil => rfl
  | cons v vs => simp [Value.areSame, Value.isSame_refl v, Value.areSame_refl vs]

end

theorem getElem?_of_findIdx? {keys : List Key} {k : Key} {j : Nat}
    (h : keys.findIdx? (fun l => l = k) = some j) : keys[j]? = some k := by
  obtain ⟨lt, same, -⟩ := List.findIdx?_eq_some_iff_getElem.1 h
  exact List.getElem?_eq_some_iff.2 ⟨lt, of_decide_eq_true same⟩

structure Known.Sound (known : Known) (keys : List Key) : Prop where
  keyed : known.names.map Value.key = keys.map .ok
  distinct : keys.Nodup
  slots : known.slots.Sound (known.names.map Value.residue)

namespace Known

variable {known : Known} {keys : List Key}

theorem Sound.name (sound : known.Sound keys) {j : Nat} {n : Int}
    (h : (known.names.map Value.residue)[j]? = some n) :
    ∃ v k, known.names[j]? = some v ∧ v.key = .ok k ∧ keys[j]? = some k ∧ v.residue = n := by
  obtain ⟨v, hv, rfl⟩ := Option.map_eq_some_iff.1 (List.getElem?_map ▸ h)
  have along := congrArg (·[j]?) sound.keyed
  simp only [List.getElem?_map, hv, Option.map_some] at along
  obtain ⟨k, hk, same⟩ := Option.map_eq_some_iff.1 along.symm
  exact ⟨v, k, hv, same.symm, hk, rfl⟩

theorem Sound.residue (sound : known.Sound keys) {j : Nat} {v : Value} {k : Key}
    (h : keys[j]? = some k) (key : v.key = .ok k) :
    (known.names.map Value.residue)[j]? = some v.residue := by
  have along := congrArg (·[j]?) sound.keyed
  simp only [List.getElem?_map, h, Option.map_some] at along
  obtain ⟨name, hname, same⟩ := Option.map_eq_some_iff.1 along
  rw [List.getElem?_map, hname, Option.map_some, Value.residue_eq same key]

end Known

namespace Host

/-! Searching -/

structure Judges (h : Host) (S : World → Prop) (known : Known) (v : Value) (number : Int)
    (counts : Value → Bool) (q : Nat × Int) (name : Value) : Prop where
  there : known.names[q.1]? = some name
  one : name.isSame v = true → counts name = true
  other : q.2 ≠ number → name.isSame v = false → counts name = false
  asked : q.2 = number → ∀ u, S u → ∃ u', h.equals name v u = .ok (counts name) u' ∧ S u'

section judging

variable {h : Host} {S : World → Prop} {current : Act Known} {known : Known} {v : Value}
  {number : Int}
  {counts : Value → Bool} {u : World}

theorem searchAmong_judged (now : ∀ u, S u → current u = .ok known u) {met : List (Nat × Int)}
    (judges : ∀ q ∈ met, ∃ name, Judges h S known v number counts q name) (inside : S u) :
    ∃ u', h.searchAmong current v number met u =
      .ok (match met.find? fun q => (known.names[q.1]?).any counts with
        | some q => .found q.1
        | none => .absent) u' ∧ S u' := by
  induction met generalizing u with
  | nil => exact ⟨u, rfl, inside⟩
  | cons q met ih =>
    obtain ⟨position, n⟩ := q
    have later {u : World} (inside : S u) := ih (fun q found => judges q (by simp [found])) inside
    obtain ⟨name, judged⟩ := judges (position, n) (by simp)
    have there : known.names[position]? = some name := judged.there
    rw [searchAmong, bind_of_ok (now u inside)]
    simp only [there]
    cases same : name.isSame v with
    | true => exact ⟨u, by simp [there, judged.one same], inside⟩
    | false =>
      simp only [Bool.false_eq_true, if_false]
      by_cases number : n = number
      · obtain ⟨u', compared, inside'⟩ := judged.asked number u inside
        simp only [number, ne_eq, not_true_eq_false, if_false, bind_run, compared,
          now u' inside', there,
          Option.any_some, Value.isSame_refl, Bool.not_true, Bool.false_eq_true, or_self]
        cases found : counts name with
        | true => exact ⟨u', by simp [there, found], inside'⟩
        | false => simpa [there, found] using later inside'
      · rw [if_pos number]
        simpa [there, judged.other number same] using later inside

/-- A value is found at the first entry that counts. -/
theorem locate_judged (now : ∀ u, S u → current u = .ok known u)
    (judges : ∀ q ∈ known.slots.met number, ∃ name, Judges h S known v number counts q name)
    (inside : S u) (tries : Nat) :
    ∃ u', h.locate current v number (tries + 1) u =
      .ok (((known.slots.met number).find? fun q => (known.names[q.1]?).any counts).map
        Prod.fst) u' ∧
        S u' := by
  obtain ⟨u', search, inside'⟩ := searchAmong_judged now judges inside
  refine ⟨u', ?_, inside'⟩
  rw [locate, bind_of_ok (now u inside), bind_of_ok search]
  cases (known.slots.met number).find? fun q => (known.names[q.1]?).any counts <;> rfl

end judging

/-! Searching by key -/

variable {h : Host} {w : World} {known : Known} {keys : List Key} (current : Act Known)

/-- A plain value is found where its key stands. -/
theorem locate_eq (now : current w = .ok known w) (sound : known.Sound keys)
    (names : ∀ v ∈ known.names, v.Plain w) {v : Value} {k : Key} (plain : v.Plain w)
    (key : v.key = .ok k) (tries : Nat) :
    h.locate current v v.residue (tries + 1) w = .ok (keys.findIdx? fun l => l = k) w := by
  have valid : ∀ q ∈ known.slots.met v.residue, ∃ name l, known.names[q.1]? = some name ∧
      name.key = .ok l ∧ keys[q.1]? = some l ∧ name.residue = q.2 := fun q found =>
    sound.name (Slots.getElem?_of_mem_met sound.slots found)
  have judges : ∀ q ∈ known.slots.met v.residue, ∃ name, Judges h (· = w) known v v.residue
      (fun name => decide (name.key = .ok k)) q name := by
    intro q found
    obtain ⟨name, l, there, hl, -, number⟩ := valid q found
    refine ⟨name, there, fun one => ?_, fun other _ => ?_, fun _ u here => ?_⟩
    · exact decide_eq_true ((Value.key_eq_of_isSame name v one).trans key)
    · exact decide_eq_false fun same => other (number ▸ Value.residue_eq same key)
    · have compared :=
        equals_plain (h := h) name v (names name (List.mem_of_getElem? there)) plain hl key
      exact ⟨w, by rw [show u = w from here, compared, hl]; simp, rfl⟩
  obtain ⟨u', run, here⟩ := locate_judged (u := w) (fun u here => here ▸ now) judges rfl tries
  rw [run, show u' = w from here]
  congr 1
  have marks : ∀ q ∈ known.slots.met v.residue,
      ((known.names[q.1]?).any fun name => decide (name.key = .ok k)) =
          decide (keys[q.1]? = some k) := by
    intro q found
    obtain ⟨name, l, there, hl, at_q, -⟩ := valid q found
    simp [there, hl, at_q]
  cases hj : keys.findIdx? fun l => l = k with
  | none =>
    have absent : ∀ j : Nat, keys[j]? ≠ some k := by
      intro j hk
      simpa using List.findIdx?_eq_none_iff.1 hj k (List.mem_of_getElem? hk)
    rw [Option.map_eq_none_iff, List.find?_eq_none]
    intro q found
    simpa [marks q found] using absent q.1
  | some j =>
    have hk := getElem?_of_findIdx? hj
    have met : (j, v.residue) ∈ known.slots.met v.residue :=
      Slots.mem_met sound.slots (sound.residue hk key)
    obtain ⟨q, hq⟩ : ∃ q, (known.slots.met v.residue).find? (fun q =>
        (known.names[q.1]?).any fun name => decide (name.key = .ok k)) = some q :=
      Option.isSome_iff_exists.1 (List.find?_isSome.2
        ⟨(j, v.residue), met, (marks _ met).trans (decide_eq_true hk)⟩)
    have at_q : keys[q.1]? = some k := by
      have counted := marks q (List.mem_of_find?_eq_some hq)
      rw [(List.find?_eq_some_iff_append.1 hq).1] at counted
      exact of_decide_eq_true counted.symm
    have one : q.1 = j := ((List.getElem?_inj (List.getElem?_eq_some_iff.1 hk).1 sound.distinct).1
      (hk.trans at_q.symm)).symm
    rw [hq, Option.map_some, one]

end Host

end EventTasks
