import EventTasks.Proofs.Gathered
import EventTasks.Proofs.Probing

/-!
Sets find what they hold. The cells for a number run through all cells, as those of a table of slots
do, and a set always has a free cell left. So a member that is put in is met by its number, and so
are the members that were there before, also when they are spread anew. A set of texts holds a text
exactly if one of its members is this text.
-/
namespace EventTasks

open Act

namespace Gathering

variable {g : Gathering} {m m' : Member} {k p : Nat} {number : Int}

/-! The cells for a number -/

theorem mem_placesFrom {size leaps rest place : Nat}
    (found : p ∈ Slots.placesFrom size leaps rest place) :
    p ∈ placesFrom size leaps rest place := by
  induction leaps generalizing rest place with
  | zero => simp [Slots.placesFrom] at found
  | succ leaps ih =>
    rw [placesFrom, List.mem_append]
    rcases List.mem_cons.1 found with rfl | further
    · exact .inl (List.mem_map.2 ⟨0, by simp, rfl⟩)
    · refine .inr (ih ?_)
      have same : place * 5 + 1 + rest / 32 = place * 5 + rest / 32 + 1 := by omega
      rw [same]
      exact further

theorem lt_of_mem_placesFrom {size leaps rest place : Nat} (inside : place < size)
    (found : p ∈ placesFrom size leaps rest place) : p < size := by
  induction leaps generalizing rest place with
  | zero => simp [placesFrom] at found
  | succ leaps ih =>
    rw [placesFrom, List.mem_append] at found
    rcases found with near | further
    · obtain ⟨j, close, rfl⟩ := List.mem_map.1 near
      have bound := List.mem_range.1 close
      split at bound <;> omega
    · exact ih (Nat.mod_lt _ (by omega)) further

theorem mem_places (size : g.cells.size = 2 ^ k) (number : Int) (inside : p < g.cells.size) :
    p ∈ g.places number := by
  let slots : Slots := { cells := Array.replicate g.cells.size .free }
  have same : slots.cells.size = g.cells.size := by simp [slots]
  have found : p ∈ slots.places number := Slots.mem_places (same.trans size) number (same ▸ inside)
  simp only [Slots.places, same] at found
  exact mem_placesFrom found

theorem lt_of_mem_places (size : g.cells.size = 2 ^ k) (found : p ∈ g.places number) :
    p < g.cells.size := by
  have positive := Nat.two_pow_pos k
  exact lt_of_mem_placesFrom (Nat.mod_lt _ (by omega)) found

/-! Putting members in -/

def isFreeAt (g : Gathering) (p : Nat) : Bool := (g.cells[p]?.getD none).isNone

theorem length_members (g : Gathering) :
    g.members.length = g.cells.toList.countP Option.isSome := by
  simp [members, List.length_filterMap_eq_countP]

theorem exists_free (roomy : g.members.length < g.cells.size) : ∃ p < g.cells.size,
    g.isFreeAt p := by
  by_contra none
  push Not at none
  have all : g.cells.toList.countP Option.isSome = g.cells.toList.length := by
    refine List.countP_eq_length.2 fun c inside => ?_
    obtain ⟨p, hp, rfl⟩ := List.getElem_of_mem inside
    have taken := none p (by simpa using hp)
    rw [isFreeAt, Array.getElem?_eq_getElem (by simpa using hp)] at taken
    simpa [Option.isSome_iff_ne_none] using taken
  rw [length_members, all, Array.length_toList] at roomy
  exact lt_irrefl _ roomy

def fill (g : Gathering) (p : Nat) (m : Member) : Gathering := ⟨g.cells.setIfInBounds p (some m)⟩

theorem put_eq (g : Gathering) (m : Member) : g.put m =
    match (g.places m.number).find? g.isFreeAt with
    | some p => g.fill p m
    | none => g := rfl

theorem along_subset (free : g.isFreeAt p) (l : List Nat) :
    met.along g l ⊆ met.along (g.fill p m) l := by
  induction l with
  | nil => exact List.Subset.refl _
  | cons q l ih =>
    by_cases here : q = p
    · subst here
      have empty : g.cells[q]?.getD none = none := by simpa [isFreeAt] using free
      simp [met.along, empty]
    · simp only [met.along, fill, Array.getElem?_setIfInBounds_ne (Ne.symm here)]
      split
      · exact List.cons_subset_cons _ ih
      · exact List.nil_subset _

theorem mem_along_fill {l : List Nat} (first : l.find? g.isFreeAt = some p)
    (inside : p < g.cells.size) :
    m ∈ met.along (g.fill p m) l := by
  induction l with
  | nil => simp at first
  | cons q l ih =>
    by_cases free : g.isFreeAt q
    · rw [List.find?_cons_of_pos free, Option.some.injEq] at first
      subst first
      simp [met.along, fill, Array.getElem?_setIfInBounds_self_of_lt inside]
    · rw [List.find?_cons_of_neg free] at first
      have other : p ≠ q := by
        rintro rfl
        exact free (List.find?_some first)
      obtain ⟨m', there⟩ : ∃ m', g.cells[q]?.getD none = some m' := by
        cases cell : g.cells[q]?.getD none with
        | none => simp [isFreeAt, cell] at free
        | some m' => exact ⟨m', rfl⟩
      simp only [met.along, fill, Array.getElem?_setIfInBounds_ne other, there]
      exact List.mem_cons_of_mem _ (ih first)

structure Taken (g g' : Gathering) (m : Member) : Prop where
  size : g'.cells.size = g.cells.size
  length : g'.members.length ≤ g.members.length + 1
  kept : ∀ n, g.met n ⊆ g'.met n
  met : m ∈ g'.met m.number

theorem taken_put (size : g.cells.size = 2 ^ k) (roomy : g.members.length < g.cells.size)
    (m : Member) :
    Taken g (g.put m) m := by
  obtain ⟨p₀, inside₀, free₀⟩ := exists_free roomy
  have some_free : ((g.places m.number).find? g.isFreeAt).isSome :=
    List.find?_isSome.2 ⟨p₀, mem_places size m.number inside₀, free₀⟩
  obtain ⟨p, first⟩ := Option.isSome_iff_exists.1 some_free
  have inside : p < g.cells.size := lt_of_mem_places size (List.mem_of_find?_eq_some first)
  have same : ∀ n, (g.fill p m).places n = g.places n := fun n => by simp [places, fill]
  rw [put_eq, first]
  refine ⟨by simp [fill], ?_, ?_, ?_⟩
  · have cells : (g.fill p m).cells.toList = g.cells.toList.set p (some m) := by simp [fill]
    rw [length_members, length_members, cells, List.countP_set (by simpa using inside)]
    split <;> simp
  · intro n x found
    obtain ⟨along, number⟩ := List.mem_filter.1 found
    refine List.mem_filter.2 ⟨?_, number⟩
    rw [same]
    exact along_subset (List.find?_some first) _ along
  · refine List.mem_filter.2 ⟨?_, by simp⟩
    rw [same]
    exact mem_along_fill first inside

theorem foldl_put (l : List Member) (size : g.cells.size = 2 ^ k)
    (roomy : g.members.length + l.length ≤ g.cells.size) :
    (l.foldl put g).cells.size = 2 ^ k ∧ (l.foldl put g).members.length ≤
      g.members.length + l.length ∧
      (∀ n, g.met n ⊆ (l.foldl put g).met n) ∧ ∀ m ∈ l, m ∈ (l.foldl put g).met m.number := by
  induction l generalizing g with
  | nil => exact ⟨size, Nat.le_refl _, fun n => List.Subset.refl _, by simp⟩
  | cons x l ih =>
    simp only [List.length_cons] at roomy
    have taken := taken_put size (by omega) x
    have length := taken.length
    obtain ⟨size', length', kept, met⟩ := ih (taken.size.trans size) (by rw [taken.size]; omega)
    simp only [List.foldl_cons, List.length_cons]
    refine ⟨size', by omega, fun n => List.Subset.trans (taken.kept n) (kept n), ?_⟩
    intro m inside
    rcases List.mem_cons.1 inside with rfl | inside
    · exact kept _ taken.met
    · exact met m inside

/-! Adding members -/

/-- There is a free cell, and each member is met by its number. -/
structure Sound (g : Gathering) : Prop where
  size : ∃ k, g.cells.size = 2 ^ k
  roomy : g.members.length < g.cells.size
  reached : ∀ m ∈ g.members, m ∈ g.met m.number

theorem members_replicate (n : Nat) : (⟨Array.replicate n none⟩ : Gathering).members = [] := by
  simp [members, List.filterMap_replicate_of_none]

theorem sound_empty : ({} : Gathering).Sound where
  size := ⟨3, rfl⟩
  roomy := by decide
  reached m inside := by simp [members_replicate] at inside

theorem double_eq (least steps size : Nat) :
    sizeAbove.double least steps size = Slots.sizeFor.double (least + 1) steps size := by
  induction steps generalizing size with
  | zero => rfl
  | succ steps ih => rw [sizeAbove.double, Slots.sizeFor.double, ih]; rfl

theorem sizeAbove_eq (least : Nat) : ∃ j, sizeAbove least = 2 ^ j ∧ least < 2 ^ j := by
  obtain ⟨j, height, -, above⟩ := Slots.sizeFor_double least (least + 1) 3 (by omega)
  exact ⟨j, (double_eq least least 8).trans height, above⟩

/-- Spreading members leaves a set in order, and each of them in it. -/
theorem sound_spread {k : Nat} (size : g.cells.size = 2 ^ k)
    (reached : ∀ m ∈ g.members, m ∈ g.met m.number) :
    g.spread.Sound ∧ ∀ m ∈ g.members, m ∈ g.spread.members := by
  rw [spread]
  split
  · next few => exact ⟨⟨⟨k, size⟩, by omega, reached⟩, fun _ => id⟩
  · obtain ⟨j, height, above⟩ := sizeAbove_eq (4 * g.members.length)
    let blank : Gathering := ⟨Array.replicate (sizeAbove (4 * g.members.length)) none⟩
    have blankSize : blank.cells.size = 2 ^ j := by simp [blank, height]
    have unused : blank.members = [] := members_replicate _
    have free : blank.members.length + g.members.length ≤ blank.cells.size := by
      rw [unused, blankSize, List.length_nil]
      omega
    obtain ⟨size', length, -, met⟩ := foldl_put g.members blankSize free
    rw [unused, List.length_nil] at length
    have roomy : (g.members.foldl put blank).members.length <
        (g.members.foldl put blank).cells.size := by
      omega
    refine ⟨⟨⟨j, size'⟩, roomy, fun m inside => ?_⟩, fun m inside => mem_of_met (met m inside)⟩
    rcases mem_foldl_put g.members inside with old | new
    · exact met m old
    · rw [unused] at new
      simp at new

theorem Sound.add (sound : g.Sound) (m : Member) :
    (g.add m).Sound ∧ ∀ m', m' ∈ (g.add m).members ↔ m' = m ∨ m' ∈ g.members := by
  obtain ⟨k, size⟩ := sound.size
  have taken := taken_put size sound.roomy m
  have reached : ∀ m' ∈ (g.put m).members, m' ∈ (g.put m).met m'.number := by
    intro m' inside
    rcases mem_put inside with rfl | old
    · exact taken.met
    · exact taken.kept _ (sound.reached m' old)
  obtain ⟨sound', stays⟩ := sound_spread (taken.size.trans size) reached
  refine ⟨sound', fun m' => ⟨mem_add, ?_⟩⟩
  rintro (rfl | old)
  · exact stays m' (mem_of_met taken.met)
  · exact stays m' (mem_of_met (taken.kept _ (sound.reached m' old)))

/-! Sets of texts -/

structure Lists (g : Gathering) : Prop extends Sound g where
  proper : ∀ m ∈ g.members, ∃ place s, m = ⟨Text.Digest.ofText s, .text place s, [.text s]⟩

def Names (g : Gathering) (n : String) : Prop := ∃ m ∈ g.members, m.value.text? = some n

theorem Lists.texts (lists : g.Lists) : g.Texts := fun m inside => by
  obtain ⟨place, s, rfl⟩ := lists.proper m inside
  exact ⟨place, s, rfl⟩

theorem lists_empty : ({} : Gathering).Lists where
  toSound := sound_empty
  proper m inside := by simp [members_replicate] at inside

theorem Lists.add (lists : g.Lists) (place : Nat) (n : String) :
    (g.add ⟨Text.Digest.ofText n, .text place n, [.text n]⟩).Lists ∧
      ∀ n', (g.add ⟨Text.Digest.ofText n, .text place n, [.text n]⟩).Names n' ↔
          n' = n ∨ g.Names n' := by
  obtain ⟨sound, member⟩ := lists.toSound.add ⟨Text.Digest.ofText n, .text place n, [.text n]⟩
  refine ⟨⟨sound, fun m inside => ?_⟩, fun n' => ?_⟩
  · rcases (member m).1 inside with rfl | old
    · exact ⟨place, n, rfl⟩
    · exact lists.proper m old
  · constructor
    · rintro ⟨m, inside, text⟩
      rcases (member m).1 inside with rfl | old
      · exact .inl (Option.some.inj text).symm
      · exact .inr ⟨m, old, text⟩
    · rintro (rfl | ⟨m, old, text⟩)
      · exact ⟨_, (member _).2 (.inl rfl), rfl⟩
      · exact ⟨m, (member m).2 (.inr old), text⟩

end Gathering

namespace Host

variable {h : Host} {w : World} {g : Nat}

theorem isAmong_iff {met : List Member} (place : Nat) (n : String)
    (texts : ∀ m ∈ met, ∃ place s, m.value = .text place s) :
    ∃ b, h.isAmong (.text place n) met w = .ok b w ∧
      (b = true ↔ ∃ m ∈ met, m.value.text? = some n) := by
  induction met with
  | nil => exact ⟨false, rfl, by simp⟩
  | cons m met ih =>
    obtain ⟨place', s, text⟩ := texts m List.mem_cons_self
    have plain (place : Nat) (t : String) : (Value.text place t).Plain w := by
      simp [Value.Plain, Value.objectsIn]
    have equal := equals_plain (h := h) (.text place' s) (.text place n) (plain _ _) (plain _ _)
      (k := [.text s]) (l := [.text n]) rfl rfl
    have known : m.value.text? = some s := by rw [text]; rfl
    rw [isAmong, text, bind_of_ok equal]
    by_cases same : s = n
    · refine ⟨true, by simp [same], ?_⟩
      simp only [true_iff]
      exact ⟨m, List.mem_cons_self, known.trans (congrArg some same)⟩
    · obtain ⟨b, run, found⟩ := ih fun m inside => texts m (List.mem_cons_of_mem _ inside)
      refine ⟨b, by simpa [same] using run, found.trans ?_⟩
      constructor
      · rintro ⟨m', inside, text'⟩
        exact ⟨m', List.mem_cons_of_mem _ inside, text'⟩
      · rintro ⟨m', inside, text'⟩
        rcases List.mem_cons.1 inside with rfl | inside
        · exact absurd (Option.some.inj (known.symm.trans text')) same
        · exact ⟨m', inside, text'⟩

theorem numberOf_text_eq (place : Nat) (n : String) :
    h.numberOf (.text place n) w = .ok (Text.Digest.ofText n, [.text n]) w := by
  have plain : (Value.text place n).Plain w := by simp [Value.Plain, Value.objectsIn]
  rw [numberOf_plain _ plain, numbered, Value.residue_text]
  rfl

theorem isAmong_met {x : Gathering} (lists : x.Lists) (place : Nat) (n : String) :
    ∃ b, h.isAmong (.text place n) (x.met (Text.Digest.ofText n)) w = .ok b w ∧
      (b = true ↔ x.Names n) := by
  obtain ⟨b, run, found⟩ := isAmong_iff (h := h) (w := w) place n
    fun m inside => lists.texts m (Gathering.mem_of_met inside)
  refine ⟨b, run, found.trans ?_⟩
  constructor
  · rintro ⟨m, inside, text⟩
    exact ⟨m, Gathering.mem_of_met inside, text⟩
  · rintro ⟨m, inside, text⟩
    have met := lists.reached m inside
    obtain ⟨place', s, rfl⟩ := lists.proper m inside
    obtain rfl : s = n := Option.some.inj text
    exact ⟨_, met, text⟩

/-- `in` for a set of texts. -/
theorem isGathered_iff (lists : (w.namesAt g).Lists) (place : Nat) (n : String) :
    ∃ b, h.isGathered g (.text place n) w = .ok b w ∧ (b = true ↔ (w.namesAt g).Names n) := by
  obtain ⟨b, run, found⟩ := isAmong_met (h := h) (w := w) lists place n
  refine ⟨b, ?_, found⟩
  rw [isGathered, bind_of_ok (numberOf_text_eq place n)]
  exact (bind_of_ok (get_run w)).trans run

theorem names_of_gather {w' : World} {place : Nat} {n : String} (lists : (w.namesAt g).Lists)
    (inside : g < w.gatherings.size) (run : h.gather g (.text place n) w = .ok () w') :
    w'.gatherings.size = w.gatherings.size ∧ (w'.namesAt g).Lists ∧
      ∀ n', (w'.namesAt g).Names n' ↔ n' = n ∨ (w.namesAt g).Names n' := by
  obtain ⟨known, among, found⟩ := isAmong_met (h := h) (w := w) lists place n
  have done : h.gather g (.text place n) w =
      (if !known then modifyNames g (·.add ⟨Text.Digest.ofText n, .text place n, [.text n]⟩)
      else pure ()) w := by
    rw [gather, bind_of_ok (numberOf_text_eq place n)]
    exact (bind_of_ok (get_run w)).trans (bind_of_ok among)
  rw [done] at run
  cases known with
  | true =>
    obtain ⟨-, rfl⟩ := EStateM.Result.ok.inj run
    refine ⟨rfl, lists, fun n' => ⟨.inr, ?_⟩⟩
    rintro (rfl | old)
    · exact found.1 rfl
    · exact old
  | false =>
    obtain ⟨-, rfl⟩ := EStateM.Result.ok.inj run
    have added := lists.add place n
    constructor
    · simp only [Array.size_modify]
    · simpa [World.namesAt, Array.getElem?_modify, Array.getElem?_eq_getElem inside] using added

end Host

end EventTasks
