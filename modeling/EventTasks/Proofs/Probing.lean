import EventTasks.Slots
import Mathlib.Algebra.Ring.Parity
import Mathlib.Data.List.ReduceOption
import Mathlib.Data.Nat.ModEq
import Mathlib.Logic.Function.Iterate
import Mathlib.Tactic.Ring

/-!
Finding by number. The places to look at for a number run through every cell, since the step
`5 * place + 1` has full period modulo a power of two. So a row always finds a cell while there is
room, and an entry is met when it is looked for by its own number. Adding and taking away entries,
and laying them out anew, keep this.
-/
namespace EventTasks.Slots

/-! The step between places -/

def leap (place : Nat) : Nat := 5 * place + 1

theorem iterate_leap_add (n place d : Nat) : leap^[n] (place + d) = leap^[n] place + 5 ^ n * d := by
  induction n generalizing place d with
  | zero => simp
  | succ n ih =>
    have step : leap (place + d) = leap place + 5 * d := by
      unfold leap
      ring
    rw [Function.iterate_succ_apply, Function.iterate_succ_apply, step, ih, pow_succ]
    ring

theorem five_pow_eq (n : Nat) : ∃ t, 5 ^ n = 4 * t + 1 := by
  induction n with
  | zero => exact ⟨0, rfl⟩
  | succ n ih =>
    obtain ⟨t, ht⟩ := ih
    exact ⟨5 * t + 1, by rw [pow_succ, ht]; ring⟩

theorem iterate_leap_two_pow (k place : Nat) :
    ∃ q, leap^[2 ^ k] place = place + 2 ^ k * (2 * q + 1) := by
  induction k generalizing place with
  | zero => exact ⟨2 * place, by simp only [leap, pow_zero, Function.iterate_one]; ring⟩
  | succ k ih =>
    obtain ⟨q, hq⟩ := ih place
    obtain ⟨t, ht⟩ := five_pow_eq (2 ^ k)
    refine ⟨2 * q * t + q + t, ?_⟩
    have twice : (2 : Nat) ^ (k + 1) = 2 ^ k + 2 ^ k := by
      rw [pow_succ]
      ring
    rw [twice, Function.iterate_add_apply, hq, iterate_leap_add, hq, ht]
    ring

theorem exists_iterate_leap (k place r : Nat) :
    ∃ i < 2 ^ k, leap^[i] place ≡ r [MOD 2 ^ k] := by
  induction k with
  | zero => exact ⟨0, by simp, Nat.modEq_one⟩
  | succ k ih =>
    obtain ⟨i, hi, hmod⟩ := ih
    have twice : (2 : Nat) ^ (k + 1) = 2 ^ k * 2 := pow_succ 2 k
    obtain ⟨c, hc⟩ := (Nat.modEq_iff_dvd.1 hmod)
    rcases Int.even_or_odd' c with ⟨b, hb | hb⟩
    · refine ⟨i, by omega, Nat.modEq_iff_dvd.2 ⟨b, ?_⟩⟩
      rw [hc, hb, twice]
      push_cast
      ring
    · obtain ⟨q, hq⟩ := iterate_leap_two_pow k (leap^[i] place)
      refine ⟨2 ^ k + i, by omega, Nat.modEq_iff_dvd.2 ⟨b - q, ?_⟩⟩
      rw [Function.iterate_add_apply, hq, twice]
      push_cast
      have moved : ((r : Int) - (leap^[i] place : Nat)) = 2 ^ k * c := by simpa using hc
      calc (r : Int) - ((leap^[i] place : Nat) + 2 ^ k * (2 * (q : Int) + 1))
          = (r - (leap^[i] place : Nat)) - 2 ^ k * (2 * q + 1) := by ring
        _ = 2 ^ k * c - 2 ^ k * (2 * q + 1) := by rw [moved]
        _ = 2 ^ k * 2 * (b - q) := by
          rw [hb]
          ring

/-! The places for a number -/

theorem placesFrom_add (size j m rest place : Nat) :
    ∃ before place', placesFrom size (j + m) rest place =
      before ++ placesFrom size m (rest / 32 ^ j) place' := by
  induction j generalizing rest place with
  | zero => exact ⟨[], place, by simp⟩
  | succ j ih =>
    obtain ⟨before, place', eq⟩ := ih (rest / 32) ((place * 5 + rest / 32 + 1) % size)
    refine ⟨place :: before, place', ?_⟩
    rw [Nat.add_right_comm, placesFrom, eq, Nat.div_div_eq_div_mul, pow_succ']
    rfl

/-- When nothing is left of the number, the places are those of the steps alone. -/
theorem mem_placesFrom_zero (size steps place i : Nat) (hi : i < steps) (hplace : place < size) :
    leap^[i] place % size ∈ placesFrom size steps 0 place := by
  induction steps generalizing i place with
  | zero => omega
  | succ steps ih =>
    cases i with
    | zero => simp [placesFrom, Nat.mod_eq_of_lt hplace]
    | succ i =>
      refine List.mem_cons_of_mem _ ?_
      have next : (place * 5 + 0 / 32 + 1) % size = leap place % size := by
        simp [leap, Nat.mul_comm]
      have later := ih ((place * 5 + 0 / 32 + 1) % size) i (by omega) (Nat.mod_lt _ (by omega))
      rw [next] at later
      have same : leap^[i] (leap place % size) % size = leap^[i + 1] place % size := by
        rw [Function.iterate_succ_apply]
        conv_rhs => rw [← Nat.mod_add_div (leap place) size, iterate_leap_add]
        rw [Nat.mul_left_comm, Nat.add_mul_mod_self_left]
      rw [same] at later
      simpa only [Nat.zero_div, next] using later

theorem lt_of_mem_placesFrom {size steps rest place p : Nat} (hplace : place < size)
    (found : p ∈ placesFrom size steps rest place) : p < size := by
  induction steps generalizing rest place with
  | zero => simp [placesFrom] at found
  | succ steps ih =>
    rcases List.mem_cons.1 found with rfl | found
    · exact hplace
    · exact ih (Nat.mod_lt _ (by omega)) found

/-- The places for a number run through all cells. -/
theorem mem_places {s : Slots} {k p : Nat} (size : s.cells.size = 2 ^ k) (number : Int)
    (hp : p < s.cells.size) : p ∈ s.places number := by
  have short : (number % 2 ^ 64).toNat < 2 ^ 64 := by omega
  have spent : (number % 2 ^ 64).toNat / 32 ^ 13 = 0 := Nat.div_eq_of_lt (by omega)
  obtain ⟨before, place, eq⟩ := placesFrom_add s.cells.size 13 (s.cells.size + 1)
    (number % 2 ^ 64).toNat ((number % 2 ^ 64).toNat % s.cells.size)
  have split : s.places number = before ++ placesFrom s.cells.size (s.cells.size + 1) 0 place := by
    rw [places, ← spent, ← eq]
    congr 1
    omega
  have inside : place < s.cells.size := by
    have first : place ∈ s.places number := by
      rw [split]
      simp [placesFrom]
    exact lt_of_mem_placesFrom (Nat.mod_lt _ (by omega)) first
  obtain ⟨i, hi, hmod⟩ := exists_iterate_leap k place p
  have reached := mem_placesFrom_zero s.cells.size (s.cells.size + 1) place i (by omega) inside
  rw [split, List.mem_append]
  right
  rwa [size, hmod, Nat.mod_eq_of_lt (size ▸ hp), ← size] at reached

/-! What a table of slots stands for -/

theorem rowsAt_congr {s s' : Slots} (cells : s'.cells = s.cells) (number : Int) :
    s'.rowsAt (s'.places number) = s.rowsAt (s.places number) := by
  have along : ∀ l, s'.rowsAt l = s.rowsAt l := by
    intro l
    induction l with
    | nil => rfl
    | cons p l ih => simp only [rowsAt, cells, ih]
  rw [along]
  simp only [places, cells]

theorem mem_rowsAt_of_cells {s s' : Slots} (cells : s'.cells = s.cells) {number : Int} {row : Nat}
    (h : row ∈ s.rowsAt (s.places number)) : row ∈ s'.rowsAt (s'.places number) := by
  rw [rowsAt_congr cells]
  exact h

def taken (s : Slots) : Nat := s.cells.toList.countP (· ≠ .free)

def Roomy (s : Slots) : Prop :=
  (s.cells = #[] ∧ s.rows = #[] ∧ s.room = 0) ∨
    (∃ k, s.cells.size = 2 ^ k) ∧ s.taken + s.room < s.cells.size

/-- The slots stand for a sequence of numbers: those of the rows that are there, each met by its
number. -/
structure Sound (s : Slots) (numbers : List Int) : Prop where
  rows_eq : s.rows.toList.reduceOption = numbers
  reached : ∀ row n, s.rows[row]? = some (some n) → row ∈ s.rowsAt (s.places n)
  roomy : s.Roomy

theorem sound_empty (plain : Bool) (turn : Nat) :
    Sound { plain := plain, turn := turn } [] where
  rows_eq := rfl
  reached row n h := by simp at h
  roomy := .inl ⟨rfl, rfl, rfl⟩

theorem sound_emptied (s : Slots) : s.emptied.Sound [] := sound_empty true (s.turn + 1)

theorem position_eq (s : Slots) (row : Nat) :
    s.position row = (s.rows.toList.take row).reduceOption.length := by
  simp only [position]
  induction s.rows.toList.take row with
  | nil => rfl
  | cons x xs ih => cases x <;> simpa [List.reduceOption] using ih

theorem getElem?_position {s : Slots} {row : Nat} {n : Int} (h : s.rows[row]? = some (some n)) :
    s.rows.toList.reduceOption[s.position row]? = some n := by
  have hl : s.rows.toList[row]? = some (some n) := by simpa using h
  have hlt : row < s.rows.toList.length := (List.getElem?_eq_some_iff.1 hl).1
  have hn := (List.getElem?_eq_some_iff.1 hl).2
  have split : s.rows.toList = s.rows.toList.take row ++ some n ::
      s.rows.toList.drop (row + 1) := by
    rw [← hn, List.getElem_cons_drop, List.take_append_drop]
  have whole := congrArg List.reduceOption split
  rw [List.reduceOption_append, List.reduceOption_cons_of_some] at whole
  rw [whole, position_eq]
  simp

theorem exists_row {s : Slots} {j : Nat} {n : Int} (h : s.rows.toList.reduceOption[j]? = some n) :
    ∃ row, s.rows[row]? = some (some n) ∧ s.position row = j ∧ s.rowOf j = some row := by
  have general : ∀ (l : List (Option Int)) (k j : Nat), l.reduceOption[j]? = some n →
      ∃ row, l[row]? = some (some n) ∧ (l.take row).reduceOption.length = j ∧
        ((l.zipIdx k).filter fun p => p.1.isSome)[j]? = some (some n, k + row) := by
    intro l
    induction l with
    | nil => intro k j h; simp [List.reduceOption] at h
    | cons x l ih =>
      intro k j h
      cases x with
      | none =>
        obtain ⟨row, hrow, hpos, hof⟩ := ih (k + 1) j (by simpa using h)
        exact ⟨row + 1, by simpa using hrow, by simpa using hpos,
          by simpa [List.zipIdx_cons, Nat.add_assoc, Nat.add_comm 1] using hof⟩
      | some m =>
        cases j with
        | zero =>
          obtain rfl : m = n := by simpa using h
          exact ⟨0, by simp, by simp [List.reduceOption], by simp [List.zipIdx_cons]⟩
        | succ j =>
          obtain ⟨row, hrow, hpos, hof⟩ := ih (k + 1) j (by simpa using h)
          exact ⟨row + 1, by simpa using hrow, by simpa using hpos,
            by simpa [List.zipIdx_cons, Nat.add_assoc, Nat.add_comm 1] using hof⟩
  obtain ⟨row, hrow, hpos, hof⟩ := general _ 0 j h
  exact ⟨row, by simpa using hrow, by rw [position_eq]; exact hpos, by simp [rowOf, hof]⟩

theorem getElem?_of_mem_met {s : Slots} {numbers : List Int} (sound : s.Sound numbers)
    {number n : Int} {j : Nat} (h : (j, n) ∈ s.met number) : numbers[j]? = some n := by
  unfold met at h
  split at h
  · simp at h
  · obtain ⟨row, -, hrow⟩ := List.mem_filterMap.1 h
    obtain ⟨m, hm, heq⟩ := Option.map_eq_some_iff.1 hrow
    obtain ⟨rfl, rfl⟩ := Prod.mk.inj heq
    rw [← sound.rows_eq]
    refine getElem?_position ?_
    cases hr : s.rows[row]? with
    | none => simp [hr] at hm
    | some x => rw [hr] at hm; simpa using hm

/-- Every entry with a number is met when the number is looked for. -/
theorem mem_met {s : Slots} {numbers : List Int} (sound : s.Sound numbers) {n : Int} {j : Nat}
    (h : numbers[j]? = some n) : (j, n) ∈ s.met n := by
  rw [← sound.rows_eq] at h
  obtain ⟨row, hrow, hpos, -⟩ := exists_row h
  have filled : ¬ s.cells.isEmpty := by
    intro empty
    rcases sound.roomy with ⟨-, none, -⟩ | ⟨⟨k, size⟩, -⟩
    · simp [none] at hrow
    · rw [Array.isEmpty_iff_size_eq_zero] at empty
      exact absurd size (by rw [empty]; exact (Nat.two_pow_pos k).ne)
  unfold met
  rw [if_neg filled]
  exact List.mem_filterMap.2 ⟨row, sound.reached row n hrow, by simp [hrow, hpos]⟩

/-! Adding -/

theorem exists_free {s : Slots} (h : s.taken < s.cells.size) :
    ∃ p < s.cells.size, s.cells[p]? = some .free := by
  by_contra none
  push Not at none
  have all : s.cells.toList.countP (· ≠ .free) = s.cells.toList.length := by
    refine List.countP_eq_length.2 fun c hc => ?_
    obtain ⟨p, hp, rfl⟩ := List.getElem_of_mem hc
    have := none p (by simpa using hp)
    simpa [Array.getElem?_eq_getElem (show p < s.cells.size by simpa using hp)] using this
  rw [taken, all, Array.length_toList] at h
  exact lt_irrefl _ h

def isOpenAt (s : Slots) (p : Nat) : Bool :=
  match s.cells[p]? with
  | some (.row _) => false
  | _ => true

theorem place_eq (s : Slots) (row : Nat) (number : Int) :
    s.place row number = match (s.places number).find? s.isOpenAt with
      | some p => { s with cells := s.cells.setIfInBounds p (.row row) }
      | none => s := rfl

theorem rowsAt_subset {s : Slots} {p row : Nat} (hopen : s.isOpenAt p) (hp : p < s.cells.size)
    (along : List Nat) : s.rowsAt along ⊆
      ({ s with cells := s.cells.setIfInBounds p (.row row) } : Slots).rowsAt along := by
  induction along with
  | nil => simp [rowsAt]
  | cons q along ih =>
    by_cases hq : q = p
    · subst hq
      have opened : s.cells[q]?.getD .free = .free ∨ s.cells[q]?.getD .free = .left := by
        unfold isOpenAt at hopen
        cases hc : s.cells[q]?.getD .free with
        | free => exact .inl rfl
        | left => exact .inr rfl
        | row r =>
          cases hs : s.cells[q]? with
          | none => simp [hs] at hc
          | some c =>
            obtain rfl : c = .row r := by simpa [hs] using hc
            simp [hs] at hopen
      rcases opened with hc | hc
      · simp [rowsAt, hc]
      · simp only [rowsAt, hc, Array.getElem?_setIfInBounds_self_of_lt hp, Option.getD_some]
        exact List.subset_cons_of_subset _ ih
    · simp only [rowsAt, Array.getElem?_setIfInBounds_ne (Ne.symm hq)]
      split
      · simp
      · exact ih
      · exact List.cons_subset_cons _ ih

theorem mem_rowsAt_placed {s : Slots} {p row : Nat} {along : List Nat}
    (found : along.find? s.isOpenAt = some p) (hp : p < s.cells.size) :
    row ∈ ({ s with cells := s.cells.setIfInBounds p (.row row) } : Slots).rowsAt along := by
  induction along with
  | nil => simp at found
  | cons q along ih =>
    by_cases hq : s.isOpenAt q
    · rw [List.find?_cons_of_pos hq, Option.some.injEq] at found
      subst found
      simp [rowsAt, Array.getElem?_setIfInBounds_self_of_lt hp]
    · rw [List.find?_cons_of_neg hq] at found
      have other : p ≠ q := by
        rintro rfl
        exact hq (List.find?_some found)
      cases hc : s.cells[q]? with
      | none => simp [isOpenAt, hc] at hq
      | some c =>
        cases c with
        | free => simp [isOpenAt, hc] at hq
        | left => simp [isOpenAt, hc] at hq
        | row r =>
          simp only [rowsAt, Array.getElem?_setIfInBounds_ne other, hc, Option.getD_some]
          exact List.mem_cons_of_mem _ (ih found)

structure Placed (s s' : Slots) (row : Nat) (number : Int) : Prop where
  rows : s'.rows = s.rows
  room : s'.room = s.room
  size : s'.cells.size = s.cells.size
  taken : s'.taken ≤ s.taken + 1
  kept : ∀ n r, r ∈ s.rowsAt (s.places n) → r ∈ s'.rowsAt (s'.places n)
  met : row ∈ s'.rowsAt (s'.places number)

theorem placed_place {s : Slots} {k : Nat} (size : s.cells.size = 2 ^ k)
    (free : s.taken < s.cells.size) (row : Nat) (number : Int) :
    Placed s (s.place row number) row number := by
  obtain ⟨p₀, hp₀, hfree⟩ := exists_free free
  have some_open : ((s.places number).find? s.isOpenAt).isSome :=
    List.find?_isSome.2 ⟨p₀, mem_places size number hp₀, by simp [isOpenAt, hfree]⟩
  obtain ⟨p, hp⟩ := Option.isSome_iff_exists.1 some_open
  have inside : p < s.cells.size :=
    lt_of_mem_placesFrom (Nat.mod_lt _ (by omega)) (List.mem_of_find?_eq_some hp)
  have samePlaces : ∀ n, ({ s with cells := s.cells.setIfInBounds p (.row row) } : Slots).places n =
      s.places n := fun n => by simp [places]
  rw [place_eq, hp]
  refine ⟨rfl, rfl, by simp, ?_, ?_, ?_⟩
  · have cells : (s.cells.setIfInBounds p (.row row)).toList = s.cells.toList.set p (.row row) := by
      simp
    have less : s.cells.toList.countP (· ≠ .free) + 1 ≥
        (s.cells.toList.set p (.row row)).countP (· ≠ .free) := by
      rw [List.countP_set (by simpa using inside)]
      split <;> simp
    simpa only [Slots.taken, cells] using less
  · intro n r hr
    rw [samePlaces]
    exact rowsAt_subset (List.find?_some hp) inside _ hr
  · rw [samePlaces]
    exact mem_rowsAt_placed hp inside

theorem sound_add_of_room {s : Slots} {numbers : List Int} {k : Nat} (sound : s.Sound numbers)
    (size : s.cells.size = 2 ^ k) (free : s.taken + s.room < s.cells.size) (room : s.room ≠ 0)
    (number : Int) :
    ({ s with rows := s.rows.push (some number), room := s.room - 1 }.place
      s.rows.size number).Sound
      (numbers ++ [number]) := by
  have placed :=
    placed_place (s := { s with rows := s.rows.push (some number), room := s.room - 1 })
    size (by simp only [taken] at free ⊢; omega) s.rows.size number
  refine ⟨?_, ?_, .inr ⟨⟨k, placed.size.trans size⟩, ?_⟩⟩
  · rw [placed.rows]
    simp [List.reduceOption_append, sound.rows_eq]
  · intro row n h
    rw [placed.rows, Array.getElem?_push] at h
    split at h
    · rename_i last
      obtain rfl : number = n := by simpa using h
      exact last ▸ placed.met
    · refine placed.kept n row (mem_rowsAt_of_cells (s := s) (by rfl) ?_)
      exact sound.reached row n h
  · have grown := placed.taken
    rw [placed.room, placed.size]
    simp only [taken] at grown free ⊢
    omega

/-! Laying out anew -/

theorem sizeFor_double (steps : Nat) (least k : Nat) (enough : least ≤ 2 ^ k + steps) :
    ∃ j, sizeFor.double least steps (2 ^ k) = 2 ^ j ∧ k ≤ j ∧ least ≤ 2 ^ j := by
  induction steps generalizing k with
  | zero => exact ⟨k, rfl, le_rfl, by omega⟩
  | succ steps ih =>
    unfold sizeFor.double
    split
    · exact ⟨k, rfl, le_rfl, by assumption⟩
    · have twice : 2 * 2 ^ k = 2 ^ (k + 1) := (pow_succ' 2 k).symm
      have positive := Nat.two_pow_pos k
      obtain ⟨j, hj, hk, hl⟩ := ih (k + 1) (by omega)
      exact ⟨j, by rw [twice]; exact hj, by omega, hl⟩

theorem sizeFor_eq (least : Nat) : ∃ j, sizeFor least = 2 ^ j ∧ 8 ≤ 2 ^ j ∧ least ≤ 2 ^ j := by
  obtain ⟨j, hj, hk, hl⟩ := sizeFor_double least least 3 (by omega)
  exact ⟨j, hj, by simpa using Nat.pow_le_pow_right (by decide : 0 < 2) hk, hl⟩

theorem foldl_place {k : Nat} (entries : List (Int × Nat)) (s : Slots) (size : s.cells.size = 2 ^ k)
    (free : s.taken + entries.length ≤ s.cells.size) :
    let s' := entries.foldl (fun s p => s.place p.2 p.1) s
    s'.rows = s.rows ∧ s'.room = s.room ∧ s'.cells.size = 2 ^ k ∧
      s'.taken ≤ s.taken + entries.length ∧
      (∀ n r, r ∈ s.rowsAt (s.places n) → r ∈ s'.rowsAt (s'.places n)) ∧
      ∀ p ∈ entries, p.2 ∈ s'.rowsAt (s'.places p.1) := by
  induction entries generalizing s with
  | nil => exact ⟨rfl, rfl, size, by simp, fun _ _ h => h, by simp⟩
  | cons e entries ih =>
    simp only [List.length_cons] at free
    have placed := placed_place size (by omega) e.2 e.1
    obtain ⟨rows, room, size', taken', kept, met⟩ :=
      ih (s.place e.2 e.1) (placed.size.trans size)
        (by rw [placed.size]; have := placed.taken; omega)
    refine ⟨rows.trans placed.rows, room.trans placed.room, size', ?_, ?_, ?_⟩
    · have := placed.taken
      simp only [List.length_cons]
      exact taken'.trans (by omega)
    · exact fun n r h => kept n r (placed.kept n r h)
    · intro p hp
      rcases List.mem_cons.1 hp with rfl | hp
      · exact kept _ _ placed.met
      · exact met p hp

/-- A table with its cells laid out anew stands for the same numbers, and there is room. -/
theorem sound_layOut {s : Slots} {numbers : List Int} (sound : s.Sound numbers) :
    s.layOut.Sound numbers ∧ s.layOut.room ≠ 0 ∧ (∃ k, s.layOut.cells.size = 2 ^ k) ∧
      s.layOut.taken + s.layOut.room < s.layOut.cells.size := by
  obtain ⟨k, hsize, height, hleast⟩ := sizeFor_eq (3 * numbers.length)
  have hrows : s.rows.toList.filterMap id = numbers := sound.rows_eq
  let blank : Slots :=
    { cells := Array.replicate (2 ^ k) .free, rows := (numbers.map some).toArray,
      room := roomIn (2 ^ k) - numbers.length, plain := s.plain, turn := s.turn + 1 }
  have eq : s.layOut = numbers.zipIdx.foldl (fun s p => s.place p.2 p.1) blank := by
    simp only [layOut, hrows, hsize, blank]
  have unused : blank.taken = 0 := by simp [taken, blank, List.countP_replicate]
  have blankSize : blank.cells.size = 2 ^ k := by simp [blank]
  obtain ⟨rows, room, size, taken, -, met⟩ := foldl_place (k := k) numbers.zipIdx blank blankSize
    (by rw [unused, blankSize, List.length_zipIdx]; omega)
  rw [← eq] at rows room size taken met
  rw [unused, List.length_zipIdx] at taken
  have roomEq : s.layOut.room = 2 * 2 ^ k / 3 - numbers.length := room
  have free : s.layOut.taken + s.layOut.room < s.layOut.cells.size := by
    rw [roomEq, size]
    omega
  refine ⟨⟨?_, ?_, .inr ⟨⟨k, size⟩, free⟩⟩, ?_, ⟨k, size⟩, free⟩
  · rw [rows]
    simp [blank, List.reduceOption, List.filterMap_map]
  · intro row n h
    rw [rows] at h
    have hn : numbers[row]? = some n := by simpa [blank] using h
    exact met (n, row) (List.mem_zipIdx_iff_getElem?.2 hn)
  · rw [roomEq]
    omega

theorem sound_add {s : Slots} {numbers : List Int} (sound : s.Sound numbers) (number : Int) :
    (s.add number).Sound (numbers ++ [number]) := by
  unfold add
  split
  · obtain ⟨laid, room, ⟨k, size⟩, free⟩ := sound_layOut sound
    exact sound_add_of_room laid size free room number
  · rename_i room
    rcases sound.roomy with ⟨-, -, none⟩ | ⟨⟨k, size⟩, free⟩
    · exact absurd none room
    · exact sound_add_of_room sound size free room number

theorem sound_prepare {s : Slots} {numbers : List Int} (sound : s.Sound numbers) (isText : Bool) :
    (s.prepare isText).Sound numbers := by
  have unplain : ({ s with plain := false } : Slots).Sound numbers :=
    ⟨sound.rows_eq, fun row n h => mem_rowsAt_of_cells (s := s) (by rfl) (sound.reached row n h),
      sound.roomy⟩
  unfold prepare
  split
  · split
    · exact unplain
    · exact (sound_layOut unplain).1
  · exact sound

/-! Taking away -/

theorem mem_rowsAt_drop {s : Slots} {row r : Nat} (other : r ≠ row) (rows : Array (Option Int))
    {along : List Nat} (h : r ∈ s.rowsAt along) :
    r ∈ ({ s with rows, cells := s.cells.map fun c => if c = .row row then .left else c } :
      Slots).rowsAt along := by
  induction along with
  | nil => simp [rowsAt] at h
  | cons q along ih =>
    simp only [rowsAt, Array.getElem?_map] at h ⊢
    cases hc : s.cells[q]? with
    | none => simp [hc] at h
    | some c =>
      cases c with
      | free => simp [hc] at h
      | left => simpa [hc] using ih (by simpa [hc] using h)
      | row r' =>
        simp only [hc, Option.getD_some, List.mem_cons] at h
        by_cases hr : r' = row
        · subst hr
          simpa using ih (h.resolve_left other)
        · have same : (Cell.row r' = Cell.row row) = False := by simpa using hr
          simp only [Option.map_some, same, if_false, Option.getD_some, List.mem_cons]
          exact h.imp_right ih

theorem taken_drop (s : Slots) (row : Nat) :
    (s.cells.map fun c => if c = .row row then .left else c).toList.countP (· ≠ .free) =
      s.taken := by
  rw [taken, Array.toList_map, List.countP_map]
  refine List.countP_congr fun c _ => ?_
  by_cases h : c = .row row <;> simp [h]

theorem reduceOption_set_none {l : List (Option Int)} {row : Nat} {n : Int}
    (h : l[row]? = some (some n)) :
    (l.set row none).reduceOption = l.reduceOption.eraseIdx ((l.take row).reduceOption.length) := by
  induction l generalizing row with
  | nil => simp at h
  | cons x l ih =>
    cases row with
    | zero =>
      obtain rfl : x = some n := by simpa using h
      simp [List.reduceOption]
    | succ row =>
      have later := ih (by simpa using h)
      cases x <;> simpa using later

/-- Taking away an entry takes its number out of the sequence. -/
theorem sound_drop {s : Slots} {numbers : List Int} (sound : s.Sound numbers) {j : Nat}
    (hj : j < numbers.length) : (s.drop j).Sound (numbers.eraseIdx j) := by
  have hn : s.rows.toList.reduceOption[j]? = some numbers[j] := by
    rw [sound.rows_eq, List.getElem?_eq_getElem hj]
  obtain ⟨row, hrow, hpos, hof⟩ := exists_row hn
  unfold drop
  rw [hof]
  refine ⟨?_, ?_, ?_⟩
  · have rows : (s.rows.setIfInBounds row none).toList = s.rows.toList.set row none := by simp
    rw [rows, reduceOption_set_none (by simpa using hrow), ← position_eq, hpos, sound.rows_eq]
  · intro r n h
    have other : r ≠ row := by
      rintro rfl
      have inside := (Array.getElem?_eq_some_iff.1 hrow).1
      simp [Array.getElem?_setIfInBounds_self_of_lt inside] at h
    rw [Array.getElem?_setIfInBounds_ne (Ne.symm other)] at h
    have met := mem_rowsAt_drop other (s.rows.setIfInBounds row none) (sound.reached r n h)
    simpa only [places, Array.size_map] using met
  · rcases sound.roomy with ⟨-, none, -⟩ | ⟨⟨k, size⟩, free⟩
    · simp [none] at hrow
    · refine .inr ⟨⟨k, by simpa using size⟩, ?_⟩
      rw [taken, taken_drop]
      simpa using free

end EventTasks.Slots
