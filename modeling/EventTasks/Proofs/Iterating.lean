import EventTasks.Proofs.Keeping
import EventTasks.Iteration

/-!
Going through a list, and through the entries of a mapping, when what is done at each item leaves
the collection as it is: the fold over the collection is the fold over the list of its items.
-/
namespace EventTasks

open Act

namespace Host

variable {h : Host} {w : World}

theorem pairOf_tuple (s : Nat) (a b : Value) : h.pairOf (.tuple s [a, b]) w = .ok (a, b) w := rfl

/-! Lists -/

def Leaves (P : β → World → Prop) (f : β → α → Act β) (x : α) : Prop :=
  ∀ b w b' w', P b w → f b x w = .ok b' w' → P b' w'

/-- Going through a list in which the items still stand whenever the next one is looked for. -/
theorem foldFrom_list_of_run {p : Nat} {items : List Value} {f : β → Value → Act β}
    (n index : Nat) (b : β)
    (stands : ∀ m b' w', ((items.drop index).take m).foldlM f b w = .ok b' w' →
      w'.lists[p]? = some items)
    (enough : items.length - index < n) :
    h.foldFrom f n (.list p index) b w = (items.drop index).foldlM f b w := by
  induction n generalizing index b w with
  | zero => omega
  | succ n ih =>
    have shown : w.lists[p]? = some items := stands 0 b w rfl
    have there : w.listAt p = items := by simp [World.listAt, shown]
    rw [foldFrom, bind_run, next, bind_run]
    simp only [get_run, there]
    by_cases inside : index < items.length
    · have split := List.drop_eq_getElem_cons inside
      rw [List.getElem?_eq_getElem inside, split, List.foldlM_cons, bind_run]
      simp only [Option.map_some, pure_run, bind_run]
      cases run : f b items[index] w with
      | error e w' => rfl
      | ok b' w' =>
        refine ih (index + 1) b' (fun m b'' w'' more => ?_) (by omega)
        apply stands (m + 1) b'' w''
        rw [split, List.take_succ_cons, List.foldlM_cons, bind_of_ok run]
        exact more
    · rw [List.getElem?_eq_none (by omega), List.drop_eq_nil_of_le (by omega)]
      rfl

theorem foldItems_list_of_run {p : Nat} {items : List Value} {f : β → Value → Act β} (b : β)
    (stands : ∀ m b' w', (items.take m).foldlM f b w = .ok b' w' → w'.lists[p]? = some items) :
    h.foldItems (.ref (.list p)) f b w = items.foldlM f b w := by
  have there : w.listAt p = items := by simp [World.listAt, stands 0 b w rfl]
  have fold := foldFrom_list_of_run (h := h) (items.length + mostItems) 0 b stands
    (by simp [mostItems])
  simpa [foldItems, iterate, bind_run, foldCursor, ahead, there] using fold

theorem Leaves.foldlM {P : β → World → Prop} {f : β → α → Act β} {items : List α}
    (leaves : ∀ x ∈ items, Leaves P f x) {b b' : β} {w w' : World} (now : P b w)
    (run : items.foldlM f b w = .ok b' w') : P b' w' := by
  induction items generalizing b w with
  | nil =>
    obtain ⟨rfl, rfl⟩ := EStateM.Result.ok.inj run
    exact now
  | cons x items ih =>
    rw [List.foldlM_cons] at run
    obtain ⟨b₁, w₁, first, rest⟩ := bind_eq_ok.1 run
    exact ih (fun y hy => leaves y (by simp [hy])) (leaves x (by simp) b w b₁ w₁ now first) rest

/-- A loop over a list that is left alone meanwhile. -/
theorem foldItems_list {P : β → World → Prop} {p : Nat} {items : List Value}
    {f : β → Value → Act β} (shown : ∀ b w, P b w → w.lists[p]? = some items)
    (leaves : ∀ x ∈ items, Leaves P f x) (b : β) (now : P b w) :
    h.foldItems (.ref (.list p)) f b w = items.foldlM f b w := by
  refine foldItems_list_of_run b fun m b' w' run => shown b' w' ?_
  exact Leaves.foldlM (fun x hx => leaves x (List.mem_of_mem_take hx)) now run

end Host

/-! Entries of mappings -/

namespace Slots

variable {s : Slots}

theorem position_succ (s : Slots) {row : Nat} {n : Int} (h : s.rows[row]? = some (some n)) :
    s.position (row + 1) = s.position row + 1 := by
  have there : s.rows.toList[row]? = some (some n) := by simpa using h
  rw [position_eq, position_eq, List.take_add_one, there]
  simp [List.reduceOption_append]

theorem position_le (s : Slots) {row row' : Nat} (h : row ≤ row') :
    s.position row ≤ s.position row' := by
  obtain ⟨more, rfl⟩ := Nat.exists_eq_add_of_le h
  rw [position_eq, position_eq, List.take_add, List.reduceOption_append, List.length_append]
  omega

/-- The row of the entry at a position is the first one that is there behind the row of the entry
before it. -/
theorem find?_row {j row start : Nat} {n : Int}
    (there : s.rows[row]? = some (some n)) (at_j : s.position row = j)
    (behind : s.position start = j) :
    (List.range s.rows.size).find? (fun r => start ≤ r && (s.rows[r]?.getD none).isSome) =
      some row := by
  have lt := (Array.getElem?_eq_some_iff.1 there).1
  have after : start ≤ row := by
    by_contra before
    have up := position_le s (show row + 1 ≤ start by omega)
    rw [position_succ s there] at up
    omega
  rw [List.find?_range_eq_some]
  refine ⟨by simp [after, there], by simpa using lt, fun r before => ?_⟩
  cases hr : s.rows[r]?.getD none with
  | none => simp
  | some m =>
    have present : s.rows[r]? = some (some m) := by
      cases h : s.rows[r]? <;> simp_all
    have up := position_le s (show r + 1 ≤ row by omega)
    rw [position_succ s present] at up
    have early : ¬ start ≤ r := fun le => by
      have := position_le s le
      omega
    simp [early]

theorem find?_row_end {numbers : List Int} (sound : s.Sound numbers) {start : Nat}
    (behind : s.position start = numbers.length) :
    (List.range s.rows.size).find? (fun r => start ≤ r && (s.rows[r]?.getD none).isSome) =
      none := by
  refine List.find?_eq_none.2 fun r _ found => ?_
  simp only [Bool.and_eq_true, decide_eq_true_eq] at found
  obtain ⟨m, hm⟩ := Option.isSome_iff_exists.1 found.2
  have present : s.rows[r]? = some (some m) := by
    cases h : s.rows[r]? <;> simp_all
  have counted := getElem?_position present
  rw [sound.rows_eq] at counted
  have inside := (List.getElem?_eq_some_iff.1 counted).1
  have up := position_le s found.1
  omega

end Slots

/-- What a mapping shows to those who go through it: its entries, and the slots they stand in. -/
structure Listing where
  entries : List (Value × Value)
  slots : Option Slots

namespace Listing

def Sound (l : Listing) : Prop :=
  ∀ s, l.slots = some s → ∃ numbers, s.Sound numbers ∧ numbers.length = l.entries.length

def rowFrom (l : Listing) (row : Nat) : Option (Nat × Nat) :=
  match l.slots with
  | none => if row < l.entries.length then some (row, row) else none
  | some s =>
    ((List.range s.rows.size).find? fun r => row ≤ r && (s.rows[r]?.getD none).isSome).map
      fun r => (r, s.position r)

/-- Where the entry at each position begins to be looked for, so that it is the next to be found. -/
theorem exists_starts {l : Listing} (sound : l.Sound) :
    ∃ start : Nat → Nat, start 0 = 0 ∧
      (∀ j < l.entries.length, ∃ row, l.rowFrom (start j) = some (row, j) ∧
        start (j + 1) = row + 1) ∧
      l.rowFrom (start l.entries.length) = none := by
  cases hs : l.slots with
  | none =>
    refine ⟨id, rfl, fun j hj => ⟨j, ?_, rfl⟩, ?_⟩
    · simp [rowFrom, hs, hj]
    · simp [rowFrom, hs]
  | some s =>
    obtain ⟨numbers, rows, length⟩ := sound s hs
    have exists_row : ∀ j, ∃ row, j < l.entries.length →
        (∃ n, s.rows[row]? = some (some n)) ∧ s.position row = j := by
      intro j
      by_cases hj : j < numbers.length
      · have number : s.rows.toList.reduceOption[j]? = some numbers[j] := by
          rw [rows.rows_eq, List.getElem?_eq_getElem hj]
        obtain ⟨row, there, at_j, -⟩ := Slots.exists_row number
        exact ⟨row, fun _ => ⟨⟨_, there⟩, at_j⟩⟩
      · exact ⟨0, fun h => absurd h (by omega)⟩
    choose row hrow using exists_row
    let start : Nat → Nat := fun j => j.casesOn 0 fun j => row j + 1
    have behind : ∀ j ≤ l.entries.length, s.position (start j) = j := by
      intro j hj
      cases j with
      | zero => simp [start, Slots.position_eq]
      | succ j =>
        obtain ⟨⟨n, there⟩, at_j⟩ := hrow j (by omega)
        simp [start, Slots.position_succ s there, at_j]
    refine ⟨start, rfl, fun j hj => ⟨row j, ?_, rfl⟩, ?_⟩
    · obtain ⟨⟨n, there⟩, at_j⟩ := hrow j hj
      have found := Slots.find?_row there at_j (behind j (by omega))
      simp only [rowFrom, hs, found, at_j, Option.map_some]
    · have nothing := Slots.find?_row_end rows ((behind _ (Nat.le_refl _)).trans length.symm)
      simp only [rowFrom, hs, nothing, Option.map_none]

end Listing

def World.listing? (w : World) : Ref → Option Listing
  | .dict p => some ⟨(w.dictAt p).toPairs, some (w.dictAt p).slots⟩
  | .body _ c => some ⟨(w.classInfo c).body.map fun p => (.word p.1, p.2), none⟩
  | .registry => some ⟨Value.registryEntries, none⟩
  | _ => none

namespace Host

variable {h : Host} {w : World} {r : Ref} {l : Listing}

theorem entryOf_eq (here : w.listing? r = some l) (j : Nat) :
    entryOf r j w = .ok l.entries[j]? w := by
  unfold World.listing? at here
  split at here
  · obtain rfl := Option.some.inj here
    simp [entryOf, bind_run, Dictionary.toPairs]
  · obtain rfl := Option.some.inj here
    simp [entryOf, bind_run]
  · obtain rfl := Option.some.inj here
    simp [entryOf, bind_run]
  · simp at here

theorem length_namesOf? (here : w.listing? r = some l) :
    (w.namesOf? r).map List.length = some l.entries.length := by
  unfold World.listing? at here
  split at here
  · obtain rfl := Option.some.inj here
    simp [World.namesOf?, Dictionary.toPairs]
  · obtain rfl := Option.some.inj here
    simp [World.namesOf?]
  · obtain rfl := Option.some.inj here
    simp [World.namesOf?]
  · simp at here

theorem rowFrom_eq (here : w.listing? r = some l) (row : Nat) :
    rowFrom w r l.entries.length row = l.rowFrom row := by
  unfold World.listing? at here
  split at here
  · obtain rfl := Option.some.inj here
    rfl
  · obtain rfl := Option.some.inj here
    rfl
  · obtain rfl := Option.some.inj here
    rfl
  · simp at here

/-- The rows of a mapping are gone through in order; the part of each entry is taken when its turn
comes. -/
theorem foldFrom_rows {P : β → World → Prop} {part : Part} {f : β → Value → Act β}
    {start : Nat → Nat} (shown : ∀ b w, P b w → w.listing? r = some l)
    (starts : ∀ j < l.entries.length, ∃ row, l.rowFrom (start j) = some (row, j) ∧
      start (j + 1) = row + 1)
    (end_none : l.rowFrom (start l.entries.length) = none)
    (leaves : ∀ e ∈ l.entries, Leaves P (fun b e => do f b (← partOf part e)) e) (n j : Nat) (b : β)
    (now : P b w) (hj : j ≤ l.entries.length) (enough : l.entries.length - j < n) :
    h.foldFrom f n (.rows part r l.entries.length (start j) (l.entries.length - j)) b w =
      ((l.entries.drop j).foldlM (fun b e => do f b (← partOf part e)) b : Act β) w := by
  induction n generalizing j b w with
  | zero => omega
  | succ n ih =>
    have here := shown b w now
    rw [foldFrom, bind_run, next, bind_run]
    simp only [get_run, length_namesOf? here, rowFrom_eq here, ne_eq, not_true_eq_false, if_false]
    by_cases inside : j < l.entries.length
    · obtain ⟨row, found, behind⟩ := starts j inside
      obtain ⟨left, hleft⟩ : ∃ left, l.entries.length - j = left + 1 :=
        ⟨l.entries.length - (j + 1), by omega⟩
      simp only [found, hleft, bind_run, entryOf_eq here, List.getElem?_eq_getElem inside]
      rw [List.drop_eq_getElem_cons inside, List.foldlM_cons]
      simp only [bind_run]
      cases taken : partOf part l.entries[j] w with
      | error e w' => rfl
      | ok x w₁ =>
        simp only [pure_run, bind_run]
        cases run : f b x w₁ with
        | error e w' => rfl
        | ok b' w' =>
          have rest := ih (w := w') (j + 1) b'
            (leaves _ (List.getElem_mem inside) b w b' w' now ((bind_of_ok taken).trans run))
            (by omega) (by omega)
          rw [behind, show l.entries.length - (j + 1) = left by omega] at rest
          exact rest
    · obtain rfl : j = l.entries.length := by omega
      simp [end_none]

theorem foldCursor_rows {P : β → World → Prop} {part : Part} {f : β → Value → Act β}
    (sound : l.Sound) (shown : ∀ b w, P b w → w.listing? r = some l)
    (leaves : ∀ e ∈ l.entries, Leaves P (fun b e => do f b (← partOf part e)) e) (b : β)
    (now : P b w) :
    h.foldCursor f (.rows part r l.entries.length 0 l.entries.length) b w =
      (l.entries.foldlM (fun b e => do f b (← partOf part e)) b : Act β) w := by
  obtain ⟨start, first, starts, end_none⟩ := Listing.exists_starts sound
  have fold := foldFrom_rows (h := h) shown starts end_none leaves
    (l.entries.length + mostItems) 0 b now (Nat.zero_le _) (by simp [mostItems])
  rw [first, Nat.sub_zero, List.drop_zero] at fold
  simp only [foldCursor, bind_run, get_run, ahead]
  exact fold

theorem cursorOf_eq (here : w.listing? r = some l) (part : Part) :
    cursorOf w part r = .rows part r l.entries.length 0 l.entries.length := by
  rw [cursorOf, length_namesOf? here, Option.getD_some]

/-- A loop over the entries of a mapping that is left alone meanwhile. -/
theorem foldItems_entries {P : β → World → Prop} {f : β → Value → Act β} (sound : l.Sound)
    (shown : ∀ b w, P b w → w.listing? r = some l) (later : ∀ b w, P b w → P b w.later)
    (leaves : ∀ e ∈ l.entries, ∀ stamp, Leaves P f (.tuple stamp [e.1, e.2])) (b : β)
    (now : P b w) :
    h.foldItems (.ref (.part .items r)) f b w =
      (l.entries.foldlM (fun b e => do f b (← newTuple [e.1, e.2])) b : Act β) w := by
  have front : h.iterate (.ref (.part .items r)) w =
      .ok (.rows .items r l.entries.length 0 l.entries.length) w := by
    rw [iterate, bind_run]
    simp only [get_run, pure_run, cursorOf_eq (shown b w now)]
  have each : ∀ e ∈ l.entries, Leaves P (fun b e => do f b (← partOf .items e)) e :=
    fun e he b w b' w' now run => leaves e he _ b w.later b' w' (later b w now) run
  rw [foldItems, bind_of_ok front, foldCursor_rows sound shown each b now]
  rfl

theorem iterate_listing (here : w.listing? r = some l) :
    h.iterate (.ref r) w = .ok (.rows .keys r l.entries.length 0 l.entries.length) w := by
  have known : (w.namesOf? r).isSome = true := by
    have length := length_namesOf? here
    cases names : w.namesOf? r with
    | none => simp [names] at length
    | some names => rfl
  have cursor := cursorOf_eq here .keys
  rw [iterate, bind_run]
  cases r with
  | dict | body | registry => simp only [get_run, known, if_true, cursor, pure_run]
  | _ => simp [World.listing?] at here

/-- A loop over the names of a mapping that is left alone meanwhile. -/
theorem foldItems_names {P : β → World → Prop} {f : β → Value → Act β} (sound : l.Sound)
    (shown : ∀ b w, P b w → w.listing? r = some l)
    (leaves : ∀ e ∈ l.entries, Leaves P f e.1) (b : β) (now : P b w) :
    h.foldItems (.ref r) f b w =
      (l.entries.foldlM (fun b e => f b e.1) b : Act β) w := by
  have each : ∀ e ∈ l.entries, Leaves P (fun b e => do f b (← partOf .keys e)) e := leaves
  rw [foldItems, bind_of_ok (iterate_listing (shown b w now)),
    foldCursor_rows sound shown each b now]
  rfl

end Host

end EventTasks
