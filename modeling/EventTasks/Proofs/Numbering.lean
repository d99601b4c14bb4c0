import EventTasks.Proofs.Identity

/-!
What the key of a numbered value tells. Objects may be numbered and compared by scripted code, so
two values that were numbered at different times, by different hosts, may have got any numbers. If
they got the same key, though, they had the same number then, and they are equal whoever asks: the
key is that of one object, or no object takes part. A value is numbered like whatever is the same
thing.
-/
namespace EventTasks

open Act Value

namespace Value

theorem exists_ref_of_key {v : Value} {a : Atom} (h : v.key = .ok [a])
    (held : (∃ r, a = .ref r) ∨ ∃ n i, a = .numbered n i) : ∃ r, v = .ref r ∧ r.atom = .ok a := by
  cases v with
  | ref r =>
    simp only [key] at h
    cases atom : r.atom with
    | error kind => simp [atom, Except.map] at h
    | ok b =>
      obtain rfl : b = a := by simpa [atom, Except.map] using h
      exact ⟨r, rfl, atom⟩
  | float s x =>
    rcases held with ⟨r, rfl⟩ | ⟨n, i, rfl⟩ <;> cases x <;> simp [key, Double.atom] at h
  | tuple s items =>
    obtain ⟨ks, -, same⟩ := key_tuple h
    simp at same
  | _ => rcases held with ⟨r, rfl⟩ | ⟨n, i, rfl⟩ <;> simp [key] at h

theorem eq_object_of_key {v : Value} {i : Nat} (h : v.key = .ok [.ref (.subject (.object i))]) :
    v = .object i := by
  obtain ⟨r, rfl, atom⟩ := exists_ref_of_key h (.inl ⟨_, rfl⟩)
  unfold Ref.atom at atom
  split at atom <;> simp_all [object]

theorem key_ne_numbered {v : Value} {n : Int} {i : Nat} : v.key ≠ .ok [.numbered n i] := by
  intro h
  obtain ⟨r, -, atom⟩ := exists_ref_of_key h (.inr ⟨n, i, rfl⟩)
  unfold Ref.atom at atom
  split at atom <;> simp_all

theorem residue_congr {u v : Value} (same : u.key = v.key) (simple : ∀ s items, u ≠ .tuple s items)
    (simple' : ∀ s items, v ≠ .tuple s items) : u.residue = v.residue := by
  cases u with
  | tuple s items => exact absurd rfl (simple s items)
  | _ =>
    cases v with
    | tuple s items => exact absurd rfl (simple' s items)
    | _ => simp only [residue, same]

end Value

namespace Host

variable {g h : Host} {w w' : World}

mutual

theorem numberOf_congr (u v : Value) (same : u.isSame v = true) : h.numberOf u = h.numberOf v := by
  have simple (one : ∀ s items, u ≠ .tuple s items) (other : ∀ s items, v ≠ .tuple s items) :
      h.numberOf u = h.numberOf v := by
    by_cases object : ∃ i, v = .ref (.subject (.object i))
    · obtain ⟨i, rfl⟩ := object
      rw [eq_of_isSame_ref same]
    · have keys := key_eq_of_isSame u v same
      have apart : ∀ i, u ≠ .ref (.subject (.object i)) := by
        rintro i rfl
        cases v with
        | ref r =>
          obtain rfl : .subject (.object i) = r := by simpa [isSame] using same
          exact object ⟨i, rfl⟩
        | _ => simp [isSame] at same
      funext w
      rw [numberOf_simple one apart, numberOf_simple other fun i is => object ⟨i, is⟩,
        numbered, numbered,
        keys, residue_congr keys one other]
  cases u with
  | tuple s xs =>
    cases v with
    | tuple s' ys =>
      have members : h.numbersOf xs = h.numbersOf ys := by
        cases xs with
        | nil => cases ys <;> simp [isSame, areSame] at same ⊢
        | cons x xs =>
          simp only [isSame, Bool.and_eq_true] at same
          exact numbersOf_congr (x :: xs) ys same.2
      rw [numberOf, numberOf, members]
    | _ => cases xs <;> simp [isSame] at same
  | _ =>
    refine simple (by simp) ?_
    rintro s items rfl
    simp [isSame] at same

theorem numbersOf_congr (us vs : List Value) (same : areSame us vs = true) :
    h.numbersOf us = h.numbersOf vs := by
  cases us with
  | nil =>
    cases vs with
    | nil => rfl
    | cons v vs => simp [areSame] at same
  | cons u us =>
    cases vs with
    | nil => simp [areSame] at same
    | cons v vs =>
      simp only [areSame, Bool.and_eq_true] at same
      rw [numbersOf, numbersOf, numberOf_congr u v same.1, numbersOf_congr us vs same.2]

end

/-- A hashed value got the key of a tuple, between brackets, or a single atom that gives its
hash. -/
theorem numberOf_cases {v : Value} {n : Int} {k : Key} (run : h.numberOf v w = .ok (n, k) w') :
    (∃ s items ns ks, v = .tuple s items ∧ h.numbersOf items w = .ok (ns, ks) w' ∧
      n = Residue.ofSequence ns ∧ k = .opening :: ks ++ [.closing]) ∨
    ∃ a, k = [a] ∧ a ≠ .opening ∧ a ≠ .closing ∧ n = a.residue ∧
      (v.key = .ok [a] ∨ ∃ i, v = .object i ∧ a = .numbered n i) := by
  have simple (one : ∀ s items, v ≠ .tuple s items) (other : ∀ i, v ≠ .ref (.subject (.object i))) :
      ∃ a, k = [a] ∧ a ≠ .opening ∧ a ≠ .closing ∧ n = a.residue ∧
        (v.key = .ok [a] ∨ ∃ i, v = .object i ∧ a = .numbered n i) := by
    rw [numberOf_simple one other, numbered] at run
    cases hk : v.key with
    | error kind => simp [hk] at run
    | ok l =>
      rw [hk] at run
      obtain ⟨same, -⟩ := EStateM.Result.ok.inj run
      obtain ⟨rfl, rfl⟩ := Prod.mk.inj same
      rcases key_cases hk with ⟨s, items, ks, rfl, -, -⟩ | ⟨a, rfl, opening, closing, residue⟩
      · exact absurd rfl (one s items)
      · exact ⟨a, rfl, opening, closing, residue, .inl rfl⟩
  cases v with
  | tuple s items =>
    left
    rw [numberOf, bind_eq_ok] at run
    obtain ⟨⟨ns, ks⟩, u, members, rest⟩ := run
    obtain ⟨same, rfl⟩ := EStateM.Result.ok.inj rest
    obtain ⟨rfl, rfl⟩ := Prod.mk.inj same
    exact ⟨s, items, ns, ks, rfl, members, rfl, rfl⟩
  | ref r =>
    right
    by_cases object : ∃ i, r = .subject (.object i)
    · obtain ⟨i, rfl⟩ := object
      rw [numberOf, bind_of_ok (get_run w)] at run
      cases hook : w.hookOf? (.object i) "__hash__" with
      | none =>
        simp only [hook] at run
        obtain ⟨same, -⟩ := EStateM.Result.ok.inj run
        obtain ⟨rfl, rfl⟩ := Prod.mk.inj same
        exact ⟨_, rfl, by simp, by simp, rfl, .inl rfl⟩
      | some entry =>
        by_cases isNothing : entry = .nothing
        · simp [hook, isNothing, bind_run] at run
        · simp only [hook] at run
          obtain ⟨found, u, -, rest⟩ := bind_eq_ok.1 run
          cases given : found.int? with
          | none => simp [given] at rest
          | some n =>
            simp only [given] at rest
            obtain ⟨same, -⟩ := EStateM.Result.ok.inj rest
            obtain ⟨rfl, rfl⟩ := Prod.mk.inj same
            exact ⟨_, rfl, by simp, by simp, rfl, .inr ⟨i, rfl, rfl⟩⟩
    · exact simple (by simp) fun i same => object ⟨i, Value.ref.inj same⟩
  | _ => exact .inr (simple (by simp) (by simp))

theorem numberOf_head {v : Value} {n : Int} {k : Key} (run : h.numberOf v w = .ok (n, k) w') :
    ∃ a l, k = a :: l ∧ a ≠ .closing := by
  rcases numberOf_cases run with ⟨_, _, _, ks, -, -, -, rfl⟩ | ⟨a, rfl, -, closing, -⟩
  · exact ⟨.opening, _, rfl, by simp⟩
  · exact ⟨a, [], rfl, closing⟩

theorem numbersOf_cons {v : Value} {rest : List Value} {ns : List Int} {ks : Key}
    (run : h.numbersOf (v :: rest) w = .ok (ns, ks) w') : ∃ n k ms ls u,
      h.numberOf v w = .ok (n, k) u ∧ h.numbersOf rest u = .ok (ms, ls) w' ∧ ns = n :: ms ∧
        ks = k ++ ls := by
  rw [numbersOf] at run
  obtain ⟨⟨n, k⟩, u, first, run⟩ := bind_eq_ok.1 run
  obtain ⟨⟨ms, ls⟩, u', others, run⟩ := bind_eq_ok.1 run
  obtain ⟨here, rfl⟩ := EStateM.Result.ok.inj run
  obtain ⟨rfl, rfl⟩ := Prod.mk.inj here
  exact ⟨n, k, ms, ls, u, first, others, rfl, rfl⟩

theorem answer?_of_simple {v : Value} (simple : v.objectPlace? = none) (other : Value) :
    h.answer? v other w = .ok none w := by
  have free : w.hookOf? v "__eq__" = none := by rw [World.hookOf?, simple]
  rw [answer?, bind_run, ask?_of_none free]
  rfl

theorem equals_of_atom {u v : Value} {a : Atom} (hu : u.key = .ok [a]) (hv : v.key = .ok [a])
    (opening : a ≠ .opening) : h.equals u v w = .ok true w := by
  have simple {v : Value} (hv : v.key = .ok [a]) : ∀ s items, v ≠ .tuple s items := by
    rintro s items rfl
    obtain ⟨ks, -, same⟩ := key_tuple hv
    exact opening (List.cons.inj same).1
  rw [equals]
  · by_cases same : u.isSame v = true
    · simp [same]
    · -- an object with the key would be both of them
      have apart {x : Value} (hx : x.key = .ok [a]) : x.objectPlace? = none := by
        cases place : x.objectPlace? with
        | none => rfl
        | some i =>
          obtain rfl : x = .object i := by
            unfold objectPlace? at place
            split at place
            · rw [Option.some.inj place]
              rfl
            · cases place
          obtain rfl : .ref (.subject (.object i)) = a := by
            simpa [key, Value.object, Ref.atom, Except.map] using hx
          rw [eq_object_of_key hu, eq_object_of_key hv] at same
          exact absurd (by simp [isSame, Value.object]) same
      have free := answer?_of_simple (h := h) (w := w) (apart hu)
      have free' := answer?_of_simple (h := h) (w := w) (apart hv)
      rw [if_neg same, equalsSimply, bind_of_ok (get_run w)]
      cases isAskedFirst w u v <;>
        simp [bind_run, free, free', hu, hv, Except.toOption]
  · intro s xs s' ys is _
    exact simple hu s xs is

mutual

/-- The key that a hashed value got can be read off the beginning of a longer word. Values that got
the same key have the same hash and are equal. -/
theorem equals_of_numberOf (u v : Value) {w w' x x' : World} {n m : Int} {k l r s : Key}
    (one : g.numberOf u w = .ok (n, k) w') (other : h.numberOf v x = .ok (m, l) x')
    (same : k ++ r = l ++ s) :
    k = l ∧ n = m ∧ ∀ (f : Host) y, f.equals u v y = .ok true y := by
  rcases numberOf_cases one with ⟨_, us, ns, ks, rfl, members, rfl, rfl⟩ | ⟨a, rfl, opening,
    -, rfl, hu⟩ <;>
    rcases numberOf_cases other with ⟨_, vs, ms, ls, rfl, members', rfl, rfl⟩ | ⟨b, rfl,
      opening', -, rfl, hv⟩
  · have inner : ks ++ .closing :: r = ls ++ .closing :: s := by simpa using same
    obtain ⟨rfl, rfl, length, equal⟩ := equalsAll_of_numbersOf us vs members members' inner
    refine ⟨rfl, rfl, fun f y => ?_⟩
    rw [equals, if_pos length]
    split
    · rfl
    · exact equal f y
  · simp only [List.cons_append, List.nil_append, List.cons.injEq] at same
    exact absurd same.1.symm opening'
  · simp only [List.cons_append, List.nil_append, List.cons.injEq] at same
    exact absurd same.1 opening
  · simp only [List.cons_append, List.nil_append, List.cons.injEq] at same
    obtain ⟨rfl, -⟩ := same
    refine ⟨rfl, rfl, fun f y => ?_⟩
    rcases hu with hu | ⟨i, rfl, ha⟩ <;> rcases hv with hv | ⟨j, rfl, hb⟩
    · exact equals_of_atom hu hv opening
    · exact absurd (hb ▸ hu) key_ne_numbered
    · exact absurd (ha ▸ hv) key_ne_numbered
    · obtain ⟨-, rfl⟩ := Atom.numbered.inj (ha.symm.trans hb)
      rw [equals]
      · simp [isSame, object]
      · simp [object]

theorem equalsAll_of_numbersOf (us vs : List Value) {w w' x x' : World} {ns ms : List Int}
    {ks ls r s : Key} (one : g.numbersOf us w = .ok (ns, ks) w')
    (other : h.numbersOf vs x = .ok (ms, ls) x')
    (same : ks ++ .closing :: r = ls ++ .closing :: s) :
    ks = ls ∧ ns = ms ∧ us.length = vs.length ∧ ∀ (f : Host) y,
        f.equalsAll us vs y = .ok true y := by
  cases us with
  | nil =>
    obtain ⟨here, -⟩ := EStateM.Result.ok.inj one
    obtain ⟨rfl, rfl⟩ := Prod.mk.inj here
    cases vs with
    | nil =>
      obtain ⟨there, -⟩ := EStateM.Result.ok.inj other
      obtain ⟨rfl, rfl⟩ := Prod.mk.inj there
      exact ⟨rfl, rfl, rfl, fun f y => by simp [equalsAll]⟩
    | cons v vs =>
      obtain ⟨n, k, ns, ks, u, first, -, rfl, rfl⟩ := numbersOf_cons other
      obtain ⟨a, l, rfl, closing⟩ := numberOf_head first
      simp only [List.nil_append, List.cons_append, List.cons.injEq] at same
      exact absurd same.1.symm closing
  | cons u us =>
    obtain ⟨n, k, ns, ks, w₁, first, rest, rfl, rfl⟩ := numbersOf_cons one
    cases vs with
    | nil =>
      obtain ⟨there, -⟩ := EStateM.Result.ok.inj other
      obtain ⟨rfl, rfl⟩ := Prod.mk.inj there
      obtain ⟨a, l, rfl, closing⟩ := numberOf_head first
      simp only [List.nil_append, List.cons_append, List.cons.injEq] at same
      exact absurd same.1 closing
    | cons v vs =>
      obtain ⟨m, l, ms, ls, x₁, first', rest', rfl, rfl⟩ := numbersOf_cons other
      rw [List.append_assoc, List.append_assoc] at same
      obtain ⟨rfl, rfl, equal⟩ := equals_of_numberOf u v first first' same
      obtain ⟨rfl, rfl, length, all⟩ :=
        equalsAll_of_numbersOf us vs rest rest' (List.append_cancel_left same)
      refine ⟨rfl, rfl, by simp [length], fun f y => ?_⟩
      rw [equalsAll, bind_of_ok (equal f y)]
      exact all f y

end

end Host

end EventTasks
