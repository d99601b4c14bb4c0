import EventTasks.Proofs.Outcome
import EventTasks.Equality

/-!
Plain values: those that hold no object whose class has a way of its own to be numbered or compared.
A plain value is numbered and compared by its key alone, whatever the host, and nothing happens to
the world. Two values with equal keys have equal numbers, and so do two that are the same thing.
Keys can be read off the beginning of a longer word, so tuples are equal exactly if their members
are.
-/
namespace EventTasks

namespace Value

mutual

def objectsIn : Value → List Nat
  | .tuple _ items => objectsAmong items
  | .ref (.subject (.object i)) => [i]
  | _ => []

def objectsAmong : List Value → List Nat
  | [] => []
  | v :: rest => objectsIn v ++ objectsAmong rest

end

mutual

def residue : Value → Int
  | .tuple _ items => Residue.ofSequence (residues items)
  | v => ((v.key.toOption.bind List.head?).map Atom.residue).getD 0

def residues : List Value → List Int
  | [] => []
  | v :: rest => residue v :: residues rest

end

theorem residue_of_key {v : Value} {k : Key} (h : v.key = .ok k)
    (simple : ∀ s items, v ≠ .tuple s items) :
    v.residue = (k.head?.map Atom.residue).getD 0 := by
  cases v with
  | tuple s items => exact absurd rfl (simple s items)
  | _ => simp [residue, h, Except.toOption]

theorem key_tuple {s : Nat} {items : List Value} {k : Key} (h : (tuple s items).key = .ok k) :
    ∃ ks, keys items = .ok ks ∧ k = .opening :: ks ++ [.closing] := by
  simp only [key] at h
  cases hk : keys items with
  | error kind => simp [hk, Except.map] at h
  | ok ks =>
    rw [hk] at h
    exact ⟨ks, rfl, (Except.ok.inj h).symm⟩

/-- A key is that of a tuple, between brackets, or a single atom that gives the number. -/
theorem key_cases {v : Value} {k : Key} (h : v.key = .ok k) :
    (∃ s items ks, v = .tuple s items ∧ keys items = .ok ks ∧
      k = .opening :: ks ++ [.closing]) ∨
    ∃ a, k = [a] ∧ a ≠ .opening ∧ a ≠ .closing ∧ v.residue = a.residue := by
  have single : ∀ a, v.key = .ok [a] → (∀ s items, v ≠ .tuple s items) → a ≠ .opening →
      a ≠ .closing → ∃ a, k = [a] ∧ a ≠ .opening ∧ a ≠ .closing ∧ v.residue = a.residue := by
    intro a ha simple opening closing
    have same := Except.ok.inj (h.symm.trans ha)
    exact ⟨a, same, opening, closing, residue_of_key ha simple⟩
  cases v with
  | tuple s items =>
    obtain ⟨ks, hk, rfl⟩ := key_tuple h
    exact .inl ⟨s, items, ks, rfl, hk, rfl⟩
  | options s runner attach => simp [key] at h
  | float s x =>
    right
    cases x <;> exact single _ rfl (by simp) (by simp [Double.atom]) (by simp [Double.atom])
  | ref r =>
    right
    simp only [key] at h
    cases ha : r.atom with
    | error kind => simp [ha, Except.map] at h
    | ok a =>
      have shape : a ≠ .opening ∧ a ≠ .closing := by
        unfold Ref.atom at ha
        split at ha <;> simp_all <;> subst ha <;> simp
      exact single a (by simp [key, ha, Except.map]) (by simp) shape.1 shape.2
  | _ => right; exact single _ rfl (by simp) (by simp) (by simp)

theorem keys_cons {v : Value} {rest : List Value} {k : Key} (h : keys (v :: rest) = .ok k) :
    ∃ a b, v.key = .ok a ∧ keys rest = .ok b ∧ k = a ++ b := by
  simp only [keys] at h
  cases hv : v.key with
  | error kind => simp [hv] at h
  | ok a =>
    cases hr : keys rest with
    | error kind => simp [hv, hr, Except.map] at h
    | ok b =>
      rw [hv, hr] at h
      exact ⟨a, b, rfl, rfl, (Except.ok.inj h).symm⟩

theorem keys_cons_head {v : Value} {rest : List Value} {k : Key} (h : keys (v :: rest) = .ok k) :
    ∃ a l, k = a :: l ∧ a ≠ .closing := by
  obtain ⟨a, b, ha, -, rfl⟩ := keys_cons h
  rcases key_cases ha with ⟨s, items, ks, -, -, rfl⟩ | ⟨c, rfl, -, closing, -⟩
  · exact ⟨.opening, _, rfl, by simp⟩
  · exact ⟨c, b, rfl, closing⟩

mutual

/-- A key can be read off the beginning of a longer word, and gives the number. -/
theorem key_append_inj (v v' : Value) {k k' r r' : Key} (h : v.key = .ok k)
    (h' : v'.key = .ok k') (same : k ++ r = k' ++ r') : k = k' ∧ v.residue = v'.residue := by
  rcases key_cases h with ⟨s, items, ks, rfl, hk, rfl⟩ | ⟨a, rfl, opening, -, ha⟩ <;>
    rcases key_cases h' with ⟨s', items', ks', rfl, hk', rfl⟩ | ⟨a', rfl, opening', -, ha'⟩
  · have inner : ks ++ .closing :: r = ks' ++ .closing :: r' := by simpa using same
    obtain ⟨rfl, numbers⟩ := keys_append_inj items items' hk hk' inner
    exact ⟨rfl, by simp only [residue, numbers]⟩
  · simp only [List.cons_append, List.nil_append, List.cons.injEq] at same
    exact absurd same.1.symm opening'
  · simp only [List.cons_append, List.nil_append, List.cons.injEq] at same
    exact absurd same.1 opening
  · simp only [List.cons_append, List.nil_append, List.cons.injEq] at same
    exact ⟨by rw [same.1], by rw [ha, ha', same.1]⟩

theorem keys_append_inj (vs vs' : List Value) {k k' r r' : Key} (h : keys vs = .ok k)
    (h' : keys vs' = .ok k') (same : k ++ .closing :: r = k' ++ .closing :: r') :
    k = k' ∧ residues vs = residues vs' := by
  cases vs with
  | nil =>
    obtain rfl := Except.ok.inj h
    cases vs' with
    | nil => exact ⟨Except.ok.inj h', rfl⟩
    | cons v' rest' =>
      obtain ⟨a, l, rfl, closing⟩ := keys_cons_head h'
      simp only [List.nil_append, List.cons_append, List.cons.injEq] at same
      exact absurd same.1.symm closing
  | cons v rest =>
    cases vs' with
    | nil =>
      obtain rfl := Except.ok.inj h'
      obtain ⟨a, l, rfl, closing⟩ := keys_cons_head h
      simp only [List.nil_append, List.cons_append, List.cons.injEq] at same
      exact absurd same.1 closing
    | cons v' rest' =>
      obtain ⟨a, b, ha, hb, rfl⟩ := keys_cons h
      obtain ⟨a', b', ha', hb', rfl⟩ := keys_cons h'
      rw [List.append_assoc, List.append_assoc] at same
      obtain ⟨rfl, number⟩ := key_append_inj v v' ha ha' same
      obtain ⟨rfl, numbers⟩ := keys_append_inj rest rest' hb hb' (List.append_cancel_left same)
      exact ⟨rfl, by simp only [residues, number, numbers]⟩

end

@[simp]
theorem residue_text (place : Nat) (s : String) :
    (text place s).residue = Text.Digest.ofText s := by
  simp [residue, key, Except.toOption, Atom.residue]

theorem length_residues (vs : List Value) : (residues vs).length = vs.length := by
  induction vs with
  | nil => rfl
  | cons v rest ih => simp [residues, ih]

/-- Values with equal keys have equal hashes. -/
theorem residue_eq {v v' : Value} {k : Key} (h : v.key = .ok k) (h' : v'.key = .ok k) :
    v.residue = v'.residue :=
  (key_append_inj v v' h h' (show k ++ [] = k ++ [] from rfl)).2

theorem length_eq_of_keys {vs vs' : List Value} {k : Key} (h : keys vs = .ok k)
    (h' : keys vs' = .ok k) : vs.length = vs'.length := by
  have numbers := (keys_append_inj vs vs' h h' (show k ++ [.closing] = k ++ [.closing] from rfl)).2
  rw [← length_residues, numbers, length_residues]

theorem eq_of_isNothing {v : Value} (isNothing : v.isNothing = true) : v = nothing := by
  cases v with
  | nothing => rfl
  | _ => cases isNothing

theorem eq_of_isSame_ref {v : Value} {r : Ref} (same : v.isSame (.ref r) = true) : v = .ref r := by
  cases v with
  | ref r' => simpa [isSame] using same
  | tuple s items => cases items <;> simp [isSame] at same
  | _ => simp [isSame] at same

mutual

theorem key_eq_of_isSame (v v' : Value) (h : v.isSame v' = true) : v.key = v'.key := by
  cases v with
  | tuple s xs =>
    cases v' with
    | tuple s' ys =>
      cases xs with
      | nil =>
        cases ys with
        | nil => rfl
        | cons y ys => simp [isSame, areSame] at h
      | cons x xs =>
        simp only [isSame, Bool.and_eq_true] at h
        simp only [key, keys_eq_of_areSame (x :: xs) ys h.2]
    | _ => cases xs <;> simp [isSame] at h
  | _ => cases v' <;> simp_all [isSame, key]

theorem keys_eq_of_areSame (vs vs' : List Value) (h : areSame vs vs' = true) :
    keys vs = keys vs' := by
  cases vs with
  | nil =>
    cases vs' with
    | nil => rfl
    | cons v' rest' => simp [areSame] at h
  | cons v rest =>
    cases vs' with
    | nil => simp [areSame] at h
    | cons v' rest' =>
      simp only [areSame, Bool.and_eq_true] at h
      simp only [keys, key_eq_of_isSame v v' h.1, keys_eq_of_areSame rest rest' h.2]

end

/-- No object in the value is hashed or compared by its class. -/
def Plain (w : World) (v : Value) : Prop :=
  ∀ i ∈ v.objectsIn, w.hook? (w.objectClassOf i) "__hash__" = none ∧
    w.hook? (w.objectClassOf i) "__eq__" = none

theorem plain_of_objectsIn {v : Value} (none : v.objectsIn = []) (w : World) : v.Plain w :=
  fun _ inside => absurd (none ▸ inside) List.not_mem_nil

theorem plain_event (e : ParseEvent) (w : World) : (event e).Plain w := plain_of_objectsIn rfl w

theorem Plain.of_mem {w : World} {s : Nat} {items : List Value} (plain : Plain w (.tuple s items))
    {v : Value} (found : v ∈ items) : Plain w v := by
  have inside : ∀ i ∈ v.objectsIn, i ∈ objectsAmong items := by
    clear plain
    induction items with
    | nil => simp at found
    | cons x items ih =>
      intro i hi
      rcases List.mem_cons.1 found with rfl | found
      · exact List.mem_append_left _ hi
      · exact List.mem_append_right _ (ih found i hi)
  exact fun i hi => plain i (inside i hi)

theorem Plain.hookOf? {w : World} {v : Value} (plain : Plain w v) :
    w.hookOf? v "__hash__" = none ∧ w.hookOf? v "__eq__" = none := by
  cases hv : v.objectPlace? with
  | none => simp [World.hookOf?, hv]
  | some i =>
    unfold objectPlace? at hv
    split at hv
    · obtain rfl := Option.some.inj hv
      simpa [World.hookOf?, objectPlace?] using plain _ (by simp [objectsIn])
    · simp at hv

end Value

namespace Host

open Act Value

variable {h : Host} {w : World}

def numbered (v : Value) (w : World) : EStateM.Result Fault World (Int × Key) :=
  match v.key with
  | .ok k => .ok (v.residue, k) w
  | .error kind => .error (.unhashable kind) w

theorem numberOf_simple {v : Value} (notTuple : ∀ s items, v ≠ .tuple s items)
    (notObject : ∀ i, v ≠ .ref (.subject (.object i))) : h.numberOf v w = numbered v w := by
  rw [numberOf, numbered, bind_run]
  · cases hk : v.key with
    | error kind => rfl
    | ok k =>
      have lifted : liftExcept ((Except.ok k).mapError Fault.unhashable) w = .ok k w := rfl
      have residue : v.residue = (k.head?.map Atom.residue).getD 0 := residue_of_key hk notTuple
      simp only [lifted, residue, pure_run]
  · exact notTuple
  · exact notObject

mutual

/-- `hash` of a plain value; one without a key is refused. -/
theorem numberOf_plain (v : Value) (plain : Plain w v) : h.numberOf v w = numbered v w := by
  cases v with
  | tuple s items =>
    rw [numberOf, bind_run, numbersOf_plain items fun v found => plain.of_mem found, numbered]
    cases hk : keys items <;> simp [key, hk, Except.map, residue]
  | ref r =>
    by_cases object : ∃ i, r = .subject (.object i)
    · obtain ⟨i, rfl⟩ := object
      have hook : w.hookOf? (.object i) "__hash__" = none := plain.hookOf?.1
      rw [numberOf, bind_run]
      simp only [get_run, hook]
      rfl
    · exact numberOf_simple (by simp) fun i same => object ⟨i, Value.ref.inj same⟩
  | _ => exact numberOf_simple (by simp) (by simp)

theorem numbersOf_plain (vs : List Value) (plain : ∀ v ∈ vs, Plain w v) :
    h.numbersOf vs w =
      match keys vs with
      | .ok k => .ok (residues vs, k) w
      | .error kind => .error (.unhashable kind) w := by
  cases vs with
  | nil => rfl
  | cons v rest =>
    rw [numbersOf, bind_run, numberOf_plain v (plain v (by simp)), numbered]
    cases hv : v.key with
    | error kind => simp [keys, hv]
    | ok k =>
      simp only [bind_run, numbersOf_plain rest fun v found => plain v (by simp [found]), keys, hv]
      cases hr : keys rest <;> simp [Except.map, residues]

end

theorem ask?_of_none {v : Value} {name : String} (free : w.hookOf? v name = none)
    (args : List Value) : h.ask? v name args w = .ok none w := by
  rw [ask?, bind_run]
  simp [free]

theorem answer?_plain {v : Value} (plain : Plain w v) (other : Value) :
    h.answer? v other w = .ok none w := by
  rw [answer?, bind_run, ask?_of_none plain.hookOf?.2]
  rfl

theorem equalsSimply_plain {a b : Value} {k l : Key} (pa : Plain w a) (pb : Plain w b)
    (ha : a.key = .ok k) (hb : b.key = .ok l) :
    h.equalsSimply a b w = .ok (decide (k = l)) w := by
  rw [equalsSimply, bind_run]
  simp only [get_run]
  cases isAskedFirst w a b <;>
    simp only [Bool.false_eq_true, if_true, if_false, bind_run, answer?_plain pa,
      answer?_plain pb, pure_run, ha, hb, Except.toOption]

mutual

/-- Plain values with keys are equal exactly if their keys are. -/
theorem equals_plain (a b : Value) {k l : Key} (pa : Plain w a) (pb : Plain w b)
    (ha : a.key = .ok k) (hb : b.key = .ok l) : h.equals a b w = .ok (decide (k = l)) w := by
  have one (same : a.isSame b = true) : k = l :=
    Except.ok.inj (ha.symm.trans ((key_eq_of_isSame a b same).trans hb))
  have simple (notTuples : ∀ s xs s' ys, a = .tuple s xs → b = .tuple s' ys → False) :
      h.equals a b w = .ok (decide (k = l)) w := by
    rw [equals]
    · by_cases same : a.isSame b = true
      · simp [same, one same]
      · rw [if_neg same]
        exact equalsSimply_plain pa pb ha hb
    · exact notTuples
  cases a with
  | tuple s xs =>
    cases b with
    | tuple s' ys =>
      rw [equals]
      by_cases same : (Value.tuple s xs).isSame (.tuple s' ys) = true
      · simp [same, one same]
      · rw [if_neg same]
        obtain ⟨ks, hks, rfl⟩ := key_tuple ha
        obtain ⟨ls, hls, rfl⟩ := key_tuple hb
        by_cases length : xs.length = ys.length
        · rw [if_pos length, equalsAll_plain xs ys (fun v => pa.of_mem) (fun v => pb.of_mem)
            hks hls length]
          simp
        · have differ : ks ≠ ls := fun same => length (length_eq_of_keys hks (same ▸ hls))
          simp [length, differ]
    | _ => exact simple (by simp)
  | _ => exact simple (by simp)

theorem equalsAll_plain (xs ys : List Value) {ks ls : Key} (px : ∀ v ∈ xs, Plain w v)
    (py : ∀ v ∈ ys, Plain w v) (hx : keys xs = .ok ks) (hy : keys ys = .ok ls)
    (length : xs.length = ys.length) : h.equalsAll xs ys w = .ok (decide (ks = ls)) w := by
  cases xs with
  | nil =>
    obtain rfl := List.eq_nil_of_length_eq_zero length.symm
    obtain rfl := Except.ok.inj (hx.symm.trans hy)
    simp [equalsAll]
  | cons x xs =>
    cases ys with
    | nil => simp at length
    | cons y ys =>
      obtain ⟨a, b, ha, hb, rfl⟩ := keys_cons hx
      obtain ⟨a', b', ha', hb', rfl⟩ := keys_cons hy
      have first := equals_plain x y (px x (by simp)) (py y (by simp)) ha ha'
      have others := equalsAll_plain xs ys (fun v found => px v (by simp [found]))
        (fun v found => py v (by simp [found])) hb hb' (by simpa using length)
      rw [equalsAll, bind_run, first]
      by_cases same : a = a'
      · simp [same, others]
      · have differ : a ++ b ≠ a' ++ b' := fun whole => same (key_append_inj x y ha ha' whole).1
        simp [same, differ]

end

end Host

end EventTasks
