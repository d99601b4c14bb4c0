import EventTasks.Attribute

/-!
What the search orders of classes have to do with each other. A merge that succeeds keeps each of
the orders that it started from, so a class searches all that its bases search, in the same order;
and with a single base it searches the class itself and then what the base searches.
-/
namespace EventTasks

namespace Linearization

variable {α : Type} [DecidableEq α] {a : α} {order order' merged : List α} {orders : List (List α)}

theorem length_flatten_advance_le (a : α) (orders : List (List α)) :
    (advance a orders).flatten.length ≤ orders.flatten.length := by
  induction orders with
  | nil => exact Nat.le_refl _
  | cons order orders ih =>
    simp only [advance, List.map_cons, List.flatten_cons, List.length_append] at ih ⊢
    have shorter : (if order.head? = some a then order.tail else order).length ≤ order.length := by
      split
      · simp
      · exact Nat.le_refl _
    omega

theorem length_flatten_advance_lt (head : a ∈ heads orders) :
    (advance a orders).flatten.length < orders.flatten.length := by
  induction orders with
  | nil => simp [heads] at head
  | cons order orders ih =>
    simp only [advance, List.map_cons, List.flatten_cons, List.length_append] at ih ⊢
    by_cases first : order.head? = some a
    · obtain ⟨rest, rfl⟩ := List.head?_eq_some_iff.1 first
      have others := length_flatten_advance_le a orders
      simp only [advance] at others
      simp only [List.head?_cons, if_true, List.tail_cons, List.length_cons]
      omega
    · have further : a ∈ heads orders := by
        obtain ⟨order', inside, first'⟩ := List.mem_filterMap.1 head
        rcases List.mem_cons.1 inside with rfl | inside
        · exact absurd first' first
        · exact List.mem_filterMap.2 ⟨order', inside, first'⟩
      have less := ih further
      rw [if_neg first]
      omega

/-- How a merge that succeeds goes: the next class is always a head that stands behind no other
head. -/
inductive Merges : List (List α) → List α → Prop where
  | done {orders : List (List α)} (empty : ∀ order ∈ orders, order = []) : Merges orders []
  | step {orders : List (List α)} {a : α} {merged : List α} (head : a ∈ heads orders)
    (free : isBehind a orders = false) (rest : Merges (advance a orders) merged) :
    Merges orders (a :: merged)

theorem merges_of_merge {steps : Nat} (enough : orders.flatten.length ≤ steps)
    (run : merge steps orders = .ok merged) : Merges orders merged := by
  induction steps generalizing orders merged with
  | zero =>
    obtain rfl := Except.ok.inj run
    have nothing : orders.flatten = [] := List.eq_nil_of_length_eq_zero (by omega)
    exact .done (List.flatten_eq_nil_iff.1 nothing)
  | succ steps ih =>
    rw [merge] at run
    split at run
    · next none =>
      obtain rfl := Except.ok.inj run
      refine .done fun order inside => List.head?_eq_none_iff.1 ?_
      exact (List.filterMap_eq_nil_iff.1 none) order inside
    · split at run
      · cases run
      · next a chosen =>
        have head : a ∈ heads orders := List.mem_of_find?_eq_some chosen
        have free : isBehind a orders = false := by simpa using List.find?_some chosen
        have less := length_flatten_advance_lt head
        cases further : merge steps (advance a orders) with
        | error blocked => simp [further, Except.map] at run
        | ok rest =>
          obtain rfl : a :: rest = merged := by simpa [further, Except.map] using run
          exact .step head free (ih (by omega) further)

/-- A merge keeps every order that it started from. -/
theorem Merges.sublist (merges : Merges orders merged) (inside : order ∈ orders) :
    order.Sublist merged := by
  induction merges generalizing order with
  | done empty =>
    obtain rfl := empty order inside
    exact List.nil_sublist _
  | @step orders a merged head free rest ih =>
    have kept := ih (List.mem_map.2 ⟨order, inside, rfl⟩)
    split at kept
    · next first =>
      obtain ⟨tail, rfl⟩ := List.head?_eq_some_iff.1 first
      exact kept.cons_cons a
    · exact kept.cons a

theorem Merges.eq_first (merges : Merges (order :: orders) merged)
    (empty : ∀ order' ∈ orders, order' = []) : merged = order := by
  generalize all : order :: orders = every at merges
  induction merges generalizing order orders with
  | done nothing =>
    subst all
    exact (nothing order List.mem_cons_self).symm
  | @step every a merged head free rest ih =>
    subst all
    have first : order.head? = some a := by
      obtain ⟨order', inside, first⟩ := List.mem_filterMap.1 head
      rcases List.mem_cons.1 inside with rfl | inside
      · exact first
      · simp [empty order' inside] at first
    obtain ⟨tail, rfl⟩ := List.head?_eq_some_iff.1 first
    have same : merged = tail := by
      refine @ih tail (advance a orders) ?_ (by simp [advance])
      intro order' inside
      obtain ⟨order, old, rfl⟩ := List.mem_map.1 inside
      simp [empty order old]
    rw [same]

variable {new : α} {bases : List α} {orderOf : α → List α}

theorem ofBases_eq_ok (run : ofBases new bases orderOf = .ok order) :
    ∃ merged, order = new :: merged ∧ Merges (bases.map orderOf ++ [bases]) merged := by
  unfold ofBases at run
  cases done : merge (bases.map orderOf ++ [bases]).flatten.length
      (bases.map orderOf ++ [bases]) with
  | error blocked => cases (congrArg (Except.map (new :: ·)) done).symm.trans run
  | ok merged =>
    have same : new :: merged = order :=
      Except.ok.inj ((congrArg (Except.map (new :: ·)) done).symm.trans run)
    exact ⟨merged, same.symm, merges_of_merge (Nat.le_refl _) done⟩

end Linearization

open Linearization

namespace World

variable {w : World} {b c d : Nat} {bases order : List Nat}

def Ordered (w : World) (c : Nat) : Prop :=
  ofBases c (w.classInfo c).bases w.orderOf = .ok (w.orderOf c)

theorem Ordered.cons (ordered : w.Ordered c) : ∃ above, w.orderOf c = c :: above := by
  obtain ⟨merged, same, -⟩ := ofBases_eq_ok ordered
  exact ⟨merged, same⟩

/-- What a base searches its heirs search, in the same order. -/
theorem Ordered.sublist (ordered : w.Ordered d) (base : b ∈ (w.classInfo d).bases) :
    (w.orderOf b).Sublist (w.orderOf d) := by
  obtain ⟨merged, same, merges⟩ := ofBases_eq_ok ordered
  rw [same]
  have inside : w.orderOf b ∈ (w.classInfo d).bases.map w.orderOf ++ [(w.classInfo d).bases] :=
    List.mem_append_left _ (List.mem_map.2 ⟨b, base, rfl⟩)
  exact (merges.sublist inside).cons d

/-- A class with a single base searches itself and then what the base searches. -/
theorem Ordered.single (ordered : w.Ordered d) (single : (w.classInfo d).bases = [b])
    (above : w.Ordered b) : w.orderOf d = d :: w.orderOf b := by
  obtain ⟨merged, same, merges⟩ := ofBases_eq_ok ordered
  obtain ⟨rest, order⟩ := above.cons
  rw [single, List.map_singleton, order] at merges
  rw [same, order]
  cases merges with
  | done empty => simpa using empty (b :: rest) List.mem_cons_self
  | @step _ a further head free rest' =>
    have first : a = b := by simpa [heads] using head
    subst first
    have tails : advance a [a :: rest, [a]] = [rest, []] := by simp [advance]
    rw [List.singleton_append, tails] at rest'
    rw [rest'.eq_first (by simp)]

end World

end EventTasks
