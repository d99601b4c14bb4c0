import EventTasks.Proofs.EventLawOperations

/-!
Laws of events. Plain values abide by one: they are numbered and compared by their keys. So do
objects whose class gives all of them one number and takes any two of them for equal, by scripted
code that does nothing else; as events they are one event.
-/
namespace EventTasks

open Act

/-! Functions that always give the same -/

namespace World

def Constant (w : World) (i : Nat) (t : Script.Term) : Prop :=
  ∃ k, w.functions[i]? = some k ∧ k.form = .method ∧ k.behaviour.routine =
    { failure := none, limit := none, actions := [], result := some t, inherits := false }

variable {w : World} {i j : Nat} {t : Script.Term} {n : Note}

theorem Constant.counted (constant : w.Constant j t) (i : Nat) (n : Note) :
    (w.counted i n).Constant j t := by
  obtain ⟨k, there, form, routine⟩ := constant
  by_cases one : i = j
  · subst one
    exact ⟨{ k with behaviour := Script.Behaviour.called k.behaviour }, by
      simp [World.counted, Array.getElem?_modify, there], form, routine⟩
  · exact ⟨k, by simp [World.counted, Array.getElem?_modify, one, there], form, routine⟩

end World

/-- Calling such a function gives what the term stands for, and nothing else happens. -/
theorem Host.call_constant {w : World} {i : Nat} {t : Script.Term} {v : Value}
    (constant : w.Constant i t)
    (stands : ∀ h u, Script.evaluate h t u = .ok v u) (depth : Nat) (self : Value)
    (args : List Value) :
    ∃ n, (Host.ofDepth (depth + 1)).call (.function (.scripted i)) (self :: args) [] w =
      .ok v (w.counted i n) := by
  obtain ⟨k, there, form, routine⟩ := constant
  obtain ⟨n, run⟩ :=
    Host.call_scripted there (by rw [routine]) (.inr ⟨form, self, Eq.refl (self :: args)⟩) depth
  refine ⟨n, run.trans ?_⟩
  rw [routine]
  exact stands _ _

/-- Objects of one class whose `__hash__` gives one number for all, and whose `__eq__` takes any two
for equal. -/
structure World.Uniform (w : World) (objects : List Nat) (c hash eq : Nat) (n : Int) : Prop where
  cls : ∀ i ∈ objects, w.objectClassOf i = c
  hashes : w.hook? c "__hash__" = some (.function (.scripted hash))
  compares : w.hook? c "__eq__" = some (.function (.scripted eq))
  number : w.Constant hash (.int 0 n)
  equal : w.Constant eq (.flag true)

namespace World.Uniform

variable {w : World} {objects : List Nat} {c hash eq i j : Nat} {n : Int}

theorem counted (uniform : w.Uniform objects c hash eq n) (i : Nat) (note : Note) :
    (w.counted i note).Uniform objects c hash eq n :=
  ⟨uniform.cls, uniform.hashes, uniform.compares, uniform.number.counted i note,
    uniform.equal.counted i note⟩

theorem hookOf? (uniform : w.Uniform objects c hash eq n) (inside : i ∈ objects) (name : String) :
    w.hookOf? (.object i) name = w.hook? c name := by
  simp [World.hookOf?, Value.object, Value.objectPlace?, uniform.cls i inside]

theorem numberOf (uniform : w.Uniform objects c hash eq n) (inside : i ∈ objects) (depth : Nat) :
    ∃ k note, (Host.ofDepth (depth + 1)).numberOf (.object i) w =
      .ok (Residue.ofGiven n, k) (w.counted hash note) := by
  obtain ⟨note, called⟩ := Host.call_constant uniform.number (v := .int 0 n) (fun _ _ => by
    simp [Script.evaluate]) depth (.object i) []
  refine ⟨[.numbered (Residue.ofGiven n) i], note, ?_⟩
  have hook : w.hookOf? (.object i) "__hash__" = some (.function (.scripted hash)) :=
    (uniform.hookOf? inside "__hash__").trans uniform.hashes
  have asked : (Host.ofDepth (depth + 1)).callEntry (.object i) (.function (.scripted hash)) [] w =
      .ok (.int 0 n) (w.counted hash note) := called
  rw [Value.object, Host.numberOf, bind_of_ok (get_run w)]
  simp only [hook]
  exact bind_of_ok asked

theorem isAskedFirst (uniform : w.Uniform objects c hash eq n) (hi : i ∈ objects)
    (hj : j ∈ objects) :
    Host.isAskedFirst w (.object i) (.object j) = false := by
  simp [Host.isAskedFirst, Value.object, Value.objectPlace?, uniform.cls i hi, uniform.cls j hj]

theorem equals (uniform : w.Uniform objects c hash eq n) (hi : i ∈ objects) (hj : j ∈ objects)
    (depth : Nat) : ∃ w', (Host.ofDepth (depth + 1)).equals (.object i)
    (.object j) w = .ok true w' ∧
      (w' = w ∨ ∃ note, w' = w.counted eq note) := by
  by_cases same : (Value.object i).isSame (.object j) = true
  · refine ⟨w, ?_, .inl rfl⟩
    rw [Host.equals]
    · simp [same]
    · simp [Value.object]
  · obtain ⟨note, called⟩ := Host.call_constant uniform.equal (v := .flag true) (fun _ _ => by
      simp [Script.evaluate]) depth (.object i) [.object j]
    have hook : w.hookOf? (.object i) "__eq__" = some (.function (.scripted eq)) :=
      (uniform.hookOf? hi "__eq__").trans uniform.compares
    have answered : (Host.ofDepth (depth + 1)).answer? (.object i) (.object j) w =
        .ok (some (.flag true)) (w.counted eq note) := by
      rw [Host.answer?, Host.ask?, bind_run, bind_of_ok (get_run w)]
      simp only [hook, map_run]
      rw [show (Host.ofDepth (depth + 1)).callEntry (.object i) (.function (.scripted eq))
        [.object j] w =
        .ok (.flag true) (w.counted eq note) from called]
      rfl
    refine ⟨w.counted eq note, ?_, .inr ⟨note, rfl⟩⟩
    rw [Host.equals]
    · rw [if_neg same, Host.equalsSimply, bind_of_ok (get_run w)]
      simp only [uniform.isAskedFirst hi hj, Bool.false_eq_true, if_false]
      rw [bind_of_ok answered]
      rfl
    · simp [Value.object]

end World.Uniform

namespace Emitter.Law

variable {r e p : Nat}

/-- The law of some plain events. -/
def plain (r e p : Nat) (covers : Value → Prop) : Law r e p where
  hosts _ := True
  inForce w := ∀ v, covers v → v.Plain w
  covers := covers
  number v :=
    match v.key with
    | .ok _ => some v.residue
    | .error _ => none
  alike u v := decide (u.key = v.key)
  lasts _ _ _ _ inForce := inForce
  numbers {h v n s w} _ covered number stands := by
    cases key : v.key with
    | error kind => simp [key] at number
    | ok k =>
      obtain rfl : v.residue = n := by simpa [key] using number
      exact ⟨k, w, by simp [Host.numberOf_plain v (stands.inForce v covered),
        Host.numbered, key], stands⟩
  refuses {h v s w} _ covered number stands := by
    cases key : v.key with
    | ok k => simp [key] at number
    | error kind =>
      exact ⟨_, w, by simp [Host.numberOf_plain v (stands.inForce v covered),
        Host.numbered, key]; rfl,
        stands⟩
  compares {h u v n s w} _ hu hv numbered numbered' stands := by
    cases ku : u.key with
    | error kind => simp [ku] at numbered
    | ok k =>
      cases kv : v.key with
      | error kind => simp [kv] at numbered'
      | ok l =>
        refine ⟨w, ?_, stands⟩
        simp [Host.equals_plain u v (stands.inForce u hu) (stands.inForce v hv) ku kv]

theorem isEquivalence_plain (covers : Value → Prop) : (plain r e p covers).IsEquivalence where
  symm {u v} _ _ same := by
    obtain ⟨n, hu, hv, alike⟩ := same_eq_true.1 same
    exact same_eq_true.2 ⟨n, hv, hu, decide_eq_true (of_decide_eq_true alike).symm⟩
  trans {u v x} _ _ _ same same' := by
    obtain ⟨n, hu, hv, alike⟩ := same_eq_true.1 same
    obtain ⟨m, hv', hx, alike'⟩ := same_eq_true.1 same'
    obtain rfl : n = m := Option.some.inj (hv.symm.trans hv')
    exact same_eq_true.2
      ⟨n, hu, hx, decide_eq_true ((of_decide_eq_true alike).trans (of_decide_eq_true alike'))⟩

def uniform (r e p : Nat) (objects : List Nat) (c hash eq : Nat) (n : Int) : Law r e p where
  hosts h := ∃ depth, h = Host.ofDepth (depth + 1)
  inForce w := w.Uniform objects c hash eq n
  covers v := ∃ i ∈ objects, v = .object i
  number _ := some (Residue.ofGiven n)
  alike _ _ := true
  lasts _ _ _ _ inForce :=
    ⟨inForce.cls, inForce.hashes, inForce.compares, inForce.number, inForce.equal⟩
  numbers := by
    rintro _ _ m s w ⟨depth, rfl⟩ ⟨i, inside, rfl⟩ number stands
    obtain rfl := Option.some.inj number
    obtain ⟨k, note, run⟩ := stands.inForce.numberOf inside depth
    exact ⟨k, _, run, stands.inForce.counted hash note,
      (Keeps.counted (s := .nothing e) hash note).isEmitter (Scope.spares_nothing e e)
        stands.emitter, stands.same⟩
  refuses _ _ number _ := by cases number
  compares := by
    rintro _ _ _ m s w ⟨depth, rfl⟩ ⟨i, hi, rfl⟩ ⟨j, hj, rfl⟩ - - stands
    obtain ⟨w', run, rfl | ⟨note, rfl⟩⟩ := stands.inForce.equals hi hj depth
    · exact ⟨w', run, stands⟩
    · exact ⟨_, run, stands.inForce.counted eq note,
        (Keeps.counted (s := .nothing e) eq note).isEmitter (Scope.spares_nothing e e)
          stands.emitter, stands.same⟩

theorem isEquivalence_uniform (objects : List Nat) (c hash eq : Nat) (n : Int) :
    (uniform r e p objects c hash eq n).IsEquivalence where
  symm _ _ _ := same_eq_true.2 ⟨_, rfl, rfl, rfl⟩
  trans _ _ _ _ _ := same_eq_true.2 ⟨_, rfl, rfl, rfl⟩

end Emitter.Law

end EventTasks
