import EventTasks.Proofs.Keeping

/-!
Sets that hold texts alone. Looking for a text in such a set asks nothing written, and adding one
leaves it such a set.
-/
namespace EventTasks

open Act

namespace Gathering

variable {g : Gathering} {m m' : Member} {number : Int}

theorem mem_members : m ∈ g.members ↔ some m ∈ g.cells := by
  simp [members]

theorem mem_of_met (found : m ∈ g.met number) : m ∈ g.members := by
  have along : ∀ places : List Nat, m ∈ met.along g places → m ∈ g.members := by
    intro places
    induction places with
    | nil => simp [met.along]
    | cons place rest ih =>
      intro found
      rw [met.along] at found
      split at found
      · rename_i x here
        rcases List.mem_cons.1 found with rfl | found
        · have there : g.cells[place]? = some (some m) := by
            cases h : g.cells[place]? <;> simp_all
          exact mem_members.2 (Array.mem_of_getElem? there)
        · exact ih found
      · simp at found
  exact along _ (List.mem_filter.1 found).1

theorem mem_put (found : m' ∈ (g.put m).members) : m' = m ∨ m' ∈ g.members := by
  unfold put at found
  split at found
  · rename_i place _
    rcases Array.mem_or_eq_of_mem_setIfInBounds (mem_members.1 found) with old | new
    · exact .inr (mem_members.2 old)
    · exact .inl (Option.some.inj new)
  · exact .inr found

theorem mem_foldl_put (l : List Member) (found : m' ∈ (l.foldl put g).members) :
    m' ∈ l ∨ m' ∈ g.members := by
  induction l generalizing g with
  | nil => exact .inr found
  | cons x l ih =>
    rcases ih found with inside | inside
    · exact .inl (by simp [inside])
    · rcases mem_put inside with rfl | inside
      · exact .inl (by simp)
      · exact .inr inside

theorem mem_add (found : m' ∈ (g.add m).members) : m' = m ∨ m' ∈ g.members := by
  rw [add, spread] at found
  split at found
  · exact mem_put found
  · rcases mem_foldl_put _ found with inside | inside
    · exact mem_put inside
    · have empty := mem_members.1 inside
      simp at empty

theorem Texts.add (texts : g.Texts) (text : ∃ place s, m.value = .text place s) :
    (g.add m).Texts := fun _ found => by
  rcases mem_add found with rfl | inside
  · exact text
  · exact texts _ inside

end Gathering

namespace Host

variable {h : Host} {s : Scope} {w : World} {g : Nat}

theorem isAmong_texts {place : Nat} {n : String} {met : List Member}
    (texts : ∀ m ∈ met, ∃ place s, m.value = .text place s) :
    ∃ b, h.isAmong (.text place n) met w = .ok b w := by
  induction met with
  | nil => exact ⟨false, rfl⟩
  | cons m met ih =>
    obtain ⟨place', t, text⟩ := texts m (by simp)
    have plain (place : Nat) (t : String) : (Value.text place t).Plain w := by
      simp [Value.Plain, Value.objectsIn]
    have equal := equals_plain (h := h) (.text place' t) (.text place n) (plain _ _) (plain _ _)
      (k := [.text t]) (l := [.text n]) rfl rfl
    rw [isAmong, text, bind_of_ok equal]
    cases decide ([Atom.text t] = [Atom.text n]) with
    | true => exact ⟨true, rfl⟩
    | false => exact ih fun m hm => texts m (by simp [hm])

theorem numberOf_text (place : Nat) (n : String) :
    ∃ x, h.numberOf (.text place n) w = .ok (x, [.text n]) w := by
  have plain : (Value.text place n).Plain w := by simp [Value.Plain, Value.objectsIn]
  exact ⟨_, numberOf_plain _ plain⟩

theorem isGathered_texts (texts : (w.namesAt g).Texts) (place : Nat) (n : String) :
    ∃ b, h.isGathered g (.text place n) w = .ok b w := by
  obtain ⟨x, number⟩ := numberOf_text (h := h) (w := w) place n
  rw [isGathered, bind_of_ok number]
  exact isAmong_texts fun m hm => texts m (Gathering.mem_of_met hm)

end Host

theorem Keeps.modifyNames {s : Scope} {w : World} {g : Nat} {f : Gathering → Gathering}
    (texts : ∀ x : Gathering, x.Texts → (f x).Texts) :
    Keeps s w { w with gatherings := w.gatherings.modify g f } :=
  { refl s w with
    texts := fun g' now => by
      simp only [World.namesAt, Array.getElem?_modify]
      split
      · cases here : w.gatherings[g']? with
        | none => simpa [World.namesAt, here] using now
        | some x => exact texts x (by simpa [World.namesAt, here] using now)
      · exact now }

theorem Host.gather_eq {h : Host} {s : Scope} {w : World} {g : Nat} (texts : (w.namesAt g).Texts)
    (place : Nat) (n : String) :
    ∃ w', h.gather g (.text place n) w = .ok () w' ∧ Keeps s w w' ∧ w'.classes = w.classes ∧
      w'.forwarders = w.forwarders ∧ w'.around = w.around := by
  obtain ⟨x, number⟩ := numberOf_text (h := h) (w := w) place n
  obtain ⟨known, among⟩ : ∃ b, h.isAmong (.text place n) ((w.namesAt g).met x) w = .ok b w :=
    isAmong_texts fun m hm => texts m (Gathering.mem_of_met hm)
  have run : h.gather g (.text place n) w =
      (if !known then modifyNames g (·.add ⟨x, .text place n, [.text n]⟩) else pure ()) w := by
    rw [gather, bind_of_ok number]
    exact (bind_of_ok (get_run w)).trans (bind_of_ok among)
  rw [run]
  cases known with
  | true => exact ⟨w, rfl, .refl s w, rfl, rfl, rfl⟩
  | false => exact ⟨_, rfl, .modifyNames fun x old => old.add ⟨place, n, rfl⟩, rfl, rfl, rfl⟩

end EventTasks
