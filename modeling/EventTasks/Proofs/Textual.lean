import Mathlib.Data.List.InsertIdx
import EventTasks.Proofs.Finding

/-!
Mappings whose names are texts, as attributes and registries are. Setting a text keeps a mapping so,
and looking for a text in it finds what stands under it.
-/
namespace EventTasks

open Act

def Spells : List Value → List String → Prop := List.Forall₂ fun v n => ∃ place, v = .text place n

namespace Dictionary

/-- All names are texts, each stands once, and each is met by its number. -/
structure Textual (d : Dictionary) : Prop where
  named : ∀ e ∈ d.entries, ∃ place s, e.name = .text place s ∧ e.key = [.text s]
  distinct : (d.entries.map Entry.key).Nodup
  slots : d.slots.Sound (d.entries.map fun e => e.name.residue)

theorem textual_empty : Textual {} := ⟨by simp, by simp, Slots.sound_empty true 0⟩

variable {d : Dictionary}

theorem Textual.known (textual : d.Textual) :
    (Known.ofDictionary d).Sound (d.entries.map Entry.key) where
  keyed := by
    simp only [Known.ofDictionary, List.map_map]
    refine List.map_congr_left fun e found => ?_
    obtain ⟨place, s, name, key⟩ := textual.named e found
    simp [name, key, Value.key]
  distinct := textual.distinct
  slots := by simpa [Known.ofDictionary, Function.comp_def] using textual.slots

theorem Textual.plain (textual : d.Textual) (w : World) :
    ∀ v ∈ (Known.ofDictionary d).names, v.Plain w := by
  intro v found
  obtain ⟨e, he, rfl⟩ := List.mem_map.1 found
  obtain ⟨place, s, name, -⟩ := textual.named e he
  simp [name, Value.Plain, Value.objectsIn]

/-- A plain value is looked for among the names by its key. -/
theorem Textual.locate {h : Host} {w : World} {v : Value} {k : Key} (textual : d.Textual)
    (current : Act Known) (now : current w = .ok (.ofDictionary d) w) (plain : v.Plain w)
    (key : v.key = .ok k) :
    h.locate current v v.residue Host.searches w =
      .ok (d.entries.findIdx? fun e => e.key = k) w := by
  have located := Host.locate_eq (h := h) current now textual.known (textual.plain w) plain key 999
  rwa [List.findIdx?_map, show ((fun l => decide (l = k)) ∘ Entry.key) =
    fun e => decide (e.key = k) from rfl] at located

theorem findIn_eq {h : Host} {w : World} {v : Value} {k : Key} (textual : d.Textual)
    (plain : v.Plain w) (key : v.key = .ok k) : h.findIn d v w = .ok (d.find? k) w := by
  rw [Host.findIn, bind_run, Host.numberOf_plain v plain, Host.numbered]
  simp only [key, bind_run]
  rw [textual.locate (pure (.ofDictionary d)) rfl plain key, find?,
    List.find?_eq_bind_findIdx?_getElem?]
  cases d.entries.findIdx? fun e => e.key = k <;> rfl

/-! Setting a text -/

theorem text?_eq (d : Dictionary) (n : String) :
    d.text? n = (d.entries.find? fun e => e.key = [.text n]).map Entry.value := rfl

theorem find?_modify (l : List Entry) (n m : String) (v : Value) {i : Nat}
    (hi : l.findIdx? (fun e => e.key = [.text n]) = some i) :
    ((l.modify i ({ · with value := v })).find? fun e => e.key = [.text m]).map Entry.value =
      if m = n then some v else (l.find? fun e => e.key = [.text m]).map Entry.value := by
  induction l generalizing i with
  | nil => simp at hi
  | cons e l ih =>
    rw [List.findIdx?_cons] at hi
    by_cases first : e.key = [.text n]
    · obtain rfl : 0 = i := by simpa [first] using hi
      by_cases same : m = n
      · simp [first, same]
      · simp [first, same, Ne.symm same]
    · obtain ⟨j, hj, rfl⟩ : ∃ j, l.findIdx? (fun e => e.key = [.text n]) = some j ∧ j + 1 = i := by
        simpa [first] using hi
      have later := ih hj
      by_cases hm : e.key = [.text m]
      · have other : m ≠ n := fun same => first (same ▸ hm)
        simp [hm, other]
      · simpa [hm] using later

theorem text?_setText (d : Dictionary) (n m : String) (v : Value) :
    (d.setText n v).text? m = if m = n then some v else d.text? m := by
  unfold Dictionary.setText
  cases hi : d.entries.findIdx? fun e => e.key = [.text n] with
  | none =>
    have new : ∀ e ∈ d.entries, e.key ≠ [.text n] := by
      simpa using List.findIdx?_eq_none_iff.1 hi
    have absent : d.entries.find? (fun e => e.key = [.text n]) = none :=
      List.find?_eq_none.2 fun e found => by simpa using new e found
    by_cases same : m = n
    · subst same
      simp [text?_eq, push, Entry.ofText, List.find?_append, absent]
    · cases hm : d.entries.find? (fun e => e.key = [.text m]) <;>
        simp [text?_eq, push, Entry.ofText, List.find?_append, same, Ne.symm same, hm]
  | some i => exact find?_modify d.entries n m v hi

theorem Textual.replace (textual : d.Textual) (i : Nat) (v : Value) : (d.replace i v).Textual := by
  have kept {α : Type} (f : Entry → α) (same : ∀ e v, f { e with value := v } = f e) :
      (d.entries.modify i ({ · with value := v })).map f = d.entries.map f := by
    refine List.ext_getElem? fun j => ?_
    rw [List.getElem?_map, List.getElem?_map, List.getElem?_modify]
    cases d.entries[j]? <;> by_cases at_j : i = j <;> simp [at_j, same]
  refine ⟨?_, ?_, ?_⟩
  · intro e found
    have along := kept (fun e => (e.name, e.key)) fun _ _ => rfl
    have inside : (e.name, e.key) ∈ d.entries.map fun e => (e.name, e.key) :=
      along ▸ List.mem_map_of_mem found
    obtain ⟨old, hold, same⟩ := List.mem_map.1 inside
    obtain ⟨name, key⟩ := Prod.mk.inj same
    exact name ▸ key ▸ textual.named old hold
  · simpa [Dictionary.replace, kept Entry.key fun _ _ => rfl] using textual.distinct
  · simpa [Dictionary.replace, kept (fun e => e.name.residue) fun _ _ => rfl] using textual.slots

theorem Textual.push (textual : d.Textual) (place : Nat) {n : String}
    (new : ∀ e ∈ d.entries, e.key ≠ [.text n]) (v : Value) :
    (d.push ⟨.text place n, [.text n], v⟩ (Value.text place n).residue).Textual := by
  refine ⟨?_, ?_, ?_⟩
  · intro e found
    rcases List.mem_append.1 found with found | found
    · exact textual.named e found
    · obtain rfl := List.mem_singleton.1 found
      exact ⟨place, n, rfl, rfl⟩
  · simpa [Dictionary.push, List.nodup_append, textual.distinct] using new
  · have added := Slots.sound_add (Slots.sound_prepare textual.slots true)
      (Value.text place n).residue
    simpa [Dictionary.push, Value.isText] using added

theorem Textual.setText (textual : d.Textual) (n : String) (v : Value) :
    (d.setText n v).Textual := by
  unfold Dictionary.setText
  cases hi : d.entries.findIdx? fun e => e.key = [.text n] with
  | none =>
    exact textual.push 0 (by simpa using List.findIdx?_eq_none_iff.1 hi) v
  | some i => exact textual.replace i v

theorem textual_ofTexts (fields : List (String × Value)) : (ofTexts fields).Textual :=
  List.foldlRecOn fields _ textual_empty fun _ textual p _ => textual.setText p.1 p.2

/-! Taking a text away -/

theorem find?_eraseIdx_of_ne {l : List Entry} {k k' : Key} {i : Nat}
    (here : l.findIdx? (fun e => e.key = k) = some i) (other : k' ≠ k) :
    (l.eraseIdx i).find? (fun e => e.key = k') = l.find? fun e => e.key = k' := by
  induction l generalizing i with
  | nil => simp at here
  | cons e l ih =>
    by_cases same : e.key = k
    · obtain rfl : i = 0 := by simpa [List.findIdx?_cons, same] using here.symm
      simp [same, other.symm]
    · obtain ⟨j, found, rfl⟩ : ∃ j, l.findIdx? (fun e => e.key = k) = some j ∧ j + 1 = i := by
        simpa [List.findIdx?_cons, same] using here
      simp only [List.eraseIdx_cons_succ, List.find?_cons, ih found]

theorem text?_dropText (d : Dictionary) {n m : String} (other : m ≠ n) :
    (d.dropText n).text? m = d.text? m := by
  unfold dropText
  split
  · rename_i i here
    have keys : ([.text m] : Key) ≠ [.text n] := by simpa using other
    simp only [text?, find?, dropAt, find?_eraseIdx_of_ne here keys]
  · rfl

theorem Textual.text?_dropText_self (textual : d.Textual) (n : String) :
    (d.dropText n).text? n = none := by
  have gone {l : List Entry} {k : Key} {i : Nat} (distinct : (l.map Entry.key).Nodup)
      (here : l.findIdx? (fun e => e.key = k) = some i) :
      (l.eraseIdx i).find? (fun e => e.key = k) = none := by
    induction l generalizing i with
    | nil => simp at here
    | cons e l ih =>
      obtain ⟨new, distinct⟩ := List.nodup_cons.1 distinct
      by_cases same : e.key = k
      · obtain rfl : i = 0 := by simpa [List.findIdx?_cons, same] using here.symm
        refine List.find?_eq_none.2 fun e' inside there => new ?_
        exact List.mem_map.2 ⟨e', inside, (by simpa using there : e'.key = k).trans same.symm⟩
      · obtain ⟨j, found, rfl⟩ : ∃ j, l.findIdx? (fun e => e.key = k) = some j ∧ j + 1 = i := by
          simpa [List.findIdx?_cons, same] using here
        simp only [List.eraseIdx_cons_succ, List.find?_cons, same, ih distinct found]
        rfl
  unfold Dictionary.dropText
  split
  · rename_i i here
    exact congrArg (Option.map Entry.value) (gone textual.distinct here)
  · rename_i absent
    have new : ∀ e ∈ d.entries, e.key ≠ [.text n] := by
      simpa using List.findIdx?_eq_none_iff.1 absent
    exact congrArg (Option.map Entry.value)
      (List.find?_eq_none.2 fun e found => by simpa using new e found)

theorem Textual.dropText (textual : d.Textual) (n : String) : (d.dropText n).Textual := by
  unfold Dictionary.dropText
  split
  · rename_i i here
    have inside : i < d.entries.length := (List.findIdx?_eq_some_iff_getElem.1 here).1
    refine ⟨fun e found => textual.named e (List.mem_of_mem_eraseIdx found), ?_, ?_⟩
    · simpa [dropAt, List.eraseIdx_map] using
        (List.eraseIdx_sublist (d.entries.map Entry.key) i).nodup textual.distinct
    · simpa [dropAt, List.eraseIdx_map] using
        Slots.sound_drop textual.slots (j := i) (by simpa using inside)
  · exact textual

/-! The names in order -/

theorem mem_textNames {n : String} : n ∈ d.textNames ↔ (d.text? n).isSome := by
  rw [text?_eq, Option.isSome_map, List.find?_isSome, textNames, List.mem_filterMap]
  refine exists_congr fun e => and_congr_right fun _ => ?_
  constructor
  · intro named
    split at named
    · rename_i s key
      obtain rfl := Option.some.inj named
      simpa using key
    · simp at named
  · intro key
    rw [of_decide_eq_true key]

theorem Textual.spells (textual : d.Textual) :
    Spells (d.entries.map Entry.name) d.textNames := by
  have named := textual.named
  rw [textNames]
  generalize d.entries = entries at named
  induction entries with
  | nil => exact .nil
  | cons e entries ih =>
    obtain ⟨place, s, name, key⟩ := named e (by simp)
    simp only [List.map_cons, List.filterMap_cons, key]
    exact .cons ⟨place, name⟩ (ih fun e he => named e (by simp [he]))

theorem Textual.nodup_textNames (textual : d.Textual) : d.textNames.Nodup := by
  have named := textual.named
  have distinct := textual.distinct
  rw [textNames]
  generalize d.entries = entries at named distinct
  induction entries with
  | nil => simp
  | cons e entries ih =>
    obtain ⟨place, s, -, key⟩ := named e (by simp)
    obtain ⟨new, distinct⟩ := List.nodup_cons.1 distinct
    simp only [List.filterMap_cons, key]
    refine List.nodup_cons.2 ⟨fun again => ?_, ih (fun e he => named e (by simp [he])) distinct⟩
    obtain ⟨e', inside, same⟩ := List.mem_filterMap.1 again
    obtain ⟨place', s', -, key'⟩ := named e' (by simp [inside])
    simp only [key', Option.some.injEq] at same
    exact new (by rw [key, ← same, ← key']; exact List.mem_map_of_mem inside)

theorem textNames_replace (d : Dictionary) (i : Nat) (v : Value) :
    (d.replace i v).textNames = d.textNames := by
  simp only [textNames, replace]
  generalize d.entries = entries
  induction entries generalizing i with
  | nil => simp
  | cons e entries ih => cases i <;> simp [List.filterMap_cons, ih]

theorem textNames_push (d : Dictionary) (place : Nat) (n : String) (v : Value) (number : Int) :
    (d.push ⟨.text place n, [.text n], v⟩ number).textNames = d.textNames ++ [n] := by
  simp [textNames, push]

end Dictionary

/-! Looking for a text -/

namespace Host

variable {h : Host} {w : World} {p : Nat}

theorem findAt_eq (textual : (w.dictAt p).Textual) (place : Nat) (n : String) :
    ∃ found, h.findAt p (.text place n) w = .ok found w ∧
      found.isSome = ((w.dictAt p).text? n).isSome := by
  have plain : (Value.text place n).Plain w := by simp [Value.Plain, Value.objectsIn]
  rw [findAt, bind_run, numberOf_plain _ plain, numbered]
  simp only [Value.key, bind_run]
  rw [textual.locate (knownAt p) rfl plain (k := [.text n]) rfl, Dictionary.text?_eq,
    List.find?_eq_bind_findIdx?_getElem?]
  cases hi : (w.dictAt p).entries.findIdx? fun e => e.key = [.text n] with
  | none => exact ⟨none, rfl, rfl⟩
  | some i =>
    obtain ⟨inside, -⟩ := List.findIdx?_eq_some_iff_getElem.1 hi
    have there := List.getElem?_eq_getElem inside
    exact ⟨some (i, (w.dictAt p).entries[i].value), by simp [bind_run, there], by simp [there]⟩

end Host

end EventTasks
