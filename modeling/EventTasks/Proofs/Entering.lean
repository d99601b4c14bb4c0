import EventTasks.Proofs.Sending

/-!
Entering texts in a mapping. A text that is stored in a mapping of texts stands there with its
value, in place of what stood under it, and all other texts stay; nothing written is asked.
-/
namespace EventTasks

open Act

namespace Host

variable {h : Host} {w : World} {d : Dictionary} {p : Nat}

theorem prepare_text (s : Slots) (place : Nat) (n : String) :
    s.prepare (Value.text place n).isText = s := by
  simp [Slots.prepare, Value.isText]

theorem storeIn_text (textual : d.Textual) (place : Nat) (n : String) (v : Value) :
    ∃ d', h.storeIn (.text place n) v d w = .ok d' w ∧ d'.Textual ∧
      (∀ m, d'.text? m = if m = n then some v else d.text? m) ∧
      d'.textNames = if n ∈ d.textNames then d.textNames else d.textNames ++ [n] := by
  have plain : (Value.text place n).Plain w := by simp [Value.Plain, Value.objectsIn]
  have run : h.storeIn (.text place n) v d w =
      .ok ((d.entries.findIdx? fun e => e.key = [.text n]).elim
        (d.push ⟨.text place n, [.text n], v⟩ (Value.text place n).residue) (d.replace · v)) w := by
    rw [storeIn, bind_run, numberOf_plain _ plain, numbered]
    simp only [Value.key, bind_run, prepare_text]
    rw [textual.locate (pure (.ofDictionary d)) rfl plain (k := [.text n]) rfl]
    cases d.entries.findIdx? fun e => e.key = [.text n] <;> rfl
  refine ⟨_, run, ?_⟩
  have texts (m : String) := Dictionary.text?_setText d n m v
  unfold Dictionary.setText at texts
  have known : n ∈ d.textNames ↔ (d.entries.findIdx? fun e => e.key = [.text n]).isSome := by
    rw [Dictionary.mem_textNames, Dictionary.text?_eq, Option.isSome_map, List.find?_isSome,
      List.findIdx?_isSome, List.any_eq_true]
  cases found : d.entries.findIdx? fun e => e.key = [.text n] with
  | some i =>
    simp only [found] at texts
    refine ⟨textual.replace i v, texts, ?_⟩
    rw [if_pos (known.2 (by rw [found]; rfl))]
    exact Dictionary.textNames_replace d i v
  | none =>
    simp only [found] at texts
    refine ⟨textual.push place (by simpa using List.findIdx?_eq_none_iff.1 found) v,
      fun m => ?_, ?_⟩
    · rw [← texts m]
      simp only [Option.elim_none, Dictionary.text?_eq, Dictionary.push, Entry.ofText,
        List.find?_append]
      cases List.find? (fun e => decide (e.key = [.text m])) d.entries with
      | some e => rfl
      | none => by_cases same : n = m <;> simp [same]
    · rw [if_neg fun inside => by simp [found] at known; exact known inside]
      exact Dictionary.textNames_push d place n v _

/-- Changing a mapping at a place depends on what it does to the mapping there. -/
theorem modifyDict_congr {f g : Dictionary → Dictionary} (same : f (w.dictAt p) = g (w.dictAt p)) :
    modifyDict p f w = modifyDict p g w := by
  show EStateM.Result.ok () { w with dicts := w.dicts.modify p f } =
    .ok () { w with dicts := w.dicts.modify p g }
  congr 2
  refine Array.ext (by simp) fun i hi _ => ?_
  have inside : i < w.dicts.size := by simpa using hi
  rw [Array.getElem_modify, Array.getElem_modify]
  split
  · rename_i here
    subst here
    simpa [World.dictAt, inside] using same
  · rfl

theorem storeAt_word (textual : (w.dictAt p).Textual) (n : String) (v : Value) :
    h.storeAt p (.word n) v w = .ok () (w.putText p n v) := by
  have plain : (Value.word n).Plain w := by simp [Value.Plain, Value.word, Value.objectsIn]
  have located := locate_eq (h := h) (knownAt p) rfl textual.known (textual.plain w)
    plain (k := [.text n]) rfl 999
  rw [List.findIdx?_map, show ((fun l => decide (l = [.text n])) ∘ Entry.key) =
    fun e => decide (e.key = [.text n]) from rfl] at located
  have offersEmitter :
      (modifyDict p fun d => { d with slots := d.slots.prepare (Value.word n).isText }) w =
      .ok () w := by
    have same := modifyDict_congr (w := w) (p := p) (g := id)
      (f := fun d => { d with slots := d.slots.prepare (Value.word n).isText })
      (by rw [Value.word, prepare_text]; rfl)
    rw [same]
    show EStateM.Result.ok () { w with dicts := w.dicts.modify p id } = _
    congr
    simp [Array.ext_iff, Array.getElem_modify]
  have stored (f : Dictionary → Dictionary) (same : f (w.dictAt p) = (w.dictAt p).setText n v) :
      modifyDict p f w = .ok () (w.putText p n v) := modifyDict_congr same
  rw [storeAt, bind_run, numberOf_plain _ plain, numbered]
  simp only [Value.key, Value.word, bind_run] at offersEmitter located ⊢
  rw [offersEmitter]
  simp only
  rw [show searches = 999 + 1 from rfl, located]
  cases found : (w.dictAt p).entries.findIdx? fun e => e.key = [.text n] with
  | some i =>
    exact stored _ (by simp only [Dictionary.setText, found])
  | none =>
    exact stored _ (by simp only [Dictionary.setText, found, Value.residue_text]; rfl)

/-! Entering all that stands in another mapping -/

theorem entriesFrom_eq {r : Ref} {l : Listing} (listing : w.listing? r = some l)
    (left position : Nat)
    (enough : l.entries.length = position + left) :
    entriesFrom r left position w = .ok (l.entries.drop position) w := by
  induction left generalizing position with
  | zero => rw [List.drop_eq_nil_of_le (by omega)]; rfl
  | succ left ih =>
    have inside : position < l.entries.length := by omega
    rw [entriesFrom, bind_of_ok (entryOf_eq listing position), List.getElem?_eq_getElem inside]
    exact (bind_of_ok (ih (position + 1) (by omega))).trans
      (by rw [List.drop_eq_getElem_cons inside]; rfl)

theorem entriesOf_eq {r : Ref} {l : Listing} (listing : w.listing? r = some l) :
    entriesOf r w = .ok l.entries w := by
  rw [entriesOf, bind_of_ok (get_run w), length_namesOf? listing]
  exact entriesFrom_eq listing _ 0 (by simp)

end Host

def textIn (entries : List Entry) (n : String) : Option Value :=
  (entries.find? fun e => e.key = [.text n]).map Entry.value

structure AreTexts (entries : List Entry) : Prop where
  named : ∀ e ∈ entries, ∃ place s, e.name = .text place s ∧ e.key = [.text s]
  distinct : (entries.map Entry.key).Nodup

theorem Dictionary.Textual.areTexts {d : Dictionary} (textual : d.Textual) : AreTexts d.entries :=
  ⟨textual.named, textual.distinct⟩

theorem AreTexts.cons {e : Entry} {entries : List Entry} (texts : AreTexts (e :: entries)) :
    ∃ place s, e.name = .text place s ∧ textIn entries s = none ∧ AreTexts entries ∧
      ∀ n, textIn (e :: entries) n = if n = s then some e.value else textIn entries n := by
  obtain ⟨place, s, name, key⟩ := texts.named e (by simp)
  obtain ⟨new, distinct⟩ := List.nodup_cons.1 texts.distinct
  refine ⟨place, s, name, ?_, ⟨fun e he => texts.named e (by simp [he]), distinct⟩, fun n => ?_⟩
  · rw [textIn, Option.map_eq_none_iff, List.find?_eq_none]
    intro other inside same
    exact new (key.trans (of_decide_eq_true same).symm ▸ List.mem_map_of_mem inside)
  · by_cases same : n = s
    · simp [textIn, key, same]
    · simp [textIn, key, same, Ne.symm same]

namespace Host

variable {h : Host} {w : World} {d : Dictionary} {p : Nat}

theorem foldlM_storeIn {entries : List Entry} (texts : AreTexts entries) (textual : d.Textual) :
    ∃ d', ((entries.map Entry.toPair).foldlM (fun d e => h.storeIn e.1 e.2 d) d : Act _) w =
      .ok d' w ∧
      d'.Textual ∧ ∀ n, d'.text? n = (textIn entries n).or (d.text? n) := by
  induction entries generalizing d with
  | nil => exact ⟨d, rfl, textual, fun _ => rfl⟩
  | cons e entries ih =>
    obtain ⟨place, s, name, absent, texts, first⟩ := texts.cons
    obtain ⟨d₁, run₁, textual₁, now₁, -⟩ := storeIn_text (h := h) (w := w) textual place s e.value
    rw [← name] at run₁
    obtain ⟨d', run, textual', now⟩ := ih texts textual₁
    refine ⟨d', ?_, textual', fun n => ?_⟩
    · rw [List.map_cons, List.foldlM_cons]
      exact (bind_of_ok run₁).trans run
    · rw [now n, now₁ n, first n]
      by_cases same : n = s
      · simp [same, absent]
      · simp [same]

/-- A mapping of texts takes over the entries of another one, in place of its own. -/
theorem addEntries_dict (textual : (w.dictAt p).Textual) {found : Dictionary}
    (texts : found.Textual) :
    ∃ d', h.addEntries (.ref (.dict p)) found w = .ok d' w ∧ d'.Textual ∧
      ∀ n, d'.text? n = ((w.dictAt p).text? n).or (found.text? n) := by
  rw [addEntries]
  cases empty : found.entries.isEmpty with
  | true =>
    refine ⟨w.dictAt p, rfl, textual, fun n => ?_⟩
    have none : found.text? n = none := by
      simp [Dictionary.text?_eq, List.isEmpty_iff.1 empty]
    rw [none, Option.or_none]
  | false =>
    simp only [Bool.false_eq_true, if_false]
    obtain ⟨d', run, rest⟩ := foldlM_storeIn (h := h) (w := w) textual.areTexts texts
    exact ⟨d', (bind_of_ok (entriesOf_eq (r := .dict p) rfl)).trans run, rest⟩

end Host

end EventTasks
