import EventTasks.Proofs.HandingOver
import EventTasks.Proofs.Ordinary

/-!
Resolving the handlers of an ordinary task: one pair for every entry of its registry, in order, of
the entry's identifier and the handler that the task has for the entry's key. Nothing is changed
meanwhile.
-/
namespace EventTasks

open Act

/-! The entries of a mapping -/

namespace Host

variable {w : World} {r : Ref} {l : Listing}

theorem definition?_items (standard : w.Standard) (listing : w.listing? r = some l) :
    ∃ form, w.definition? (w.classOf (.ref r)) "items" =
      some (.function (.library (.holding form .items))) := by
  have dict : w.definition? Library.dictClass "items" =
      some (.function (.library (.holding .dict .items))) :=
    standard.definition? (by decide) (by decide) (by decide)
  have fixed : w.definition? Library.proxyClass "items" =
      some (.function (.library (.holding .fixed .items))) :=
    standard.definition? (by decide) (by decide) (by decide)
  cases r with
  | dict p => exact ⟨.dict, dict⟩
  | body stamp c => exact ⟨.fixed, fixed⟩
  | registry => exact ⟨.fixed, fixed⟩
  | _ => simp [World.listing?] at listing

theorem noSubject_of_listing (listing : w.listing? r = some l) :
    (Value.ref r).objectPlace? = none ∧ (Value.ref r).classPlace? = none := by
  cases r with
  | subject => simp [World.listing?] at listing
  | _ => exact ⟨rfl, rfl⟩

theorem send_items (standard : w.Standard) (listing : w.listing? r = some l) (depth : Nat) :
    ∃ w', (ofDepth (depth + 1)).send (.ref r) "items" [] w = .ok (.ref (.part .items r)) w' ∧
      Untouched w w' ∧ w'.classes = w.classes := by
  obtain ⟨form, entry⟩ := definition?_items standard listing
  obtain ⟨object, cls⟩ := noSubject_of_listing listing
  refine ⟨w.pushBound (.ref r) (.library (.holding form .items)), ?_, fun _ => .pushBound _ _, rfl⟩
  rw [send_bound object cls rfl entry]
  cases r with
  | dict | body | registry => cases form <;> rfl
  | _ => simp [World.listing?] at listing

theorem send_items_exhausted (standard : w.Standard) (listing : w.listing? r = some l) :
    ∃ w', (ofDepth 0).send (.ref r) "items" [] w = .error .tooDeep w' ∧ Untouched w w' := by
  obtain ⟨form, entry⟩ := definition?_items standard listing
  obtain ⟨object, cls⟩ := noSubject_of_listing listing
  exact ⟨_, send_bound_exhausted object cls rfl entry [], fun _ => .pushBound _ _⟩

theorem foldEntries_eq {P : β → World → Prop} {f : β → Value × Value → Act β}
    (standard : w.Standard)
    (sound : l.Sound) (listing : w.listing? r = some l)
    (shown : ∀ b u, P b u → u.listing? r = some l) (later : ∀ b u, P b u → P b u.later)
    (leaves : ∀ e ∈ l.entries, Leaves P f e) (b : β)
    (now : ∀ u, Untouched w u → u.classes = w.classes → P b u) (depth : Nat) :
    ∃ w', Untouched w w' ∧ P b w' ∧ (ofDepth (depth + 1)).foldEntries (.ref r) f b w =
      (l.entries.foldlM (fun b e => do
        let _ ← newTuple [e.1, e.2]
        f b e) b : Act β) w' := by
  obtain ⟨w', asked, kept, classes⟩ := send_items standard listing depth
  have holds := now w' kept classes
  refine ⟨w', kept, holds, ?_⟩
  have fold := foldItems_entries (h := ofDepth (depth + 1)) (b := b) sound shown later
    (f := fun b v => do f b (← (ofDepth (depth + 1)).pairOf v))
    (fun e he stamp b u b' u' now run => leaves e he b u b' u' now run) holds
  rw [foldEntries, bind_of_ok asked]
  exact fold

end Host

/-! Reading an attribute that is not a property -/

namespace Act

variable {s : Scope} {w : World}

theorem after_classAspect (c : Nat) (a : Aspect) : Rests s w ((classAspect c a).after w) := by
  rw [classAspect, after_bind_of_ok (get_run w)]
  cases a with
  | body => exact .later
  | annotations => exact after_annotationsOf c
  | abstract | place =>
    simp only
    split
    · exact .refl s w
    · first
        | exact .refl s w
        | split <;> exact .refl s w
  | _ => exact .refl s w

theorem after_aspectOf (v : Value) (a : Aspect) : Rests s w ((aspectOf v a).after w) := by
  rw [aspectOf, after_bind_of_ok (get_run w)]
  split
  · exact .refl s w
  · split <;> exact .refl s w
  · exact .refl s w
  · exact after_classAspect _ _
  · exact .refl s w

theorem after_slotValue (v : Value) (slot : Nat) : Rests s w ((slotValue v slot).after w) := by
  rw [slotValue, after_bind_of_ok (get_run w)]
  dsimp only
  split
  · exact .refl s w
  · split
    · split <;> exact .refl s w
    · exact .refl s w

theorem after_bindTo (self : Value) (f : Function) : Rests s w ((bindTo self f).after w) := by
  unfold bindTo
  split
  · exact .later
  · exact .pushBound _ _

end Act

namespace Host

variable {h : Host} {s : Scope} {w : World} {i : Nat} {n : String} {e : Value}

theorem after_fetchHeld (unhooked : w.hookOf? e "__get__" = none) (owner : Option Value) (c : Nat)
    (passive : owner = none ∨ ∀ p, e ≠ .ref (.property p)) :
    Rests s w ((h.fetchHeld e owner c).after w) := by
  unfold fetchHeld
  split
  · exact after_bindTo _ _
  · exact .refl s w
  · exact .later
  · rcases passive with owner | passive
    · simp at owner
    · exact absurd rfl (passive _)
  · exact after_slotValue _ _
  · rw [after_bind_of_ok (get_run w), unhooked]
    exact .refl s w
  · exact .refl s w

theorem after_fetch (unhooked : w.hookOf? e "__get__" = none) (owner : Option Value) (c : Nat)
    (passive : owner = none ∨ ∀ p, e ≠ .ref (.property p))
    (noClass : owner.bind Value.classPlace? = none) : Rests s w ((h.fetch e owner c).after w) := by
  unfold fetch
  split
  · refine after_bind Rests.trans (after_aspectOf _ _) fun found w' _ => ?_
    split
    · rename_i k place _
      simp [place] at noClass
    · exact .refl s w'
  · exact after_fetchHeld unhooked owner c passive

theorem after_attr (usual : w.ReadsUsually i) (quiet : w.Quiet i n) :
    Rests s w ((h.attr (.object i) n).after w) := by
  rw [after, attr_eq_usual usual, ← after, usualAttribute, after_bind_of_ok (get_run w)]
  simp only [Value.object, Value.objectPlace?, World.classOf, World.classOfRef]
  cases entry : w.definition? (w.objectClassOf i) n with
  | none => cases (w.attributesOf i).text? n <;> exact .refl s w
  | some e =>
    obtain ⟨unhooked, passive⟩ := quiet e entry
    have read := after_fetch (h := h) (s := s) unhooked (some (.object i)) (w.objectClassOf i)
      (.inr passive) rfl
    cases (w.attributesOf i).text? n with
    | none => exact read
    | some v =>
      cases first : w.comesFirst e with
      | true =>
        simp only [first, if_true]
        exact read
      | false =>
        simp only [first, Bool.false_eq_true, if_false]
        exact .refl s w

theorem after_attrOrNothing_of_attr {v : Value} (read : Untouched w ((h.attr v n).after w)) :
    Untouched w ((h.attrOrNothing v n).after w) := by
  rw [attrOrNothing, orMissing]
  refine after_tryCatch (R := Untouched) .trans read fun e w' _ => ?_
  split <;> exact .refl w'

theorem after_attrOrNothing (usual : w.ReadsUsually i) (quiet : w.Quiet i n) :
    Rests s w ((h.attrOrNothing (.object i) n).after w) := by
  rw [attrOrNothing, orMissing]
  refine after_tryCatch (R := Rests s) .trans (after_attr usual quiet) fun e w' _ => ?_
  split <;> exact .refl s w'

end Host

namespace Task

variable {h : Host} {w u : World} {i d : Nat} {r : Ref} {l : Listing} {entry : Value × Value}
  {pair : Value × Ref}

theorem Ordinary.of_nothing (ordinary : Ordinary w i d r l) (kept : Keeps (.nothing d) w u) :
    Ordinary u i d r l := ordinary.of_keeps kept ordinary.apart fun _ _ => .inr id

/-- What a task has for a registry entry: the identifier, and what reading the name of the handler
gives. -/
structure Resolved (h : Host) (w : World) (i d : Nat) (entry : Value × Value)
    (pair : Value × Ref) : Prop where
  event : pair.1 = entry.2
  callable : w.isCallable (.ref pair.2) = true
  read : ∃ place key n u u', entry.1 = .text place key ∧ Naming.handlerName? key = some n ∧
    Keeps (.nothing d) w u ∧ h.attrOrNothing (.object i) n u = .ok (.ref pair.2) u'

theorem Resolved.before (kept : Keeps (.nothing d) w u) (resolved : Resolved h u i d entry pair) :
    Resolved h w i d entry pair where
  event := resolved.event
  callable := (kept.isCallable _).symm.trans resolved.callable
  read := by
    obtain ⟨place, key, n, v, v', text, named, later, run⟩ := resolved.read
    exact ⟨place, key, n, v, v', text, named, kept.trans later, run⟩

theorem resolveEntry_eq (ordinary : Ordinary w i d r l) (inside : entry ∈ l.entries)
    (found : List Value) :
    ∃ w', Rests (.nothing d) w w' ∧
      ((∃ f, resolveEntry h (.object i) found entry w = .error f w') ∨
        ∃ stamp f, resolveEntry h (.object i) found entry w =
            .ok (found ++ [.tuple stamp [entry.2, .ref f]]) w' ∧
          Resolved h w i d entry (entry.2, f)) := by
  obtain ⟨place, key, text⟩ := ordinary.keys entry inside
  cases named : Naming.handlerName? key with
  | none =>
    have name : handlerName h entry.1 w = .error .emptyEventKey w := by
      rw [text]
      simp only [handlerName, named, throw_run]
    exact ⟨w, .refl _ w, .inl ⟨_, bind_of_error name⟩⟩
  | some n =>
    have name : handlerName h entry.1 w = .ok n w := by
      rw [text]
      simp only [handlerName, named, pure_run]
    have reading := Host.after_attrOrNothing (h := h) (s := .nothing d) ordinary.usual
      (ordinary.handlers key n named)
    rw [resolveEntry, bind_of_ok name, bind_run]
    cases run : h.attrOrNothing (.object i) n w with
    | error f w' => exact ⟨w', after_of_error run ▸ reading, .inl ⟨f, rfl⟩⟩
    | ok v w₁ =>
      have kept : Rests (.nothing d) w w₁ := after_of_ok run ▸ reading
      have ordinary₁ := ordinary.of_nothing kept.toKeeps
      simp only [bind_run, get_run]
      cases callable : w₁.isCallable v with
      | false =>
        obtain ⟨v, simple, shows⟩ := ordinary₁.named
        obtain ⟨shown, told⟩ := Host.formatted_simple simple
        refine ⟨w₁, kept, .inl ?_⟩
        simp only [Bool.not_false, if_true, bind_run, Host.attr_shows ordinary₁.usual shows, told,
          throw_run]
        exact ⟨_, rfl⟩
      | true =>
        obtain ⟨f, rfl⟩ := World.exists_ref_of_isCallable callable
        refine ⟨w₁.later, kept.trans .later, .inr ⟨w₁.later.stamps, f, ?_, rfl,
          (kept.isCallable _).symm.trans callable, place, key, n, w, w₁, text, named, .refl _ w,
          run⟩⟩
        simp only [Bool.not_true, Bool.false_eq_true, if_false, bind_run, newTuple_run, pure_run]

theorem foldlM_resolveEntry {entries : List (Value × Value)} (ordinary : Ordinary w i d r l)
    (inside : ∀ e ∈ entries, e ∈ l.entries) {found : List Value} {pairs : List (Value × Ref)}
    (arePairs : ArePairs found pairs) :
    ∃ w', Rests (.nothing d) w w' ∧
      ((∃ f, (entries.foldlM (fun found e => do
          let _ ← newTuple [e.1, e.2]
          resolveEntry h (.object i) found e) found : Act _) w = .error f w') ∨
        ∃ items more, (entries.foldlM (fun found e => do
            let _ ← newTuple [e.1, e.2]
            resolveEntry h (.object i) found e) found : Act _) w = .ok items w' ∧
          ArePairs items (pairs ++ more) ∧
          List.Forall₂ (Resolved h w i d) entries more) := by
  induction entries generalizing w found pairs with
  | nil => exact ⟨w, .refl _ w, .inr ⟨found, [], rfl, by simpa using arePairs, .nil⟩⟩
  | cons e entries ih =>
    rw [List.foldlM_cons]
    have first : (do
        let _ ← newTuple [e.1, e.2]
        resolveEntry h (.object i) found e : Act _) w =
          resolveEntry h (.object i) found e w.later := rfl
    have kept₀ : Rests (.nothing d) w w.later := .later
    obtain ⟨w₁, kept, outcome⟩ := resolveEntry_eq (h := h) (ordinary.of_nothing kept₀.toKeeps)
      (inside e (by simp)) found
    rcases outcome with ⟨f, run⟩ | ⟨stamp, f, run, resolved⟩
    · exact ⟨w₁, kept₀.trans kept, .inl ⟨f, bind_of_error (first.trans run)⟩⟩
    · have kept₁ := kept₀.trans kept
      obtain ⟨w', kept', outcome⟩ := ih (ordinary.of_nothing kept₁.toKeeps)
        (fun e he => inside e (by simp [he]))
        (List.rel_append arePairs (.cons ⟨stamp, rfl⟩ .nil) :
          ArePairs (found ++ [.tuple stamp [e.2, .ref f]]) (pairs ++ [(e.2, f)]))
      refine ⟨w', kept₁.trans kept', ?_⟩
      rw [bind_of_ok (first.trans run)]
      refine outcome.imp_right fun ⟨items, more, runs, arePairs, rest⟩ => ?_
      exact ⟨items, (e.2, f) :: more, runs, by simpa using arePairs,
        .cons (resolved.before kept₀.toKeeps) (rest.imp fun _ _ => Resolved.before kept₁.toKeeps)⟩

/-- `_resolve_handlers` finds the handlers of the whole registry, or there is none for some
entry. -/
theorem resolveHandlers_eq (ordinary : Ordinary w i d r l) (depth : Nat) :
    ∃ w', Rests (.nothing d) w w' ∧
      ((∃ f, resolveHandlers (Host.ofDepth depth) (.object i) w = .error f w') ∨
        ∃ place items pairs,
          resolveHandlers (Host.ofDepth depth) (.object i) w = .ok (.ref (.list place)) w' ∧
          w'.lists[place]? = some items ∧ ArePairs items pairs ∧
          List.Forall₂ (Resolved (Host.ofDepth depth) w i d) l.entries pairs) := by
  have read := Host.attr_shows (h := Host.ofDepth depth) ordinary.usual ordinary.events
  cases depth with
  | zero =>
    obtain ⟨w', run, kept⟩ := Host.send_items_exhausted ordinary.standard ordinary.listing
    refine ⟨w', kept d, .inl ⟨.tooDeep, ?_⟩⟩
    rw [resolveHandlers, bind_of_ok read]
    exact bind_of_error (bind_of_error run)
  | succ depth =>
    obtain ⟨w₁, kept₁, -, fold⟩ := Host.foldEntries_eq
      (P := fun _ u => Rests (.nothing d) w u)
      (f := resolveEntry (Host.ofDepth (depth + 1)) (.object i)) ordinary.standard ordinary.sound
      ordinary.listing (fun _ u kept => (ordinary.of_nothing kept.toKeeps).listing)
      (fun _ u kept => kept.trans .later) (fun e he b u b' u' kept run => by
        obtain ⟨u₁, kept', outcome⟩ := resolveEntry_eq (h := Host.ofDepth (depth + 1))
          (ordinary.of_nothing kept.toKeeps) he b
        rcases outcome with ⟨f, failed⟩ | ⟨stamp, f, done, -⟩
        · simp [failed] at run
        · obtain ⟨-, rfl⟩ := EStateM.Result.ok.inj (done.symm.trans run)
          exact kept.trans kept') [] (fun _ kept _ => kept d) depth
    have kept₁ := kept₁ d
    obtain ⟨w₂, kept₂, outcome⟩ := foldlM_resolveEntry (h := Host.ofDepth (depth + 1))
      (ordinary.of_nothing kept₁.toKeeps) (fun _ he => he) (.nil : ArePairs [] [])
    rw [← fold] at outcome
    have kept₃ := kept₁.trans kept₂
    rcases outcome with ⟨f, failed⟩ | ⟨items, pairs, done, arePairs, resolved⟩
    · refine ⟨w₂, kept₃, .inl ⟨f, ?_⟩⟩
      rw [resolveHandlers, bind_of_ok read, bind_of_error failed]
    · refine ⟨_, kept₃.trans (.pushList items), .inr ⟨w₂.lists.size, items, pairs, ?_, by simp,
        by simpa using arePairs, resolved.imp fun _ _ => Resolved.before kept₁.toKeeps⟩⟩
      rw [resolveHandlers, bind_of_ok read, bind_of_ok done]
      rfl

end Task

end EventTasks
