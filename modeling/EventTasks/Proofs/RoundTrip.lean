import EventTasks.Proofs.Opening

/-!
An install and taking it back cancel out: whatever happens in between to everything but the emitter
and the books of the task, the emitter ends with the table it had. The attributes of the task under
other names, its name, its handlers and its registry among them, may be set and deleted meanwhile.
-/
namespace EventTasks

open Act

/-! Deleting attributes -/

namespace World

def dropText (w : World) (place : Nat) (n : String) : World :=
  { w with dicts := w.dicts.modify place (·.dropText n) }

structure Removable (w : World) (i : Nat) (n : String) : Prop where
  always : w.hook? (w.objectClassOf i) "__delattr__" = none
  above : ∀ e, w.definition? (w.objectClassOf i) n = some e → w.decidesChange e = false

end World

theorem Keeps.dropText {s : Scope} {w : World} {n : String} (hn : s.names n) :
    Keeps s w (w.dropText s.place n) :=
  changeText (fun D _ hm => Dictionary.text?_dropText D fun same => hm (same ▸ hn))
    fun _ h => h.dropText n

theorem Keeps.removable {s : Scope} {w w' : World} {i : Nat} {n : String} (kept : Keeps s w w')
    (hn : n ≠ "__annotations__") (removable : w.Removable i n) : w'.Removable i n where
  always := by
    rw [kept.objectClassOf, kept.hook? (by decide)]
    exact removable.always
  above e found := by
    rw [kept.objectClassOf, kept.definition? hn] at found
    rw [kept.decidesChange]
    exact removable.above e found

theorem Host.remove_eq {h : Host} {w : World} {i d : Nat} {n : String}
    (holds : w.Holds i d) (removable : w.Removable i n) : h.remove (.object i) n w =
      if ((w.dictAt d).text? n).isSome then .ok () (w.dropText d n)
      else .error (.unsettable (w.kindOf (.object i)) n) w := by
  have always : w.hookOf? (.object i) "__delattr__" = none := removable.always
  have own : h.remove (.object i) n w =
      (if ((w.dictAt d).text? n).isSome then modifyDict d (·.dropText n)
      else throw (.unsettable (w.kindOf (.object i)) n)) w := by
    show (h.ask? (.object i) "__delattr__" [.word n] >>= _) w = _
    rw [bind_run, ask?_of_none always]
    exact change_own holds removable.above none
  rw [own]
  split <;> rfl

theorem Host.remove_removable {h : Host} {w : World} {i d : Nat} {n : String}
    (holds : w.Holds i d) (removable : w.Removable i n) :
    h.remove (.object i) n w = .ok () (w.dropText d n) ∨
      ∃ f, h.remove (.object i) n w = .error f w := by
  rw [remove_eq holds removable]
  split
  · exact .inl rfl
  · exact .inr ⟨_, rfl⟩

namespace Task

/-- Between two worlds the emitter and the pairs of the task were left alone. -/
structure Undisturbed (w w' : World) (i d r e p : Nat) : Prop where
  emitter : w.IsEmitter r e p → w'.IsEmitter r e p
  table : w'.subscriptionsAt p = w.subscriptionsAt p
  plain : ∀ v : Value, v.Plain w → v.Plain w'
  usual : w.ReadsUsually i → w'.ReadsUsually i
  holds : w.Holds i d → w'.Holds i d
  settable : ∀ n ∈ [runnerField, subscriptionsField], w.Settable i n → w'.Settable i n
  books : w.Holds i d → ∀ n ∈ [runnerField, subscriptionsField], ∀ v, w.Shows i n v →
    w'.Shows i n v
  list : ∀ place items, w.Shows i subscriptionsField (.ref (.list place)) →
    w.lists[place]? = some items → w'.lists[place]? = some items

namespace Undisturbed

variable {w w' w'' : World} {i d r e p : Nat} {pairs : List (Value × Ref)}

theorem refl (w : World) (i d r e p : Nat) : Undisturbed w w i d r e p :=
  ⟨id, rfl, fun _ => id, id, id, fun _ _ => id, fun _ _ _ _ => id, fun _ _ _ => id⟩

theorem trans (here : w.Holds i d) (h : Undisturbed w w' i d r e p)
    (h' : Undisturbed w' w'' i d r e p) : Undisturbed w w'' i d r e p where
  emitter := h'.emitter ∘ h.emitter
  table := h'.table.trans h.table
  plain v := h'.plain v ∘ h.plain v
  usual := h'.usual ∘ h.usual
  holds := h'.holds ∘ h.holds
  settable n hn := h'.settable n hn ∘ h.settable n hn
  books holds n hn v := h'.books (h.holds holds) n hn v ∘ h.books holds n hn v
  list place items shows there := h'.list place items (h.books here _ (by simp) _ shows)
    (h.list place items shows there)

theorem of_keeps {s : Scope} (kept : Keeps s w w') (inside : p < w.tables.size)
    (outside : ∀ n ∈ [runnerField, subscriptionsField], d ≠ s.place ∨ ¬ s.names n)
    (spares : s.Spares e) (tables : ¬ s.tables p) : Undisturbed w w' i d r e p where
  emitter := kept.isEmitter spares
  table := kept.subscriptionsAt inside tables
  plain v := kept.plain.2
  usual := kept.readsUsually
  holds := kept.holds
  settable n hn := kept.settable (by
    rcases List.mem_cons.1 hn with rfl | hn
    · decide
    · rw [List.mem_singleton.1 hn]
      decide)
  books holds n hn v := kept.shows holds (outside n hn) (by
    rcases List.mem_cons.1 hn with rfl | hn
    · decide
    · rw [List.mem_singleton.1 hn]
      decide)
  list place items _ := kept.lists place items id

theorem installed (undisturbed : Undisturbed w w' i d r e p)
    (installed : Installed w i d r e p pairs) : Installed w' i d r e p pairs where
  usual := undisturbed.usual installed.usual
  holds := undisturbed.holds installed.holds
  settable n hn := undisturbed.settable n hn (installed.settable n hn)
  runner := undisturbed.books installed.holds _ (by simp) _ installed.runner
  kept := by
    obtain ⟨place, items, shows, list, arePairs⟩ := installed.kept
    exact ⟨place, items, undisturbed.books installed.holds _ (by simp) _ shows,
      undisturbed.list place items shows list, arePairs⟩
  plain q hq := undisturbed.plain _ (installed.plain q hq)
  keyed := installed.keyed
  emitter := undisturbed.emitter installed.emitter
  sound := by
    rw [undisturbed.table]
    exact installed.sound
  events c hc := undisturbed.plain _
    (installed.events c (by rwa [World.tableAt, undisturbed.table] at hc))

/-! Setting and deleting other attributes of the task -/

variable {h : Host} {n : String}

theorem of_change (kept : Keeps ⟨d, (· = n), fun _ => False⟩ w w') (inside : p < w.tables.size)
    (apart : e ≠ d) (other : n ∉ [runnerField, subscriptionsField]) : Undisturbed w w' i d r e p :=
  of_keeps kept inside (fun _ hm => .inr fun same => other (same ▸ hm)) (.inl apart) id

theorem assign (holds : w.Holds i d) (settable : w.Settable i n) (inside : p < w.tables.size)
    (apart : e ≠ d) (other : n ∉ [runnerField, subscriptionsField]) (v : Value) :
    Undisturbed w ((h.assign (.object i) n v).after w) i d r e p := by
  rw [after_of_ok (Host.assign_settable holds settable)]
  exact of_change (.putText rfl v) inside apart other

theorem remove (holds : w.Holds i d) (removable : w.Removable i n) (inside : p < w.tables.size)
    (apart : e ≠ d) (other : n ∉ [runnerField, subscriptionsField]) :
    Undisturbed w ((h.remove (.object i) n).after w) i d r e p := by
  rcases Host.remove_removable (h := h) holds removable with run | ⟨f, run⟩
  · rw [after_of_ok run]
    exact of_change (.dropText rfl) inside apart other
  · rw [after_of_error run]
    exact refl w i d r e p

end Undisturbed

variable {w w₁ w₂ : World} {i d r e p : Nat} {reg : Ref} {l : Listing} {options flag v : Value}

/-- The emitter has the table that it had first, and the task has neither runner nor pairs. -/
structure Restored (w w' : World) (i r e p : Nat) : Prop where
  table : w'.tableAt p = w.tableAt p
  serves : w'.Serves r e p
  idle : Idle w' i

def IsNameless (w : World) (i : Nat) : Prop :=
  (w.attributesOf i).text? "name" = none ∧ w.definition? (w.objectClassOf i) "name" = none

theorem IsNameless.of_books (nameless : IsNameless w i) (holds : w.Holds i d)
    (kept : Keeps (.books d p) w w₁) : IsNameless w₁ i := by
  have other : ¬ (Scope.books d p).names "name" := by
    simp [Scope.books, runnerField, subscriptionsField]
  refine ⟨?_, ?_⟩
  · rw [kept.own holds (.inr other)]
    exact nameless.1
  · rw [kept.objectClassOf, kept.definition? (by decide)]
    exact nameless.2

theorem farewell_nameless {h : Host} (usual : w.ReadsUsually i) (nameless : IsNameless w i) :
    ∃ f, farewell h (.object i) w = .error f w := by
  have missing : h.attr (.object i) "name" w = .error (w.missing (.object i) "name") w := by
    rw [Host.attr_eq_usual usual, Host.usualAttribute, bind_run]
    simp only [get_run, Value.object, Value.objectPlace?, World.classOf, World.classOfRef,
      nameless.1, nameless.2, throw_run]
  refine ⟨w.missing (.object i) "name", ?_⟩
  rw [farewell, nameText]
  exact bind_of_error (bind_of_error missing)

/-- Whatever a task is named, handles and registers when it is destroyed, `destroy` restores the
table that its emitter had before `install`, if others left emitter and pairs alone. The name is
only used for the last message; without one `destroy` fails there, and the table is restored all the
same. -/
theorem destroy_restores (reachable : Emitter.Reachable r e p w)
    (offersRunner : OffersRunner w i d reg l options flag r e) {depth : Nat}
    (done : install (Host.ofDepth depth) (.object i) options w = .ok v w₁)
    (undisturbed : Undisturbed w₁ w₂ i d r e p) (k : Nat) :
    ∃ w₃, destroy (Host.ofDepth (k + 1)) (.object i) w₂ =
        farewell (Host.ofDepth (k + 1)) (.object i) w₃ ∧
      Restored w w₃ i r e p ∧
      (IsNamed w₂ i → ∃ w₄, destroy (Host.ofDepth (k + 1)) (.object i) w₂ = .ok .nothing w₄ ∧
        Restored w w₄ i r e p) ∧
      (IsNameless w₂ i → ∃ f, destroy (Host.ofDepth (k + 1)) (.object i) w₂ = .error f w₃) := by
  have offersEmitter : OffersEmitter w i d reg l options flag r e p :=
    { offersRunner with serves := reachable.serves }
  obtain ⟨rfl, pairs, handed, installed⟩ := install_done offersEmitter done
  have installed₂ := undisturbed.installed installed
  have restores {w' : World} (idle : Idle w' i) (serves : w'.Serves r e p)
      (table : w'.tableAt p = (w₂.tableAt p).unsubscribeAll (Task.handed pairs)) :
      Restored w w' i r e p := by
    have same : w₂.tableAt p = w₁.tableAt p := congrArg Subscriptions.table undisturbed.table
    rw [same, handed.table] at table
    exact ⟨table.trans (Table.unsubscribeAll_subscribeAll offersEmitter.serves.sound.table _),
      serves, idle⟩
  obtain ⟨w₃, run, kept, idle, sound, events, table⟩ := destroy_eq installed₂ k
  have emitter₃ := kept.isEmitter (.inl offersRunner.apart) installed₂.emitter
  refine ⟨w₃, run, restores idle ⟨emitter₃, sound, events⟩ table, fun named => ?_,
    fun nameless => ?_⟩
  · obtain ⟨w₄, run₄, -, idle₄, serves₄, table₄⟩ := destroy_ok installed₂ offersRunner.apart named k
    exact ⟨w₄, run₄, restores idle₄ serves₄ table₄⟩
  · obtain ⟨f, failed⟩ := farewell_nameless (h := Host.ofDepth (k + 1))
      (kept.readsUsually installed₂.usual) (nameless.of_books installed₂.holds kept.toKeeps)
    exact ⟨f, run.trans failed⟩

/-- A task that was just made is installed on the emitter that was made with it. -/
theorem installed_rules : ∃ w pairs, install (Host.ofDepth 5) (.object Opening.task)
      (.options 0 (.object Opening.emitter) (some false)) (World.opening Opening.rules) =
        .ok .nothing w ∧
    Handed (World.opening Opening.rules) w 5 Opening.task 1 (.dict 3)
      (Opening.listing Opening.rules)
      (.options 0 (.object Opening.emitter) (some false)) Opening.emitter 2 0 pairs ∧
    Installed w Opening.task 1 Opening.emitter 2 0 pairs := by
  obtain ⟨v, w, done⟩ : ∃ v w, install (Host.ofDepth 5) (.object Opening.task)
      (.options 0 (.object Opening.emitter) (some false)) (World.opening Opening.rules) = .ok v w :=
    exists_of_succeeds (by decide +kernel)
  obtain ⟨rfl, pairs, handed, installed⟩ :=
    install_done { Opening.offersRunner_rules with serves := Opening.reachable.serves } done
  exact ⟨w, pairs, done, handed, installed⟩

/-- A task is installed, its handler is set to nothing, and it is destroyed. -/
theorem destroy_restores_rules : ∃ v w₁ w₂ w₃,
    install (Host.ofDepth 5) (.object Opening.task)
      (.options 0 (.object Opening.emitter) (some false))
      (World.opening Opening.rules) = .ok v w₁ ∧
    (Host.ofDepth 5).assign (.object Opening.task) "on_rule" .nothing w₁ = .ok () w₂ ∧
    destroy (Host.ofDepth 5) (.object Opening.task) w₂ = .ok .nothing w₃ ∧
    Restored (World.opening Opening.rules) w₃ Opening.task Opening.emitter 2 0 := by
  have offersRunner := Opening.offersRunner_rules
  obtain ⟨w₁, pairs, done, handed, installed⟩ := installed_rules
  have settable : w₁.Settable Opening.task "on_rule" := by
    refine handed.keeps.settable (by decide) ⟨by decide, fun e found => ?_⟩
    obtain rfl := Option.some.inj found
    rfl
  have set := Host.assign_settable (h := Host.ofDepth 5) (v := .nothing) installed.holds settable
  have undisturbed := Undisturbed.assign (h := Host.ofDepth 5) (r := Opening.emitter)
    installed.holds settable
    installed.emitter.inside offersRunner.apart (by decide) .nothing
  rw [after_of_ok set] at undisturbed
  have named : IsNamed (w₁.putText 1 "on_rule" .nothing) Opening.task := by
    obtain ⟨name, simple, shows⟩ := handed.ordinary.named
    have kept : Keeps ⟨1, (· = "on_rule"), fun _ => False⟩ w₁ _ := .putText rfl .nothing
    exact ⟨name, simple, kept.shows installed.holds (.inr (by decide)) (by decide) shows⟩
  obtain ⟨-, -, -, restored, -⟩ :=
    destroy_restores Opening.reachable offersRunner done undisturbed 4
  obtain ⟨w₃, destroyed, restored⟩ := restored named
  exact ⟨_, w₁, _, w₃, done, set, destroyed, restored⟩

end Task

end EventTasks
