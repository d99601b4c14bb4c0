import EventTasks.Proofs.RoundTrip

/-!
An install that fails. Either nothing has changed, or the task can be destroyed and the emitter has
its former table again, with one exception: if an identifier of the registry cannot be looked up and
the first one can, then the handlers before it are subscribed and no books are kept of them.
-/
namespace EventTasks

open Act

theorem World.Shows.unique {w : World} {i : Nat} {n : String} {v v' : Value}
    (shows : w.Shows i n v) (shows' : w.Shows i n v') : v = v' := by
  rcases shows with ⟨own, -⟩ | ⟨own, entry, -⟩ <;> rcases shows' with ⟨own', -⟩ | ⟨own', entry', -⟩
  · exact Option.some.inj (own.symm.trans own')
  · simp [own] at own'
  · simp [own] at own'
  · exact Option.some.inj (entry.symm.trans entry')

theorem Table.subscribeAll_ne {pairs : List Table.Subscription} (some : pairs ≠ []) (t : Table) :
    t.subscribeAll pairs ≠ t := by
  obtain ⟨first, rest, rfl⟩ := List.exists_cons_of_ne_nil some
  intro same
  have longer := Table.listeners_subscribeAll t (first :: rest) first.1.key
  rw [same, Table.handlersFor_cons, if_pos rfl] at longer
  simpa using congrArg List.length longer

namespace Task

variable {w w' : World} {i d r e p : Nat} {reg : Ref} {l : Listing} {options flag : Value}
  {pairs : List (Value × Ref)}

def Splits : List Value → Prop
  | [] => False
  | first :: rest => (∃ k, first.key = .ok k) ∧ ∃ v ∈ rest, ∃ kind, v.key = .error kind

theorem events_of_resolved {h : Host} {entries : List (Value × Value)}
    (resolved : List.Forall₂ (Resolved h w i d) entries pairs) :
    pairs.map Prod.fst = entries.map Prod.snd := by
  induction resolved with
  | nil => rfl
  | cons first _ ih => simp [first.event, ih]

/-- Where a pair is refused, others are subscribed before it if the identifiers split. -/
theorem splits_iff {kind : String} (refusal : refused pairs = some kind) :
    Splits (pairs.map Prod.fst) ↔ handed pairs ≠ [] := by
  cases pairs with
  | nil => simp [refused] at refusal
  | cons first rest =>
    obtain ⟨event, f⟩ := first
    cases key : event.key with
    | error kind' => simp [Splits, handed, key]
    | ok k =>
      have later : refused rest = some kind := by simpa [refused, key] using refusal
      obtain ⟨q, found, failed⟩ := mem_of_refused later
      have among : ∃ v ∈ rest.map Prod.fst, ∃ kind, v.key = .error kind :=
        ⟨q.1, List.mem_map_of_mem found, kind, failed⟩
      simp only [List.map_cons, Splits, handed, key]
      exact ⟨fun _ => by simp, fun _ => ⟨⟨k, rfl⟩, among⟩⟩

theorem not_splits (keyed : refused pairs = none) : ¬ Splits (pairs.map Prod.fst) := by
  cases pairs with
  | nil => exact id
  | cons first rest =>
    rintro ⟨-, v, found, kind, failed⟩
    obtain ⟨q, hq, rfl⟩ := List.mem_map.1 found
    obtain ⟨k, key⟩ := key_of_refused keyed (List.mem_cons_of_mem _ hq)
    simp [failed] at key

/-- After a failed install nothing is left of it, or nothing is left once the task is destroyed. -/
def Recovers (w w' : World) (k i p : Nat) : Prop :=
  (w'.Shows i runnerField .nothing ∧ w'.tableAt p = w.tableAt p) ∨
    ∃ w'', destroy (Host.ofDepth (k + 1)) (.object i) w' = .ok .nothing w'' ∧
      w''.tableAt p = w.tableAt p

def Leaks (w : World) (depth i : Nat) (l : Listing) (options : Value) : Prop :=
  (∃ v w₁, checked (Host.ofDepth depth) (.object i) options w = .ok v w₁) ∧
    Splits (l.entries.map Prod.snd)

theorem installed_of_refused {depth : Nat} (idle : Idle w i)
    (handed : Handed w w' depth i d reg l options r e p pairs)
    (runner : w'.Shows i runnerField (.object r))
    (books : ∀ v, w.Shows i subscriptionsField v → w'.Shows i subscriptionsField v) :
    Installed w' i d r e p [] where
  toServes := handed.serves
  usual := handed.ordinary.usual
  holds := handed.ordinary.holds
  settable := handed.ordinary.settable
  runner := runner
  kept := by
    obtain ⟨place, shows, list⟩ := idle.kept
    exact ⟨place, [], books _ shows, handed.keeps.lists _ _ id list, .nil⟩
  plain := by simp
  keyed := rfl

/-- What a failed install of an idle task leaves behind. -/
inductive Remains (w w' : World) (depth i d : Nat) (l : Listing) (options : Value) (r e p : Nat) :
    Prop where
  | nothing (checks : ∀ v w₁, checked (Host.ofDepth depth) (.object i) options w ≠ .ok v w₁)
    (idle : Idle w' i) (table : w'.tableAt p = w.tableAt p)
  | books {pairs : List (Value × Ref)} (whole : ¬ Splits (l.entries.map Prod.snd))
    (installed : Installed w' i d r e p pairs) (named : IsNamed w' i)
    (table : w'.tableAt p = (w.tableAt p).subscribeAll (handed pairs))
  | handlers {pairs : List (Value × Ref)}
    (checks : ∃ v w₁, checked (Host.ofDepth depth) (.object i) options w = .ok v w₁)
    (resolved : ∃ k, List.Forall₂ (Resolved (Host.ofDepth k) w i d) l.entries pairs)
    (installed : Installed w' i d r e p []) (named : IsNamed w' i)
    (splits : Splits (l.entries.map Prod.snd)) (some : handed pairs ≠ [])
    (table : w'.tableAt p = (w.tableAt p).subscribeAll (handed pairs))

theorem remains_of_error {depth : Nat} {f : Fault}
    (offersEmitter : OffersEmitter w i d reg l options flag r e p)
    (idle : Idle w i) (failed : install (Host.ofDepth depth) (.object i) options w = .error f w') :
    Remains w w' depth i d l options r e p := by
  have ends := install_ends offersEmitter depth
  rw [failed] at ends
  cases ends with
  | unchecked f keeps failed =>
    refine .nothing (fun v w₁ passed => by simp [failed] at passed)
      (idle.of_keeps offersEmitter.ordinary.holds keeps fun _ _ => .inr id) ?_
    exact congrArg Subscriptions.table
      (keeps.subscriptionsAt offersEmitter.serves.emitter.inside id)
  | @refused _ pairs kind handed refusal runner books =>
    obtain ⟨k, -, resolved⟩ := handed.resolved
    have events := events_of_resolved resolved
    have installed := installed_of_refused idle handed runner books
    have named := handed.ordinary.named
    by_cases some : Task.handed pairs = []
    · refine .books (fun splits => (splits_iff refusal).1 (events ▸ splits) some) installed named ?_
      rw [handed.table, some]
      rfl
    · obtain ⟨_, _, _, _, w₁, run, -, -⟩ := handed.resolves
      exact .handlers ⟨_, w₁, run⟩ ⟨k, resolved⟩ installed named
        (events ▸ (splits_iff refusal).2 some) some handed.table
  | failed f handed installed =>
    obtain ⟨k, -, resolved⟩ := handed.resolved
    refine .books (fun splits => ?_) installed handed.ordinary.named handed.table
    exact not_splits installed.keyed (events_of_resolved resolved ▸ splits)

/-- A failed install of an idle task leaves something that `destroy` does not undo exactly if the
checks pass, the first identifier of the registry is hashable and a later one is not. Then the
handlers of the identifiers before the unhashable one stay subscribed, with no pairs on record. -/
theorem recovers_iff (reachable : Emitter.Reachable r e p w)
    (offersRunner : OffersRunner w i d reg l options flag r e) (idle : Idle w i)
    {depth : Nat} {f : Fault}
    (failed : install (Host.ofDepth depth) (.object i) options w = .error f w') (k : Nat) :
    (Recovers w w' k i p ↔ ¬ Leaks w depth i l options) ∧
      (Leaks w depth i l options → ∃ w'' pairs k',
        destroy (Host.ofDepth (k + 1)) (.object i) w' = .ok .nothing w'' ∧ Idle w'' i ∧
        List.Forall₂ (Resolved (Host.ofDepth k') w i d) l.entries pairs ∧ handed pairs ≠ [] ∧
        w''.tableAt p = (w.tableAt p).subscribeAll (handed pairs)) := by
  have offersEmitter : OffersEmitter w i d reg l options flag r e p :=
    { offersRunner with serves := reachable.serves }
  cases remains_of_error offersEmitter idle failed with
  | nothing checks idle' table =>
    have sound : ¬ Leaks w depth i l options := fun ⟨⟨v, w₁, passed⟩, _⟩ => checks v w₁ passed
    exact ⟨⟨fun _ => sound, fun _ => .inl ⟨idle'.runner, table⟩⟩, fun leaks => absurd leaks sound⟩
  | books whole installed named table =>
    have sound : ¬ Leaks w depth i l options := fun leaks => whole leaks.2
    obtain ⟨w'', run, -, -, -, table'⟩ := destroy_ok installed offersRunner.apart named k
    have restored : w''.tableAt p = w.tableAt p := by
      rw [table', table]
      exact Table.unsubscribeAll_subscribeAll offersEmitter.serves.sound.table _
    exact ⟨⟨fun _ => sound, fun _ => .inr ⟨w'', run, restored⟩⟩, fun leaks => absurd leaks sound⟩
  | @handlers pairs checks resolved installed named splits some table =>
    obtain ⟨k', resolved⟩ := resolved
    obtain ⟨w'', run, -, idle'', -, table'⟩ := destroy_ok installed offersRunner.apart named k
    have left : w''.tableAt p = (w.tableAt p).subscribeAll (handed pairs) := table'.trans table
    refine ⟨⟨fun recovers => ?_, fun sound => absurd ⟨checks, splits⟩ sound⟩, fun _ =>
      ⟨w'', pairs, k', run, idle'', resolved, some, left⟩⟩
    rcases recovers with ⟨shows, -⟩ | ⟨u, run', table⟩
    · exact absurd (shows.unique installed.runner) (by simp [Value.object])
    · obtain ⟨-, rfl⟩ := EStateM.Result.ok.inj (run.symm.trans run')
      exact absurd (left.symm.trans table) (Table.subscribeAll_ne some _)

/-- The second identifier is unhashable: the handler of the first one stays subscribed for good. -/
theorem not_recovers_tangled : ∃ f w₁ w₂,
    install (Host.ofDepth 5) (.object Opening.task)
      (.options 0 (.object Opening.emitter) (some false))
      (World.opening Opening.tangled) = .error f w₁ ∧
    ¬ Recovers (World.opening Opening.tangled) w₁ 4 Opening.task 0 ∧
    destroy (Host.ofDepth 5) (.object Opening.task) w₁ = .ok .nothing w₂ ∧
    Idle w₂ Opening.task ∧ w₂.tableAt 0 ≠ (World.opening Opening.tangled).tableAt 0 := by
  obtain ⟨f, w₁, failed⟩ : ∃ f w₁, install (Host.ofDepth 5) (.object Opening.task)
      (.options 0 (.object Opening.emitter) (some false)) (World.opening Opening.tangled) =
        .error f w₁ := exists_of_not_succeeds (by decide +kernel)
  have leaks : Leaks (World.opening Opening.tangled) 5 Opening.task
      (Opening.listing Opening.tangled) (.options 0 (.object Opening.emitter) (some false)) := by
    refine ⟨exists_of_succeeds (by decide +kernel), ⟨_, rfl⟩, .ref (.dict 3), ?_, _, rfl⟩
    exact List.mem_singleton_self _
  obtain ⟨recovers, left⟩ :=
    recovers_iff Opening.reachable Opening.offersRunner_tangled Opening.idle failed 4
  obtain ⟨w₂, pairs, _, destroyed, idle, _, some, table⟩ := left leaks
  refine ⟨f, w₁, w₂, failed, fun sound => recovers.1 sound leaks, destroyed, idle, ?_⟩
  rw [table]
  exact Table.subscribeAll_ne some _

end Task

end EventTasks
