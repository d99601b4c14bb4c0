import EventTasks.Proofs.RoundTrip

/-!
A runner that falters: asked to take a handler back, it may fail instead. Destroying the task then
fails in the middle, with some of its pairs taken back already, and can be tried again. The books
are kept until all pairs are gone through, so every attempt begins with the first pair again, and
handlers that are gone already are taken back once more. This does no harm where the task's pairs
are all that the runner has of them.
-/
namespace EventTasks

open Act

/-! Taking back more than once -/

/-- Handlers all of whose copies go in the end may be taken back before, as often as one likes. -/
theorem removeAll_append_of_subset {before hs l : List Ref} (sub : ∀ a ∈ before, a ∈ hs)
    (often : ∀ a ∈ hs, l.count a ≤ hs.count a) : removeAll (before ++ hs) l = removeAll hs l := by
  rw [removeAll_eq_firstCopies, removeAll_eq_firstCopies]
  congr 1
  funext a
  rw [List.count_append]
  by_cases named : a ∈ hs
  · have few := often a named
    omega
  · have absent : a ∉ before := fun inside => named (sub a inside)
    rw [List.count_eq_zero.2 absent, Nat.zero_add]

/-- Subscriptions that are all that a table has of them may be taken back before, in part and
repeatedly. -/
theorem Table.unsubscribeAll_append_of_subset {t : Table} (sound : t.Sound)
    {before pairs : List Subscription} (sub : ∀ q ∈ before, q ∈ pairs)
    (often : ∀ q ∈ pairs, (t.listeners q.1.key).count q.2 ≤ (handlersFor pairs q.1.key).count q.2) :
    t.unsubscribeAll (before ++ pairs) = t.unsubscribeAll pairs := by
  rw [unsubscribeAll_eq_trim sound, unsubscribeAll_eq_trim sound]
  congr 1
  apply List.map_congr_left
  intro c inside
  have handlers := handlers_eq_listeners sound.distinct inside
  rw [lessen, lessen, handlersFor_append, removeAll_append_of_subset]
  · intro a ha
    obtain ⟨topic, found, key⟩ := mem_handlersFor.1 ha
    exact mem_handlersFor.2 ⟨topic, sub _ found, key⟩
  · intro a ha
    obtain ⟨topic, found, key⟩ := mem_handlersFor.1 ha
    have few := often _ found
    rwa [key, handlers] at few

namespace Task

/-! One attempt -/

/-- How `off` of the runner at `r` goes for some pairs when it may raise instead of acting: the
pairs taken back, the fault, if one ends this, and the last world. -/
inductive Withdraws (h : Host) (d r p : Nat) :
    List (Value × Ref) → World → List (Value × Ref) → Option Fault → World → Prop where
  | through (w : World) : Withdraws h d r p [] w [] none w
  | acts {event : Value} {k : Key} {f : Ref} {pairs taken : List (Value × Ref)}
    {fault : Option Fault}
    {a : Value} {u v w : World} (key : event.key = .ok k)
    (run : h.send (.object r) "off" [event, .ref f] u = .ok a v) (kept : Keeps (.table d p) u v)
    (table : v.tableAt p = (u.tableAt p).unsubscribe k f)
    (further : Withdraws h d r p pairs v taken fault w) :
    Withdraws h d r p ((event, f) :: pairs) u ((event, f) :: taken) fault w
  | fails {event : Value} {f : Ref} {fault : Fault} {u v : World} (pairs : List (Value × Ref))
    (run : h.send (.object r) "off" [event, .ref f] u = .error fault v)
    (kept : Keeps (.nothing d) u v) :
    Withdraws h d r p ((event, f) :: pairs) u [] (some fault) v

variable {h : Host} {u v w : World} {i d r e p : Nat} {pairs taken : List (Value × Ref)}
  {fault : Option Fault}

namespace Withdraws

theorem keeps (withdraws : Withdraws h d r p pairs w taken fault v) : Keeps (.table d p) w v := by
  induction withdraws with
  | through w => exact .refl _ w
  | acts key run kept table further ih => exact kept.trans ih
  | fails pairs run kept => exact kept.of_nothing

theorem handed_subset (withdraws : Withdraws h d r p pairs w taken fault v) :
    handed taken ⊆ handed pairs := by
  induction withdraws with
  | through w => exact List.Subset.refl _
  | acts key run kept table further ih =>
    simp only [handed, key]
    exact List.cons_subset_cons _ ih
  | fails pairs run kept => exact List.nil_subset _

theorem table (withdraws : Withdraws h d r p pairs w taken fault v) (inside : p < w.tables.size) :
    v.tableAt p = (w.tableAt p).unsubscribeAll (handed taken) := by
  induction withdraws with
  | through w => rfl
  | acts key run kept table further ih =>
    rw [ih (Nat.lt_of_lt_of_le inside kept.tablesSize), table]
    simp only [handed, key]
    rfl
  | fails pairs run kept => exact congrArg Subscriptions.table (kept.subscriptionsAt inside id)

def ending (fault : Option Fault) (w : World) : EStateM.Result Fault World Unit :=
  match fault with
  | none => .ok () w
  | some f => .error f w

theorem foldlM (withdraws : Withdraws h d r p pairs w taken fault v) {items : List Value}
    (arePairs : ArePairs items pairs) (usual : w.ReadsUsually i) (holds : w.Holds i d)
    (runner : w.Shows i runnerField (.object r)) :
    items.foldlM (handOne h (.object i) "off") () w = ending fault v := by
  induction withdraws generalizing items with
  | through w =>
    cases arePairs
    rfl
  | acts key run kept table further ih =>
    cases arePairs with
    | cons first rest =>
      obtain ⟨stamp, rfl⟩ := first
      have more := ih rest (kept.readsUsually usual) (kept.holds holds)
        (kept.shows holds (.inr id) (by decide) runner)
      rw [List.foldlM_cons, bind_run, handOne_eq usual runner, map_run, run]
      exact more
  | fails pairs run kept =>
    cases arePairs with
    | cons first rest =>
      obtain ⟨stamp, rfl⟩ := first
      rw [List.foldlM_cons, bind_run, handOne_eq usual runner, map_run, run]
      rfl

theorem take (withdraws : Withdraws h d r p pairs w taken fault v) (m : Nat) :
    ∃ taken' fault' v', Withdraws h d r p (pairs.take m) w taken' fault' v' := by
  induction withdraws generalizing m with
  | through w => exact ⟨[], none, w, by simpa using .through w⟩
  | @acts event k f pairs taken fault a u v w key run kept table further ih =>
    cases m with
    | zero => exact ⟨[], none, u, .through u⟩
    | succ m =>
      obtain ⟨taken', fault', v', rest⟩ := ih m
      exact ⟨_, fault', v', .acts key run kept table rest⟩
  | @fails event f fault u v pairs run kept =>
    cases m with
    | zero => exact ⟨[], none, u, .through u⟩
    | succ m => exact ⟨[], some fault, v, .fails (pairs.take m) run kept⟩

theorem handOver (withdraws : Withdraws h d r p pairs w taken fault v) {place : Nat}
    {items : List Value}
    (list : w.lists[place]? = some items) (arePairs : ArePairs items pairs)
    (usual : w.ReadsUsually i)
    (holds : w.Holds i d) (runner : w.Shows i runnerField (.object r)) :
    handOver h (.object i) "off" (.ref (.list place)) w = ending fault v := by
  rw [Task.handOver, Host.foldItems_list_of_run]
  · exact withdraws.foldlM arePairs usual holds runner
  · -- whichever pair comes next, what was done so far has left the list alone
    intro m b' w' run
    obtain ⟨taken', fault', v', front⟩ := withdraws.take m
    have same := front.foldlM (List.forall₂_take m arePairs) usual holds runner
    cases fault' with
    | some f => cases run.symm.trans same
    | none =>
      obtain ⟨-, rfl⟩ := EStateM.Result.ok.inj (run.symm.trans same)
      exact front.keeps.lists _ _ id list

end Withdraws

theorem Engaged.withdraws (engaged : Engaged w i d r e p) (plain : ∀ q ∈ pairs, q.1.Plain w)
    (keyed : refused pairs = none) (k : Nat) :
    ∃ v, Withdraws (Host.ofDepth (k + 1)) d r p pairs w pairs none v := by
  induction pairs generalizing w with
  | nil => exact ⟨w, .through w⟩
  | cons q pairs ih =>
    obtain ⟨event, f⟩ := q
    obtain ⟨key, known⟩ := key_of_refused keyed List.mem_cons_self
    obtain ⟨u, run, kept, serves, table⟩ := Emitter.send_off engaged.toServes
      (plain _ List.mem_cons_self) known f k d
    obtain ⟨v, further⟩ := ih (engaged.of_keeps kept.toKeeps serves)
      (fun q found => kept.plain.2 (plain q (List.mem_cons_of_mem _ found)))
      (by simpa [refused, known] using keyed)
    exact ⟨v, .acts known run kept.toKeeps table further⟩

theorem Enrolled.withdrawing (enrolled : Enrolled w i d r pairs)
    (withdraws : Withdraws h d r p pairs w taken fault v) : Enrolled v i d r pairs :=
  enrolled.of_keeps withdraws.keeps fun _ _ => .inr id

/-- If `off` of the runner raises, `destroy` fails with that fault, and the runner and the pairs
stay. -/
theorem destroy_falters {f : Fault} (enrolled : Enrolled w i d r pairs)
    (withdraws : Withdraws h d r p pairs w taken (some f) v) :
    destroy h (.object i) w = .error f v := by
  obtain ⟨place, items, shows, list, arePairs⟩ := enrolled.kept
  have failed := withdraws.handOver list arePairs enrolled.usual enrolled.holds enrolled.runner
  rw [destroy_shows enrolled.usual enrolled.runner rfl]
  exact bind_of_error ((unsubscribe_shows enrolled.usual shows).trans (bind_of_error failed))

/-- If the runner takes back all pairs, the task forgets them and the runner. -/
theorem destroy_through (enrolled : Enrolled w i d r pairs)
    (withdraws : Withdraws h d r p pairs w taken none v) :
    ∃ u, destroy h (.object i) w = farewell h (.object i) u ∧ Rests (.books d p) v u ∧ Idle u i ∧
      u.tables = v.tables := by
  obtain ⟨place, items, shows, list, arePairs⟩ := enrolled.kept
  have done := withdraws.handOver list arePairs enrolled.usual enrolled.holds enrolled.runner
  have enrolled' := enrolled.withdrawing withdraws
  obtain ⟨u, run, rests⟩ := forget_eq (h := h) enrolled'.holds enrolled'.settable p
  refine ⟨u, ?_, rests⟩
  rw [destroy_shows enrolled.usual enrolled.runner rfl]
  exact bind_of_ok ((unsubscribe_shows enrolled.usual shows).trans ((bind_of_ok done).trans run))

/-! Many attempts -/

/-- Failed attempts to destroy a task. Between two of them anything may happen but to the task's
attributes and to the table. -/
inductive Falters (d r p : Nat) (pairs : List (Value × Ref)) : World → World → Prop where
  | untried (w : World) : Falters d r p pairs w w
  | again {h : Host} {f : Fault} {taken : List (Value × Ref)} {u v w : World}
    (before : Falters d r p pairs u v) (attempt : Withdraws h d r p pairs v taken (some f) w) :
    Falters d r p pairs u w
  | meanwhile {s : Scope} {u v w : World} (before : Falters d r p pairs u v) (kept : Keeps s v w)
    (elsewhere : d ≠ s.place) (apart : ¬ s.tables p) : Falters d r p pairs u w

namespace Falters

theorem enrolled (falters : Falters d r p pairs w u) (enrolled : Enrolled w i d r pairs) :
    Enrolled u i d r pairs := by
  induction falters with
  | untried w => exact enrolled
  | again before attempt ih => exact (ih enrolled).withdrawing attempt
  | meanwhile before kept elsewhere apart ih =>
    exact (ih enrolled).of_keeps kept fun _ _ => .inl elsewhere

theorem tablesSize (falters : Falters d r p pairs w u) : w.tables.size ≤ u.tables.size := by
  induction falters with
  | untried w => exact Nat.le_refl _
  | again before attempt ih => exact ih.trans attempt.keeps.tablesSize
  | meanwhile before kept elsewhere apart ih => exact ih.trans kept.tablesSize

theorem own (falters : Falters d r p pairs w u) (holds : w.Holds i d) :
    u.Holds i d ∧ ∀ n, (u.attributesOf i).text? n = (w.attributesOf i).text? n := by
  induction falters with
  | untried w => exact ⟨holds, fun _ => rfl⟩
  | again before attempt ih =>
    obtain ⟨here, same⟩ := ih holds
    exact ⟨attempt.keeps.holds here, fun n => (attempt.keeps.own here (.inr id)).trans (same n)⟩
  | meanwhile before kept elsewhere apart ih =>
    obtain ⟨here, same⟩ := ih holds
    exact ⟨kept.holds here, fun n => (kept.own here (.inl elsewhere)).trans (same n)⟩

theorem isNamed (falters : Falters d r p pairs w u) (holds : w.Holds i d) (named : IsNamed w i) :
    IsNamed u i := by
  induction falters with
  | untried w => exact named
  | again before attempt ih =>
    obtain ⟨name, simple, shows⟩ := ih holds named
    exact ⟨name, simple, attempt.keeps.shows (before.own holds).1 (.inr id) (by decide) shows⟩
  | meanwhile before kept elsewhere apart ih =>
    obtain ⟨name, simple, shows⟩ := ih holds named
    exact ⟨name, simple, kept.shows (before.own holds).1 (.inl elsewhere) (by decide) shows⟩

theorem table (falters : Falters d r p pairs w u) (inside : p < w.tables.size) :
    ∃ before, (∀ q ∈ before, q ∈ handed pairs) ∧
      u.tableAt p = (w.tableAt p).unsubscribeAll before := by
  induction falters with
  | untried w => exact ⟨[], by simp, rfl⟩
  | @again h f taken u v w first attempt ih =>
    obtain ⟨before, among, lost⟩ := ih inside
    refine ⟨before ++ handed taken, ?_, ?_⟩
    · intro q found
      rcases List.mem_append.1 found with found | found
      · exact among q found
      · exact attempt.handed_subset found
    · rw [attempt.table (Nat.lt_of_lt_of_le inside first.tablesSize), lost,
        Table.unsubscribeAll_append]
  | meanwhile first kept elsewhere apart ih =>
    obtain ⟨before, among, lost⟩ := ih inside
    refine ⟨before, among, Eq.trans ?_ lost⟩
    exact congrArg Subscriptions.table
      (kept.subscriptionsAt (Nat.lt_of_lt_of_le inside first.tablesSize) apart)

end Falters

structure Withdrawn (i p : Nat) (pairs : List (Value × Ref)) (w u : World) : Prop where
  table : u.tableAt p = (w.tableAt p).unsubscribeAll (handed pairs)
  idle : Idle u i
  others : ∀ n, n ≠ runnerField → n ≠ subscriptionsField →
    (u.attributesOf i).text? n = (w.attributesOf i).text? n

/-- Two worlds in which a destroy has left the same: the same table, a task without runner and
pairs, its other attributes the same. -/
structure SameEnd (i p : Nat) (u v : World) : Prop where
  table : u.tableAt p = v.tableAt p
  idle : Idle u i ∧ Idle v i
  others : ∀ n, n ≠ runnerField → n ≠ subscriptionsField →
    (u.attributesOf i).text? n = (v.attributesOf i).text? n

theorem Withdrawn.sameEnd (withdrawn : Withdrawn i p pairs w u)
    (withdrawn' : Withdrawn i p pairs w v) :
    SameEnd i p u v where
  table := withdrawn.table.trans withdrawn'.table.symm
  idle := ⟨withdrawn.idle, withdrawn'.idle⟩
  others n hr hs := (withdrawn.others n hr hs).trans (withdrawn'.others n hr hs).symm

def NoMore (w : World) (p : Nat) (pairs : List (Value × Ref)) : Prop :=
  ∀ q ∈ handed pairs, ((w.tableAt p).listeners q.1.key).count q.2 ≤
    (Table.handlersFor (handed pairs) q.1.key).count q.2

/-- However often it was tried before, the first destroy that goes through leaves what one on the
first try would have left. A task with a simple name is told of without fail. -/
theorem Falters.destroys (falters : Falters d r p pairs w u) (enrolled : Enrolled w i d r pairs)
    (inside : p < w.tables.size) (sound : (w.tableAt p).Sound) (noMore : NoMore w p pairs)
    (withdraws : Withdraws h d r p pairs u pairs none v) :
    ∃ x, destroy h (.object i) u = farewell h (.object i) x ∧ Withdrawn i p pairs w x ∧
      (IsNamed w i → ∃ y, destroy h (.object i) u = .ok .nothing y ∧ Withdrawn i p pairs w y) := by
  have enrolled' : Enrolled u i d r pairs := falters.enrolled enrolled
  have inside' : p < u.tables.size := Nat.lt_of_lt_of_le inside falters.tablesSize
  obtain ⟨before, among, lost⟩ := falters.table inside
  obtain ⟨x, run, rests, idle, tables⟩ := destroy_through enrolled' withdraws
  have table : x.tableAt p = (w.tableAt p).unsubscribeAll (handed pairs) := by
    have same : x.tableAt p = v.tableAt p := by
      simp only [World.tableAt, World.subscriptionsAt, tables]
    rw [same, withdraws.table inside', lost, ← Table.unsubscribeAll_append,
      Table.unsubscribeAll_append_of_subset sound among noMore]
  have attempt : Keeps (.books d p) u v :=
    withdraws.keeps.mono rfl (fun _ => False.elim) fun _ => id
  have kept : Keeps (.books d p) u x := attempt.trans rests.toKeeps
  have others (n : String) (hr : n ≠ runnerField) (hs : n ≠ subscriptionsField) :
      (x.attributesOf i).text? n = (w.attributesOf i).text? n :=
    (kept.own enrolled'.holds (.inr fun book => book.elim hr hs)).trans
      ((falters.own enrolled.holds).2 n)
  refine ⟨x, run, ⟨table, idle, others⟩, fun named => ?_⟩
  have named' : IsNamed x i :=
    (falters.isNamed enrolled.holds named).of_books enrolled'.holds kept
  obtain ⟨around', told⟩ := farewell_eq (h := h) (kept.readsUsually enrolled'.usual) named'
  have kept' : Keeps (.nothing d) x { x with around := around' } := .around around'
  exact ⟨_, run.trans told, table,
    idle.of_keeps (kept.holds enrolled'.holds) kept' fun _ _ => .inr id, others⟩

/-- A task is installed on a runner whose `off` may raise instead of acting, and which has no more
copies of its handlers than are on record. Every attempt to destroy it in which `off` raises leaves
the task its runner and all pairs. The first attempt in which it does not ends as an undisturbed
destroy would have: the table and the task are the same. -/
theorem destroy_retried (enrolled : Enrolled w i d r pairs) (inside : p < w.tables.size)
    (sound : (w.tableAt p).Sound) (noMore : NoMore w p pairs) (falters : Falters d r p pairs w u) :
    Enrolled u i d r pairs ∧
    (∀ h taken f v, Withdraws h d r p pairs u taken (some f) v →
      destroy h (.object i) u = .error f v ∧ Enrolled v i d r pairs) ∧
    ∀ h v h' v', Withdraws h d r p pairs u pairs none v → Withdraws h' d r p pairs w pairs none v' →
      (∃ x x', destroy h (.object i) u = farewell h (.object i) x ∧
        destroy h' (.object i) w = farewell h' (.object i) x' ∧ SameEnd i p x x') ∧
      (IsNamed w i → ∃ y y', destroy h (.object i) u = .ok .nothing y ∧
        destroy h' (.object i) w = .ok .nothing y' ∧ SameEnd i p y y') := by
  have enrolled' : Enrolled u i d r pairs := falters.enrolled enrolled
  refine ⟨enrolled', ?_, ?_⟩
  · intro h taken f v attempt
    exact ⟨destroy_falters enrolled' attempt, enrolled'.withdrawing attempt⟩
  · intro h v h' v' retried undisturbed
    obtain ⟨x, run, withdrawn, named⟩ := falters.destroys enrolled inside sound noMore retried
    obtain ⟨x', run', withdrawn', named'⟩ :=
      (Falters.untried w).destroys enrolled inside sound noMore undisturbed
    refine ⟨⟨x, x', run, run', withdrawn.sameEnd withdrawn'⟩, fun simple => ?_⟩
    obtain ⟨y, done, left⟩ := named simple
    obtain ⟨y', done', left'⟩ := named' simple
    exact ⟨y, y', done, done', left.sameEnd left'⟩

end Task

namespace Opening

def parts : Dictionary := .ofTexts [("RULE", .event .rule), ("ROOT", .event .root)]

theorem plain_parts : ∀ e ∈ parts.toPairs, e.2.Plain (World.opening parts) := by
  have inert : ∀ e ∈ parts.toPairs, e.2.objectsIn = [] := by decide
  exact fun e found => Value.plain_of_objectsIn (inert e found) _

theorem offersRunner_parts : Task.OffersRunner (World.opening parts) task 1 (.dict 3)
    (listing parts)
    (.options 0 (.object emitter) (some false)) (.ofFlag? (some false)) emitter 2 :=
  offersRunner (Dictionary.textual_ofTexts _) plain_parts (some false)

def raising : FunctionInfo where
  name := "off"
  owner := Library.plainClass
  qualifiedName := "off"
  form := .free
  behaviour := { routine := {
    failure := some { start := 1, raised := ⟨.ok .runtime, "off"⟩ }, limit := none, actions := [],
    result := none, inherits := false } }

def awaiting (w : World) : World := { w with functions := w.functions.push raising }

def broken (w : World) : World :=
  (awaiting w).putText 2 "off" (.function (.scripted w.functions.size))

variable {w u : World}

theorem keeps_awaiting : Keeps (.nothing 2) w (awaiting w) :=
  .of_eq rfl rfl rfl (fun i f found => ⟨f.behaviour.runs, by
    have inside : i < w.functions.size := (Array.getElem?_eq_some_iff.1 found).1
    rw [awaiting, Array.getElem?_push, if_neg (Nat.ne_of_lt inside), found]
    rfl⟩) (.refl _ _) rfl rfl rfl rfl

def atOff : Scope := ⟨2, (· = "off"), fun _ => False⟩

theorem keeps_broken : Keeps atOff w (broken w) :=
  (keeps_awaiting.mono (t := atOff) rfl (fun _ => False.elim) fun _ => id).trans
    (.putText (s := atOff) rfl _)

theorem assign_broken (serves : w.Serves emitter 2 0)
    (settable : w.Settable emitter "off") (h : Host) :
    h.assign (.object emitter) "off" (.function (.scripted w.functions.size)) (awaiting w) =
      .ok () (broken w) :=
  Host.assign_settable (keeps_awaiting.holds serves.emitter.holds)
    (keeps_awaiting.settable (by decide) settable)

theorem send_broken (serves : w.Serves emitter 2 0) (settable : w.Settable emitter "off")
    (args : List Value) (depth : Nat) :
    ∃ u, (∀ s, Keeps s (broken w) u) ∧ u.dicts = (broken w).dicts ∧
      (Host.ofDepth (depth + 1)).send (.object emitter) "off" args (broken w) =
        .error (.scripted .runtime "off") u := by
  have shows : (broken w).Shows emitter "off" (.function (.scripted w.functions.size)) :=
    World.shows_putText (keeps_awaiting.holds serves.emitter.holds)
      (keeps_awaiting.settable (by decide) settable) _
  have read := Host.attr_shows (h := Host.ofDepth (depth + 1))
    (keeps_broken.readsUsually serves.emitter.usual) shows
  have there : (broken w).functions[w.functions.size]? = some raising := Array.getElem?_push_size
  obtain ⟨n, run⟩ := Host.call_scripted there rfl (.inl ⟨rfl, Eq.refl args⟩) depth
  exact ⟨_, fun _ => .counted _ n, rfl, (bind_of_ok read).trans run⟩

theorem keeps_mended (serves : w.Serves emitter 2 0) (textual : (w.dictAt 2).Textual)
    (kept : Keeps atOff w u) : Keeps (.nothing 2) w (u.dropText 2 "off") := by
  have dropped : Keeps atOff w (u.dropText 2 "off") := kept.trans (.dropText (s := atOff) rfl)
  have inside := (kept.holds serves.emitter.holds).inside
  refine { dropped with attributes := fun n _ => ?_ }
  by_cases off : n = "off"
  · have lacked : (w.dictAt 2).text? "off" = none := by
      rw [← serves.emitter.holds.attributesOf_eq]
      exact serves.emitter.off.1
    have gone : (u.dropText 2 "off").dictAt 2 = (u.dictAt 2).dropText "off" := by
      simp [World.dropText, World.dictAt, inside, Array.getElem_modify]
    show ((u.dropText 2 "off").dictAt 2).text? n = (w.dictAt 2).text? n
    rw [off, lacked, gone]
    exact (kept.textual textual).text?_dropText_self "off"
  · exact dropped.attributes n off

theorem remove_broken (serves : w.Serves emitter 2 0) (kept : Keeps atOff w u)
    (removable : w.Removable emitter "off") (dicts : u.dicts = (broken w).dicts) (h : Host) :
    h.remove (.object emitter) "off" u = .ok () (u.dropText 2 "off") := by
  have own : ((u.dictAt 2).text? "off").isSome := by
    have there : u.dictAt 2 =
        (w.dictAt 2).setText "off" (.function (.scripted w.functions.size)) := by
      rw [World.dictAt, dicts, ← World.dictAt, broken,
        World.dictAt_putText (w := awaiting w) serves.emitter.holds.inside]
      rfl
    rw [there, Dictionary.text?_setText, if_pos rfl]
    rfl
  rw [Host.remove_eq (kept.holds serves.emitter.holds) (kept.removable (by decide) removable),
    if_pos own]

theorem usual_off : (World.opening parts).Settable emitter "off" ∧
    (World.opening parts).Removable emitter "off" := by
  have function (e : Value) (found : World.start.definition? Library.emitterClass "off" = some e) :
      (World.opening parts).decidesChange e = false := by
    obtain rfl := Option.some.inj found
    rfl
  exact ⟨⟨by decide, function⟩, by decide, function⟩

/-- A task is installed with its two handlers, and its emitter's `off` can be replaced. -/
structure PartsInstalled (w : World) (f g : Ref) : Prop where
  run : Task.install (Host.ofDepth 5) (.object task) (.options 0 (.object emitter) (some false))
    (World.opening parts) = .ok .nothing w
  installed : Task.Installed w task 1 emitter 2 0 [(.event .rule, f), (.event .root, g)]
  named : Task.IsNamed w task
  noMore : Task.NoMore w 0 [(.event .rule, f), (.event .root, g)]
  textual : (w.dictAt 2).Textual
  settable : w.Settable emitter "off"
  removable : w.Removable emitter "off"

theorem partsInstalled : ∃ w f g, PartsInstalled w f g := by
  obtain ⟨x, w, done⟩ : ∃ x w, Task.install (Host.ofDepth 5) (.object task)
      (.options 0 (.object emitter) (some false)) (World.opening parts) = .ok x w :=
    exists_of_succeeds (by decide +kernel)
  obtain ⟨rfl, pairs, handed, installed⟩ :=
    Task.install_done { offersRunner_parts with serves := reachable.serves } done
  obtain ⟨k, -, resolved⟩ := handed.resolved
  obtain ⟨f, g, rfl⟩ : ∃ f g, pairs = [(.event .rule, f), (.event .root, g)] := by
    cases resolved with
    | cons first rest =>
      cases rest with
      | cons second rest =>
        cases rest
        exact ⟨_, _, congrArg₂ _ (Prod.ext first.event rfl)
          (congrArg₂ _ (Prod.ext second.event rfl) rfl)⟩
  have table : w.tableAt 0 = Table.subscribeAll [] (Task.handed _) := handed.table
  have same : w.dictAt 2 = (World.opening parts).dictAt 2 :=
    handed.keeps.dictAt (by decide) (by decide)
  refine ⟨w, f, g, done, installed, handed.ordinary.named, fun q found => ?_,
    same ▸ Dictionary.textual_ofTexts _, handed.keeps.settable (by decide) usual_off.1,
    handed.keeps.removable (by decide) usual_off.2⟩
  rw [table, Table.listeners_subscribeAll]
  exact Nat.le_refl _

end Opening

namespace Task

/-- A task with two handlers is installed. Its emitter is given an `off` that raises, so that
`destroy` fails, then gets its own back, and the next attempt succeeds. -/
theorem destroy_retried_parts : ∃ w u pairs v v',
    install (Host.ofDepth 5) (.object Opening.task)
      (.options 0 (.object Opening.emitter) (some false))
      (World.opening Opening.parts) = .ok .nothing w ∧
    (Host.ofDepth 5).assign (.object Opening.emitter) "off" (.function (.scripted w.functions.size))
      (Opening.awaiting w) = .ok () (Opening.broken w) ∧
    destroy (Host.ofDepth 5) (.object Opening.task) (Opening.broken w) =
      .error (.scripted .runtime "off") u ∧
    Enrolled u Opening.task 1 Opening.emitter pairs ∧
    (Host.ofDepth 5).remove (.object Opening.emitter) "off" u = .ok () (u.dropText 2 "off") ∧
    destroy (Host.ofDepth 5) (.object Opening.task) (u.dropText 2 "off") = .ok .nothing v ∧
    destroy (Host.ofDepth 5) (.object Opening.task) w = .ok .nothing v' ∧
    SameEnd Opening.task 0 v v' := by
  obtain ⟨w, f, g, start⟩ := Opening.partsInstalled
  have installed := start.installed
  have serves := installed.toServes
  -- the first attempt fails at its first `off`
  obtain ⟨u, since, dicts, fails⟩ := Opening.send_broken serves start.settable
    [.event .rule, .ref f] 4
  have attempt :
      Withdraws (Host.ofDepth 5) 1 Opening.emitter 0 [(.event .rule, f), (.event .root, g)]
      (Opening.broken w) [] (some (.scripted .runtime "off")) u := .fails _ fails (since _)
  have switched :
      Falters 1 Opening.emitter 0 [(.event .rule, f), (.event .root, g)] w (Opening.broken w) :=
    .meanwhile (.untried w) Opening.keeps_broken (by decide) id
  have failed : Falters 1 Opening.emitter 0 _ w u := .again switched attempt
  -- with its own `off` back, the emitter serves as before
  have kept : Keeps Opening.atOff w u := Opening.keeps_broken.trans (since _)
  have mended := Opening.keeps_mended serves start.textual kept
  have falters : Falters 1 Opening.emitter 0 _ w (u.dropText 2 "off") :=
    .meanwhile failed (.dropText (s := Opening.atOff) rfl) (by decide) id
  have enrolled := falters.enrolled installed.toEnrolled
  have engaged : Engaged (u.dropText 2 "off") Opening.task 1 Opening.emitter 2 0 :=
    { serves.of_keeps mended (Scope.spares_nothing 2 2) id, enrolled with }
  obtain ⟨v₁, undisturbed⟩ := installed.engaged.withdraws installed.plain installed.keyed 4
  obtain ⟨v₂, through⟩ := engaged.withdraws enrolled.plain enrolled.keyed 4
  obtain ⟨-, -, ends⟩ := destroy_retried installed.toEnrolled installed.emitter.inside
    installed.sound.table start.noMore falters
  obtain ⟨-, simple⟩ := ends _ _ _ _ through undisturbed
  obtain ⟨v, v', done₁, done₂, same⟩ := simple start.named
  exact ⟨w, u, _, v, v', start.run, Opening.assign_broken serves start.settable _,
    destroy_falters (switched.enrolled installed.toEnrolled) attempt,
    failed.enrolled installed.toEnrolled,
    Opening.remove_broken serves kept start.removable dicts _, done₁, done₂, same⟩

end Task

end EventTasks
