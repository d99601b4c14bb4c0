import EventTasks.Proofs.Attaching

/-!
Installing an ordinary task on an emitter in order, and taking it back. What an install subscribes
are the pairs that passed its checks, one after the other, up to the first one whose event cannot be
looked up; what is taken back are the pairs of the last install that kept its books.
-/
namespace EventTasks

open Act

def Scope.books (d p : Nat) : Scope :=
  ⟨d, fun n => n = Task.runnerField ∨ n = Task.subscriptionsField, (· = p)⟩

namespace Task

structure Enrolled (w : World) (i d r : Nat) (pairs : List (Value × Ref)) : Prop where
  usual : w.ReadsUsually i
  holds : w.Holds i d
  settable : ∀ n ∈ [runnerField, subscriptionsField], w.Settable i n
  runner : w.Shows i runnerField (.object r)
  kept : ∃ place items, w.Shows i subscriptionsField (.ref (.list place)) ∧
    w.lists[place]? = some items ∧ ArePairs items pairs
  plain : ∀ q ∈ pairs, q.1.Plain w
  keyed : refused pairs = none

/-- The task keeps its pairs, and its runner is an emitter in order. -/
structure Installed (w : World) (i d r e p : Nat) (pairs : List (Value × Ref)) : Prop
    extends Enrolled w i d r pairs, w.Serves r e p

/-- The task has no runner and no pairs. -/
structure Idle (w : World) (i : Nat) : Prop where
  runner : w.Shows i runnerField .nothing
  kept : ∃ place, w.Shows i subscriptionsField (.ref (.list place)) ∧ w.lists[place]? = some []

variable {w w' : World} {i d r e p : Nat} {pairs : List (Value × Ref)}

theorem Installed.engaged (installed : Installed w i d r e p pairs) : Engaged w i d r e p :=
  { installed with }

theorem settable_books (settable : ∀ n ∈ [runnerField, subscriptionsField], w.Settable i n)
    {s : Scope} (kept : Keeps s w w') : ∀ n ∈ [runnerField, subscriptionsField],
        w'.Settable i n := by
  intro n hn
  refine kept.settable ?_ (settable n hn)
  rcases List.mem_cons.1 hn with rfl | hn
  · decide
  · rw [List.mem_singleton.1 hn]
    decide

theorem assign_book {h : Host} {n : String} (holds : w.Holds i d)
    (settable : ∀ n ∈ [runnerField, subscriptionsField], w.Settable i n)
    (hn : n ∈ [runnerField, subscriptionsField]) (v : Value) :
    ∃ w', h.assign (.object i) n v w = .ok () w' ∧ Rests (.books d p) w w' ∧ w'.Shows i n v ∧
      w'.tables = w.tables ∧ ∀ m, m ≠ n → m ≠ "__annotations__" → ∀ u, w.Shows i m u →
        w'.Shows i m u := by
  have free : (Scope.books d p).names n := by
    rcases List.mem_cons.1 hn with rfl | hn
    · exact .inl rfl
    · exact .inr (List.mem_singleton.1 hn)
  refine ⟨w.putText d n v, Host.assign_settable holds (settable n hn), .putText free v,
    World.shows_putText holds (settable n hn) v, rfl, fun m other hm u shows => ?_⟩
  have kept : Keeps ⟨d, (· = n), fun _ => False⟩ w (w.putText d n v) := .putText rfl v
  exact kept.shows holds (.inr other) hm shows

/-- An emitter serves as before where only the attributes of a task have changed. -/
theorem serves_of_books (serves : w.Serves r e p) (kept : Keeps (.books d p) w w') (apart : e ≠ d)
    (tables : w'.tables = w.tables) : w'.Serves r e p := by
  have table : w'.subscriptionsAt p = w.subscriptionsAt p := by
    simp only [World.subscriptionsAt, tables]
  refine ⟨kept.isEmitter (.inl apart) serves.emitter, table ▸ serves.sound, fun c found => ?_⟩
  rw [World.tableAt, table] at found
  exact kept.plain.2 (serves.events c found)

/-- Setting the runner and handing it the pairs. -/
theorem subscribe_eq (usual : w.ReadsUsually i) (holds : w.Holds i d)
    (settable : ∀ n ∈ [runnerField, subscriptionsField], w.Settable i n)
    (emitter : w.IsEmitter r e p) (apart : e ≠ d) (sound : (w.subscriptionsAt p).Sound)
    (events : w.EventsPlain p) {place : Nat} {items : List Value}
    (list : w.lists[place]? = some items) (arePairs : ArePairs items pairs)
    (plain : ∀ q ∈ pairs, q.1.Plain w) (callable : ∀ q ∈ pairs, w.isCallable (.ref q.2) = true)
    (k : Nat) :
    ∃ w', Rests (.books d p) w w' ∧ Engaged w' i d r e p ∧
      w'.tableAt p = (w.tableAt p).subscribeAll (handed pairs) ∧
      (match refused pairs with
      | none => subscribe (Host.ofDepth (k + 1)) (.object i) (.object r) (.ref (.list place)) w =
          .ok () w' ∧ Installed w' i d r e p pairs
      | some kind =>
          subscribe (Host.ofDepth (k + 1)) (.object i) (.object r) (.ref (.list place)) w =
            .error (.unhashable kind) w' ∧
          ∀ v, w.Shows i subscriptionsField v → w'.Shows i subscriptionsField v) := by
  obtain ⟨w₁, run₁, kept₁, shows₁, tables₁, others₁⟩ := assign_book (p := p)
    (h := Host.ofDepth (k + 1)) holds settable (n := runnerField) (by simp) (.object r)
  have serves₁ := serves_of_books ⟨emitter, sound, events⟩ kept₁.toKeeps apart tables₁
  have engaged₁ : Engaged w₁ i d r e p :=
    { serves₁ with usual := kept₁.readsUsually usual, holds := kept₁.holds holds, runner := shows₁ }
  obtain ⟨w₂, run₂, kept₂, engaged₂, table₂⟩ := handOver_on (kept₁.lists _ _ id list) arePairs
    engaged₁ (fun q hq => kept₁.plain.2 (plain q hq))
    (fun q hq => (kept₁.isCallable _).trans (callable q hq)) k
  have kept₁₂ : Rests (.books d p) w w₂ :=
    kept₁.trans (kept₂.mono rfl (fun _ => False.elim) (fun _ => id))
  have same₁ : w₁.tableAt p = w.tableAt p := by
    simp only [World.tableAt, World.subscriptionsAt, tables₁]
  rw [same₁] at table₂
  have whole : subscribe (Host.ofDepth (k + 1)) (.object i) (.object r) (.ref (.list place)) w =
      (handOver (Host.ofDepth (k + 1)) (.object i) "on" (.ref (.list place)) >>= fun _ =>
        (Host.ofDepth (k + 1)).assign (.object i) subscriptionsField (.ref (.list place))) w₁ :=
    bind_of_ok run₁
  cases refusal : refused pairs with
  | some kind =>
    rw [handedOver, refusal] at run₂
    refine ⟨w₂, kept₁₂, engaged₂, table₂, whole.trans (bind_of_error run₂), fun v shows => ?_⟩
    exact kept₂.shows engaged₁.holds (.inr id) (by decide)
      (others₁ _ (by decide) (by decide) v shows)
  | none =>
    rw [handedOver, refusal] at run₂
    obtain ⟨w₃, run₃, kept₃, shows₃, tables₃, others₃⟩ := assign_book (p := p)
      (h := Host.ofDepth (k + 1)) engaged₂.holds (settable_books settable kept₁₂.toKeeps)
      (n := subscriptionsField) (by simp) (.ref (.list place))
    have kept : Rests (.books d p) w w₃ := kept₁₂.trans kept₃
    have engaged₃ : Engaged w₃ i d r e p :=
      { serves_of_books engaged₂.toServes kept₃.toKeeps apart tables₃ with
        usual := kept.readsUsually usual
        holds := kept.holds holds
        runner := others₃ _ (by decide) (by decide) _ engaged₂.runner }
    refine ⟨w₃, kept, engaged₃, ?_, whole.trans ((bind_of_ok run₂).trans run₃), ?_⟩
    · rw [← table₂]
      simp only [World.tableAt, World.subscriptionsAt, tables₃]
    · exact { engaged₃ with
        settable := settable_books settable kept.toKeeps
        kept := ⟨place, items, shows₃, kept.lists _ _ id list, arePairs⟩
        plain := fun q hq => kept.plain.2 (plain q hq)
        keyed := refusal }

theorem forget_eq {h : Host} (holds : w.Holds i d)
    (settable : ∀ n ∈ [runnerField, subscriptionsField], w.Settable i n) (p : Nat) :
    ∃ w', (do
        h.assign (.object i) subscriptionsField (← newList [])
        h.assign (.object i) runnerField .nothing : Act Unit) w = .ok () w' ∧
      Rests (.books d p) w w' ∧ Idle w' i ∧ w'.tables = w.tables := by
  have kept₁ : Rests (.books d p) w { w with lists := w.lists.push [] } := .pushList []
  have made : newList [] w = .ok (.ref (.list w.lists.size)) { w with lists := w.lists.push [] } :=
    rfl
  have holds₁ := kept₁.holds holds
  obtain ⟨w₂, run₂, kept₂, shows₂, tables₂, -⟩ := assign_book (p := p) (h := h) holds₁
    (settable_books settable kept₁.toKeeps) (n := subscriptionsField) (by simp)
    (.ref (.list w.lists.size))
  have kept₁₂ := kept₁.trans kept₂
  obtain ⟨w₃, run₃, kept₃, shows₃, tables₃, others₃⟩ := assign_book (p := p) (h := h)
    (kept₂.holds holds₁) (settable_books settable kept₁₂.toKeeps) (n := runnerField)
      (by simp) .nothing
  have empty : w₃.lists[w.lists.size]? = some [] :=
    kept₃.lists _ _ id (kept₂.lists _ _ id Array.getElem?_push_size)
  refine ⟨w₃, ?_, kept₁₂.trans kept₃,
    ⟨shows₃, w.lists.size, others₃ _ (by decide) (by decide) _ shows₂, empty⟩,
      tables₃.trans tables₂⟩
  rw [bind_of_ok made, bind_of_ok run₂]
  exact run₃

theorem unsubscribe_shows {h : Host} {v : Value} (usual : w.ReadsUsually i)
    (booked : w.Shows i subscriptionsField v) :
    unsubscribe h (.object i) w = (handOver h (.object i) "off" v >>= fun _ => do
      h.assign (.object i) subscriptionsField (← newList [])
      h.assign (.object i) runnerField .nothing : Act Unit) w := by
  rw [unsubscribe, bind_of_ok (Host.attr_shows usual booked)]

theorem destroy_shows {h : Host} {runner : Value} (usual : w.ReadsUsually i)
    (shown : w.Shows i runnerField runner) (something : runner.isNothing = false) :
    destroy h (.object i) w =
      (unsubscribe h (.object i) >>= fun _ => farewell h (.object i)) w := by
  rw [destroy, bind_of_ok (Host.attr_shows usual shown)]
  simp only [something, Bool.false_eq_true, if_false]

theorem unsubscribe_eq (installed : Installed w i d r e p pairs) (k : Nat) :
    ∃ w', unsubscribe (Host.ofDepth (k + 1)) (.object i) w = .ok () w' ∧
      Rests (.books d p) w w' ∧ Idle w' i ∧ (w'.subscriptionsAt p).Sound ∧ w'.EventsPlain p ∧
      w'.tableAt p = (w.tableAt p).unsubscribeAll (handed pairs) := by
  obtain ⟨place, items, shows, list, arePairs⟩ := installed.kept
  obtain ⟨w₁, run₁, kept₁, engaged₁, table₁⟩ := handOver_off list arePairs installed.engaged
    installed.plain installed.keyed k
  have kept₁ : Rests (.books d p) w w₁ := kept₁.mono rfl (fun _ => False.elim) (fun _ => id)
  obtain ⟨w₂, run₂, kept₂, idle, tables⟩ := forget_eq (h := Host.ofDepth (k + 1)) engaged₁.holds
    (settable_books installed.settable kept₁.toKeeps) p
  have table₂ : w₂.subscriptionsAt p = w₁.subscriptionsAt p := by
    simp only [World.subscriptionsAt, tables]
  refine ⟨w₂, ?_, kept₁.trans kept₂, idle, ?_, fun c hc => ?_,
    (congrArg Subscriptions.table table₂).trans table₁⟩
  · rw [unsubscribe_shows installed.usual shows, bind_of_ok run₁]
    exact run₂
  · rw [table₂]
    exact engaged₁.sound
  · rw [World.tableAt, table₂] at hc
    exact kept₂.plain.2 (engaged₁.events c hc)

theorem destroy_eq (installed : Installed w i d r e p pairs) (k : Nat) :
    ∃ w', destroy (Host.ofDepth (k + 1)) (.object i) w =
        farewell (Host.ofDepth (k + 1)) (.object i) w' ∧
      Rests (.books d p) w w' ∧ Idle w' i ∧ (w'.subscriptionsAt p).Sound ∧ w'.EventsPlain p ∧
      w'.tableAt p = (w.tableAt p).unsubscribeAll (handed pairs) := by
  obtain ⟨w', run, rest⟩ := unsubscribe_eq installed k
  exact ⟨w', (destroy_shows installed.usual installed.runner rfl).trans (bind_of_ok run), rest⟩

theorem farewell_eq {h : Host} (usual : w.ReadsUsually i) (named : IsNamed w i) :
    ∃ around', farewell h (.object i) w = .ok .nothing { w with around := around' } := by
  obtain ⟨text, run⟩ := nameText_eq (h := h) usual named
  exact ⟨_, (bind_of_ok run).trans rfl⟩

/-! What leaves the books and the emitter alone -/

variable {s : Scope}

theorem Enrolled.of_keeps (enrolled : Enrolled w i d r pairs) (kept : Keeps s w w')
    (outside : ∀ n ∈ [runnerField, subscriptionsField], d ≠ s.place ∨ ¬ s.names n) :
    Enrolled w' i d r pairs where
  usual := kept.readsUsually enrolled.usual
  holds := kept.holds enrolled.holds
  settable := settable_books enrolled.settable kept
  runner := kept.shows enrolled.holds (outside _ (by simp)) (by decide) enrolled.runner
  kept := by
    obtain ⟨place, items, shows, list, arePairs⟩ := enrolled.kept
    exact ⟨place, items, kept.shows enrolled.holds (outside _ (by simp)) (by decide) shows,
      kept.lists _ _ id list, arePairs⟩
  plain q hq := kept.plain.2 (enrolled.plain q hq)
  keyed := enrolled.keyed

theorem Installed.of_keeps (installed : Installed w i d r e p pairs) (kept : Keeps s w w')
    (outside : ∀ n ∈ [runnerField, subscriptionsField], d ≠ s.place ∨ ¬ s.names n)
    (spares : s.Spares e) (tables : ¬ s.tables p) : Installed w' i d r e p pairs :=
  { installed.toEnrolled.of_keeps kept outside,
    installed.toServes.of_keeps kept spares tables with }

theorem Idle.of_keeps (idle : Idle w i) (holds : w.Holds i d) (kept : Keeps s w w')
    (outside : ∀ n ∈ [runnerField, subscriptionsField], d ≠ s.place ∨ ¬ s.names n) : Idle w' i := by
  obtain ⟨place, shows, list⟩ := idle.kept
  exact ⟨kept.shows holds (outside _ (by simp)) (by decide) idle.runner, place,
    kept.shows holds (outside _ (by simp)) (by decide) shows, kept.lists _ _ id list⟩

theorem IsNamed.of_books (named : IsNamed w i) (holds : w.Holds i d)
    (kept : Keeps (.books d p) w w') : IsNamed w' i := by
  obtain ⟨name, simple, shows⟩ := named
  have other : ¬ (Scope.books d p).names "name" := by
    simp [Scope.books, runnerField, subscriptionsField]
  exact ⟨name, simple, kept.shows holds (.inr other) (by decide) shows⟩

/-- `destroy` of an installed task with a simple name succeeds. -/
theorem destroy_ok (installed : Installed w i d r e p pairs) (apart : e ≠ d) (named : IsNamed w i)
    (k : Nat) :
    ∃ w', destroy (Host.ofDepth (k + 1)) (.object i) w = .ok .nothing w' ∧
      Keeps (.books d p) w w' ∧ Idle w' i ∧ w'.Serves r e p ∧
      w'.tableAt p = (w.tableAt p).unsubscribeAll (handed pairs) := by
  obtain ⟨u, run, kept, idle, sound, events, table⟩ := destroy_eq installed k
  obtain ⟨around', told⟩ := farewell_eq (h := Host.ofDepth (k + 1))
    (kept.readsUsually installed.usual) (named.of_books installed.holds kept.toKeeps)
  have serves : u.Serves r e p := ⟨kept.isEmitter (.inl apart) installed.emitter, sound, events⟩
  have kept' : Keeps (.nothing d) u { u with around := around' } := .around around'
  refine ⟨_, run.trans told, Keeps.trans kept.toKeeps kept'.of_nothing,
    idle.of_keeps (kept.holds installed.holds) kept' fun _ _ => .inr id,
      serves.of_keeps kept' (Scope.spares_nothing d e) id, ?_⟩
  rw [World.tableAt, kept'.subscriptionsAt serves.emitter.inside id]
  exact table

end Task

/-! Installing -/

def Scope.task (d p : Nat) : Scope := ⟨d, fun _ => True, (· = p)⟩

namespace Task

/-- An ordinary task, and options that offer the object at `r`, with its attributes at `e`, as the
runner. -/
structure OffersRunner (w : World) (i d : Nat) (reg : Ref) (l : Listing) (options flag : Value)
    (r e : Nat) : Prop where
  ordinary : Ordinary w i d reg l
  offers : w.Offers options (.object r) flag
  simple : flag.IsSimple
  apart : e ≠ d
  readable : w.Readable r
  former : ∃ v, w.Shows i runnerField v

structure OffersEmitter (w : World) (i d : Nat) (reg : Ref) (l : Listing) (options flag : Value)
    (r e p : Nat) : Prop extends OffersRunner w i d reg l options flag r e where
  serves : w.Serves r e p

def Resolves (w : World) (depth i : Nat) (options : Value) (pairs : List (Value × Ref)) : Prop :=
  ∃ decoded runner place items w₁,
    checked (Host.ofDepth depth) (.object i) options w =
      .ok (decoded, runner, .ref (.list place)) w₁ ∧
    w₁.lists[place]? = some items ∧ ArePairs items pairs

structure Handed (w w' : World) (depth i d : Nat) (reg : Ref) (l : Listing) (options : Value)
    (r e p : Nat) (pairs : List (Value × Ref)) : Prop where
  resolves : Resolves w depth i options pairs
  resolved : ∃ k, depth = k + 1 ∧
    List.Forall₂ (Resolved (Host.ofDepth k) w i d) l.entries pairs
  keeps : Keeps (.task d p) w w'
  ordinary : Ordinary w' i d reg l
  serves : w'.Serves r e p
  table : w'.tableAt p = (w.tableAt p).subscribeAll (handed pairs)

/-- How `install` may end: a check fails and nothing has changed; an event is unhashable, and the
pairs before it stay subscribed; or all is subscribed, and what follows succeeds or fails. -/
inductive Ends (w : World) (depth i d : Nat) (reg : Ref) (l : Listing) (options : Value)
    (r e p : Nat) : EStateM.Result Fault World Value → Prop where
  | unchecked {w' : World} (f : Fault) (keeps : Keeps (.nothing d) w w')
    (failed : checked (Host.ofDepth depth) (.object i) options w = .error f w') :
    Ends w depth i d reg l options r e p (.error f w')
  | refused {w' : World} {pairs : List (Value × Ref)} {kind : String}
    (handed : Handed w w' depth i d reg l options r e p pairs)
    (refusal : refused pairs = some kind) (runner : w'.Shows i runnerField (.object r))
    (books : ∀ v, w.Shows i subscriptionsField v → w'.Shows i subscriptionsField v) :
    Ends w depth i d reg l options r e p (.error (.unhashable kind) w')
  | failed {w' : World} {pairs : List (Value × Ref)} (f : Fault)
    (handed : Handed w w' depth i d reg l options r e p pairs)
    (installed : Installed w' i d r e p pairs) :
    Ends w depth i d reg l options r e p (.error f w')
  | done {w' : World} {pairs : List (Value × Ref)}
    (handed : Handed w w' depth i d reg l options r e p pairs)
    (installed : Installed w' i d r e p pairs) :
    Ends w depth i d reg l options r e p (.ok .nothing w')

variable {w w' : World} {i d r e p k : Nat} {reg : Ref} {l : Listing} {options flag : Value}
  {pairs : List (Value × Ref)}

theorem ArePairs.unique {items : List Value} {pairs' : List (Value × Ref)}
    (arePairs : ArePairs items pairs) (arePairs' : ArePairs items pairs') : pairs = pairs' := by
  induction arePairs generalizing pairs' with
  | nil =>
    cases arePairs'
    rfl
  | @cons v q items pairs first rest ih =>
    cases arePairs' with
    | @cons _ q' _ pairs' first' rest' =>
      obtain ⟨stamp, rfl⟩ := first
      obtain ⟨stamp', same⟩ := first'
      simp only [Value.tuple.injEq, List.cons.injEq, Value.ref.injEq, and_true] at same
      rw [ih rest', Prod.ext same.2.1 same.2.2]

theorem Resolves.unique {depth : Nat} {pairs' : List (Value × Ref)}
    (resolves : Resolves w depth i options pairs) (resolves' : Resolves w depth i options pairs') :
    pairs = pairs' := by
  obtain ⟨_, _, place, items, w₁, run, list, arePairs⟩ := resolves
  obtain ⟨_, _, place', items', w₁', run', list', arePairs'⟩ := resolves'
  obtain ⟨same, rfl⟩ := EStateM.Result.ok.inj (run.symm.trans run')
  simp only [Prod.mk.injEq, Value.ref.injEq, Ref.list.injEq] at same
  obtain ⟨-, -, rfl⟩ := same
  obtain rfl := Option.some.inj (list.symm.trans list')
  exact arePairs.unique arePairs'

theorem plain_of_resolved {entries : List (Value × Value)}
    (resolved : List.Forall₂ (Resolved (Host.ofDepth k) w i d) entries pairs)
    (plain : ∀ e ∈ entries, e.2.Plain w) :
    ∀ q ∈ pairs, q.1.Plain w ∧ w.isCallable (.ref q.2) = true := by
  intro q found
  obtain ⟨entry, inside, resolves⟩ := exists_of_forall₂ resolved found
  exact ⟨resolves.event ▸ plain entry inside, resolves.callable⟩

theorem warnIfInstalled_eq {h : Host} {text : String} {v : Value} (usual : w.ReadsUsually i)
    (told : nameText h (.object i) w = .ok text w) (shows : w.Shows i runnerField v) :
    ∃ root, warnIfInstalled h (.object i) w = .ok () (w.withRoot root) := by
  rw [warnIfInstalled, bind_of_ok (Host.attr_shows usual shows)]
  cases v.isNothing with
  | true => exact ⟨w.around.root, rfl⟩
  | false =>
    simp only [Bool.not_false, if_true]
    exact ⟨_, (bind_of_ok told).trans rfl⟩

/-- Behind its checks `install` warns of a former runner, sets the runner and hands it the pairs. -/
theorem engage_eq {text : String} (usual : w.ReadsUsually i) (holds : w.Holds i d)
    (settable : ∀ n ∈ [runnerField, subscriptionsField], w.Settable i n)
    (told : nameText (Host.ofDepth (k + 1)) (.object i) w = .ok text w) (serves : w.Serves r e p)
    (apart : e ≠ d) (former : ∃ v, w.Shows i runnerField v) {place : Nat} {items : List Value}
    (list : w.lists[place]? = some items) (arePairs : ArePairs items pairs)
    (plain : ∀ q ∈ pairs, q.1.Plain w) (callable : ∀ q ∈ pairs, w.isCallable (.ref q.2) = true) :
    ∃ root w', warnIfInstalled (Host.ofDepth (k + 1)) (.object i) w = .ok () (w.withRoot root) ∧
      Rests (.books d p) (w.withRoot root) w' ∧ Engaged w' i d r e p ∧
      w'.tableAt p = (w.tableAt p).subscribeAll (handed pairs) ∧
      (match refused pairs with
      | none => subscribe (Host.ofDepth (k + 1)) (.object i) (.object r) (.ref (.list place))
          (w.withRoot root) = .ok () w' ∧ Installed w' i d r e p pairs
      | some kind =>
          subscribe (Host.ofDepth (k + 1)) (.object i) (.object r) (.ref (.list place))
            (w.withRoot root) = .error (.unhashable kind) w' ∧
          ∀ v, w.Shows i subscriptionsField v → w'.Shows i subscriptionsField v) := by
  obtain ⟨v, shown⟩ := former
  obtain ⟨root, warned⟩ := warnIfInstalled_eq usual told shown
  have kept : Keeps (.nothing d) w (w.withRoot root) := .withRoot root
  have serves₁ := serves.of_keeps kept (Scope.spares_nothing d e) id
  obtain ⟨w', rests, engaged, table, outcome⟩ := subscribe_eq (kept.readsUsually usual)
    (kept.holds holds) (settable_books settable kept) serves₁.emitter apart serves₁.sound
    serves₁.events (kept.lists _ _ id list) arePairs (fun q hq => kept.plain.2 (plain q hq))
    (fun q hq => (kept.isCallable _).trans (callable q hq)) k
  refine ⟨root, w', warned, rests, engaged, table, ?_⟩
  cases refusal : refused pairs with
  | none => rwa [refusal] at outcome
  | some kind =>
    rw [refusal] at outcome
    exact ⟨outcome.1, fun v shows => outcome.2 v (kept.shows holds (.inr id) (by decide) shows)⟩

theorem DefaultInternals.of_books (internals : DefaultInternals w i d reg l)
    (kept : Keeps (.books d p) w w') :
    DefaultInternals w' i d reg l :=
  internals.of_keeps kept internals.apart fun _ hn => .inr fun book =>
    book.elim (ne_of_essential hn).2.1 (ne_of_essential hn).2.2

theorem Ordinary.of_books (ordinary : Ordinary w i d reg l) (kept : Keeps (.books d p) w w') :
    Ordinary w' i d reg l :=
  ordinary.of_internals kept (ordinary.toDefaultInternals.of_books kept)

theorem Installed.gaining (installed : Installed w i d r e p pairs) (apart : e ≠ d)
    (gains : Gains w i d w') : Installed w' i d r e p pairs := by
  refine installed.of_keeps gains.toKeeps (fun n hn => ?_) (.inl apart) id
  rcases List.mem_cons.1 hn with rfl | hn
  · exact outside_fresh installed.runner
  · obtain ⟨place, items, shows, -⟩ := installed.kept
    exact List.mem_singleton.1 hn ▸ outside_fresh shows

structure Engagement (w w₁ w' : World) (root : Log.Root) (k i d : Nat) (l : Listing)
    (r e p place : Nat) (pairs : List (Value × Ref)) : Prop where
  checks : Rests (.nothing d) w w₁
  list : ∃ items, w₁.lists[place]? = some items ∧ ArePairs items pairs
  resolved : List.Forall₂ (Resolved (Host.ofDepth k) w i d) l.entries pairs
  warned : warnIfInstalled (Host.ofDepth (k + 1)) (.object i) w₁ = .ok () (w₁.withRoot root)
  rests : Rests (.books d p) (w₁.withRoot root) w'
  engaged : Engaged w' i d r e p
  table : w'.tableAt p = (w.tableAt p).subscribeAll (handed pairs)
  outcome : match refused pairs with
    | none => subscribe (Host.ofDepth (k + 1)) (.object i) (.object r) (.ref (.list place))
        (w₁.withRoot root) = .ok () w' ∧ Installed w' i d r e p pairs
    | some kind => subscribe (Host.ofDepth (k + 1)) (.object i) (.object r) (.ref (.list place))
        (w₁.withRoot root) = .error (.unhashable kind) w' ∧
        ∀ v, w.Shows i subscriptionsField v → w'.Shows i subscriptionsField v

theorem Engagement.keeps {w₁ : World} {root : Log.Root} {place : Nat}
    (engagement : Engagement w w₁ w' root k i d l r e p place pairs) : Keeps (.books d p) w w' :=
  engagement.checks.toKeeps.of_nothing.trans
    (Keeps.trans (.withRoot root) engagement.rests.toKeeps)

/-- An install on an emitter in order fails in its checks, or goes on to hand over the pairs. -/
theorem OffersEmitter.engages (offersEmitter : OffersEmitter w i d reg l options flag r e p)
    (depth : Nat) :
    (∃ f w₁, checked (Host.ofDepth depth) (.object i) options w = .error f w₁ ∧
      Keeps (.nothing d) w w₁) ∨
    ∃ k stamp attach place pairs w₁ root w', depth = k + 1 ∧
      checked (Host.ofDepth (k + 1)) (.object i) options w =
        .ok (.options stamp (.object r) attach, .object r, .ref (.list place)) w₁ ∧
      Engagement w w₁ w' root k i d l r e p place pairs := by
  have ordinary := offersEmitter.ordinary
  obtain ⟨w₁, kept₁, outcome⟩ := checked_eq ordinary offersEmitter.offers offersEmitter.simple
    (.inr ⟨r, e, p, rfl, offersEmitter.serves.emitter⟩) depth
  rcases outcome with ⟨f, run⟩ | ⟨k, decoded, list, pairs, rfl, run, passed⟩
  · exact .inl ⟨f, w₁, run, kept₁⟩
  · obtain ⟨stamp, attach, rfl⟩ := passed.options
    obtain ⟨place, items, rfl, there, arePairs⟩ := passed.pairs
    have ordinary₁ := ordinary.of_nothing kept₁.toKeeps
    have serves₁ := offersEmitter.serves.of_keeps kept₁.toKeeps (Scope.spares_nothing d e) id
    have table₁ : w₁.tableAt p = w.tableAt p :=
      congrArg Subscriptions.table (kept₁.subscriptionsAt offersEmitter.serves.emitter.inside id)
    have shows (n : String) (hn : n ≠ "__annotations__") (v : Value) (shown : w.Shows i n v) :
        w₁.Shows i n v := kept₁.shows ordinary.holds (.inr id) hn shown
    have fine := plain_of_resolved passed.resolved ordinary.plain
    obtain ⟨text, told⟩ := nameText_eq (h := Host.ofDepth (k + 1)) ordinary₁.usual ordinary₁.named
    obtain ⟨root, w', warned, rests, engaged, table, outcome⟩ := engage_eq ordinary₁.usual
      ordinary₁.holds ordinary₁.settable told serves₁ offersEmitter.apart
      (offersEmitter.former.imp fun _ => shows _ (by decide) _) there arePairs
      (fun q hq => kept₁.plain.2 (fine q hq).1) fun q hq => (kept₁.isCallable _).trans (fine q hq).2
    refine .inr ⟨k, stamp, attach, place, pairs, w₁, root, w', rfl, run, kept₁,
      ⟨items, there, arePairs⟩, passed.resolved, warned, rests, engaged, table₁ ▸ table, ?_⟩
    cases refusal : refused pairs with
    | none => rwa [refusal] at outcome
    | some kind =>
      rw [refusal] at outcome
      exact ⟨outcome.1, fun v shown => outcome.2 v (shows _ (by decide) v shown)⟩

section engagement

variable {w₁ : World} {root : Log.Root} {place stamp : Nat} {attach : Option Bool}

theorem Engagement.install_run (engagement : Engagement w w₁ w' root k i d l r e p place pairs)
    (run : checked (Host.ofDepth (k + 1)) (.object i) options w =
      .ok (.options stamp (.object r) attach, .object r, .ref (.list place)) w₁) :
    install (Host.ofDepth (k + 1)) (.object i) options w =
      (subscribe (Host.ofDepth (k + 1)) (.object i) (.object r) (.ref (.list place)) >>= fun _ =>
        finish (Host.ofDepth (k + 1)) (.object i) (.options stamp (.object r) attach) >>=
          fun _ => pure .nothing) (w₁.withRoot root) := by
  rw [install, bind_of_ok run]
  exact bind_of_ok engagement.warned

theorem Engagement.handed (engagement : Engagement w w₁ w' root k i d l r e p place pairs)
    (ordinary : Ordinary w i d reg l)
    (run : checked (Host.ofDepth (k + 1)) (.object i) options w =
      .ok (.options stamp (.object r) attach, .object r, .ref (.list place)) w₁) :
    Handed w w' (k + 1) i d reg l options r e p pairs where
  resolves := by
    obtain ⟨items, there, arePairs⟩ := engagement.list
    exact ⟨_, _, place, items, w₁, run, there, arePairs⟩
  resolved := ⟨k, rfl, engagement.resolved⟩
  keeps := engagement.keeps.mono rfl (fun _ _ => trivial) (fun _ => id)
  ordinary := ordinary.of_books engagement.keeps
  serves := engagement.engaged.toServes
  table := engagement.table

end engagement

theorem Handed.gaining {u : World} {depth : Nat}
    (handed : Handed w w' depth i d reg l options r e p pairs) (apart : e ≠ d)
    (gains : Gains w' i d u) : Handed w u depth i d reg l options r e p pairs where
  resolves := handed.resolves
  resolved := handed.resolved
  keeps := handed.keeps.trans
    (gains.toKeeps.mono rfl (fun _ _ => trivial) (fun _ => False.elim))
  ordinary := handed.ordinary.gaining gains
  serves := handed.serves.of_keeps gains.toKeeps (.inl apart) id
  table := by
    rw [← handed.table]
    exact congrArg Subscriptions.table
      (gains.toKeeps.subscriptionsAt handed.serves.emitter.inside id)

/-- An install ends in one of these ways. -/
theorem install_ends (offersEmitter : OffersEmitter w i d reg l options flag r e p) (depth : Nat) :
    Ends w depth i d reg l options r e p
      (install (Host.ofDepth depth) (.object i) options w) := by
  rcases offersEmitter.engages depth with ⟨f, w₁, run, kept₁⟩ |
    ⟨k, stamp, attach, place, pairs, w₁, root, w₃, rfl, run, engagement⟩
  · rw [install, bind_of_error run]
    exact .unchecked f kept₁ run
  · have handed := engagement.handed offersEmitter.ordinary run
    have outcome := engagement.outcome
    rw [engagement.install_run run]
    cases refusal : refused pairs with
    | some kind =>
      rw [refusal] at outcome
      rw [bind_of_error outcome.1]
      exact .refused handed refusal engagement.engaged.runner outcome.2
    | none =>
      rw [refusal] at outcome
      obtain ⟨done, installed⟩ := outcome
      have reports : Reports w₃ i d :=
        ⟨r, engagement.engaged.runner,
          answers_of_readable (handed.keeps.readable offersEmitter.readable)⟩
      have goes := finish_goes handed.ordinary.toDefaultInternals reports
        (.refl handed.ordinary.holds) stamp
        (.object r) attach (k + 1)
      rw [bind_of_ok done]
      cases ended : finish (Host.ofDepth (k + 1)) (.object i)
          (.options stamp (.object r) attach) w₃ with
      | ok a w' =>
        rw [bind_of_ok ended, pure_run]
        have gains := (goes.of_ok ended).1
        exact .done (handed.gaining offersEmitter.apart gains)
          (installed.gaining offersEmitter.apart gains)
      | error f w' =>
        rw [bind_of_error ended]
        have gains := (goes.of_error ended).1
        exact .failed f (handed.gaining offersEmitter.apart gains)
          (installed.gaining offersEmitter.apart gains)

/-- An install that succeeds has handed over all pairs, and keeps them. -/
theorem install_done (offersEmitter : OffersEmitter w i d reg l options flag r e p)
    {depth : Nat} {v : Value}
    (run : install (Host.ofDepth depth) (.object i) options w = .ok v w') :
    v = .nothing ∧ ∃ pairs, Handed w w' depth i d reg l options r e p pairs ∧
      Installed w' i d r e p pairs := by
  have ends := install_ends offersEmitter depth
  rw [run] at ends
  cases ends with
  | done handed installed => exact ⟨rfl, _, handed, installed⟩

end Task

end EventTasks
