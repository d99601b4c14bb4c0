import EventTasks.Proofs.Sending

/-!
Handing pairs over to a runner: a task whose runner is an emitter in order subscribes its pairs one
after the other, up to the first one whose event cannot be looked up, and takes them back one after
the other. What this does to the table is what subscribing and taking back do to a table.
-/
namespace EventTasks

open Act

namespace Task

/-- The subscriptions of some pairs, up to the first unhashable event. -/
def handed : List (Value × Ref) → List Table.Subscription
  | [] => []
  | (event, f) :: rest =>
    match event.key with
    | .ok k => (⟨event, k⟩, f) :: handed rest
    | .error _ => []

def refused : List (Value × Ref) → Option String
  | [] => none
  | (event, _) :: rest =>
    match event.key with
    | .ok _ => refused rest
    | .error kind => some kind

theorem key_of_refused {pairs : List (Value × Ref)} (keyed : refused pairs = none)
    {q : Value × Ref} (found : q ∈ pairs) : ∃ k, q.1.key = .ok k := by
  induction pairs with
  | nil => simp at found
  | cons first pairs ih =>
    obtain ⟨event, f⟩ := first
    cases key : event.key with
    | error kind => simp [refused, key] at keyed
    | ok k =>
      rcases List.mem_cons.1 found with rfl | found
      · exact ⟨k, key⟩
      · exact ih (by simpa [refused, key] using keyed) found

theorem mem_handed {pairs : List (Value × Ref)} (keyed : refused pairs = none)
    {q : Value × Ref} {k : Key}
    (found : q ∈ pairs) (key : q.1.key = .ok k) : (⟨q.1, k⟩, q.2) ∈ handed pairs := by
  induction pairs with
  | nil => simp at found
  | cons first rest ih =>
    obtain ⟨event, f⟩ := first
    cases key' : event.key with
    | error kind => simp [refused, key'] at keyed
    | ok k' =>
      simp only [refused, key'] at keyed
      simp only [handed, key']
      rcases List.mem_cons.1 found with rfl | found
      · obtain rfl := Except.ok.inj (key'.symm.trans key)
        exact List.mem_cons_self
      · exact List.mem_cons_of_mem _ (ih keyed found)

theorem mem_of_refused {pairs : List (Value × Ref)} {kind : String}
    (refusal : refused pairs = some kind) :
    ∃ q ∈ pairs, q.1.key = .error kind := by
  induction pairs with
  | nil => simp [refused] at refusal
  | cons first rest ih =>
    obtain ⟨event, f⟩ := first
    cases key : event.key with
    | error kind' =>
      have same : kind' = kind := by simpa [refused, key] using refusal
      exact ⟨(event, f), by simp, same ▸ key⟩
    | ok k =>
      obtain ⟨q, found, failed⟩ := ih (by simpa [refused, key] using refusal)
      exact ⟨q, by simp [found], failed⟩

theorem refused_eq_none {pairs : List (Value × Ref)}
    (keyed : ∀ q ∈ pairs, ∃ k, q.1.key = .ok k) : refused pairs = none := by
  cases refusal : refused pairs with
  | none => rfl
  | some kind =>
    obtain ⟨q, found, failed⟩ := mem_of_refused refusal
    obtain ⟨k, key⟩ := keyed q found
    simp [failed] at key

/-- Where two lists agree member by member, each member of one has a counterpart in the other. -/
theorem exists_of_forall₂ {α β : Type} {R : α → β → Prop} {as : List α} {bs : List β}
    (agree : List.Forall₂ R as bs) {b : β} (found : b ∈ bs) : ∃ a ∈ as, R a b := by
  induction agree with
  | nil => simp at found
  | @cons a b' as bs first rest ih =>
    rcases List.mem_cons.1 found with rfl | found
    · exact ⟨a, by simp, first⟩
    · obtain ⟨a', inside, here⟩ := ih found
      exact ⟨a', by simp [inside], here⟩

def ArePairs (items : List Value) (pairs : List (Value × Ref)) : Prop :=
  List.Forall₂ (fun v p => ∃ stamp, v = .tuple stamp [p.1, .ref p.2]) items pairs

structure Engaged (w : World) (i d r e p : Nat) : Prop extends w.Serves r e p where
  usual : w.ReadsUsually i
  holds : w.Holds i d
  runner : w.Shows i runnerField (.object r)

variable {w w' : World} {i d r e p : Nat} {event : Value} {k : Key} {f : Ref}

/-- Whatever changes the table alone, and leaves it in order, leaves the task engaged. -/
theorem Engaged.of_keeps (engaged : Engaged w i d r e p) (kept : Keeps (.table d p) w w')
    (serves : w'.Serves r e p) : Engaged w' i d r e p where
  toServes := serves
  usual := kept.readsUsually engaged.usual
  holds := kept.holds engaged.holds
  runner := kept.shows engaged.holds (.inr id) (by decide) engaged.runner

theorem handOne_eq {runner : Value} (usual : w.ReadsUsually i)
    (shown : w.Shows i runnerField runner)
    (h : Host) (name : String) (stamp : Nat) :
    handOne h (.object i) name () (.tuple stamp [event, .ref f]) w =
      ((fun _ => ()) <$> h.send runner name [event, .ref f]) w := by
  rw [handOne, bind_run, Host.pairOf_tuple]
  simp only [bind_run, Host.attr_shows usual shown]
  rw [map_run]
  rfl

def handedOver (pairs : List (Value × Ref)) (w : World) : EStateM.Result Fault World Unit :=
  match refused pairs with
  | none => .ok () w
  | some kind => .error (.unhashable kind) w

/-- What comes of pairs that are handed to a method of the runner: a pair with a hashable event
changes the table, one with an unhashable event is refused. -/
structure Conveys (depth : Nat) (name : String) (offersRunner : World → Ref → Prop)
    (change : Table → Table.Subscription → Table) (i d r e p : Nat) : Prop where
  fits : ∀ {w w' f}, Rests (.table d p) w w' → offersRunner w f → offersRunner w' f
  changes : ∀ {w event f k} (stamp : Nat), Engaged w i d r e p → event.Plain w → offersRunner w f →
    event.key = .ok k → ∃ w', handOne (Host.ofDepth (depth + 1)) (.object i) name ()
        (.tuple stamp [event, .ref f]) w = .ok () w' ∧
      Rests (.table d p) w w' ∧ Engaged w' i d r e p ∧
      w'.tableAt p = change (w.tableAt p) (⟨event, k⟩, f)
  refuses : ∀ {w event f kind} (stamp : Nat), Engaged w i d r e p → event.Plain w →
    offersRunner w f →
    event.key = .error kind → handOne (Host.ofDepth (depth + 1)) (.object i) name ()
        (.tuple stamp [event, .ref f]) w = .error (.unhashable kind) w.later

theorem conveys_on (depth i d r e p : Nat) :
    Conveys depth "on" (fun w f => w.isCallable (.ref f) = true)
      (fun t q => t.subscribe q.1 q.2) i d r e p where
  fits kept callable := (kept.isCallable _).trans callable
  changes stamp engaged plain callable key := by
    obtain ⟨w', run, kept, serves, table⟩ := Emitter.send_on engaged.toServes plain key callable
      depth d
    refine ⟨w', ?_, kept, engaged.of_keeps kept serves, table⟩
    rw [handOne_eq engaged.usual engaged.runner, map_run, run]
  refuses stamp engaged plain callable key := by
    rw [handOne_eq engaged.usual engaged.runner, map_run,
      Emitter.send_on_unhashable engaged.emitter plain key callable]

theorem conveys_off (depth i d r e p : Nat) :
    Conveys depth "off" (fun _ _ => True) (fun t q => t.unsubscribe q.1.key q.2) i d r e p where
  fits _ _ := trivial
  changes {w event f k} stamp engaged plain _ key := by
    obtain ⟨w', run, kept, serves, table⟩ := Emitter.send_off engaged.toServes plain key f depth d
    refine ⟨w', ?_, kept, engaged.of_keeps kept serves, table⟩
    rw [handOne_eq engaged.usual engaged.runner, map_run, run]
  refuses {w event f kind} stamp engaged plain _ key := by
    rw [handOne_eq engaged.usual engaged.runner, map_run,
      Emitter.send_off_unhashable engaged.emitter plain key (.ref f)]

variable {depth : Nat} {name : String} {offersRunner : World → Ref → Prop}
  {change : Table → Table.Subscription → Table}

/-- Handing pairs over one after the other, up to the first unhashable event. -/
theorem Conveys.foldlM (conveys : Conveys depth name offersRunner change i d r e p)
    {items : List Value}
    {pairs : List (Value × Ref)} (arePairs : ArePairs items pairs) (engaged : Engaged w i d r e p)
    (plain : ∀ q ∈ pairs, q.1.Plain w) (fits : ∀ q ∈ pairs, offersRunner w q.2) :
    ∃ w', items.foldlM (handOne (Host.ofDepth (depth + 1)) (.object i) name) () w =
        handedOver pairs w' ∧
      Rests (.table d p) w w' ∧ Engaged w' i d r e p ∧
      w'.tableAt p = (handed pairs).foldl change (w.tableAt p) := by
  induction arePairs generalizing w with
  | nil => exact ⟨w, rfl, .refl _ w, engaged, rfl⟩
  | @cons v q items pairs pair rest ih =>
    obtain ⟨stamp, rfl⟩ := pair
    obtain ⟨event, f⟩ := q
    have plainFirst := plain (event, f) (by simp)
    have fitsFirst := fits (event, f) (by simp)
    rw [List.foldlM_cons, bind_run]
    cases key : event.key with
    | error kind =>
      have kept : Rests (.table d p) w w.later := .later
      refine ⟨w.later, ?_, kept, engaged.of_keeps kept (Emitter.serves_later engaged.toServes), ?_⟩
      · rw [conveys.refuses stamp engaged plainFirst fitsFirst key]
        simp [handedOver, refused, key]
      · simp [handed, key]
        rfl
    | ok k =>
      obtain ⟨w₁, run, kept, engaged₁, table⟩ :=
        conveys.changes stamp engaged plainFirst fitsFirst key
      obtain ⟨w', runs, kept', engaged', tables⟩ := ih engaged₁
        (fun q found => kept.plain.2 (plain q (by simp [found])))
        (fun q found => conveys.fits kept (fits q (by simp [found])))
      refine ⟨w', ?_, kept.trans kept', engaged', ?_⟩
      · rw [run]
        simpa [handedOver, refused, key] using runs
      · rw [tables, table]
        simp [handed, key]

theorem ArePairs.exists_pair {items : List Value} {pairs : List (Value × Ref)}
    (arePairs : ArePairs items pairs) {v : Value} (found : v ∈ items) :
    ∃ q ∈ pairs, ∃ stamp, v = .tuple stamp [q.1, .ref q.2] := by
  induction arePairs with
  | nil => simp at found
  | @cons u q items pairs pair rest ih =>
    rcases List.mem_cons.1 found with rfl | found
    · exact ⟨q, by simp, pair⟩
    · obtain ⟨q, hq, pair⟩ := ih found
      exact ⟨q, by simp [hq], pair⟩

theorem Conveys.handOver (conveys : Conveys depth name offersRunner change i d r e p) {l : Nat}
    {items : List Value} {pairs : List (Value × Ref)} (list : w.lists[l]? = some items)
    (arePairs : ArePairs items pairs) (engaged : Engaged w i d r e p)
    (plain : ∀ q ∈ pairs, q.1.Plain w) (fits : ∀ q ∈ pairs, offersRunner w q.2) :
    ∃ w', handOver (Host.ofDepth (depth + 1)) (.object i) name (.ref (.list l)) w =
        handedOver pairs w' ∧
      Rests (.table d p) w w' ∧ Engaged w' i d r e p ∧
      w'.tableAt p = (handed pairs).foldl change (w.tableAt p) := by
  have leaves : ∀ v ∈ items, Host.Leaves
      (fun _ w' => Rests (.table d p) w w' ∧ Engaged w' i d r e p)
      (handOne (Host.ofDepth (depth + 1)) (.object i) name) v := by
    intro v found b u b' u' now run
    obtain ⟨kept, engaged⟩ := now
    obtain ⟨⟨event, f⟩, hq, stamp, rfl⟩ := arePairs.exists_pair found
    have plainNow := kept.plain.2 (plain _ hq)
    have fitsNow := conveys.fits kept (fits _ hq)
    cases key : event.key with
    | error kind => simp [conveys.refuses stamp engaged plainNow fitsNow key] at run
    | ok k =>
      obtain ⟨u₁, run₁, kept₁, engaged₁, -⟩ := conveys.changes stamp engaged plainNow fitsNow key
      obtain ⟨-, rfl⟩ := EStateM.Result.ok.inj (run₁.symm.trans run)
      exact ⟨kept.trans kept₁, engaged₁⟩
  rw [Task.handOver, Host.foldItems_list (fun _ w' now => now.1.lists l items id list) leaves ()
    ⟨.refl _ w, engaged⟩]
  exact conveys.foldlM arePairs engaged plain fits

/-- The loop of `install` over some pairs. -/
theorem handOver_on {l : Nat} {items : List Value} {pairs : List (Value × Ref)}
    (list : w.lists[l]? = some items) (arePairs : ArePairs items pairs)
    (engaged : Engaged w i d r e p) (plain : ∀ q ∈ pairs, q.1.Plain w)
    (callable : ∀ q ∈ pairs, w.isCallable (.ref q.2) = true) (depth : Nat) :
    ∃ w', handOver (Host.ofDepth (depth + 1)) (.object i) "on" (.ref (.list l)) w =
        handedOver pairs w' ∧
      Rests (.table d p) w w' ∧ Engaged w' i d r e p ∧
      w'.tableAt p = (w.tableAt p).subscribeAll (handed pairs) :=
  (conveys_on depth i d r e p).handOver list arePairs engaged plain callable

/-- The loop of `destroy` over some pairs. -/
theorem handOver_off {l : Nat} {items : List Value} {pairs : List (Value × Ref)}
    (list : w.lists[l]? = some items) (arePairs : ArePairs items pairs)
    (engaged : Engaged w i d r e p) (plain : ∀ q ∈ pairs, q.1.Plain w)
    (keyed : refused pairs = none) (depth : Nat) :
    ∃ w', handOver (Host.ofDepth (depth + 1)) (.object i) "off" (.ref (.list l)) w = .ok () w' ∧
      Rests (.table d p) w w' ∧ Engaged w' i d r e p ∧
      w'.tableAt p = (w.tableAt p).unsubscribeAll (handed pairs) := by
  obtain ⟨w', run, rest⟩ := (conveys_off depth i d r e p).handOver list arePairs engaged plain
    fun _ _ => trivial
  rw [handedOver, keyed] at run
  exact ⟨w', run, rest⟩

end Task

end EventTasks
