import EventTasks.Proofs.Hosting

/-!
Histories of tasks and their hosts: tasks are made, installed, destroyed and renamed, installs of
them are rejected, their forwarders are called, and what is called may be a history again. Whatever
the history, everyone stays in order, and a task keeps the forwarders that it was given: none is
ever replaced, and each speaks for its own task and for the runner and the name which the task has
at the time of the call.
-/
namespace EventTasks

open Act EventTasks.Task

/-- The tasks made so far, the hosts, a world, and of every task the host of its most recent install
unless that was undone. -/
structure Stage where
  tasks : List Actor
  hosts : List Nat
  world : World
  host : Nat → Option Nat

namespace Stage

def goOn (a : Stage) (w : World) : Stage := { a with world := w }

def settle (a : Stage) (i : Nat) (host : Option Nat) (w : World) : Stage :=
  { a with world := w, host := fun j => if j = i then host else a.host j }

theorem settle_self (a : Stage) (i : Nat) (w : World) : a.settle i (a.host i) w = a.goOn w := by
  have same : (fun j => if j = i then a.host i else a.host j) = a.host := by
    funext j
    split
    · rename_i here
      rw [here]
    · rfl
  rw [settle, same]
  rfl

end Stage

inductive Installs (m : Actor) (r : Nat) (a : Stage) : Stage → Prop where
  | mk {w' u : World} {options name value : Value} {text : String} {stamp k : Nat}
    {attach : Option Bool} (task : m ∈ a.tasks) (host : r ∈ a.hosts)
    (readOnly : ChecksReadOnly (k + 1) a.world m.object m.place m.registry m.listing
      options name text)
    (decodes : Decodes (k + 1) a.world options stamp (.object r) attach u)
    (run : install (Host.ofDepth (k + 2)) (.object m.object) options a.world = .ok value w') :
    Installs m r a (a.settle m.object (some r) w')

theorem Installs.task {m : Actor} {r : Nat} {a b : Stage} (installs : Installs m r a b) :
    m ∈ a.tasks := by
  obtain ⟨task⟩ := installs
  exact task

inductive Rejected (m : Actor) (a : Stage) : World → Prop where
  | mk {w' : World} {options name : Value} {text : String} {k : Nat} {f : Fault}
    (task : m ∈ a.tasks)
    (readOnly : ChecksReadOnly (k + 1) a.world m.object m.place m.registry m.listing
      options name text)
    (rejects : Rejects (k + 1) a.world m.object options name text m.listing f)
    (run : install (Host.ofDepth (k + 2)) (.object m.object) options a.world = .error f w') :
    Rejected m a w'

theorem Rejected.untouched {m : Actor} {a : Stage} {w' : World} (rejected : Rejected m a w') :
    m ∈ a.tasks ∧ Untouched a.world w' := by
  obtain ⟨task, readOnly, rejects, run⟩ := rejected
  obtain ⟨u, failed, same⟩ := rejects.install_fails readOnly
  obtain ⟨-, rfl⟩ := EStateM.Result.error.inj (run.symm.trans failed)
  exact ⟨task, same⟩

/-- What may happen between two stages: tasks are made, installed and destroyed, any of which may
fail, and whatever else spares all tasks. -/
inductive History {cast : Cast} (H : Hosting cast) : Stage → Stage → Prop where
  | still (a : Stage) : History H a a
  | next {a b c : Stage} (first : History H a b) (second : History H b c) : History H a c
  | made {a : Stage} {m : Actor} {w' : World} {name handlers value : Value} {depth : Nat}
    (actor : m ∈ cast.actors) (new : m ∉ a.tasks)
    (run : create (Host.ofDepth depth) (.object m.object) name handlers a.world = .ok value w')
    (spares : cast.Spares (fun m' _ => m' = m) a.world w') (stands : m.Stands none w')
    (fine : ∀ r ∈ a.hosts, H.Fine r w') :
    History H a { a.settle m.object none w' with tasks := m :: a.tasks }
  | installed {a b : Stage} {m : Actor} {r : Nat} (installs : Installs m r a b) : History H a b
  | rejected {a : Stage} {m : Actor} {w' : World} (rejected : Rejected m a w') :
    History H a (a.goOn w')
  | destroyed {a : Stage} {m : Actor} {w' : World} {value : Value} {depth : Nat}
    (task : m ∈ a.tasks)
    (run : destroy (Host.ofDepth depth) (.object m.object) a.world = .ok value w') :
    History H a (a.settle m.object none w')
  | refused {a : Stage} {m : Actor} {w' : World} {f : Fault} {depth : Nat} (task : m ∈ a.tasks)
    (run : destroy (Host.ofDepth depth) (.object m.object) a.world = .error f w') :
    History H a (a.goOn w')
  | renamed {a : Stage} {m : Actor} {w' : World} {name : Value} {depth : Nat} (task : m ∈ a.tasks)
    (simple : name.IsSimple) (settable : a.world.Settable m.object "name")
    (run : (Host.ofDepth depth).assign (.object m.object) "name" name a.world = .ok () w') :
    History H a (a.goOn w')
  | called {a b : Stage} {m : Actor} {n : String} {j k : Nat} {info : ForwarderInfo}
    {f front : Value}
    {u : World} {args : List Value} (task : m ∈ a.tasks)
    (forwards : a.world.Forwards m.object n (.function (.forwarder j)))
    (there : a.world.forwarders[j]? = some info)
    (reached : reach (Host.ofDepth k) info a.world = .ok (f, front) u)
    (body : History H (a.goOn u)
      (b.goOn (((Host.ofDepth k).call f (front :: args) []).after u))) :
    History H a (b.goOn
      (((Host.ofDepth (k + 1)).call (.function (.forwarder j)) args []).after a.world))
  | barred {a : Stage} {m : Actor} {n : String} {j k : Nat} {info : ForwarderInfo} {e : Fault}
    {u : World} {args : List Value} (task : m ∈ a.tasks)
    (forwards : a.world.Forwards m.object n (.function (.forwarder j)))
    (there : a.world.forwarders[j]? = some info)
    (failed : reach (Host.ofDepth k) info a.world = .error e u) :
    History H a (a.goOn
      (((Host.ofDepth (k + 1)).call (.function (.forwarder j)) args []).after a.world))
  | elsewhere {a : Stage} {w' : World} {hosts : List Nat}
    (spares : cast.Spares (fun _ _ => False) a.world w') (more : a.hosts ⊆ hosts)
    (fine : ∀ r ∈ hosts, H.Fine r w') : History H a { a with world := w', hosts := hosts }

def unspoken : List String := ["name", runnerField, subscriptionsField]

variable {cast : Cast} {H : Hosting cast} {m : Actor} {r : Nat} {w w' : World}
  {n : String} {x : Value}

theorem Hosting.Fine.next (fine : H.Fine r w) (lists : w.lists.size ≤ w'.lists.size)
    (kept : ∀ q, w.lists.size ≤ q → H.fine r q w → H.fine r q w') : H.Fine r w' := fun q hq =>
  kept q (Nat.le_trans lists hq) (fine q (Nat.le_trans lists hq))

namespace Stage

variable {a b c : Stage} {host : Option Nat}

structure InOrder (H : Hosting cast) (a : Stage) : Prop where
  members : ∀ m ∈ a.tasks, m ∈ cast.actors
  stands : ∀ m ∈ a.tasks, m.Stands (a.host m.object) a.world
  known : ∀ m ∈ a.tasks, ∀ r, a.host m.object = some r → r ∈ a.hosts
  fine : ∀ r ∈ a.hosts, H.Fine r a.world

def may (a : Stage) (m : Actor) (n : String) : Prop :=
  m ∈ a.tasks → n ∈ unspoken ∨ m.Lacks a.world n

structure Leads (H : Hosting cast) (a b : Stage) : Prop where
  order : b.InOrder H
  tasks : ∀ m ∈ a.tasks, m ∈ b.tasks
  spares : cast.Spares a.may a.world b.world

/-- What is about one task leaves everyone in order if that task stands as it should. -/
theorem InOrder.settles {may : Actor → String → Prop} (order : a.InOrder H) (task : m ∈ a.tasks)
    (spares : cast.Spares may a.world w') (alone : ∀ m' n, may m' n → m' = m)
    (stands : m.Stands host w') (known : ∀ r, host = some r → r ∈ a.hosts)
    (fine : ∀ r q, a.world.lists.size ≤ q → H.fine r q a.world → H.fine r q w') :
    (a.settle m.object host w').InOrder H where
  members := order.members
  stands m' task' := by
    show m'.Stands (if m'.object = m.object then host else a.host m'.object) w'
    split
    · rename_i same
      exact cast.objects m' (order.members m' task') m (order.members m task) same ▸ stands
    · rename_i other
      have free (n : String) : ¬ may m' n := fun set => other (alone m' n set ▸ rfl)
      have before := order.stands m' task'
      exact before.of_spared (spares.actors m' (order.members m' task') before.internals) (free _)
        fun n _ => free n
  known m' task' r' is := by
    by_cases same : m'.object = m.object
    · exact known r' (by simpa [settle, same] using is)
    · exact order.known m' task' r' (by simpa [settle, same] using is)
  fine r' hr := (order.fine r' hr).next spares.lists (fine r')

theorem InOrder.about {may : Actor → String → Prop} (order : a.InOrder H) (task : m ∈ a.tasks)
    (spares : cast.Spares may a.world w') (alone : ∀ m' n, may m' n → m' = m)
    (harmless : ∀ n, may m n → n ∈ unspoken ∨ m.Lacks a.world n) (stands : m.Stands host w')
    (known : ∀ r, host = some r → r ∈ a.hosts)
    (fine : ∀ r q, a.world.lists.size ≤ q → H.fine r q a.world → H.fine r q w') :
    a.Leads H (a.settle m.object host w') where
  order := order.settles task spares alone stands known fine
  tasks _ := id
  spares := spares.mono fun m' _ n set _ => by
    obtain rfl := alone m' n set
    exact harmless n set

theorem InOrder.quiet (order : a.InOrder H) (task : m ∈ a.tasks)
    (spares : cast.Spares (fun _ _ => False) a.world w')
    (fine : ∀ r q, a.world.lists.size ≤ q → H.fine r q a.world → H.fine r q w') :
    a.Leads H (a.goOn w') := by
  have stands := order.stands m task
  rw [← settle_self a m.object]
  exact order.about task spares (fun _ _ => False.elim) (fun _ => False.elim)
    (stands.of_spared (spares.actors m (order.members m task) stands.internals) id fun _ _ => id)
    (order.known m task) fine

theorem InOrder.hosted (order : a.InOrder H) (installs : Installs m r a b) :
    H.Installed m r a.world b.world := by
  obtain ⟨task, host, readOnly, decodes, run⟩ := installs
  exact H.installed_of_run (order.members m task) (order.stands m task) (order.fine r host)
    readOnly decodes
    run

/-- An install on one of the hosts leads on, however it ended. -/
theorem InOrder.engaged (order : a.InOrder H) (task : m ∈ a.tasks) (host : r ∈ a.hosts)
    (installed : H.Installed m r a.world w') : a.Leads H (a.settle m.object (some r) w') := by
  refine order.about task installed.spares (fun _ _ gained => gained.1) (fun n gained => ?_)
    installed.stands (fun r' is => Option.some.inj is ▸ host) installed.fine
  refine gained.2.imp_left fun book => ?_
  exact List.mem_cons_of_mem _ book

theorem InOrder.installed (order : a.InOrder H) (installs : Installs m r a b) : a.Leads H b := by
  have installed := order.hosted installs
  obtain ⟨task, host, -, -, -⟩ := installs
  exact order.engaged task host installed

theorem InOrder.rejected (order : a.InOrder H) (rejected : Rejected m a w') :
    a.Leads H (a.goOn w') := by
  obtain ⟨task, same⟩ := rejected.untouched
  exact order.quiet task (.of_untouched same) fun r q _ now =>
    H.aside now (order.members m task) same.keeps

theorem InOrder.destroyed {value : Value} {depth : Nat} (order : a.InOrder H) (task : m ∈ a.tasks)
    (run : Task.destroy (Host.ofDepth depth) (.object m.object) a.world = .ok value w') :
    a.Leads H (a.settle m.object none w') := by
  obtain ⟨⟨spares, fine⟩, stands⟩ := (H.destroy_goes (order.members m task) (order.stands m task)
    (fun r is => order.fine r (order.known m task r is)) depth).1.of_ok run
  exact order.about task spares (fun _ _ book => book.1)
    (fun n book => .inl (List.mem_cons_of_mem _ book.2)) stands (by simp) fine

theorem InOrder.refused {f : Fault} {depth : Nat} (order : a.InOrder H) (task : m ∈ a.tasks)
    (run : Task.destroy (Host.ofDepth depth) (.object m.object) a.world = .error f w') :
    a.Leads H (a.goOn w') := by
  obtain ⟨goes, keeps⟩ := H.destroy_goes (order.members m task) (order.stands m task)
    (fun r is => order.fine r (order.known m task r is)) depth
  obtain ⟨⟨spares, fine⟩, -⟩ := goes.of_error run
  rw [← settle_self a m.object]
  exact order.about task spares (fun _ _ book => book.1)
    (fun n book => .inl (List.mem_cons_of_mem _ book.2)) (keeps f w' run) (order.known m task) fine

theorem InOrder.renamed {name : Value} {depth : Nat} (order : a.InOrder H) (task : m ∈ a.tasks)
    (simple : name.IsSimple) (settable : a.world.Settable m.object "name")
    (run : (Host.ofDepth depth).assign (.object m.object) "name" name a.world = .ok () w') :
    a.Leads H (a.goOn w') := by
  have actor := order.members m task
  have stands := order.stands m task
  have internals := stands.internals
  have set := Host.assign_settable (h := Host.ofDepth depth) (v := name) internals.holds settable
  obtain ⟨-, rfl⟩ := EStateM.Result.ok.inj (run.symm.trans set)
  have kept : Keeps ⟨m.place, (· = "name"), fun _ => False⟩ a.world
      (a.world.putText m.place "name" name) := .putText rfl name
  have spared : m.Spared (· = "name") a.world (a.world.putText m.place "name" name) :=
    .of_internals internals (DefaultInternals.of_keeps_named internals kept internals.apart
      (fun _ _ other => .inr other)
      ⟨name, simple, World.shows_putText internals.holds settable name⟩) kept fun _ => .inr
  have spares : cast.Spares (fun m' n => m' = m ∧ n = "name") a.world
      (a.world.putText m.place "name" name) :=
    .of_keeps kept actor rfl fun _ => spared.mono fun n same => ⟨rfl, same⟩
  rw [← settle_self a m.object]
  exact order.about task spares (fun _ _ same => same.1)
    (fun n same => .inl (by simp [unspoken, same.2]))
    (stands.of_spared spared (by decide) fun n hn => by
      rcases List.mem_cons.1 hn with rfl | hn
      · decide
      · rw [List.mem_singleton.1 hn]
        decide) (order.known m task) fun r q _ now =>
    H.fine_of_keeps now actor kept rfl fun _ => id

theorem InOrder.reached {j k : Nat} {info : ForwarderInfo} (order : a.InOrder H)
    (task : m ∈ a.tasks)
    (forwards : a.world.Forwards m.object n (.function (.forwarder j)))
    (there : a.world.forwarders[j]? = some info) :
    a.Leads H (a.goOn ((reach (Host.ofDepth k) info).after a.world)) := by
  have stands := order.stands m task
  have internals := stands.internals
  obtain ⟨isPublic, j', info', same, there', own, rfl⟩ := forwards
  obtain rfl : j = j' := by simpa [Value.function] using same
  obtain rfl := Option.some.inj (there.symm.trans there')
  have runner : a.world.Shows m.object runnerField .nothing ∨
      ∃ r, a.world.Shows m.object runnerField (.object r) ∧
        Untouched a.world (((Host.ofDepth k).attr (.object r) info.name).after a.world) := by
    have shown := internals.shows (by simp) stands.runner
    cases is : a.host m.object with
    | none =>
      rw [is] at shown
      exact .inl shown
    | some r =>
      rw [is] at shown
      exact .inr ⟨r, shown,
        H.read (order.fine r (order.known m task r is) _ (Nat.le_refl _)) isPublic⟩
  have kept := (reach_goes internals.usual internals.holds stands.prefixes own internals.named
    k runner).stays
  exact order.quiet task (.of_rests (s := .nothing 0) fun _ => kept _)
    fun r q _ now => H.aside now (order.members m task) (kept _)

theorem InOrder.elsewhere {hosts : List Nat} (order : a.InOrder H)
    (spares : cast.Spares (fun _ _ => False) a.world w') (more : a.hosts ⊆ hosts)
    (fine : ∀ r ∈ hosts, H.Fine r w') : a.Leads H { a with world := w', hosts := hosts } where
  order.members := order.members
  order.stands m task := by
    have stands := order.stands m task
    exact stands.of_spared (spares.actors m (order.members m task) stands.internals)
      id fun _ _ => id
  order.known m task r is := more (order.known m task r is)
  order.fine := fine
  tasks _ := id
  spares := spares.mono fun _ _ _ => False.elim

theorem InOrder.made (order : a.InOrder H) (actor : m ∈ cast.actors) (new : m ∉ a.tasks)
    (spares : cast.Spares (fun m' _ => m' = m) a.world w') (stands : m.Stands none w')
    (fine : ∀ r ∈ a.hosts, H.Fine r w') :
    a.Leads H { a.settle m.object none w' with tasks := m :: a.tasks } where
  order.members m' task' := (List.mem_cons.1 task').elim (· ▸ actor) (order.members m')
  order.stands m' task' := by
    show m'.Stands (if m'.object = m.object then none else a.host m'.object) w'
    rcases List.mem_cons.1 task' with rfl | old
    · rwa [if_pos rfl]
    · have other : m' ≠ m := fun same => new (same ▸ old)
      have before := order.stands m' old
      rw [if_neg fun same => other (cast.objects m' (order.members m' old) m actor same)]
      exact before.of_spared (spares.actors m' (order.members m' old) before.internals) other
        fun _ _ => other
  order.known m' task' r is := by
    rcases List.mem_cons.1 task' with rfl | old
    · simp [settle] at is
    · have other : m'.object ≠ m.object := fun same =>
        new (cast.objects m' (order.members m' old) m actor same ▸ old)
      exact order.known m' old r (by simpa [settle, other] using is)
  order.fine := fine
  tasks m' := List.mem_cons_of_mem _
  spares := spares.mono fun m' _ n same task' => absurd (same ▸ task') new

/-! What a task keeps -/

/-- A task has a forwarder of its own under a name that its class does not define. -/
structure Carries (a : Stage) (m : Actor) (n : String) (x : Value) : Prop where
  task : m ∈ a.tasks
  own : m.own? a.world n = some x
  forwards : a.world.Forwards m.object n x
  lacks : a.world.definition? (a.world.objectClassOf m.object) n = none
  other : n ∉ unspoken

theorem Carries.leads (carries : a.Carries m n x) (order : a.InOrder H) (leads : a.Leads H b) :
    b.Carries m n x := by
  have spared := leads.spares.actors m (order.members m carries.task)
    (order.stands m carries.task).internals
  have kept : ¬ a.may m n := fun may => (may carries.task).elim carries.other fun fresh => by
    have absent : m.own? a.world n = none := fresh.2.1
    simp [carries.own] at absent
  exact ⟨leads.tasks m carries.task, (spared.own n kept).trans carries.own,
    carries.forwards.of_grown leads.spares.forwarders,
    (spared.defined n carries.forwards.1.ne).trans carries.lacks, carries.other⟩

end Stage

/-- What lasts from each stage to the next lasts through a whole history, and everyone stays in
order. -/
theorem History.lasts {P : Stage → Prop} {a b : Stage}
    (leads : ∀ a b : Stage, a.InOrder H → a.Leads H b → P a → P b) (history : History H a b)
    (order : a.InOrder H) (now : P a) : b.InOrder H ∧ P b := by
  -- each step but a call leads on at once; what is called goes on from the stage that was reached
  have step {a b : Stage} (order : a.InOrder H) (now : P a) (led : a.Leads H b) :
      b.InOrder H ∧ P b :=
    ⟨led.order, leads a b order led now⟩
  induction history with
  | still a => exact ⟨order, now⟩
  | next first second ih₁ ih₂ =>
    obtain ⟨order₁, now₁⟩ := ih₁ order now
    exact ih₂ order₁ now₁
  | made actor new run spares stands fine =>
    exact step order now (order.made actor new spares stands fine)
  | installed installs => exact step order now (order.installed installs)
  | rejected rejected => exact step order now (order.rejected rejected)
  | destroyed task run => exact step order now (order.destroyed task run)
  | refused task run => exact step order now (order.refused task run)
  | renamed task simple settable run =>
    exact step order now (order.renamed task simple settable run)
  | @called a b m n j k info f front u args task forwards there reached body ih =>
    have led := order.reached (k := k) task forwards there
    rw [after_of_ok reached] at led
    obtain ⟨order₁, now₁⟩ := step order now led
    have same : ((Host.ofDepth (k + 1)).call (.function (.forwarder j)) args []).after a.world =
        ((Host.ofDepth k).call f (front :: args) []).after u := by
      simp only [after, call_forwarder there k args, bind_of_ok reached]
    rw [same]
    exact ih order₁ now₁
  | @barred a m n j k info e u args task forwards there failed =>
    have led := order.reached (k := k) task forwards there
    have same : ((Host.ofDepth (k + 1)).call (.function (.forwarder j)) args []).after a.world =
        (reach (Host.ofDepth k) info).after a.world := by
      simp only [after, call_forwarder there k args, bind_of_error failed, failed]
    rw [same]
    exact step order now led
  | elsewhere spares more fine => exact step order now (order.elsewhere spares more fine)

/-- Through a whole history everyone stays in order, and a task keeps its forwarders. -/
theorem History.keeps {a b : Stage} (history : History H a b) (order : a.InOrder H) :
    b.InOrder H ∧ ∀ m n x, a.Carries m n x → b.Carries m n x :=
  ⟨(history.lasts (P := fun _ => True) (fun _ _ _ _ => id) order trivial).1, fun m n x carries =>
    (history.lasts (P := fun z => z.Carries m n x)
      (fun _ _ order leads now => now.leads order leads)
      order carries).2⟩

end EventTasks
