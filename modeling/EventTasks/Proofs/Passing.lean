import EventTasks.Proofs.AttachOutcome
import EventTasks.Proofs.Noting

/-!
The pass over all that a capability offers. The names are gone through in their order, and each goes
its way. What the task gains are forwarders, under names that meant nothing to it. The pass is given
up only where the class of the task fails to say whether it has a name.
-/
namespace EventTasks

open Act

namespace Task

/-- The turns of `_attach_logger`, one name after the other. If `hasattr` on the class of the task
raises, they end there. -/
inductive Pass (h : Host) (i g : Nat) (x : Value) (task : String) :
    World → List String → List Way → Option Fault → World → Prop
  | done {u : World} : Pass h i g x task u [] [] none u
  | next {u u₁ u₂ v : World} {n : String} {names : List String} {way : Way} {ways : List Way}
      {fault : Option Fault} (decides : Decides h i g x n u way u₁)
      (run : attachOne h (.object i) (.word n) u = .ok () u₂) (done : way.Done i g task n u u₂)
      (rest : Pass h i g x task u₂ names ways fault v) :
      Pass h i g x task u (n :: names) (way :: ways) fault v
  | stops {u u₁ : World} {n : String} {names : List String} {f : Fault}
      (new : ¬ (u.namesAt g).Names n)
      (own : ∀ m, (u₁.attributesOf i).text? m = (u.attributesOf i).text? m)
      (failed : h.attr (.cls (u.objectClassOf i)) n u = .error f u₁) (worse : f.isMissing = false) :
      Pass h i g x task u (n :: names) [] (some f) u₁

def Pass.ending (a : α) (fault : Option Fault) (u : World) : EStateM.Result Fault World α :=
  match fault with
  | none => .ok a u
  | some f => .error f u

section course

variable {h : Host} {w u v : World} {i d g k : Nat} {x : Value} {task n : String}
  {names : List String} {way : Way} {ways : List Way} {fault : Option Fault} {f : Fault}

theorem Decides.class_answers (decides : Decides h i g x n u way v) (new : ¬ (u.namesAt g).Names n)
    {u₁ : World} (failed : h.attr (.cls (u.objectClassOf i)) n u = .error f u₁) :
    f.isMissing = true := by
  have lacking {u₂ : World} (free : Free h i g n u u₂) : f.isMissing = true := by
    obtain ⟨f', lacks, missing⟩ := free.lacks
    obtain ⟨rfl, -⟩ := EStateM.Result.error.inj (failed.symm.trans lacks)
    exact missing
  cases decides with
  | kept known => exact absurd known new
  | ofClass _ found => cases failed.symm.trans found
  | ofItsOwn _ lacks missing _ =>
    obtain ⟨rfl, -⟩ := EStateM.Result.error.inj (failed.symm.trans lacks)
    exact missing
  | unreadable free | missing free | uncallable free | attached free => exact lacking free

/-- The names can go their ways in one way only. -/
theorem Pass.unique (course : Pass h i g x task u names ways fault v) {ways' : List Way}
    {fault' : Option Fault} {v' : World} (course' : Pass h i g x task u names ways' fault' v') :
    ways' = ways ∧ fault' = fault ∧ v' = v := by
  induction course generalizing ways' fault' v' with
  | done =>
    cases course'
    exact ⟨rfl, rfl, rfl⟩
  | next decides run done rest ih =>
    cases course' with
    | next decides' run' _ rest' =>
      obtain ⟨-, rfl⟩ := EStateM.Result.ok.inj (run.symm.trans run')
      obtain ⟨rfl, rfl, rfl⟩ := ih rest'
      exact ⟨by rw [decides.unique decides'], rfl, rfl⟩
    | stops new own failed worse =>
      rw [decides.class_answers new failed] at worse
      cases worse
  | stops new own failed worse =>
    cases course' with
    | next decides' =>
      rw [decides'.class_answers new failed] at worse
      cases worse
    | stops _ _ failed' =>
      obtain ⟨rfl, rfl⟩ := EStateM.Result.error.inj (failed.symm.trans failed')
      exact ⟨rfl, rfl, rfl⟩

theorem Way.Done.own_iff (done : way.Done i g task n u v) (m : String) :
    (v.attributesOf i).text? m ≠ none ↔
      (u.attributesOf i).text? m ≠ none ∨ (m, Way.attached) = (n, way) := by
  by_cases here : way = .attached ∧ m = n
  · obtain ⟨rfl, rfl⟩ := here
    simp [(done.attached rfl).1]
  · rw [done.others m here]
    refine ⟨.inl, fun either => either.resolve_right fun same => ?_⟩
    obtain ⟨rfl, rfl⟩ := Prod.mk.inj same
    exact here ⟨rfl, rfl⟩

/-- The attributes that come to the task are those under the names that are attached. -/
theorem Pass.own_iff (course : Pass h i g x task u names ways fault v) (m : String) :
    (v.attributesOf i).text? m ≠ none ↔
      (u.attributesOf i).text? m ≠ none ∨ (m, Way.attached) ∈ names.zip ways := by
  induction course with
  | done => simp
  | next decides run done rest ih =>
    rw [ih, done.own_iff, List.zip_cons_cons, List.mem_cons, or_assoc]
  | stops new own failed worse =>
    simp [own]

theorem Pass.length_eq (pass : Pass h i g x task u names ways fault v) (through : fault = none) :
    ways.length = names.length := by
  induction pass with
  | done => rfl
  | next decides run done rest ih => simp [ih through]
  | stops => cases through

/-- All names of the loop of `_attach_logger` go their ways. -/
theorem forM_attachOne {depth : Nat} (attachable : Attachable w i d g x task)
    (gained : Gained w i d g u) {l : List String} (arePublic : ∀ n ∈ l, IsPublic n)
    (undisturbed : PassUndisturbed (Host.ofDepth (depth + 1)) i g x l u) :
    ∃ ways fault v, Pass (Host.ofDepth (depth + 1)) i g x task u l ways fault v ∧
      (l.map .word).forM (attachOne (Host.ofDepth (depth + 1)) (.object i)) u =
        Pass.ending ⟨⟩ fault v ∧
      Gained w i d g v ∧
      ∀ f, fault = some f → ∃ n ∈ l, ∃ u₁ v₁, Gained w i d g u₁ ∧ (Host.ofDepth (depth + 1)).attr
        (.cls (w.objectClassOf i)) n u₁ = .error f v₁ ∧ f.isMissing = false := by
  induction l generalizing u with
  | nil => exact ⟨[], none, u, .done, rfl, gained, by simp⟩
  | cons n l ih =>
    obtain ⟨reads, further⟩ := undisturbed
    rcases attachOne_step attachable reads gained (arePublic n List.mem_cons_self) with
      ⟨way, u₁, u₂, decides, run, done, gained₂⟩ | ⟨f, v, new, still, failed, worse, run⟩
    · obtain ⟨ways, fault, v, pass, rest, gained', failing⟩ :=
        ih gained₂ (fun m inside => arePublic m (List.mem_cons_of_mem _ inside)) (further u₂ run)
      refine ⟨way :: ways, fault, v, .next decides run done pass, ?_, gained', fun f same => ?_⟩
      · exact (bind_of_ok run).trans rest
      · obtain ⟨m, inside, rest⟩ := failing f same
        exact ⟨m, List.mem_cons_of_mem _ inside, rest⟩
    · have own (m : String) := (still.untouched d).toKeeps.own (n := m)
        (gained.toKeeps.holds attachable.holds) (.inr id)
      refine ⟨[], some f, v, .stops new own failed worse, bind_of_error run,
        gained.still attachable.holds still, ?_⟩
      rintro f' same
      obtain rfl := Option.some.inj same
      rw [gained.toKeeps.objectClassOf] at failed
      exact ⟨n, List.mem_cons_self, u, v, gained, failed, worse⟩

/-- Where reading the names is harmless in all worlds to come, the pass is undisturbed. -/
theorem Harmless.undisturbed {depth : Nat} (attachable : Attachable w i d g x task)
    (harmless : Harmless (Host.ofDepth (depth + 1)) w i d g x names) (gained : Gained w i d g u)
    {l : List String} (offered : ∀ n ∈ l, n ∈ names ∧ IsPublic n) :
    PassUndisturbed (Host.ofDepth (depth + 1)) i g x l u := by
  induction l generalizing u with
  | nil => trivial
  | cons n l ih =>
    obtain ⟨asked, isPublic⟩ := offered n List.mem_cons_self
    have reads := harmless.readsStill attachable.holds gained asked isPublic.ne
    refine ⟨fun _ => reads, fun v run => ?_⟩
    rcases attachOne_step attachable (fun _ => reads) gained isPublic with
      ⟨-, -, v', -, run', -, gained'⟩ | ⟨f, v', -, -, -, -, failed⟩
    · obtain ⟨-, rfl⟩ := EStateM.Result.ok.inj (run'.symm.trans run)
      exact ih gained' fun m inside => offered m (List.mem_cons_of_mem _ inside)
    · cases failed.symm.trans run

/-- `_attach_logger` goes through the operations of the capability in their order, and each goes one
of the five ways and only one. The task gains nothing but forwarders, under free names, exactly
those that are attached; no class is changed. It fails only where `hasattr` on the class of the task
raises. -/
theorem attachLogger_passes {depth : Nat} (attachable : Attachable w i d g x task)
    (capability : w.Shows i "log_capability" (.cls k))
    (surveyed : w.Surveyed (Host.ofDepth (depth + 1)) k)
    (harmless : Harmless (Host.ofDepth (depth + 1)) w i d g x (w.operationsAlong k)) :
    ∃ names u ways fault v,
      Capability.operations (Host.ofDepth (depth + 1)) (.cls k) w = .ok (names.map .word) u ∧
      (∀ n, n ∈ names ↔ n ∈ w.operationsAlong k) ∧
      Pass (Host.ofDepth (depth + 1)) i g x task u names ways fault v ∧
      (∀ ways' fault' v', Pass (Host.ofDepth (depth + 1)) i g x task u names ways' fault' v' →
        ways' = ways ∧ fault' = fault ∧ v' = v) ∧
      attachLogger (Host.ofDepth (depth + 1)) (.object i) w = Pass.ending .nothing fault v ∧
      Gained w i d g v ∧
      (∀ n, (w.attributesOf i).text? n ≠ none ∨ w.definition? (w.objectClassOf i) n ≠ none →
        (v.attributesOf i).text? n = (w.attributesOf i).text? n) ∧
      (∀ n, (v.attributesOf i).text? n ≠ none ↔
        (w.attributesOf i).text? n ≠ none ∨ (n, Way.attached) ∈ names.zip ways) ∧
      (fault = none → ways.length = names.length) ∧
      ∀ f, fault = some f → ∃ n ∈ names, ∃ u₁ v₁, Gained w i d g u₁ ∧
      (Host.ofDepth (depth + 1)).attr
        (.cls (w.objectClassOf i)) n u₁ = .error f v₁ ∧ f.isMissing = false := by
  obtain ⟨u, found, still⟩ := Capability.operations_run attachable.standard surveyed
  let names := (w.operationsAlong k).foldl addNew []
  have member (n : String) : n ∈ names ↔ n ∈ w.operationsAlong k := by
    rw [mem_foldl_addNew]
    simp
  have offered : ∀ n ∈ names, n ∈ w.operationsAlong k ∧ IsPublic n := fun n inside =>
    ⟨(member n).1 inside, (World.mem_operationsAlong.1 ((member n).1 inside)).1⟩
  have gained := (Gained.refl attachable).still attachable.holds still
  obtain ⟨ways, fault, v, pass, run, gained', failing⟩ := forM_attachOne attachable gained
    (fun n inside => (offered n inside).2) (harmless.undisturbed attachable gained offered)
  have own (n : String) := (still.untouched d).toKeeps.own (n := n) attachable.holds (.inr id)
  refine ⟨names, u, ways, fault, v, found, member, pass, fun _ _ _ => pass.unique, ?_, gained', ?_,
    ?_, pass.length_eq, failing⟩
  · rw [attachLogger, bind_of_ok (Host.attr_shows attachable.usual capability), bind_of_ok found]
    cases fault with
    | none => exact bind_of_ok run
    | some f => exact bind_of_error run
  · intro n present
    refine gained'.toKeeps.own attachable.holds (.inr fun fresh => ?_)
    exact present.elim (fun here => here fresh.2.1) fun here => here fresh.2.2
  · intro n
    rw [pass.own_iff, own]

end course

end Task

namespace Opening

open EventTasks.Task

/-- The task of an opening, on a runner that is a host of log methods, can be offered them. -/
theorem attachable_talking : Attachable (talking .start) task 1 0 (.object emitter) "Base" where
  standard _ _ := .refl _
  usual := (speaksTo_talking .start).usual
  holds := ⟨rfl, by simp [talking, World.opening, World.start]⟩
  textual := by
    have textual := (Dictionary.textual_ofTexts [(runnerField, .nothing),
      (forwardersField, .ref (.names 0)), (subscriptionsField, .ref (.list 0)),
      ("events", .ref (.dict 3))]).setText runnerField (.object emitter)
    exact textual
  sets := show World.start.hook? Library.taskClass "__setattr__" = none by decide
  entries := ⟨Library.taskClass, rfl⟩
  maker := ⟨rfl, rfl⟩
  named := ⟨.word "Base", .inr ⟨rfl, rfl, rfl⟩, fun _ _ => rfl⟩
  runner := (speaksTo_talking .start).runner
  forwarders := .of_own rfl
    (show World.start.definition? Library.taskClass forwardersField = none by decide)
  inside := by simp [talking, World.opening]
  inOrder := Gathering.lists_empty

theorem surveyed_talking (h : Host) : (talking .start).Surveyed h Library.loggerClass :=
  World.surveyed_of_usualKind attachable_talking.standard
    (show ∀ c ∈ Library.loggerClass :: World.start.orderOf Library.loggerClass,
      World.start.UsualKind c by unfold World.UsualKind; decide)
    (show ∀ c ∈ World.start.orderOf Library.loggerClass,
      ∀ p ∈ (World.start.classInfo c).body, p.2.objectPlace? = none by decide) h

/-- Where a capability offers log operations alone, the class of tasks lacks what it offers, and
every host of log methods has it. -/
theorem operations_of_logOps {w : World} {k : Nat}
    (logOps : ∀ n ∈ w.operationsAlong k,
      n ∈ [LogOp.log, .info, .warn, .error, .debug].map LogOp.name)
    (task : ∀ op : LogOp, w.definition? Library.taskClass op.name = none)
    (type : ∀ op : LogOp, w.definition? Library.typeClass op.name = none)
    (host : ∀ op : LogOp, w.Means emitter op.name (.library (.log op))) :
    ∀ n ∈ w.operationsAlong k, n ≠ "__annotations__" ∧ w.definition? Library.taskClass n = none ∧
      w.definition? Library.typeClass n = none ∧ ∃ f, w.Means emitter n f := by
  intro n offered
  obtain ⟨op, -, rfl⟩ := List.mem_map.1 (logOps n offered)
  exact ⟨(World.mem_operationsAlong.1 offered).1.ne, task op, type op, .library (.log op), host op⟩

theorem operations_talking : ∀ n ∈ (talking .start).operationsAlong Library.loggerClass,
    n ≠ "__annotations__" ∧ World.start.definition? Library.taskClass n = none ∧
    World.start.definition? Library.typeClass n = none ∧
    ∃ f, (talking .start).Means emitter n f :=
  operations_of_logOps (w := talking .start) (by decide)
    (fun op => show World.start.definition? Library.taskClass op.name = none by cases op <;> decide)
    (fun op => show World.start.definition? Library.typeClass op.name = none by cases op <;> decide)
    fun op => by cases op <;> exact ⟨rfl, rfl⟩

theorem harmless_talking (h : Host) : Harmless h (talking .start) task 1 0 (.object emitter)
    ((talking .start).operationsAlong Library.loggerClass) :=
  harmless_of_means ⟨rfl, by simp [talking, World.opening, World.start]⟩ (by decide)
    (usual_talking .start) operations_talking

/-- All log methods of `ConformanceLogger` go their ways. -/
theorem attachLogger_passes_talking : ∃ names u ways v,
    Capability.operations (Host.ofDepth 5) (.cls Library.loggerClass) (talking .start) =
      .ok (names.map .word) u ∧
    Pass (Host.ofDepth 5) task 0 (.object emitter) "Base" u names ways none v ∧
    attachLogger (Host.ofDepth 5) (.object task) (talking .start) = .ok .nothing v ∧
    ways.length = names.length := by
  obtain ⟨names, u, ways, fault, v, found, member, pass, -, run, -, -, -, through, failing⟩ :=
    attachLogger_passes attachable_talking (.inr ⟨rfl, rfl, rfl⟩)
      (surveyed_talking (Host.ofDepth 5))
      (harmless_talking (Host.ofDepth 5))
  cases fault with
  | none => exact ⟨names, u, ways, v, found, pass, run, through rfl⟩
  | some f =>
    obtain ⟨n, inside, u₁, v₁, gained, failed, worse⟩ := failing f rfl
    obtain ⟨hn, undefined, above, -⟩ := operations_talking n ((member n).1 inside)
    rw [gained.attr_class hn undefined above] at failed
    obtain ⟨rfl, -⟩ := EStateM.Result.error.inj failed
    cases worse

end Opening

end EventTasks
