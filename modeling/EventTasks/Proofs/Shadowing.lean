import EventTasks.Proofs.Passing
import Mathlib.Data.List.Nodup

/-!
Operations that a capability has over one another. What a class offers under a name is not decided
by the definition that it uses: an operation further back in its search order counts as well. So a
class that puts something else in the place of an operation still offers it, and attaching log
methods goes through its name as through any other.
-/
namespace EventTasks

open Act

namespace World

/-- The definition of a name that a class uses, and the classes behind the one that defines it. -/
structure Uses (w : World) (k : Nat) (n : String) (v : Value) (behind : List Nat) : Prop where
  hook : w.hook? k n = some v
  first : ∃ front c, (w.orderOf k).filter (· ≠ Library.objectClass) = front ++ c :: behind ∧
    (w.classInfo c).body.lookup n = some v ∧ ∀ d ∈ front, (w.classInfo d).body.lookup n = none

def OfferedBy (w : World) (classes : List Nat) (n : String) : Prop :=
  ∃ c ∈ classes, ∃ v, (n, v) ∈ (w.classInfo c).body ∧ w.isOperation v = true

def HoldsOnce (w : World) (k : Nat) : Prop :=
  ∀ c ∈ w.orderOf k, ((w.classInfo c).body.map Prod.fst).Nodup

variable {w : World} {k : Nat} {n : String} {v : Value} {behind : List Nat}

theorem hasOperation_iff : w.HasOperation k n ↔
    w.OfferedBy ((w.orderOf k).filter (· ≠ Library.objectClass)) n := by
  simp only [HasOperation, OfferedBy, List.mem_filter, decide_eq_true_eq, and_assoc, ne_eq]

theorem uses_of_hook? (found : w.hook? k n = some v) : ∃ behind, w.Uses k n v behind := by
  obtain ⟨⟨c, v'⟩, entry, rfl⟩ := Option.map_eq_some_iff.1 found
  obtain ⟨front, c', behind, order, here, before⟩ := List.findSome?_eq_some_iff.1 entry
  obtain ⟨v'', looked, same⟩ := Option.map_eq_some_iff.1 here
  obtain ⟨rfl, rfl⟩ := Prod.mk.inj same
  refine ⟨behind, found, front, c', order, looked, fun d inside => ?_⟩
  exact Option.map_eq_none_iff.1 (before d inside)

theorem HasOperation.uses (has : w.HasOperation k n) : ∃ v behind, w.Uses k n v behind := by
  obtain ⟨c, along, other, v, inside, -⟩ := has
  cases found : w.hook? k n with
  | some v' => exact ⟨v', uses_of_hook? found⟩
  | none =>
    have nowhere := List.findSome?_eq_none_iff.1 (Option.map_eq_none_iff.1 found) c
      (List.mem_filter.2 ⟨along, by simpa using other⟩)
    have absent := List.lookup_eq_none_iff.1 (Option.map_eq_none_iff.1 nowhere) (n, v) inside
    simp at absent

/-- An operation is defined along a search order if the definition in use is one, or one stands
behind it. -/
theorem Uses.hasOperation_iff (uses : w.Uses k n v behind) (once : w.HoldsOnce k) :
    w.HasOperation k n ↔ w.isOperation v = true ∨ w.OfferedBy behind n := by
  obtain ⟨hook, front, c, order, here, before⟩ := uses
  have along : c ∈ w.orderOf k := by
    have inside : c ∈ front ++ c :: behind := by simp
    rw [← order] at inside
    exact (List.mem_filter.1 inside).1
  have held : (n, v) ∈ (w.classInfo c).body := by
    obtain ⟨before, after, body, -⟩ := List.lookup_eq_some_iff.1 here
    simp [body]
  rw [World.hasOperation_iff, order]
  constructor
  · rintro ⟨d, inside, v', entry, isOne⟩
    rcases List.mem_append.1 inside with early | late
    · have absent := List.lookup_eq_none_iff.1 (before d early) (n, v') entry
      simp at absent
    · rcases List.mem_cons.1 late with rfl | further
      · obtain rfl : v' = v := by
          have same := List.inj_on_of_nodup_map (once d along) entry held rfl
          exact (Prod.mk.inj same).2
        exact .inl isOne
      · exact .inr ⟨d, further, v', entry, isOne⟩
  · rintro (isOne | ⟨d, inside, defined⟩)
    · exact ⟨c, by simp, v, held, isOne⟩
    · exact ⟨d, by simp [inside], defined⟩

end World

namespace Task

variable {h : Host} {u v w : World} {i g : Nat} {x : Value} {task n : String} {names : List String}
  {ways : List Way} {fault : Option Fault}

/-- In a pass that goes through, each name goes the way that is decided when its turn comes. -/
theorem Pass.decided (pass : Pass h i g x task u names ways fault v) (through : fault = none)
    (inside : n ∈ names) :
    ∃ way u₁ u₂, (n, way) ∈ names.zip ways ∧ Decides h i g x n u₁ way u₂ := by
  induction pass with
  | done => cases inside
  | @next _ _ _ _ m _ way _ _ decides run done rest ih =>
    rcases List.mem_cons.1 inside with rfl | further
    · exact ⟨way, _, _, by simp, decides⟩
    · obtain ⟨way', u₁, u₂, paired, decides'⟩ := ih through further
      exact ⟨way', u₁, u₂, List.mem_cons_of_mem _ paired, decides'⟩
  | stops => cases through

end Task

namespace Capability

open EventTasks.Task

variable {w : World} {k depth : Nat}

/-- `logger_methods` in terms of the definitions in use: it gives a public name if the definition in
use is an operation, or if a class behind the one of that definition defines one, and no other name.
So `_attach_logger` goes through the name of an operation that an heir has put out of use. -/
theorem operations_shadowed (standard : w.Standard)
    (surveyed : w.Surveyed (Host.ofDepth (depth + 1)) k) (once : w.HoldsOnce k) :
    ∃ names u, operations (Host.ofDepth (depth + 1)) (.cls k) w = .ok (names.map .word) u ∧
      (∀ n v behind, IsPublic n → w.Uses k n v behind →
        (n ∈ names ↔ w.isOperation v = true ∨ w.OfferedBy behind n)) ∧
      (∀ n ∈ names, IsPublic n ∧ ∃ v behind, w.Uses k n v behind) ∧
      ∀ i d g x task, Attachable w i d g x task → w.Shows i "log_capability" (.cls k) →
        Harmless (Host.ofDepth (depth + 1)) w i d g x (w.operationsAlong k) →
        ∃ ways fault v, Pass (Host.ofDepth (depth + 1)) i g x task u names ways fault v ∧
          attachLogger (Host.ofDepth (depth + 1)) (.object i) w = Pass.ending .nothing fault v ∧
          (∀ n, (v.attributesOf i).text? n ≠ none ↔
            (w.attributesOf i).text? n ≠ none ∨ (n, Way.attached) ∈ names.zip ways) ∧
          (fault = none → ∀ n ∈ names, ∃ way u₁ u₂, (n, way) ∈ names.zip ways ∧
            Decides (Host.ofDepth (depth + 1)) i g x n u₁ way u₂) := by
  obtain ⟨u, found, still⟩ := operations_run standard surveyed
  have member (n : String) : n ∈ (w.operationsAlong k).foldl addNew [] ↔
      IsPublic n ∧ w.HasOperation k n := by
    rw [mem_foldl_addNew, World.mem_operationsAlong]
    simp
  refine ⟨_, u, found, ?_, ?_, ?_⟩
  · intro n v behind isPublic uses
    rw [member, ← uses.hasOperation_iff once]
    exact and_iff_right isPublic
  · intro n inside
    obtain ⟨isPublic, has⟩ := (member n).1 inside
    exact ⟨isPublic, has.uses⟩
  · intro i d g x task attachable capability harmless
    have offered : ∀ n ∈ (w.operationsAlong k).foldl addNew [],
        n ∈ w.operationsAlong k ∧ IsPublic n := fun n inside =>
      ⟨by simpa using mem_foldl_addNew.1 inside, ((member n).1 inside).1⟩
    have gained := (Gained.refl attachable).still attachable.holds still
    obtain ⟨ways, fault, v, pass, run, -, -⟩ := forM_attachOne attachable gained
      (fun n inside => (offered n inside).2) (harmless.undisturbed attachable gained offered)
    have own (n : String) := (still.untouched d).toKeeps.own (n := n) attachable.holds (.inr id)
    refine ⟨ways, fault, v, pass, ?_, fun n => ?_, fun through n => pass.decided through⟩
    · rw [attachLogger, bind_of_ok (Host.attr_shows attachable.usual capability), bind_of_ok found]
      cases fault with
      | none => exact bind_of_ok run
      | some f => exact bind_of_error run
    · rw [pass.own_iff, own]

end Capability

namespace Opening

open EventTasks.Task

def curbed : World :=
  { talking .start with
    classes := (talking .start).classes.push
      { name := "Curbed", qualifiedName := "Curbed", bases := [Library.loggerClass],
        order := [50, Library.loggerClass, Library.objectClass],
        body := [("warn", .nothing), ("mute", .nothing)], kind := Library.typeClass }
    dicts := (talking .start).dicts.modify 1 (·.setText "log_capability" (.cls 50)) }

/-- The name that the heir has set to nothing is offered, and the task gets a forwarder for it. -/
theorem operations_curbed : IsPublic "warn" ∧ curbed.hook? 50 "warn" = some .nothing ∧
    curbed.isOperation .nothing = false ∧
    (∃ names u, Capability.operations (Host.ofDepth 5) (.cls 50) curbed = .ok names u ∧
      names.any (fun v => v.text? == some "warn") = true) ∧
    (curbed.attributesOf task).text? "warn" = none ∧
    ∃ v u, attachLogger (Host.ofDepth 5) (.object task) curbed = .ok v u ∧
      (u.attributesOf task).text? "warn" ≠ none := by
  have offered : ((Capability.operations (Host.ofDepth 5) (.cls 50)).value? curbed).any
      (fun names => names.any fun v => v.text? == some "warn") = true := by decide +kernel
  have forwarded : (((attachLogger (Host.ofDepth 5) (.object task)).after curbed).attributesOf
      task).text? "warn" ≠ none := by decide +kernel
  obtain ⟨names, u, found⟩ := exists_of_succeeds
    (show (Capability.operations (Host.ofDepth 5) (.cls 50)).succeeds curbed =
      true by decide +kernel)
  obtain ⟨v, u', attached⟩ := exists_of_succeeds
    (show (attachLogger (Host.ofDepth 5) (.object task)).succeeds curbed = true by decide +kernel)
  rw [value?_of_ok found] at offered
  rw [after_of_ok attached] at forwarded
  exact ⟨by decide, rfl, rfl, ⟨names, u, found, offered⟩, rfl, v, u', attached, forwarded⟩

theorem classInfo_curbed {c : Nat} (early : c < World.start.classes.size) :
    curbed.classInfo c = World.start.classInfo c := by
  simp only [World.classInfo, curbed, Array.getElem?_push]
  rw [if_neg (show c ≠ (talking .start).classes.size from early.ne)]
  rfl

theorem standard_curbed : curbed.Standard := fun c inside => by
  have early : ∀ c ∈ Library.basics, c < World.start.classes.size := by decide
  exact classInfo_curbed (early c inside) ▸ .refl _

theorem once_curbed : curbed.HoldsOnce 50 := by
  unfold World.HoldsOnce
  decide

theorem surveyed_curbed (h : Host) : curbed.Surveyed h 50 :=
  World.surveyed_of_usualKind standard_curbed (by unfold World.UsualKind; decide) (by decide) h

theorem attachable_curbed : Attachable curbed task 1 0 (.object emitter) "Base" where
  standard := standard_curbed
  usual := ⟨show curbed.hook? Library.taskClass "__getattribute__" = none by decide,
    show curbed.hook? Library.taskClass "__getattr__" = none by decide⟩
  holds := ⟨rfl, by simp [curbed, talking, World.opening, World.start]⟩
  textual := ((attachable_talking.textual).setText "log_capability" (.cls 50))
  sets := show curbed.hook? Library.taskClass "__setattr__" = none by decide
  entries := ⟨Library.taskClass, rfl⟩
  maker := ⟨rfl, rfl⟩
  named := ⟨.word "Base", .inr ⟨rfl, rfl, rfl⟩, fun _ _ => rfl⟩
  runner := .of_own rfl (show curbed.definition? Library.taskClass runnerField = none by decide)
  forwarders := .of_own rfl
    (show curbed.definition? Library.taskClass forwardersField = none by decide)
  inside := by simp [curbed, talking, World.opening]
  inOrder := Gathering.lists_empty

/-- What the heir offers, the class of tasks lacks and every host of log methods has. -/
theorem operations_of_curbed : ∀ n ∈ curbed.operationsAlong 50, n ≠ "__annotations__" ∧
    curbed.definition? Library.taskClass n = none ∧ curbed.definition? Library.typeClass n = none ∧
    ∃ f, curbed.Means emitter n f :=
  operations_of_logOps (by decide) (fun op => by cases op <;> decide)
    (fun op => by cases op <;> decide) fun op => by cases op <;> exact ⟨rfl, rfl⟩

theorem harmless_curbed (h : Host) :
    Harmless h curbed task 1 0 (.object emitter) (curbed.operationsAlong 50) :=
  harmless_of_means ⟨rfl, by simp [curbed, talking, World.opening, World.start]⟩ (by decide)
    ⟨show curbed.hook? Library.runnerClass "__getattribute__" = none by decide,
      show curbed.hook? Library.runnerClass "__getattr__" = none by decide⟩ operations_of_curbed

/-- Both names that the heir has set to nothing. One is offered, since `ConformanceLogger` behind
the heir has an operation under it, and the other is not. -/
theorem operations_shadowed_curbed : ∃ names u,
    Capability.operations (Host.ofDepth 5) (.cls 50) curbed = .ok (names.map .word) u ∧
    "warn" ∈ names ∧ "mute" ∉ names ∧ ∃ ways fault v,
      Pass (Host.ofDepth 5) task 0 (.object emitter) "Base" u names ways fault v ∧
      attachLogger (Host.ofDepth 5) (.object task) curbed = Pass.ending .nothing fault v := by
  obtain ⟨names, u, found, decides, -, attaching⟩ :=
    Capability.operations_shadowed standard_curbed (surveyed_curbed (Host.ofDepth 5)) once_curbed
  have warn : curbed.Uses 50 "warn" .nothing [Library.loggerClass] :=
    ⟨rfl, [], 50, rfl, rfl, fun _ inside => by cases inside⟩
  have mute : curbed.Uses 50 "mute" .nothing [Library.loggerClass] :=
    ⟨rfl, [], 50, rfl, rfl, fun _ inside => by cases inside⟩
  have behind : curbed.OfferedBy [Library.loggerClass] "warn" := by
    have looked : (curbed.classInfo Library.loggerClass).body.lookup "warn" =
      some (.function (.library (.log .warn))) := rfl
    obtain ⟨front, further, body, -⟩ := List.lookup_eq_some_iff.1 looked
    exact ⟨_, List.mem_cons_self, .function (.library (.log .warn)), by rw [body]; simp, rfl⟩
  have nowhere : ¬ curbed.OfferedBy [Library.loggerClass] "mute" := by
    rintro ⟨c, inside, v, entry, -⟩
    obtain rfl := List.mem_singleton.1 inside
    have absent : "mute" ∉ (curbed.classInfo Library.loggerClass).body.map Prod.fst := by decide
    exact absent (List.mem_map_of_mem (f := Prod.fst) entry)
  refine ⟨names, u, found, (decides _ _ _ (by decide) warn).2 (.inr behind), fun listed => ?_, ?_⟩
  · rcases (decides _ _ _ (by decide) mute).1 listed with isOne | further
    · cases isOne
    · exact nowhere further
  · obtain ⟨ways, fault, v, pass, run, -⟩ := attaching task 1 0 (.object emitter) "Base"
      attachable_curbed (.inl ⟨rfl, fun e found => by
        obtain rfl := Option.some.inj found
        rfl⟩) (harmless_curbed (Host.ofDepth 5))
    exact ⟨ways, fault, v, pass, run⟩

end Opening

end EventTasks
