import EventTasks.Proofs.Attaching
import EventTasks.Proofs.Inheriting
import EventTasks.Proofs.Membership

/-!
What comes of a log method that a task is offered. It was attached before, or its name is taken, or
the runner fails to give it, or the runner has nothing there that can be called, or it is attached
now. A name goes one of these ways and only one, unless the class of the task is asked for it and
fails in another way than by lacking it.
-/
namespace EventTasks

open Act

/-! Asking for what may be missing -/

namespace Host

variable {h : Host} {w u : World} {v x : Value} {n : String} {f : Fault}

theorem has_of_ok (run : h.attr v n w = .ok x u) : h.has v n w = .ok true u := by
  rw [has, bind_run, attr?, orMissing, tryCatch_run, map_run, run]
  rfl

theorem has_of_missing (run : h.attr v n w = .error f u) (missing : f.isMissing = true) :
    h.has v n w = .ok false u := by
  rw [has, bind_run, attr?, orMissing, tryCatch_run, map_run, run]
  simp only [missing, if_true, pure_run]
  rfl

theorem has_of_error (run : h.attr v n w = .error f u) (worse : f.isMissing = false) :
    h.has v n w = .error f u := by
  rw [has, bind_run, attr?, orMissing, tryCatch_run, map_run, run]
  simp only [worse, Bool.false_eq_true, if_false, throw_run]

theorem attrOrNothing_of_ok (run : h.attr v n w = .ok x u) : h.attrOrNothing v n w = .ok x u := by
  rw [attrOrNothing, orMissing, tryCatch_run, run]

theorem attrOrNothing_of_missing (run : h.attr v n w = .error f u) (missing : f.isMissing = true) :
    h.attrOrNothing v n w = .ok .nothing u := by
  rw [attrOrNothing, orMissing, tryCatch_run, run]
  simp only [missing, if_true, pure_run]

theorem attrOrNothing_of_error (run : h.attr v n w = .error f u) (worse : f.isMissing = false) :
    h.attrOrNothing v n w = .error f u := by
  rw [attrOrNothing, orMissing, tryCatch_run, run]
  simp only [worse, Bool.false_eq_true, if_false, throw_run]

/-- A class that defines nothing under a name, and whose class defines nothing under it, lacks
it. -/
theorem attr_class_lacking {c : Nat} (entry : w.definition? c n = none)
    (above : w.definition? (w.classInfo c).kind n = none) :
    h.attr (.cls c) n w = .error (w.missing (.cls c) n) w := by
  show h.classAttribute c n w = _
  rw [classAttribute, bind_run]
  simp only [get_run, above, entry, Option.filter_none, throw_run]

end Host

namespace Task

/-! The ways of a log method -/

/-- The five ways of one turn of `_attach_logger`: attached before, the name taken, reading the
runner fails, the runner has nothing callable there, or attached now. -/
inductive Way where
  | kept
  | taken
  | unreadable (message : String)
  | absent
  | attached
deriving DecidableEq

namespace Way

def record? (task n : String) : Way → Option (Log.Severity × String)
  | taken => some (.warning,
      s!"Error attaching logging function to conformance task [{task}] :: {n}")
  | unreadable message => some (.error,
      s!"Error accessing runner from conformance task [{task}] :: {message}")
  | absent => some (.warning, s!"Log method not found on conformance task runner :: {n}")
  | kept | attached => none

def tell (task n : String) (way : Way) (s : Surroundings) : Surroundings :=
  match way.record? task n with
  | some (severity, message) => { s with root := s.root.say severity loggerName message }
  | none => s

end Way

structure Free (h : Host) (i g : Nat) (n : String) (u u₁ : World) : Prop where
  new : ¬ (u.namesAt g).Names n
  lacks : ∃ f, h.attr (.cls (u.objectClassOf i)) n u = .error f u₁ ∧ f.isMissing = true
  unset : (u₁.attributesOf i).text? n = none

inductive Decides (h : Host) (i g : Nat) (x : Value) (n : String) (u : World) : Way → World → Prop
  | kept (known : (u.namesAt g).Names n) : Decides h i g x n u .kept u
  | ofClass {v : Value} {u₁ : World} (new : ¬ (u.namesAt g).Names n)
      (found : h.attr (.cls (u.objectClassOf i)) n u = .ok v u₁) : Decides h i g x n u .taken u₁
  | ofItsOwn {f : Fault} {u₁ : World} (new : ¬ (u.namesAt g).Names n)
      (lacks : h.attr (.cls (u.objectClassOf i)) n u = .error f u₁) (missing : f.isMissing = true)
      (own : (u₁.attributesOf i).text? n ≠ none) : Decides h i g x n u .taken u₁
  | unreadable {f : Fault} {u₁ u₂ : World} (free : Free h i g n u u₁)
      (failed : h.attr x n u₁ = .error f u₂) (worse : f.isMissing = false) :
      Decides h i g x n u (.unreadable f.message) u₂
  | missing {f : Fault} {u₁ u₂ : World} (free : Free h i g n u u₁)
      (failed : h.attr x n u₁ = .error f u₂) (missing : f.isMissing = true) :
      Decides h i g x n u .absent u₂
  | uncallable {v : Value} {u₁ u₂ : World} (free : Free h i g n u u₁)
      (found : h.attr x n u₁ = .ok v u₂) (uncallable : u₂.isCallable v = false) :
      Decides h i g x n u .absent u₂
  | attached {v : Value} {u₁ u₂ : World} (free : Free h i g n u u₁)
      (found : h.attr x n u₁ = .ok v u₂) (callable : u₂.isCallable v = true) :
      Decides h i g x n u .attached u₂

section unique

variable {h : Host} {i g : Nat} {x : Value} {n : String} {u u₁ u₂ : World} {way way' : Way}

theorem Free.unique (free : Free h i g n u u₁) (free' : Free h i g n u u₂) : u₂ = u₁ := by
  obtain ⟨f, lacks, -⟩ := free.lacks
  obtain ⟨f', lacks', -⟩ := free'.lacks
  obtain ⟨-, rfl⟩ := EStateM.Result.error.inj (lacks.symm.trans lacks')
  rfl

theorem Decides.of_free (free : Free h i g n u u₁) (decides : Decides h i g x n u way u₂) :
    (∃ f, h.attr x n u₁ = .error f u₂ ∧
      way = if f.isMissing then .absent else .unreadable f.message) ∨
    ∃ v, h.attr x n u₁ = .ok v u₂ ∧ way = if u₂.isCallable v then .attached else .absent := by
  obtain ⟨f, lacks, gone⟩ := free.lacks
  cases decides with
  | kept known => exact absurd known free.new
  | ofClass new found => simp [lacks] at found
  | ofItsOwn new lacks' missing own =>
    obtain ⟨-, rfl⟩ := EStateM.Result.error.inj (lacks.symm.trans lacks')
    exact absurd free.unset own
  | unreadable free' failed worse =>
    obtain rfl := free.unique free'
    exact .inl ⟨_, failed, by simp [worse]⟩
  | missing free' failed missing =>
    obtain rfl := free.unique free'
    exact .inl ⟨_, failed, by simp [missing]⟩
  | uncallable free' found uncallable =>
    obtain rfl := free.unique free'
    exact .inr ⟨_, found, by simp [uncallable]⟩
  | attached free' found callable =>
    obtain rfl := free.unique free'
    exact .inr ⟨_, found, by simp [callable]⟩

theorem Decides.unique_of_free (free : Free h i g n u u₁) {v v' : World}
    (decides : Decides h i g x n u way v) (decides' : Decides h i g x n u way' v') :
    way' = way := by
  rcases decides.of_free free with ⟨f, run, rfl⟩ | ⟨y, run, rfl⟩ <;>
    rcases decides'.of_free free with ⟨f', run', rfl⟩ | ⟨y', run', rfl⟩ <;>
    simp_all

/-- A name goes one way only. -/
theorem Decides.unique {v v' : World} (decides : Decides h i g x n u way v)
    (decides' : Decides h i g x n u way' v') : way' = way := by
  cases decides with
  | kept known =>
    cases decides' with
    | kept => rfl
    | ofClass new => exact absurd known new
    | ofItsOwn new => exact absurd known new
    | unreadable free | missing free | uncallable free | attached free =>
      exact absurd known free.new
  | ofClass new found =>
    cases decides' with
    | kept known => exact absurd known new
    | ofClass => rfl
    | ofItsOwn => rfl
    | unreadable free | missing free | uncallable free | attached free =>
      obtain ⟨f, lacks, -⟩ := free.lacks
      simp [lacks] at found
  | ofItsOwn new lacks missing own =>
    cases decides' with
    | kept known => exact absurd known new
    | ofClass => rfl
    | ofItsOwn => rfl
    | unreadable free | missing free | uncallable free | attached free =>
      obtain ⟨f, lacks', -⟩ := free.lacks
      obtain ⟨-, rfl⟩ := EStateM.Result.error.inj (lacks.symm.trans lacks')
      exact absurd free.unset own
  | unreadable free failed worse =>
    exact unique_of_free free (.unreadable free failed worse) decides'
  | missing free failed missing => exact unique_of_free free (.missing free failed missing) decides'
  | uncallable free found uncallable =>
    exact unique_of_free free (.uncallable free found uncallable) decides'
  | attached free found callable =>
    exact unique_of_free free (.attached free found callable) decides'

end unique

/-! What is done to the task -/

/-- What a task gains in `_attach_logger`: forwarders under free names, each remembered in the set
at `g`. No class is changed. -/
structure Gained (w : World) (i d g : Nat) (u : World) : Prop extends Gains w i d u where
  sameClasses : u.classes = w.classes
  inside : g < u.gatherings.size
  inOrder : (u.namesAt g).Lists
  remembers : ∀ n, (u.namesAt g).Names n ↔ (w.namesAt g).Names n ∨
    ((w.attributesOf i).text? n = none ∧ (u.attributesOf i).text? n ≠ none)

structure Attachable (w : World) (i d g : Nat) (x : Value) (task : String) : Prop where
  standard : w.Standard
  usual : w.ReadsUsually i
  holds : w.Holds i d
  textual : (w.dictAt d).Textual
  sets : w.hook? (w.objectClassOf i) "__setattr__" = none
  entries : ∃ o, w.definition? (w.objectClassOf i) "__dict__" = some (.ref (.aspect o .attributes))
  maker : w.Means i "_make_forwarder" (.library (.task .makeForwarder))
  named : ∃ v, w.Shows i "name" v ∧ ∀ (h : Host) u, h.formatted v u = .ok task u
  runner : w.Shows i runnerField x
  forwarders : w.Shows i forwardersField (.ref (.names g))
  inside : g < w.gatherings.size
  inOrder : (w.namesAt g).Lists

structure Harmless (h : Host) (w : World) (i d g : Nat) (x : Value)
    (names : List String) : Prop where
  ofClass : ∀ n ∈ names, ∀ u, Gained w i d g u →
    Still u ((h.attr (.cls (w.objectClassOf i)) n).after u)
  ofRunner : ∀ n ∈ names, ∀ u, Gained w i d g u → Still u ((h.attr x n).after u)
  honest : ∀ n ∈ names, ∀ u f u₁, Gained w i d g u →
    h.attr (.cls (w.objectClassOf i)) n u = .error f u₁ → f.isMissing = true →
    w.definition? (w.objectClassOf i) n = none

/-- In one world, `hasattr` on the class of a task and `getattr` on its runner change nothing under
this name. -/
structure ReadsStill (h : Host) (i : Nat) (x : Value) (n : String) (u : World) : Prop where
  ofClass : Still u ((h.attr (.cls (u.objectClassOf i)) n).after u)
  ofRunner : ∀ f v, h.attr (.cls (u.objectClassOf i)) n u = .error f v → f.isMissing = true →
    Still v ((h.attr x n).after v)
  honest : ∀ f v, h.attr (.cls (u.objectClassOf i)) n u = .error f v → f.isMissing = true →
    u.definition? (u.objectClassOf i) n = none

/-- Along the pass over some names this holds of each name that is new when its turn comes. -/
def PassUndisturbed (h : Host) (i g : Nat) (x : Value) : List String → World → Prop
  | [], _ => True
  | n :: names, u => (¬ (u.namesAt g).Names n → ReadsStill h i x n u) ∧
      ∀ v, attachOne h (.object i) (.word n) u = .ok () v → PassUndisturbed h i g x names v

/-- What the class of the task lacks it still lacks when the task has gained something. -/
theorem Gained.attr_class {h : Host} {w u : World} {i d g : Nat} {n : String}
    (gained : Gained w i d g u)
    (hn : n ≠ "__annotations__") (undefined : w.definition? (w.objectClassOf i) n = none)
    (above : w.definition? (w.classInfo (w.objectClassOf i)).kind n = none) :
    h.attr (.cls (w.objectClassOf i)) n u =
      .error (u.missing (.cls (w.objectClassOf i)) n) u := by
  refine Host.attr_class_lacking ?_ ?_
  · rw [gained.toKeeps.definition? hn]
    exact undefined
  · rw [gained.toKeeps.definition? hn, (gained.classes _).kind]
    exact above

/-- Names that the class of the task lacks, and that are methods of a runner which is read in the
usual way, are harmless. -/
theorem harmless_of_means {h : Host} {w : World} {i d g r e : Nat} {names : List String}
    (holds : w.Holds r e) (apart : e ≠ d) (usual : w.ReadsUsually r)
    (offered : ∀ n ∈ names, n ≠ "__annotations__" ∧ w.definition? (w.objectClassOf i) n = none ∧
      w.definition? (w.classInfo (w.objectClassOf i)).kind n = none ∧ ∃ f, w.Means r n f) :
    Harmless h w i d g (.object r) names where
  ofClass n found u gained := by
    obtain ⟨hn, undefined, above, -⟩ := offered n found
    rw [after_of_error (gained.attr_class hn undefined above)]
    exact .refl u
  ofRunner n found u gained := by
    obtain ⟨hn, -, -, f, means⟩ := offered n found
    have means' := gained.toKeeps.means holds (.inl apart) hn means
    rw [after_of_ok (Host.attr_means (gained.toKeeps.readsUsually usual) means')]
    exact .later
  honest n found _ _ _ _ _ _ := (offered n found).2.1

structure Way.Done (way : Way) (i g : Nat) (task n : String) (u v : World) : Prop where
  around : v.around = way.tell task n u.around
  others : ∀ m, ¬ (way = .attached ∧ m = n) →
    (v.attributesOf i).text? m = (u.attributesOf i).text? m
  names : ∀ m, (v.namesAt g).Names m ↔ (way = .attached ∧ m = n) ∨ (u.namesAt g).Names m
  forwarders : way ≠ .attached → v.forwarders = u.forwarders
  attached : way = .attached →
    (v.attributesOf i).text? n = some (.function (.forwarder u.forwarders.size)) ∧
    ∃ info, info.task = .object i ∧ info.name = n ∧ v.forwarders = u.forwarders.push info

section step

variable {h : Host} {w u v : World} {i d g : Nat} {x : Value} {task n : String}
  {names : List String}

theorem Gained.refl (attachable : Attachable w i d g x task) : Gained w i d g w where
  toGains := .refl attachable.holds
  sameClasses := rfl
  inside := attachable.inside
  inOrder := attachable.inOrder
  remembers n := by simp

theorem Gained.still (gained : Gained w i d g u) (holds : w.Holds i d) (still : Still u v) :
    Gained w i d g v where
  toGains := gained.toGains.rest (still.untouched d)
  sameClasses := still.classes.trans gained.sameClasses
  inside := by
    rw [(still.untouched d).gatherings]
    exact gained.inside
  inOrder := by
    rw [World.namesAt, (still.untouched d).gatherings]
    exact gained.inOrder
  remembers m := by
    rw [(still.untouched d).toKeeps.own (gained.toKeeps.holds holds) (.inr id), World.namesAt,
      (still.untouched d).gatherings]
    exact gained.remembers m

theorem Gained.say (gained : Gained w i d g u) (severity : Log.Severity) (message : String) :
    Gained w i d g ((say severity message).after u) where
  toGains := gained.toGains.around (.of_root _ _)
  sameClasses := gained.sameClasses
  inside := gained.inside
  inOrder := gained.inOrder
  remembers := gained.remembers

/-- What spares the name of the task and its set of log methods leaves it attachable, whatever its
runner is then. -/
theorem Attachable.of_keeps {s : Scope} {y : Value} (attachable : Attachable w i d g x task)
    (kept : Keeps s w u)
    (outside : ∀ n ∈ ["name", forwardersField, "_make_forwarder"], d ≠ s.place ∨ ¬ s.names n)
    (runner : u.Shows i runnerField y) (inside : g < u.gatherings.size)
    (inOrder : (u.namesAt g).Lists) : Attachable u i d g y task := by
  obtain ⟨v, shown, told⟩ := attachable.named
  exact {
    standard := kept.standard attachable.standard
    usual := kept.readsUsually attachable.usual
    holds := kept.holds attachable.holds
    textual := by
      by_cases here : d = s.place
      · subst here
        exact kept.textual attachable.textual
      · rw [kept.dictAt attachable.holds.inside here]
        exact attachable.textual
    sets := by
      rw [kept.objectClassOf, kept.hook? (by decide)]
      exact attachable.sets
    entries := by
      rw [kept.objectClassOf, kept.definition? (by decide)]
      exact attachable.entries
    maker := kept.means attachable.holds (outside _ (by simp)) (by decide) attachable.maker
    named := ⟨v, kept.shows attachable.holds (outside _ (by simp)) (by decide) shown, told⟩
    runner := runner
    forwarders :=
      kept.shows attachable.holds (outside _ (by simp)) (by decide) attachable.forwarders
    inside := inside
    inOrder := inOrder }

theorem Attachable.gaining (attachable : Attachable w i d g x task) (gained : Gained w i d g u) :
    Attachable u i d g x task := by
  have kept := gained.toKeeps
  have defined : ¬ (Scope.fresh w i d).names "_make_forwarder" := fun fresh => by
    simp [Scope.fresh, attachable.maker.2] at fresh
  obtain ⟨y, shown, -⟩ := attachable.named
  refine attachable.of_keeps kept (fun n found => ?_)
    (kept.shows attachable.holds (outside_fresh attachable.runner) (by decide) attachable.runner)
    gained.inside gained.inOrder
  simp only [List.mem_cons, List.not_mem_nil, or_false] at found
  rcases found with rfl | rfl | rfl
  · exact outside_fresh shown
  · exact outside_fresh attachable.forwarders
  · exact .inr defined

theorem Harmless.readsStill (harmless : Harmless h w i d g x names) (holds : w.Holds i d)
    (gained : Gained w i d g u) (offered : n ∈ names) (hn : n ≠ "__annotations__") :
    ReadsStill h i x n u := by
  have same := gained.toKeeps.objectClassOf i
  have still := harmless.ofClass n offered u gained
  refine ⟨same ▸ still, fun f v lacks _ => ?_, fun f v lacks missing => ?_⟩
  · rw [← same, after_of_error lacks] at still
    exact harmless.ofRunner n offered v (gained.still holds still)
  · rw [gained.toKeeps.definition? hn, same]
    rw [same] at lacks
    exact harmless.honest n offered u f v gained lacks missing

/-! One name -/

def attachFree (h : Host) (self name : Value) : Act Unit := do
  match ← readTarget h self name with
  | .error f =>
    let task ← nameText h self
    say .error s!"Error accessing runner from conformance task [{task}] :: {f.message}"
  | .ok target =>
    if !(← get).isCallable target then
      let shown ← h.formatted name
      say .warning s!"Log method not found on conformance task runner :: {shown}"
    else
      let f ← h.send self "_make_forwarder" [name]
      h.assign self (← Host.nameOf name) f
      let _ ← h.send (← h.attr self forwardersField) "add" [name]

def attachNew (h : Host) (self name : Value) : Act Unit := do
  if ← isTaken h self name then
    let task ← nameText h self
    let shown ← h.formatted name
    say .warning s!"Error attaching logging function to conformance task [{task}] :: {shown}"
  else attachFree h self name

theorem attachOne_eq (h : Host) (self name : Value) : attachOne h self name = (do
    if ← h.holds (← h.attr self forwardersField) name then pure () else attachNew h self name) :=
      rfl

theorem nameText_run (attachable : Attachable u i d g x task) (h : Host) :
    nameText h (.object i) u = .ok task u := by
  obtain ⟨y, shown, told⟩ := attachable.named
  exact (bind_of_ok (Host.attr_shows attachable.usual shown)).trans (told h u)

theorem attachOne_run (attachable : Attachable u i d g x task) :
    ((u.namesAt g).Names n → attachOne h (.object i) (.word n) u = .ok () u) ∧
    (¬ (u.namesAt g).Names n →
      attachOne h (.object i) (.word n) u = attachNew h (.object i) (.word n) u) := by
  obtain ⟨known, asked, member⟩ := Host.isGathered_iff (h := h) attachable.inOrder 0 n
  have held : h.holds (.ref (.names g)) (.word n) u = .ok known u := asked
  rw [attachOne_eq, bind_of_ok (Host.attr_shows attachable.usual attachable.forwarders),
    bind_of_ok held]
  cases known with
  | true => exact ⟨fun _ => rfl, fun new => absurd (member.1 rfl) new⟩
  | false => exact ⟨fun old => absurd (member.2 old) (by simp), fun _ => rfl⟩

/-! The class of the task decides whether a name is taken, and if it lacks the name the task
itself. -/

theorem isTaken_of_ok {y : Value} (found : h.attr (.cls (u.objectClassOf i)) n u = .ok y v) :
    isTaken h (.object i) (.word n) u = .ok true v :=
  (bind_of_ok (get_run u)).trans (bind_of_ok (Host.has_of_ok found))

theorem isTaken_of_error {f : Fault} (failed : h.attr (.cls (u.objectClassOf i)) n u = .error f v)
    (worse : f.isMissing = false) : isTaken h (.object i) (.word n) u = .error f v :=
  (bind_of_ok (get_run u)).trans
    ((bind_of_ok rfl).trans (bind_of_error (Host.has_of_error failed worse)))

theorem isTaken_of_missing {f : Fault} (behind : Attachable v i d g x task)
    (lacks : h.attr (.cls (u.objectClassOf i)) n u = .error f v) (missing : f.isMissing = true) :
    isTaken h (.object i) (.word n) u = .ok ((v.attributesOf i).text? n).isSome v := by
  obtain ⟨o, entry⟩ := behind.entries
  refine (bind_of_ok (Host.has_of_missing lacks missing)).trans ?_
  simp only [Bool.false_eq_true, if_false]
  rw [bind_of_ok (Host.ownEntries_object behind.usual behind.holds entry),
    behind.holds.attributesOf_eq]
  exact Host.holds_own behind.textual 0 n

theorem readTarget_run (attachable : Attachable u i d g x task) :
    readTarget h (.object i) (.word n) u = attempt (h.attrOrNothing x n) u := by
  have read : (do
      let runner ← h.attr (.object i) runnerField
      h.attrOrNothing runner (← Host.nameOf (.word n))) u = h.attrOrNothing x n u := by
    rw [bind_of_ok (Host.attr_shows attachable.usual attachable.runner)]
    rfl
  rw [readTarget, attempt_eq, attempt_eq, read]

def Way.said (task n : String) (way : Way) (u : World) : World :=
  { u with around := way.tell task n u.around }

theorem attachFree_unreadable {f : Fault} (attachable : Attachable u i d g x task)
    (behind : Attachable v i d g x task) (failed : h.attr x n u = .error f v)
    (worse : f.isMissing = false) :
    attachFree h (.object i) (.word n) u = .ok () (Way.said task n (.unreadable f.message) v) := by
  have read : readTarget h (.object i) (.word n) u = .ok (.error f) v := by
    rw [readTarget_run attachable, attempt_eq, Host.attrOrNothing_of_error failed worse]
  rw [attachFree, bind_of_ok read]
  exact bind_of_ok (nameText_run behind h)

theorem attachFree_absent {y : Value} (attachable : Attachable u i d g x task)
    (found : h.attrOrNothing x n u = .ok y v) (uncallable : v.isCallable y = false) :
    attachFree h (.object i) (.word n) u = .ok () (Way.said task n .absent v) := by
  have read : readTarget h (.object i) (.word n) u = .ok (.ok y) v := by
    rw [readTarget_run attachable, attempt_eq, found]
  rw [attachFree, bind_of_ok read]
  refine (bind_of_ok (get_run v)).trans ?_
  simp only [uncallable, Bool.not_false, if_true]
  rfl

theorem done_said {way : Way} (attachable : Attachable u i d g x task) (still : Still u v)
    (skipped : way ≠ .attached) : way.Done i g task n u (Way.said task n way v) where
  around := by
    show way.tell task n v.around = _
    rw [(still.untouched d).around]
  others m _ := (still.untouched d).toKeeps.own attachable.holds (.inr id)
  names m := by
    show (v.namesAt g).Names m ↔ _
    rw [World.namesAt, (still.untouched d).gatherings]
    simp [skipped, World.namesAt]
  forwarders _ := (still.untouched d).forwarders
  attached given := absurd given skipped

theorem gained_said {way : Way} (gained : Gained w i d g u) :
    Gained w i d g (Way.said task n way u) := by
  unfold Way.said Way.tell
  split
  · next severity message _ => exact gained.say severity message
  · exact gained

/-! One forwarder more -/

theorem Gained.fresh (gained : Gained w i d g u) (holds : w.Holds i d) (isPublic : IsPublic n)
    (unset : (u.attributesOf i).text? n = none)
    (undefined : w.definition? (w.objectClassOf i) n = none) : (Scope.fresh w i d).names n := by
  by_contra old
  refine old ⟨isPublic.ne, ?_, undefined⟩
  rw [← gained.toKeeps.own holds (.inr old)]
  exact unset

structure Added (g : Nat) (n : String) (u v : World) : Prop where
  kept : ∀ s, Keeps s u v
  classes : v.classes = u.classes
  forwarders : v.forwarders = u.forwarders
  around : v.around = u.around
  size : v.gatherings.size = u.gatherings.size
  inOrder : (v.namesAt g).Lists
  names : ∀ m, (v.namesAt g).Names m ↔ m = n ∨ (u.namesAt g).Names m

theorem add_run (depth : Nat) (standard : u.Standard) (inOrder : (u.namesAt g).Lists)
    (inside : g < u.gatherings.size) (n : String) :
    ∃ v, (Host.ofDepth (depth + 1)).send (.ref (.names g)) "add" [.word n] u = .ok .nothing v ∧
      Added g n u v := by
  let u₁ := u.pushBound (.ref (.names g)) (.library (.holding .names .add))
  have entry : u.definition? Library.namesClass "add" =
      some (.function (.library (.holding .names .add))) :=
    standard.definition? (by decide) (by decide) (by decide)
  have gathers (s : Scope) := Host.gather_eq (h := Host.ofDepth depth) (s := s) (w := u₁)
    inOrder.texts 0 n
  obtain ⟨v, gathered, -, classes, forwarders, around⟩ := gathers (.nothing 0)
  have kept (s : Scope) : Keeps s u v := by
    obtain ⟨v', gathered', kept, -⟩ := gathers s
    obtain ⟨-, rfl⟩ := EStateM.Result.ok.inj (gathered.symm.trans gathered')
    exact (Keeps.pushBound _ _).trans kept
  obtain ⟨size, inOrder', member⟩ := Host.names_of_gather (w := u₁) inOrder inside gathered
  exact ⟨v, (Host.send_bound rfl rfl rfl entry depth _).trans (bind_of_ok gathered), kept, classes,
    forwarders, around, size, inOrder', member⟩

structure Carried (w : World) (i d : Nat) (n : String) (u v : World) : Prop where
  gains : Gains w i d v
  own : ∀ m, (v.attributesOf i).text? m =
    if m = n then some (.function (.forwarder u.forwarders.size)) else (u.attributesOf i).text? m
  pushed : ∃ info, info.task = .object i ∧ info.name = n ∧ v.forwarders = u.forwarders.push info
  around : v.around = u.around
  classes : v.classes = u.classes
  gatherings : v.gatherings = u.gatherings

theorem carry_run (depth : Nat) (attachable : Attachable w i d g x task) (gained : Gained w i d g u)
    (isPublic : IsPublic n) (fresh : (Scope.fresh w i d).names n) :
    ∃ v₁ v₂, (Host.ofDepth (depth + 1)).send (.object i) "_make_forwarder" [.word n] u =
        .ok (.function (.forwarder u.forwarders.size)) v₁ ∧
      (Host.ofDepth (depth + 1)).assign (.object i) n (.function
        (.forwarder u.forwarders.size)) v₁ =
        .ok () v₂ ∧ Carried w i d n u v₂ := by
  have attachable₁ := attachable.gaining gained
  obtain ⟨info, owner, name, made⟩ := makeForwarder_eq (h := Host.ofDepth depth) (u := u.later) i n
  let v₁ := u.later.pushForwarder info
  have gains₁ : Gains w i d v₁ := (gained.toGains.rest .later).keep
    (.of_eq rfl rfl rfl (.refl _) (grownBut_push _ _ _) rfl rfl rfl rfl) (.of_eq rfl) (.refl _)
      (grownBut_push _ _ _)
  have settable : v₁.Settable i n := by
    refine ⟨attachable₁.sets, fun e defined => ?_⟩
    rw [gains₁.toKeeps.objectClassOf, gains₁.toKeeps.definition? isPublic.ne, fresh.2.2] at defined
    cases defined
  let v₂ := v₁.putText d n (.function (.forwarder u.forwarders.size))
  have gains₂ : Gains w i d v₂ := gains₁.give attachable.holds fresh
    ⟨isPublic, _, info, rfl, Array.getElem?_push_size, owner, name⟩
  have holds₁ : v₁.Holds i d := gains₁.toKeeps.holds attachable.holds
  refine ⟨v₁, v₂, ?_, Host.assign_settable holds₁ settable, gains₂, fun m => ?_,
    ⟨info, owner, name, rfl⟩, rfl, rfl, rfl⟩
  · exact (Host.send_means attachable₁.usual attachable₁.maker depth [.word n]).trans made
  · rw [(gains₂.toKeeps.holds attachable.holds).attributesOf_eq,
      World.dictAt_putText holds₁.inside, Dictionary.text?_setText,
      attachable₁.holds.attributesOf_eq]
    rfl

section carried

variable {v' : World}

theorem Carried.namesAt (carried : Carried w i d n u v) (g : Nat) : v.namesAt g = u.namesAt g := by
  rw [World.namesAt, carried.gatherings]
  rfl

/-- What the task has of its own once the name of its new forwarder is remembered. -/
theorem Carried.own_added (carried : Carried w i d n u v) (holds : w.Holds i d)
    (added : Added g n v v')
    (m : String) : (v'.attributesOf i).text? m =
      if m = n then some (.function (.forwarder u.forwarders.size))
          else (u.attributesOf i).text? m := by
  rw [(added.kept (.nothing d)).own (carried.gains.toKeeps.holds holds) (.inr id), carried.own m]

theorem Carried.names_added (carried : Carried w i d n u v) (added : Added g n v v') (m : String) :
    (v'.namesAt g).Names m ↔ m = n ∨ (u.namesAt g).Names m := by
  rw [added.names m, carried.namesAt]

theorem Carried.done (carried : Carried w i d n u v) (holds : w.Holds i d)
    (added : Added g n v v') :
    Way.attached.Done i g task n u v' where
  around := added.around.trans carried.around
  others m other := by rw [carried.own_added holds added, if_neg fun same => other ⟨rfl, same⟩]
  names m := by simp [carried.names_added added m]
  forwarders skipped := absurd rfl skipped
  attached _ := by
    obtain ⟨info, owner, name, pushed⟩ := carried.pushed
    exact ⟨by rw [carried.own_added holds added, if_pos rfl], info, owner, name,
      added.forwarders.trans pushed⟩

theorem Gained.carried (gained : Gained w i d g u) (holds : w.Holds i d)
    (fresh : (Scope.fresh w i d).names n) (carried : Carried w i d n u v) (added : Added g n v v') :
    Gained w i d g v' where
  toGains := carried.gains.keep (added.kept _) (.of_eq added.classes) (added.around ▸ .refl _)
    (added.forwarders ▸ .refl _ _)
  sameClasses := (added.classes.trans carried.classes).trans gained.sameClasses
  inside := by
    rw [added.size, carried.gatherings]
    exact gained.inside
  inOrder := added.inOrder
  remembers m := by
    rw [carried.names_added added m, carried.own_added holds added m, gained.remembers m]
    by_cases same : m = n
    · simp [same, fresh.2.1]
    · simp [same]

end carried

theorem Way.Done.of_still {way : Way} (done : way.Done i g task n u v) {u₀ : World}
    (attachable : Attachable u₀ i d g x task) (still : Still u₀ u) : way.Done i g task n u₀ v := by
  have rests := still.untouched d
  have own (m : String) := rests.toKeeps.own (n := m) attachable.holds (.inr id)
  have names : u.namesAt g = u₀.namesAt g := by rw [World.namesAt, rests.gatherings, World.namesAt]
  exact {
    around := rests.around ▸ done.around
    others := fun m other => (done.others m other).trans (own m)
    names := fun m => names ▸ done.names m
    forwarders := fun skipped => (done.forwarders skipped).trans rests.forwarders
    attached := fun given => rests.forwarders ▸ done.attached given }

/-- The task is given a forwarder under a free name, and the name is remembered. -/
theorem attachFree_given {depth : Nat} {y : Value} (attachable : Attachable w i d g x task)
    (gained : Gained w i d g u) (isPublic : IsPublic n)
    (unset : (u.attributesOf i).text? n = none)
    (undefined : w.definition? (w.objectClassOf i) n = none)
    (found : (Host.ofDepth (depth + 1)).attr x n u = .ok y v) (still : Still u v)
    (callable : v.isCallable y = true) :
    ∃ v', attachFree (Host.ofDepth (depth + 1)) (.object i) (.word n) u = .ok () v' ∧
      Way.attached.Done i g task n u v' ∧ Gained w i d g v' := by
  have attachable₁ := attachable.gaining gained
  have gained₁ := gained.still attachable.holds still
  have fresh := gained.fresh attachable.holds isPublic unset undefined
  obtain ⟨v₁, v₂, made, assigned, carried⟩ := carry_run depth attachable gained₁ isPublic fresh
  have kept := carried.gains.toKeeps
  have shows : v₂.Shows i forwardersField (.ref (.names g)) :=
    kept.shows attachable.holds (outside_fresh attachable.forwarders) (by decide)
      attachable.forwarders
  have inside : g < v₂.gatherings.size := carried.gatherings ▸ gained₁.inside
  obtain ⟨v', put, added⟩ := add_run depth (kept.standard attachable.standard)
    (carried.namesAt g ▸ gained₁.inOrder) inside n
  refine ⟨v', ?_, (carried.done attachable.holds added).of_still attachable₁ still,
    gained₁.carried attachable.holds fresh carried added⟩
  have read : readTarget (Host.ofDepth (depth + 1)) (.object i) (.word n) u = .ok (.ok y) v := by
    rw [readTarget_run attachable₁, attempt_eq, Host.attrOrNothing_of_ok found]
  rw [attachFree, bind_of_ok read]
  refine (bind_of_ok (get_run v)).trans ?_
  simp only [callable, Bool.not_true, Bool.false_eq_true, if_false]
  rw [bind_of_ok made, bind_of_ok (show Host.nameOf (.word n) v₁ = .ok n v₁ from rfl),
    bind_of_ok assigned, bind_of_ok (Host.attr_shows (kept.readsUsually attachable.usual) shows),
    bind_of_ok put]
  rfl

theorem attachNew_taken (behind : Attachable v i d g x task)
    (taken : isTaken h (.object i) (.word n) u = .ok true v) :
    attachNew h (.object i) (.word n) u = .ok () (Way.said task n .taken v) :=
  (bind_of_ok taken).trans (bind_of_ok (nameText_run behind h))

def Settles (h : Host) (w : World) (i d g : Nat) (x : Value) (task n : String) (u : World)
    (m : Act Unit) :
    Prop :=
  ∃ way u₁ v, Decides h i g x n u way u₁ ∧ m u = .ok () v ∧ way.Done i g task n u v ∧
    Gained w i d g v

theorem settles_said {way : Way} {m : Act Unit} (attachable : Attachable w i d g x task)
    (gained : Gained w i d g u) (still : Still u v) (decides : Decides h i g x n u way v)
    (other : way ≠ .attached) (run : m u = .ok () (Way.said task n way v)) :
    Settles h w i d g x task n u m :=
  ⟨way, v, _, decides, run, done_said (attachable.gaining gained) still other,
    gained_said (gained.still attachable.holds still)⟩

theorem attachFree_settles {depth : Nat} {u₁ : World} {m : Act Unit}
    (attachable : Attachable w i d g x task)
    (reads : ReadsStill (Host.ofDepth (depth + 1)) i x n u) (gained : Gained w i d g u)
    (isPublic : IsPublic n) (still : Still u u₁)
    (free : Free (Host.ofDepth (depth + 1)) i g n u u₁)
    (goesOn : m u = attachFree (Host.ofDepth (depth + 1)) (.object i) (.word n) u₁) :
    Settles (Host.ofDepth (depth + 1)) w i d g x task n u m := by
  let h := Host.ofDepth (depth + 1)
  have gained₁ := gained.still attachable.holds still
  have here := attachable.gaining gained₁
  obtain ⟨lack, lacks, gone⟩ := free.lacks
  have still₂ := reads.ofRunner lack u₁ lacks gone
  cases read : h.attr x n u₁ with
  | error f u₂ =>
    rw [after_of_error read] at still₂
    have behind := attachable.gaining (gained₁.still attachable.holds still₂)
    cases missing : f.isMissing with
    | false =>
      exact settles_said attachable gained (still.trans still₂)
        (.unreadable free read missing) (by simp)
        (goesOn.trans (attachFree_unreadable here behind read missing))
    | true =>
      exact settles_said attachable gained (still.trans still₂)
        (.missing free read missing) (by simp)
        (goesOn.trans (attachFree_absent here (Host.attrOrNothing_of_missing read missing) rfl))
  | ok y u₂ =>
    rw [after_of_ok read] at still₂
    cases callable : u₂.isCallable y with
    | false =>
      exact settles_said attachable gained (still.trans still₂)
        (.uncallable free read callable) (by simp)
        (goesOn.trans (attachFree_absent here (Host.attrOrNothing_of_ok read) callable))
    | true =>
      have undefined := reads.honest lack u₁ lacks gone
      rw [gained.toKeeps.definition? isPublic.ne, gained.toKeeps.objectClassOf] at undefined
      obtain ⟨v, given, done, gained'⟩ :=
        attachFree_given attachable gained₁ isPublic free.unset undefined read still₂ callable
      exact ⟨.attached, u₂, v, .attached free read callable, goesOn.trans given,
        done.of_still (attachable.gaining gained) still, gained'⟩

/-- One turn of `_attach_logger`: the name goes one of the five ways, or `hasattr` on the class of
the task raises. -/
theorem attachOne_step {depth : Nat} (attachable : Attachable w i d g x task)
    (reads : ¬ (u.namesAt g).Names n → ReadsStill (Host.ofDepth (depth + 1)) i x n u)
    (gained : Gained w i d g u) (isPublic : IsPublic n) :
    Settles (Host.ofDepth (depth + 1)) w i d g x task n u
      (attachOne (Host.ofDepth (depth + 1)) (.object i) (.word n)) ∨
    ∃ f v, ¬ (u.namesAt g).Names n ∧ Still u v ∧
      (Host.ofDepth (depth + 1)).attr (.cls (u.objectClassOf i)) n u = .error f v ∧
      f.isMissing = false ∧
      attachOne (Host.ofDepth (depth + 1)) (.object i) (.word n) u = .error f v := by
  let h := Host.ofDepth (depth + 1)
  obtain ⟨old, goesOn⟩ := attachOne_run (h := h) (n := n) (attachable.gaining gained)
  by_cases known : (u.namesAt g).Names n
  · exact .inl (settles_said attachable gained (.refl u) (.kept known) (by simp) (old known))
  have still := (reads known).ofClass
  cases asked : h.attr (.cls (u.objectClassOf i)) n u with
  | ok y u₁ =>
    rw [after_of_ok asked] at still
    have behind := attachable.gaining (gained.still attachable.holds still)
    exact .inl (settles_said attachable gained still (.ofClass known asked) (by simp)
      ((goesOn known).trans (attachNew_taken behind (isTaken_of_ok asked))))
  | error f u₁ =>
    rw [after_of_error asked] at still
    have behind := attachable.gaining (gained.still attachable.holds still)
    cases missing : f.isMissing with
    | false =>
      have failed : attachNew h (.object i) (.word n) u = .error f u₁ :=
        bind_of_error (isTaken_of_error asked missing)
      exact .inr ⟨f, u₁, known, still, rfl, missing, (goesOn known).trans failed⟩
    | true =>
      have taken := isTaken_of_missing behind asked missing
      cases own : (u₁.attributesOf i).text? n with
      | some e =>
        rw [own] at taken
        exact .inl (settles_said attachable gained still
          (.ofItsOwn known asked missing (by simp [own])) (by simp)
          ((goesOn known).trans (attachNew_taken behind taken)))
      | none =>
        rw [own] at taken
        exact .inl (attachFree_settles attachable (reads known) gained isPublic still
          ⟨known, ⟨f, asked, missing⟩, own⟩ ((goesOn known).trans (bind_of_ok taken)))

end step

end Task

end EventTasks
