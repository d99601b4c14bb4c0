import EventTasks.Proofs.Opening
import EventTasks.Proofs.Reviewing

/-!
Runners that cannot be used. What counts as a runner is decided by what is there; that `on` and
`off` can be called is found out when they are. So an install turns down a value that does not count
and leaves everything as it was, and takes one that counts whether it can be used or not: one whose
`on` cannot be called fails the install when it is the task's runner already, and one whose `off`
cannot be called fails whoever destroys the task, as often as this is tried.
-/
namespace EventTasks

open Act

def Scope.runner (d : Nat) : Scope := ⟨d, (· = Task.runnerField), fun _ => False⟩

theorem Script.callValue_uncallable {h : Host} {w : World} {v : Value}
    (dead : w.isCallable v = false)
    (args : List Value) (named : List (String × Value)) :
    Script.callValue h v args named w = .error (.notCallable (w.kindOf v)) w := by
  rw [Script.callValue, bind_of_ok (get_run w)]
  cases v with
  | ref r =>
    cases r with
    | subject t =>
      cases t with
      | object i =>
        have none : w.definition? (w.objectClassOf i) "__call__" = none := by
          simpa [World.isCallable] using dead
        simp only [World.classOf, World.classOfRef, none, throw_run]
      | cls c => simp [World.isCallable] at dead
    | function | method | bound | staticMethod => simp [World.isCallable] at dead
    | _ => rfl
  | _ => rfl

/-- A value has nothing callable under the name of a way, `on` or `off`; the fault of using it. -/
inductive Unusable (h : Host) (w : World) (v : Value) (way : String) : Fault → Prop where
  | missing {f : Fault} {u : World} (failed : h.attr v way w = .error f u) (same : Untouched w u) :
    Unusable h w v way f
  | uncallable {x : Value} {u : World} (read : h.attr v way w = .ok x u) (same : Untouched w u)
    (dead : u.isCallable x = false) : Unusable h w v way (.notCallable (u.kindOf x))

def Lame (h : Host) (w : World) (d : Nat) (v : Value) (way : String) : Prop :=
  ∀ u, Keeps (.runner d) w u → ∃ f, Unusable h u v way f

variable {h : Host} {w u : World} {i d o e k place : Nat} {v runner options name : Value}
  {way text : String}
  {f : Fault} {r : Ref} {l : Listing} {items : List Value} {pairs : List (Value × Ref)}

/-- An object is of no use for a way that it lacks, or for which it has what cannot be called. -/
theorem lame_of_gives (usual : w.ReadsUsually o) (holds : w.Holds o e) (hway : way ∈ Runner.ways)
    (gives : w.Gives o way v) (dead : w.isCallable v = false) : Lame h w d (.object o) way := by
  have outside : ∀ way ∈ Runner.ways, way ≠ Task.runnerField ∧ way ≠ "__annotations__" := by decide
  obtain ⟨other, hn⟩ := outside way hway
  intro u kept
  have usual' := kept.readsUsually usual
  rcases gives with shows | ⟨own, entry, -⟩
  · have shows' := kept.shows holds (.inr other) hn shows
    refine ⟨_, .uncallable (Host.attr_shows usual' shows') (.refl u) ?_⟩
    rw [kept.isCallable]
    exact dead
  · refine ⟨_, .missing (Host.attr_missing usual' ?_ ?_) (.refl u)⟩
    · rw [kept.own holds (.inr other)]
      exact own
    · rw [kept.objectClassOf, kept.definition? hn]
      exact entry

theorem Unusable.send (unusable : Unusable (Host.ofDepth (k + 1)) w v way f) (args : List Value) :
    ∃ u, (Host.ofDepth (k + 1)).send v way args w = .error f u ∧ Untouched w u := by
  cases unusable with
  | @missing _ u failed same => exact ⟨u, bind_of_error failed, same⟩
  | @uncallable x u read same dead =>
    refine ⟨u, ?_, same⟩
    rw [Host.send, bind_of_ok read]
    exact Script.callValue_uncallable dead args []

namespace Task

theorem handOver_unusable (unusable : Unusable (Host.ofDepth (k + 1)) w runner way f)
    (usual : w.ReadsUsually i) (shown : w.Shows i runnerField runner)
    (list : w.lists[place]? = some items) (arePairs : ArePairs items pairs) (some : pairs ≠ []) :
    ∃ u, handOver (Host.ofDepth (k + 1)) (.object i) way (.ref (.list place)) w = .error f u ∧
      Untouched w u := by
  have one {v : Value} (found : v ∈ items) :
      ∃ u, handOne (Host.ofDepth (k + 1)) (.object i) way () v w = .error f u ∧ Untouched w u := by
    obtain ⟨⟨event, g⟩, -, stamp, rfl⟩ := arePairs.exists_pair found
    obtain ⟨u, failed, same⟩ := unusable.send [event, .ref g]
    refine ⟨u, ?_, same⟩
    rw [handOne_eq usual shown, map_run, failed]
  have leaves : ∀ v ∈ items, Host.Leaves (fun _ u => u = w)
      (handOne (Host.ofDepth (k + 1)) (.object i) way) v := by
    intro v found b u b' u' now run
    subst now
    obtain ⟨u, failed, -⟩ := one found
    cases failed.symm.trans run
  rw [handOver,
    Host.foldItems_list (P := fun _ u => u = w) (fun _ u now => now ▸ list) leaves () rfl]
  cases arePairs with
  | nil => exact absurd rfl some
  | cons first rest =>
    obtain ⟨u, failed, same⟩ := one List.mem_cons_self
    rw [List.foldlM_cons]
    exact ⟨u, bind_of_error failed, same⟩

structure Booked (w : World) (i : Nat) (runner : Value) : Prop where
  usual : w.ReadsUsually i
  runner : w.Shows i runnerField runner
  pairs : ∃ place items pairs, w.Shows i subscriptionsField (.ref (.list place)) ∧
    w.lists[place]? = some items ∧ ArePairs items pairs ∧ pairs ≠ []

/-- Where the runner's `off` cannot be used, a task with pairs cannot be destroyed, and stays as it
is. -/
theorem destroy_unusable (booked : Booked w i runner) (something : runner.isNothing = false)
    (unusable : Unusable (Host.ofDepth (k + 1)) w runner "off" f) :
    ∃ u, destroy (Host.ofDepth (k + 1)) (.object i) w = .error f u ∧ Untouched w u := by
  obtain ⟨place, items, pairs, books, list, arePairs, some⟩ := booked.pairs
  obtain ⟨u, failed, same⟩ :=
    handOver_unusable unusable booked.usual booked.runner list arePairs some
  refine ⟨u, ?_, same⟩
  rw [destroy_shows booked.usual booked.runner something]
  exact bind_of_error ((unsubscribe_shows booked.usual books).trans (bind_of_error failed))

/-! Installing on an unusable runner -/

section installing

variable {stamp : Nat} {attach : Option Bool}
  (readOnly : ChecksReadOnly (k + 1) w i d r l options name text)
  (decodes : Decodes (k + 1) w options stamp runner attach u) (something : runner.isNothing = false)

include readOnly decodes something

theorem install_refused {u' u'' : World} {told : String}
    (asked : Runner.accepts (Host.ofDepth (k + 2)) runner u = .ok false u')
    (described : (Host.ofDepth (k + 2)).describe runner u' = .ok told u'') :
    ∃ w', install (Host.ofDepth (k + 2)) (.object i) options w = .error (.notRunner told) w' ∧
      Untouched w w' :=
  (Rejects.refused decodes something (.unlike asked described)).install_fails readOnly

omit readOnly in
theorem not_rejects_of_accepted {u' : World}
    (asked : Runner.accepts (Host.ofDepth (k + 2)) runner u = .ok true u')
    (handled : ∀ f, ¬ Lacks (Host.ofDepth (k + 1)) w i name text l.entries f) :
    ∀ f, ¬ Rejects (k + 1) w i options name text l f := by
  intro f rejects
  cases rejects with
  | undecoded failed => cases failed.symm.trans decodes
  | noRunner decoded =>
    obtain ⟨-, rfl, -, -⟩ := decodes.unique decoded
    simp [Value.isNothing] at something
  | refused decoded something' refuses =>
    obtain ⟨-, rfl, -, rfl⟩ := decodes.unique decoded
    cases refuses with
    | unlike asked' told => cases asked.symm.trans asked'
    | unasked failed => cases asked.symm.trans failed
    | untold asked' failed => cases asked.symm.trans asked'
  | lacking decoded something' accepted lacks => exact handled f lacks

omit something in
/-- If the runner has no usable `on`, an install that passes its checks fails there, and the task
has the runner. -/
theorem install_lame (internals : DefaultInternals w i d r l)
    (former : ∃ x, w.Shows i runnerField x)
    (some : l.entries ≠ []) (passes : ∀ f, ¬ Rejects (k + 1) w i options name text l f)
    (lame : Lame (Host.ofDepth (k + 2)) w d runner "on") :
    ∃ f v w', Keeps (.runner d) w v ∧ Unusable (Host.ofDepth (k + 2)) v runner "on" f ∧
      install (Host.ofDepth (k + 2)) (.object i) options w = .error f w' ∧
      Keeps (.runner d) w w' ∧ w'.Shows i runnerField runner := by
  obtain ⟨stamp', runner', attach', place, items, pairs, w₁, same₁, checks,
    ⟨u', decodes'⟩, new, list,
    arePairs, paired⟩ := checked_of_not_rejects readOnly passes
  obtain ⟨rfl, rfl, rfl, rfl⟩ := decodes.unique decodes'
  have internals₁ := internals.of_keeps (same₁ d).toKeeps internals.apart fun _ _ => .inr id
  obtain ⟨x, shown⟩ := former
  obtain ⟨text, told⟩ := nameText_eq (h := Host.ofDepth (k + 2)) internals₁.usual internals₁.named
  obtain ⟨root, warned⟩ := warnIfInstalled_eq internals₁.usual told
    ((same₁ d).toKeeps.shows internals.holds (.inr id) (by decide) shown)
  have kept₂ : Keeps (.runner d) w₁ (w₁.withRoot root) := .withRoot root
  have holds₂ := kept₂.holds internals₁.holds
  have settable₂ := settable_books internals₁.settable kept₂ runnerField (by simp)
  let v := (w₁.withRoot root).putText d runnerField runner
  have assigned : (Host.ofDepth (k + 2)).assign (.object i) runnerField runner (w₁.withRoot root) =
      .ok () v := Host.assign_settable holds₂ settable₂
  have kept : Keeps (.runner d) w v :=
    same₁.keeps.trans (kept₂.trans (Keeps.putText (s := .runner d) rfl runner))
  have shown' : v.Shows i runnerField runner := World.shows_putText holds₂ settable₂ runner
  obtain ⟨f, unusable⟩ := lame v kept
  have more : pairs ≠ [] := by
    rintro rfl
    exact some (List.forall₂_nil_right_iff.1 paired)
  obtain ⟨w', failed, same'⟩ :=
    handOver_unusable unusable (kept.readsUsually internals.usual) shown' list
    arePairs more
  refine ⟨f, v, w', kept, unusable, ?_, kept.trans same'.keeps, ?_⟩
  · rw [install, bind_of_ok checks]
    refine (bind_of_ok warned).trans (bind_of_error ?_)
    rw [subscribe, bind_of_ok assigned]
    exact bind_of_error failed
  · exact (same' d).toKeeps.shows (kept.holds internals.holds) (.inr id) (by decide) shown'

/-- `isinstance(value, Runner)` asks for `on` and `off`, not whether they can be called. What does
not pass is rejected with nothing changed. What passes, but whose `on` cannot be called, makes
`install` fail when the task has the runner already. An object passes if its class defines both
names or it has both itself. And while a task has pairs and a runner whose `off` cannot be called,
`destroy` fails and changes nothing. -/
theorem install_unusable (internals : DefaultInternals w i d r l)
    (former : ∃ x, w.Shows i runnerField x)
    (some : l.entries ≠ []) :
    let accepts := Runner.accepts (Host.ofDepth (k + 2)) runner u
    let installing := install (Host.ofDepth (k + 2)) (.object i) options w
    (∀ u' u'' told, accepts = .ok false u' →
      (Host.ofDepth (k + 2)).describe runner u' = .ok told u'' →
        ∃ w', installing = .error (.notRunner told) w' ∧ Untouched w w') ∧
    (∀ u', accepts = .ok true u' →
      (∀ f, ¬ Lacks (Host.ofDepth (k + 1)) w i name text l.entries f) →
      (∃ x w', checked (Host.ofDepth (k + 2)) (.object i) options w = .ok x w' ∧ Untouched w w') ∧
      (Lame (Host.ofDepth (k + 2)) w d runner "on" → ∃ f v w', Keeps (.runner d) w v ∧
        Unusable (Host.ofDepth (k + 2)) v runner "on" f ∧ installing = .error f w' ∧
        Keeps (.runner d) w w' ∧ w'.Shows i runnerField runner)) ∧
    (∀ o e there, runner = .object o → u.Stranger o e →
      (∀ n ∈ Runner.ways, u.Bears o n (there n)) →
        ∃ u', accepts = .ok (u.Vouches (u.objectClassOf o) || Runner.ways.all there) u') ∧
    (∀ n v f, Booked v i runner → Unusable (Host.ofDepth (n + 1)) v runner "off" f →
      ∃ v', destroy (Host.ofDepth (n + 1)) (.object i) v = .error f v' ∧ Untouched v v') := by
  intro accepts installing
  refine ⟨?_, ?_, ?_, ?_⟩
  · intro u' u'' told asked described
    exact install_refused readOnly decodes something asked described
  · intro u' asked handled
    have passes := not_rejects_of_accepted decodes something asked handled
    constructor
    · obtain ⟨_, _, _, _, _, _, w₁, same, checks, -⟩ := checked_of_not_rejects readOnly passes
      exact ⟨_, w₁, checks, same⟩
    · exact install_lame readOnly decodes internals former some passes
  · rintro o e there rfl stranger bears
    have standard := (readOnly.toReviewable.untouched (readOnly.decoded decodes)).standard
    obtain ⟨u', run, -⟩ :=
      Runner.accepts_decides (h := Host.ofDepth (k + 2)) standard stranger bears
    exact ⟨u', run⟩
  · intro n v f booked unusable
    exact destroy_unusable booked something unusable

end installing

end Task

/-! An emitter with a number in place of a way of subscribing -/

namespace Opening

open EventTasks.Task

def stubborn (n : String) : World := (World.opening rules).putText 2 n (.number 1)

variable {n : String}

theorem keeps_stubborn : Keeps ⟨2, (· = n), fun _ => False⟩ (World.opening rules) (stubborn n) :=
  .putText rfl (.number 1)

theorem internals_stubborn : DefaultInternals (stubborn n) task 1 (.dict 3) (listing rules) := by
  have internals := offersRunner_rules.ordinary.toDefaultInternals
  refine internals.of_keeps keeps_stubborn ⟨?_, internals.apart.2⟩ fun _ _ => .inl ?_
  · exact show 3 ≠ 2 by decide
  · exact show 1 ≠ 2 by decide

theorem shows_stubborn (hn : n ∈ Runner.ways) : (stubborn n).Shows emitter n (.number 1) := by
  refine World.shows_putText isEmitter.holds ⟨?_, fun entry found => ?_⟩ _
  · exact show World.start.hook? Library.emitterClass "__setattr__" = none by decide
  · rcases List.mem_cons.1 hn with rfl | hn
    · obtain rfl := Option.some.inj (found.symm.trans isEmitter.off.2)
      rfl
    · obtain rfl := List.mem_singleton.1 hn
      obtain rfl := Option.some.inj (found.symm.trans isEmitter.on.2)
      rfl

theorem stranger_stubborn : (stubborn n).Stranger emitter 2 where
  usual := keeps_stubborn.readsUsually isEmitter.usual
  holds := keeps_stubborn.holds isEmitter.holds
  cls := by
    have emitter : (World.opening rules).IsEmitter emitter 2 0 := isEmitter
    exact emitter.cls
  inside := show Library.emitterClass < World.start.classes.size by decide
  apart := show World.start.isUnder Library.emitterClass Library.contractClass = false by decide
  registered := rfl
  under := show Runner.directlyUnder World.start Library.contractClass = [] by decide

theorem bears_stubborn (hn : n ∈ Runner.ways) : ∀ m ∈ Runner.ways,
    (stubborn n).Bears emitter m true := by
  intro m hm
  by_cases same : m = n
  · subst same
    exact .value (shows_stubborn hm)
  · have outside : 2 ≠ 2 ∨ ¬ (m = n) := .inr same
    rcases List.mem_cons.1 hm with rfl | hm
    · exact .method (keeps_stubborn.means isEmitter.holds outside (by decide) isEmitter.off)
    · obtain rfl := List.mem_singleton.1 hm
      exact .method (keeps_stubborn.means isEmitter.holds outside (by decide) isEmitter.on)

theorem accepts_stubborn (hn : n ∈ Runner.ways) (h : Host) :
    ∃ u, Runner.accepts h (.object emitter) (stubborn n).later = .ok true u ∧
      Untouched (stubborn n).later u := by
  have others : ∀ m ∈ Runner.ways, m ≠ "__annotations__" := by decide
  have later : Keeps (.nothing 0) (stubborn n) (stubborn n).later := .later
  have bears : ∀ m ∈ Runner.ways, (stubborn n).later.Bears emitter m ((fun _ => true) m) := by
    intro m hm
    exact later.bears stranger_stubborn.holds (.inr id) (others m hm) (bears_stubborn hn m hm)
  obtain ⟨u, asked, same⟩ := Runner.accepts_decides (h := h)
    (later.standard internals_stubborn.standard) (Inspected.later.stranger stranger_stubborn) bears
  refine ⟨u, ?_, same⟩
  rw [asked, show Runner.ways.all (fun _ => true) = true from rfl, Bool.or_true]

def offer : Value := .options 0 (.object emitter) (some false)

theorem decodes_stubborn (k : Nat) :
    Decodes k (stubborn n) offer 0 (.object emitter) (some false) (stubborn n).later := rfl

theorem means_stubborn : ∃ f, (stubborn n).Means task "on_rule" f := ⟨_, rfl, rfl⟩

theorem readOnly_stubborn (hn : n ∈ Runner.ways) (k : Nat) :
    ∃ name text, ChecksReadOnly k (stubborn n) task 1 (.dict 3)
        (listing rules) offer name text := by
  have asks : Asks k (stubborn n) offer := by
    refine asks_of_accepted (.decoded 0 (.object emitter) (some false)) (by trivial) k ?_
    intro _ stamp attach u decodes _
    obtain ⟨-, -, -, rfl⟩ := (decodes_stubborn k).unique decodes
    exact accepts_stubborn hn _
  refine internals_stubborn.readOnly_of_asks asks fun e found place key m same named => .inr ?_
  obtain rfl := handlerName_rules found same named
  exact means_stubborn

end Opening

namespace Task

/-- An emitter whose `on` is a number passes and makes `install` fail when the task has it; one
whose `off` is a number makes `destroy` fail. -/
theorem install_unusable_number :
    (∃ f w', install (Host.ofDepth 5) (.object Opening.task) Opening.offer (Opening.stubborn "on") =
        .error f w' ∧
      f.kind = .type ∧ w'.Shows Opening.task runnerField (.object Opening.emitter)) ∧
    ∃ a kind w₁ w₂, install (Host.ofDepth 5) (.object Opening.task) Opening.offer
        (Opening.stubborn "off") = .ok a w₁ ∧
      destroy (Host.ofDepth 5) (.object Opening.task) w₁ = .error (.notCallable kind) w₂ := by
  constructor
  · have inside : "on" ∈ Runner.ways := by decide
    have internals := Opening.internals_stubborn (n := "on")
    have stranger := Opening.stranger_stubborn (n := "on")
    obtain ⟨name, text, readOnly⟩ := Opening.readOnly_stubborn inside 4
    obtain ⟨u, asked, -⟩ := Opening.accepts_stubborn inside (Host.ofDepth 5)
    have handled : ∀ f, ¬ Lacks (Host.ofDepth 4) (Opening.stubborn "on") Opening.task name text
        (Opening.listing Opening.rules).entries f := by
      refine not_lacks fun e found place key same => ?_
      obtain rfl : e = (.word "RULE", .event .rule) := List.mem_singleton.1 found
      obtain ⟨-, rfl⟩ := Value.text.inj same
      obtain ⟨f, means⟩ := Opening.means_stubborn (n := "on")
      exact ⟨"on_rule", by decide, handles_of_means internals.usual means⟩
    have former : (Opening.stubborn "on").Shows Opening.task runnerField .nothing :=
      Opening.keeps_stubborn.shows Opening.holds_task (.inl (show 1 ≠ 2 by decide)) (by decide)
        Opening.idle.runner
    have shows := Opening.shows_stubborn inside
    have lame : Lame (Host.ofDepth 5) (Opening.stubborn "on") 1 (.object Opening.emitter) "on" :=
      lame_of_gives stranger.usual stranger.holds inside (.inl shows) rfl
    obtain ⟨-, taken, -⟩ := install_unusable readOnly (Opening.decodes_stubborn 4) rfl internals
      ⟨_, former⟩ (by decide)
    obtain ⟨f, v, w', kept, unusable, failed, -, shown⟩ := (taken u asked handled).2 lame
    refine ⟨f, w', failed, ?_, shown⟩
    cases unusable with
    | missing failed =>
      have other : "on" ≠ runnerField := by decide
      have read := Host.attr_shows (h := Host.ofDepth 5) (kept.readsUsually stranger.usual)
        (kept.shows stranger.holds (.inr other) (by decide) shows)
      cases read.symm.trans failed
    | uncallable => rfl
  · obtain ⟨_, _, run⟩ : ∃ v w₃, (do
        let _ ← install (Host.ofDepth 5) (.object Opening.task) Opening.offer
        match ← attempt (destroy (Host.ofDepth 5) (.object Opening.task)) with
        | .error (.notCallable kind) => pure kind
        | _ => throw .noRunner : Act String) (Opening.stubborn "off") = .ok v w₃ :=
      exists_of_succeeds (by decide +kernel)
    obtain ⟨a, w₁, installed, run⟩ := bind_eq_ok.1 run
    obtain ⟨outcome, w₂, tried, run⟩ := bind_eq_ok.1 run
    rw [attempt_eq] at tried
    cases destroyed : destroy (Host.ofDepth 5) (.object Opening.task) w₁ with
    | ok v u =>
      simp only [destroyed] at tried
      obtain ⟨rfl, -⟩ := EStateM.Result.ok.inj tried
      simp at run
    | error f u =>
      simp only [destroyed] at tried
      obtain ⟨rfl, rfl⟩ := EStateM.Result.ok.inj tried
      cases f with
      | notCallable kind => exact ⟨a, kind, w₁, u, installed, destroyed⟩
      | _ => simp at run

end Task

end EventTasks
