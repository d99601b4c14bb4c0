import EventTasks.Proofs.TaskLifetime

/-!
What the handlers that a task exposes say of its next install. Both read the task, at different
times and along different lists of names; as long as reading a handler does nothing and gives the
same thing to call each time, they agree: an install fails for want of a handler exactly if the
table lacks one, and otherwise it subscribes what the table has. A property that gives something
else when it is read again can be in the table and be missed by the install.
-/
namespace EventTasks

open Act

namespace Task

variable {h : Host} {w u : World} {i d r e p q m : Nat} {reg : Ref} {l : Listing} {n text : String}
  {options name x y : Value} {T : Dictionary}

theorem Viewable.lasts (viewable : Viewable w i d reg l)
    (computed : ∀ n entry, Naming.isHandlerName n = true →
      w.definition? (w.objectClassOf i) n = some entry → w.Computes entry → Lasts m w i n)
    (n : String) (handler : Naming.isHandlerName n = true) : Lasts m w i n := by
  have hn : n ≠ "__annotations__" := Naming.isHandlerName_ne handler (by decide)
  cases own : (w.attributesOf i).text? n with
  | some x =>
    exact lasts_of_gives viewable.usual viewable.holds hn (.inl (viewable.own n x handler own))
  | none =>
    cases found : w.definition? (w.objectClassOf i) n with
    | none => exact lasts_of_gives viewable.usual viewable.holds hn (.inr ⟨own, found, rfl⟩)
    | some entry =>
      by_cases computes : w.Computes entry
      · exact computed n entry handler found computes
      · exact lasts_of_entry viewable.usual viewable.holds hn own found computes

def lacking? (T : Dictionary) (entry : Value × Value) : Option String :=
  (entry.1.text?.bind Naming.handlerName?).filter fun n => (T.text? n).isNone

theorem lacking?_text {place : Nat} {key : String} {event : Value}
    (named : Naming.handlerName? key = some n) :
    lacking? T (.text place key, event) = if (T.text? n).isSome then none else some n := by
  simp only [lacking?, Value.text?, Option.bind_some, named, Option.filter_some]
  cases T.text? n <;> rfl

/-- The first entry of a registry without a handler is the first one that a table of the callable
handlers lacks. -/
theorem lacks_iff_lacking {entries : List (Value × Value)} (areNamed : AreNamed entries)
    (table : ∀ n ∈ namesFor entries, (T.text? n).isSome ↔ Handles h w i n) (f : Fault) :
    Lacks h w i name text entries f ↔
      ∃ n, entries.findSome? (lacking? T) = some n ∧ f = .missingHandler (.word n) name n text := by
  induction entries with
  | nil => exact ⟨fun lacks => (by cases lacks), fun ⟨n, found, _⟩ => (by simp at found)⟩
  | cons entry entries ih =>
    obtain ⟨key', event⟩ := entry
    obtain ⟨place, key, rfl, nonempty⟩ : ∃ place key, key' = .text place key ∧ key ≠ "" :=
      areNamed (key', event) (by simp)
    obtain ⟨n, named⟩ := exists_handlerName nonempty
    rw [namesFor_cons named] at table
    have here := table n (by simp)
    rw [List.findSome?_cons, lacking?_text named]
    by_cases has : (T.text? n).isSome
    · have rest := ih (fun e he => areNamed e (by simp [he])) fun n hn => table n (by simp [hn])
      simp only [has, if_true]
      rw [← rest]
      refine ⟨fun lacks => ?_, .later named (here.1 has)⟩
      cases lacks with
      | empty => simp at nonempty
      | unhandled named' missing =>
        exact absurd (Option.some.inj (named.symm.trans named') ▸ here.1 has) missing
      | later _ _ lacks => exact lacks
    · simp only [has, Bool.false_eq_true, if_false, Option.some.injEq, exists_eq_left']
      refine ⟨fun lacks => ?_, fun same => same ▸ .unhandled named fun handles =>
        has (here.2 handles)⟩
      cases lacks with
      | empty => simp at nonempty
      | unhandled named' => rw [Option.some.inj (named.symm.trans named')]
      | later named' handles =>
        exact absurd (here.2 (Option.some.inj (named'.symm.trans named) ▸ handles)) has

theorem Finds.eq_of_shows (finds : Finds h w i n x) (usual : w.ReadsUsually i) (holds : w.Holds i d)
    (hn : n ≠ "__annotations__") (shows : w.Shows i n y) : x = y := by
  obtain ⟨u, u', same, run⟩ := finds
  have kept := (same d holds.inside).toKeeps
  have read := Host.attrOrNothing_gives (h := h) (kept.readsUsually usual)
    (.inl (kept.shows holds (.inr id) hn shows))
  exact (EStateM.Result.ok.inj (run.symm.trans read)).1

structure Agrees (T : Dictionary) (w : World) (i : Nat) (entry : Value × Value)
    (pair : Value × Ref) :
    Prop where
  event : pair.1 = entry.2
  handler : ∃ place key n x, entry.1 = .text place key ∧ Naming.handlerName? key = some n ∧
    T.text? n = some x ∧ (∃ k, x.key = .ok k ∧ (Value.ref pair.2).key = .ok k) ∧
    ∀ y, (w.attributesOf i).text? n = some y → x = y ∧ .ref pair.2 = y

theorem agrees_of_takes {depth depth' : Nat} (viewable : Viewable w i d reg l)
    (exposes : Exposes (Host.ofDepth depth) w i q l T) (deep : m ≤ depth) (deep' : m ≤ depth')
    (lasts : ∀ n, Naming.isHandlerName n = true → Lasts m w i n) (same : Stays w u)
    {entry : Value × Value} {pair : Value × Ref} (has : lacking? T entry = none)
    (takes : Takes (Host.ofDepth depth') u i entry pair) : Agrees T w i entry pair := by
  obtain ⟨place, key, n, u₁, u₂, text, named, same', read⟩ := takes.read
  have handler := isHandlerName_of_handlerName? named
  have hn : n ≠ "__annotations__" := Naming.isHandlerName_ne handler (by decide)
  have there : (T.text? n).isSome := by
    obtain ⟨key', event⟩ := entry
    obtain rfl : key' = .text place key := text
    rw [lacking?_text named] at has
    by_contra absent
    simp [absent] at has
  obtain ⟨x, found⟩ := Option.isSome_iff_exists.1 there
  obtain ⟨finds, callable⟩ := exposes.finds n x found
  have finds' : Finds (Host.ofDepth depth') w i n (.ref pair.2) :=
    ⟨u₁, u₂, same.trans same'.stays, read⟩
  refine ⟨takes.pairs.1, place, key, n, x, text, named, found,
    (lasts n handler).key_eq viewable.holds deep deep' finds finds' callable, fun y own => ?_⟩
  have shows := viewable.own n y handler own
  exact ⟨finds.eq_of_shows viewable.usual viewable.holds hn shows,
    finds'.eq_of_shows viewable.usual viewable.holds hn shows⟩

/-- What the table that `handlers` gave in `w` says of an install in `u`: it fails for want of a
handler exactly if the table lacks one, with the first such name in the order of the registry; else
it subscribes what the table has. -/
structure Predicts (T : Dictionary) (k : Nat) (w u : World) (i d : Nat) (l : Listing)
    (options : Value)
    (r e p : Nat) : Prop where
  missing : ∃ name text, GoesBy (Host.ofDepth k) u i name text ∧
    ∀ f, (f.kind = .missingHandler ∧
        ∃ u', install (Host.ofDepth (k + 1)) (.object i) options u = .error f u') ↔
      ∃ n, l.entries.findSome? (lacking? T) = some n ∧ f = .missingHandler (.word n) name n text
  subscribes : l.entries.findSome? (lacking? T) = none → ∃ u' pairs,
    List.Forall₂ (Agrees T w i) l.entries pairs ∧
    u'.tableAt p = (u.tableAt p).subscribeAll (handed pairs) ∧ Installed u' i d r e p pairs ∧
    (install (Host.ofDepth (k + 1)) (.object i) options u = .ok .nothing u' ∨
      ¬ (∃ settings, u.around.Gives settings) ∧ ∃ report,
        install (Host.ofDepth (k + 1)) (.object i) options u = .error (.invalid report) u')

theorem predicts {depth k : Nat} (viewable : Viewable w i d reg l) (books : Books u i d)
    (exposes : Exposes (Host.ofDepth depth) w i q l T) (areNamed : AreNamed l.entries)
    (lasts : ∀ n, Naming.isHandlerName n = true → Lasts m w i n) (deep : m ≤ depth)
    (deep' : m ≤ k + 1)
    (same : Stays w u) (hosts : Hosts (k + 1) u d options r e p)
    (hashable : ∀ entry ∈ l.entries, ∃ key, entry.2.key = .ok key) :
    Predicts T (k + 1) w u i d l options r e p := by
  have kept : Keeps (.nothing d) w u := (same d viewable.holds.inside).toKeeps
  have internals : DefaultInternals u i d reg l :=
    viewable.toDefaultInternals.of_keeps kept viewable.apart fun _ _ => .inr id
  obtain ⟨name, simple, shows⟩ := internals.named
  obtain ⟨text, goesBy⟩ :=
    goesBy_of_shows (h := Host.ofDepth (k + 1)) internals.usual internals.holds simple shows
  have readOnly : ChecksReadOnly (k + 1) u i d reg l options name text :=
    { internals.reviewable, hosts.asks internals.standard with
      goesBy := goesBy
      firm := fun e _ place key n _ named =>
        ((lasts n (isHandlerName_of_handlerName? named)).of_stays same).firm deep' }
  have table : ∀ n ∈ namesFor l.entries,
      (T.text? n).isSome ↔ Handles (Host.ofDepth (k + 1)) u i n := fun n inside =>
    (exposes.isSome_iff inside).trans
      ((lasts n (isHandlerName_of_mem_namesFor inside)).handles_iff deep deep' same)
  have rejects_iff (f : Fault) : Rejects (k + 1) u i options name text l f ↔
      ∃ n, l.entries.findSome? (lacking? T) = some n ∧ f = .missingHandler (.word n) name n text :=
    (hosts.rejects_iff internals.standard).trans (lacks_iff_lacking areNamed table f)
  have fails {n : String} (found : l.entries.findSome? (lacking? T) = some n) :
      ∃ u', install (Host.ofDepth (k + 2)) (.object i) options u =
        .error (.missingHandler (.word n) name n text) u' := by
    obtain ⟨u', failed, -⟩ := ((rejects_iff _).2 ⟨n, found, rfl⟩).install_fails readOnly
    exact ⟨u', failed⟩
  have installs (none : l.entries.findSome? (lacking? T) = none) :=
    hosts.installs internals readOnly books.former fun f rejects => by
      obtain ⟨n, found, -⟩ := (rejects_iff f).1 rejects
      simp [none] at found
  have keyed (none : l.entries.findSome? (lacking? T) = none) {u' : World}
      {pairs : List (Value × Ref)} (handsOver : HandsOver (k + 1) u u' i d l r e p pairs) :
      refused pairs = Option.none :=
    refused_eq_none fun q hq => by
      obtain ⟨entry, inside, ⟨event, -⟩, -⟩ := exists_of_forall₂ handsOver.taken hq
      exact event ▸ hashable entry inside
  refine ⟨⟨name, text, goesBy, fun f => ⟨fun ⟨kind, u', failed⟩ => ?_, fun ⟨n, found, same⟩ => ?_⟩⟩,
    fun none => ?_⟩
  · cases found : l.entries.findSome? (lacking? T) with
    | some n =>
      obtain ⟨v, failed'⟩ := fails found
      exact ⟨n, rfl, (EStateM.Result.error.inj (failed.symm.trans failed')).1⟩
    | none =>
      obtain ⟨v, pairs, handsOver, outcome⟩ := installs found
      rw [keyed found handsOver] at outcome
      obtain ⟨-, v', -, run | ⟨-, report, run⟩⟩ := outcome
      · cases failed.symm.trans run
      · obtain ⟨rfl, -⟩ := EStateM.Result.error.inj (failed.symm.trans run)
        cases kind
  · subst same
    exact ⟨rfl, fails found⟩
  · obtain ⟨v, pairs, handsOver, outcome⟩ := installs none
    rw [keyed none handsOver] at outcome
    obtain ⟨installed, u', gains, run⟩ := outcome
    have agree : List.Forall₂ (Agrees T w i) l.entries pairs :=
      ((List.forall₂_and_left _ _).2 ⟨List.findSome?_eq_none_iff.1 none, handsOver.taken⟩).imp
        fun entry pair ⟨has, takes⟩ =>
          agrees_of_takes viewable exposes deep deep' lasts same has takes
    refine ⟨u', pairs, agree, ?_, installed.gaining hosts.distinct gains, run⟩
    rw [← handsOver.table]
    exact congrArg Subscriptions.table
      (gains.toKeeps.subscriptionsAt installed.toServes.emitter.inside id)

/-- In every state of its career, the property `handlers` of a task can be read and changes nothing.
It has the handlers that can be called, those bound at construction first, then those of the
registry in its order. An install goes by it, before or after, as long as the handlers stay as they
are. Only what a class computes, such as a property, has to last for that. -/
theorem handlers_predict {depth : Nat} (career : Career i d w reg l) (areNamed : AreNamed l.entries)
    (computed : ∀ n entry, Naming.isHandlerName n = true →
      w.definition? (w.objectClassOf i) n = some entry → w.Computes entry → Lasts m w i n)
    (deep : m ≤ depth) :
    ∃ q place w₁, Bound w i d q ∧
      handlers (Host.ofDepth depth) (.object i) w = .ok (.ref (.dict place)) w₁ ∧ Stays w w₁ ∧
      Exposes (Host.ofDepth depth) w i q l (w₁.dictAt place) ∧
      ∀ k u options r e p, m ≤ k + 1 → Stays w u → Hosts (k + 1) u d options r e p →
        (∀ entry ∈ l.entries, ∃ key, entry.2.key = .ok key) →
        Predicts (w₁.dictAt place) (k + 1) w u i d l options r e p := by
  obtain ⟨viewable, books⟩ := career.viewable
  have lasts := viewable.lasts computed
  obtain ⟨q, bound⟩ := viewable.bound
  obtain ⟨place, w₁, run, stays, exposes⟩ :=
    handlers_eq deep viewable.toDefaultInternals.reviewable bound areNamed lasts
  refine ⟨q, place, w₁, bound, run, stays, exposes,
    fun k u options r e p deep' same hosts hashable => ?_⟩
  have kept : Keeps (.nothing d) w u := (same d viewable.holds.inside).toKeeps
  exact predicts viewable (books.of_keeps viewable.holds kept (fun _ _ => id)
    (serves_of_keeps kept rfl fun _ => id)) exposes areNamed lasts deep deep' same hosts hashable

theorem areNamed_registry : AreNamed Value.registryEntries := fun e inside => by
  have nonempty : ∀ p ∈ ParseEvent.registry, p.1 ≠ "" := by decide
  obtain ⟨p, found, rfl⟩ := List.mem_map.1 inside
  exact ⟨_, _, rfl, nonempty p found⟩

theorem keyed_registry : ∀ e ∈ Value.registryEntries, ∃ key, e.2.key = .ok key := fun e inside => by
  obtain ⟨p, -, rfl⟩ := List.mem_map.1 inside
  exact ⟨_, rfl⟩

/-- A new task whose first handler is cleared is seen to lack it, and cannot be installed. -/
theorem handlers_predict_root : ∃ w₁ w₂ place w₃ f u,
    create (Host.ofDepth 3) (.object Opening.task) .nothing .nothing (World.beginning {}) =
      .ok .nothing w₁ ∧
    (Host.ofDepth 3).assign (.object Opening.task) "on_root" .nothing w₁ = .ok () w₂ ∧
    handlers (Host.ofDepth 3) (.object Opening.task) w₂ = .ok (.ref (.dict place)) w₃ ∧
    (w₃.dictAt place).text? "on_root" = none ∧
    install (Host.ofDepth 3) (.object Opening.task)
      (.options 0 (.object Opening.emitter) (some false)) w₃ = .error f u ∧
    f.kind = .missingHandler := by
  have legible : ∀ e ∈ ([] : List (Value × Value)),
      Legible (Host.ofDepth 3) 1 (World.beginning {}) e.1
      (Beginning.told e.1) (Beginning.meant e.1) := by simp
  have nobody : ∀ e ∈ ([] : List (Value × Value)),
      (World.beginning {}).Settable Opening.task (namedFor Beginning.meant e).1 := by simp
  have unnamed : Value.nothing.IsSimple := trivial
  obtain ⟨w₁, created, made⟩ :=
    create_eq Beginning.isNew .nothing unnamed (fun _ => Beginning.named)
    legible nobody
  have career₁ : Career Opening.task 1 w₁ .registry ⟨Value.registryEntries, none⟩ :=
    .made Beginning.isNew Beginning.equipped.toOutfit .nothing unnamed (fun _ => Beginning.named)
      legible nobody created
  have offersEmitter := Beginning.offersEmitter made trivial (some false)
  have settable : w₁.Settable Opening.task "on_root" :=
    made.kept.settable (by decide) (Beginning.settable_handler (by decide))
  have holds : w₁.Holds Opening.task 1 := offersEmitter.ordinary.holds
  have set := Host.assign_settable (h := Host.ofDepth 3) (v := .nothing) holds settable
  have career₂ := career₁.assigned (h := Host.ofDepth 3) (v := .nothing) (by decide) settable
  rw [after_of_ok set] at career₂
  let w₂ := w₁.putText 1 "on_root" .nothing
  have kept₂ : Keeps ⟨1, (· = "on_root"), fun _ => False⟩ w₁ w₂ := .putText rfl _
  have computed : ∀ n entry, Naming.isHandlerName n = true →
      w₂.definition? (w₂.objectClassOf Opening.task) n = some entry → w₂.Computes entry →
        Lasts 0 w₂ Opening.task n := by
    intro n entry handler found computes
    have hn : n ≠ "__annotations__" := Naming.isHandlerName_ne handler (by decide)
    rw [kept₂.objectClassOf, kept₂.definition? hn, made.kept.objectClassOf,
      made.kept.definition? hn] at found
    exact absurd computes (World.not_computes (Opening.isFunction_of_handler handler found))
  obtain ⟨q, place, w₃, -, view, stays, exposes, predicts⟩ :=
    handlers_predict career₂ areNamed_registry computed (Nat.zero_le 3)
  have kept₃ : Keeps (.nothing 1) w₂ w₃ := (stays 1 (kept₂.holds holds).inside).toKeeps
  have hosts : Hosts 2 w₃ 1 (.options 0 (.object Opening.emitter) (some false))
      Opening.emitter 2 0 :=
    { decodes := ⟨0, some false, _, rfl, .refl _⟩
      serves := (offersEmitter.serves.of_keeps kept₂ (.inl (by decide)) id).of_keeps kept₃
        (Scope.spares_nothing 1 2) id
      distinct := by decide
      consultable :=
        consultable_of_readable (kept₃.readable (kept₂.readable offersEmitter.readable)) }
  have absent : (w₃.dictAt place).text? "on_root" = none := by
    have shows := World.shows_putText holds settable .nothing
    have inside : "on_root" ∈ namesFor Value.registryEntries := by decide
    by_contra there
    obtain ⟨v, u, run, callable⟩ :=
      (exposes.isSome_iff inside).1 (Option.isSome_iff_ne_none.2 there)
    have read := Host.attrOrNothing_gives (h := Host.ofDepth 3)
      (kept₂.readsUsually offersEmitter.ordinary.usual) (.inl shows)
    obtain ⟨rfl, rfl⟩ := EStateM.Result.ok.inj (run.symm.trans read)
    simp [World.isCallable] at callable
  have first : Value.registryEntries.findSome? (lacking? (w₃.dictAt place)) = some "on_root" := by
    have front : Value.registryEntries =
      (.text 0 "ROOT", .word "parse:root") :: Value.registryEntries.tail := rfl
    have named : Naming.handlerName? "ROOT" = some "on_root" := by decide
    rw [front, List.findSome?_cons, lacking?_text named, absent]
    rfl
  obtain ⟨name, text, -, decides⟩ :=
    (predicts 1 w₃ _ _ _ _ (Nat.zero_le 2) stays hosts keyed_registry).missing
  obtain ⟨kind, u, failed⟩ := (decides _).2 ⟨_, first, rfl⟩
  exact ⟨w₁, w₂, place, w₃, _, u, created, set, view, absent, failed, kind⟩

def fickle : World :=
  let start := World.beginning {}
  { start with
    classes := (start.classes.modify Library.taskClass fun info =>
      { info with
        body := ("events", .ref (.dict start.dicts.size)) ::
          ("on_x", .ref (.property start.properties.size)) :: info.body }).push
      { name := "Maker", qualifiedName := "Maker", bases := [Library.objectClass],
        order := [start.classes.size, Library.objectClass], kind := Library.typeClass,
        body := [("__getattr__", .function (.scripted 0))] }
    functions := #[
      { name := "__getattr__", owner := start.classes.size, qualifiedName := "Maker.__getattr__",
        form := .method
        behaviour := { routine := {
          failure := none, limit := none, actions := [.set "maker" "made" .nothing],
          result := some (.named "handler"), inherits := false } } }]
    properties := start.properties.push
      { rule := .result (.attributeOf "maker" "made"), name := some "on_x" }
    objects := start.objects.push
      { cls := start.classes.size, attributes := some (start.dicts.size + 1) }
    dicts := start.dicts ++ #[.ofTexts [("X", .event .rule)], {}]
    names := [("maker", .object start.objects.size),
      ("handler", .function (.library (.emitter .on)))] }

/-- A property may give a handler to `handlers` and none to the `install` right after it. -/
theorem handlers_mislead : ∃ w₁ place w₂ w₃ f w₄,
    create (Host.ofDepth 5) (.object Opening.task) .nothing .nothing fickle = .ok .nothing w₁ ∧
    handlers (Host.ofDepth 5) (.object Opening.task) w₁ = .ok (.ref (.dict place)) w₂ ∧
    ((w₂.dictAt place).text? "on_x").isSome = true ∧
    (Host.ofDepth 5).attr (.object Opening.task) "on_x" w₂ = .ok .nothing w₃ ∧
    install (Host.ofDepth 5) (.object Opening.task)
      (.options 0 (.object Opening.emitter) (some false)) w₃ = .error f w₄ ∧
    f.kind = .missingHandler := by
  obtain ⟨_, u, run⟩ : ∃ v u, (do
      let made ← create (Host.ofDepth 5) (.object Opening.task) .nothing .nothing
      let table ← handlers (Host.ofDepth 5) (.object Opening.task)
      let viewed ← get
      let again ← (Host.ofDepth 5).attr (.object Opening.task) "on_x"
      let outcome ← attempt (install (Host.ofDepth 5) (.object Opening.task)
        (.options 0 (.object Opening.emitter) (some false)))
      if made.isNothing ∧ table.isSame (.ref (.dict 8)) ∧ ((viewed.dictAt 8).text? "on_x").isSome ∧
          again.isNothing ∧ endedIn .missingHandler outcome then pure ()
      else throw .noRunner : Act Unit) fickle = .ok v u := exists_of_succeeds (by decide +kernel)
  obtain ⟨made, w₁, created, run⟩ := bind_eq_ok.1 run
  obtain ⟨table, w₂, view, run⟩ := bind_eq_ok.1 run
  rw [bind_of_ok (get_run w₂)] at run
  obtain ⟨again, w₃, read, run⟩ := bind_eq_ok.1 run
  obtain ⟨outcome, w₄, tried, run⟩ := bind_eq_ok.1 run
  split at run
  · rename_i all
    obtain ⟨isMade, isTable, listed, isGone, ended⟩ := all
    obtain rfl := Value.eq_of_isNothing isMade
    obtain rfl := Value.eq_of_isSame_ref isTable
    obtain rfl := Value.eq_of_isNothing isGone
    obtain ⟨f, installed, kind⟩ := exists_of_endedIn tried ended
    exact ⟨w₁, 8, w₂, w₃, f, w₄, created, view, listed, read, installed, kind⟩
  · cases run

end Task

end EventTasks
