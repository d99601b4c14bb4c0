import EventTasks.Proofs.Overrides

/-!
Making a task of a new object. What is given for its handlers is checked in order, and the first
entry with which something is wrong ends it; otherwise every handler is what was given for it last,
or what the class has under its name, bound to the task. No other attribute depends on what was
given.
-/
namespace EventTasks

open Act

theorem Keeps.pushNames {s : Scope} {w : World} :
    Keeps s w { w with gatherings := w.gatherings.push {} } :=
  { refl s w with
    texts := fun g now => by
      simp only [World.namesAt, Array.getElem?_push]
      split
      · exact fun m found => absurd found List.not_mem_nil
      · exact now }

theorem Host.truth_listing {h : Host} {w : World} {r : Ref} {l : Listing}
    (listing : w.listing? r = some l) : h.truth (.ref r) w = .ok (!l.entries.isEmpty) w := by
  have object : w.hookOf? (.ref r) "__bool__" = none := by
    rw [World.hookOf?, (noSubject_of_listing listing).1]
  have length : h.size? (.ref r) w = .ok (some l.entries.length) w := by
    rw [size?, bind_of_ok (get_run w), ownSize?_listing listing]
    rfl
  have told : h.truth (.ref r) w = .ok (l.entries.length != 0) w :=
    (bind_of_ok (ask?_of_none object [])).trans (bind_of_ok length)
  rw [told]
  cases l.entries <;> rfl

namespace Task

variable {h : Host} {w u v w' : World} {i d p k : Nat} {n : String} {x : Value}
  {own : List (String × Value)}

def fields : List String :=
  ["name", runnerField, overridesField, handlersField, forwardersField, subscriptionsField]

/-- A new object of a class of tasks, which `_bind_handlers` can go through. -/
structure NewObject (k : Nat) (w : World) (i d : Nat) : Prop where
  standard : w.Standard
  usual : w.ReadsUsually i
  holds : w.Holds i d
  empty : w.dictAt d = {}
  bindable : Bindable k w i d
  operations : ∀ op ∈ [TaskOp.init, .bindHandlers, .handlerNames],
    w.definition? (w.objectClassOf i) op.name = some (.function (.library (.task op)))
  settable : ∀ n ∈ fields, w.Settable i n

/-- The argument `handlers` of a task: nothing, or a mapping with these entries. -/
inductive Given (w : World) (d : Nat) : Value → List (Value × Value) → Prop where
  | nothing : Given w d .nothing []
  | mapping {r : Ref} {l : Listing} (listing : w.listing? r = some l) (sound : l.Sound)
    (apart : ∀ q, r = .dict q → q ≠ d ∧ q < w.dicts.size) : Given w d (.ref r) l.entries

structure Makes (w u : World) (d : Nat) (own : List (String × Value)) : Prop where
  kept : Keeps (.own d) w u
  classes : u.classes = w.classes
  own : ∀ n, (u.dictAt d).text? n = own.lookup n

theorem NewObject.lacks (isNew : NewObject k w i d) (n : String) :
    (w.attributesOf i).text? n = none := by
  rw [isNew.holds.attributesOf_eq, isNew.empty]
  rfl

theorem NewObject.isNamed {s : Scope} {name : Value} (isNew : NewObject k w i d)
    (kept : Keeps s w u)
    (own : (u.attributesOf i).text? "name" = if name.isNothing then none else some name)
    (simple : name.IsSimple) (named : name = .nothing → IsNamed w i) : IsNamed u i := by
  cases nothing : name.isNothing with
  | false =>
    rw [nothing] at own
    exact ⟨name, simple, (kept.settable (by decide) (isNew.settable "name" (by decide))).shows own⟩
  | true =>
    have same : name = .nothing := by
      cases name with
      | nothing => rfl
      | _ => simp [Value.isNothing] at nothing
    obtain ⟨x, simple, shows⟩ := named same
    rw [nothing] at own
    rcases shows with ⟨here, -⟩ | ⟨-, entry, datum⟩
    · simp [isNew.lacks] at here
    · refine ⟨x, simple, .inr ⟨own, ?_, kept.isDatum.2 datum⟩⟩
      rw [kept.objectClassOf, kept.definition? (by decide), entry]

theorem NewObject.makes (isNew : NewObject k w i d) : Makes w w d [] :=
  ⟨.refl _ w, rfl, fun n => by rw [isNew.empty]; rfl⟩

namespace Makes

theorem aside (makes : Makes w u d own) (kept : Keeps (.nothing d) u v)
    (classes : v.classes = u.classes) :
    Makes w v d own where
  kept := makes.kept.trans kept.of_nothing
  classes := classes.trans makes.classes
  own n := (kept.attributes n id).trans (makes.own n)

theorem filled (makes : Makes w u d own) (holds : w.Holds i d) (fills : Fills p u v)
    (new : w.dicts.size ≤ p) : Makes w v d own where
  kept := makes.kept.trans_new fills.kept holds.inside new
  classes := fills.classes.trans makes.classes
  own n := by
    have other : d ≠ p := by have := holds.inside; omega
    rw [fills.kept.dictAt (makes.kept.holds holds).inside other]
    exact makes.own n

theorem assign (makes : Makes w u d own) (holds : w.Holds i d) (settable : w.Settable i n)
    (hn : n ≠ "__annotations__") (x : Value) :
    h.assign (.object i) n x u = .ok () (u.putText d n x) ∧
      Makes w (u.putText d n x) d ((n, x) :: own) where
  left := Host.assign_settable (makes.kept.holds holds) (makes.kept.settable hn settable)
  right := {
    kept := makes.kept.trans (.putText (s := .own d) trivial x)
    classes := makes.classes
    own := fun m => by
      rw [World.dictAt_putText (makes.kept.holds holds).inside,
        Dictionary.text?_setText, makes.own m]
      rw [lookup_entry] }

theorem attributesOf (makes : Makes w u d own) (holds : w.Holds i d) (n : String) :
    (u.attributesOf i).text? n = own.lookup n := by
  rw [(makes.kept.holds holds).attributesOf_eq, makes.own n]

theorem shows (makes : Makes w u d own) (holds : w.Holds i d) (settable : w.Settable i n)
    (hn : n ≠ "__annotations__") (found : own.lookup n = some x) : u.Shows i n x :=
  (makes.kept.settable hn settable).shows ((makes.attributesOf holds n).trans found)

theorem means {op : TaskOp} (makes : Makes w u d own) (holds : w.Holds i d)
    (entry : w.definition? (w.objectClassOf i) op.name = some (.function (.library (.task op))))
    (hn : op.name ≠ "__annotations__") (absent : own.lookup op.name = none) :
    u.Means i op.name (.library (.task op)) := by
  refine ⟨(makes.attributesOf holds _).trans absent, ?_⟩
  rw [makes.kept.objectClassOf, makes.kept.definition? hn]
  exact entry

end Makes

/-! The steps -/

def outset (h : Host) (self name : Value) : Act Unit := do
  if !name.isNothing then h.assign self "name" name
  h.assign self runnerField .nothing
  h.assign self overridesField (← newDict {})

def takeAll (h : Host) (self handlers : Value) : Act Unit := do
  if ← h.truth handlers then
    h.foldEntries handlers (fun _ p => takeOverride h self p.1 p.2) ()

def complete (h : Host) (self : Value) : Act Value := do
  h.assign self handlersField .nothing
  h.assign self forwardersField (← newNames)
  h.assign self subscriptionsField (← newList [])
  let _ ← h.send self "init" []
  pure .nothing

theorem create_def (h : Host) (self name handlers : Value) : create h self name handlers = (do
    outset h self name
    takeAll h self handlers
    complete h self) := by
  have taken (m : Act Value) : (do
      takeAll h self handlers
      m) = (do
      if ← h.truth handlers then
        h.foldEntries handlers (fun _ p => takeOverride h self p.1 p.2) ()
      m) := by
    rw [takeAll, bind_assoc]
    congr 1
    funext b
    cases b <;> rfl
  simp only [taken]
  rw [create, outset]
  cases name.isNothing <;> simp only [Bool.not_true, Bool.not_false, Bool.false_eq_true, if_true,
    if_false, bind_assoc] <;> rfl

def outsetOwn (name : Value) (p : Nat) : List (String × Value) :=
  [(overridesField, .ref (.dict p)), (runnerField, .nothing)] ++
    (if name.isNothing then [] else [("name", name)])

theorem ne_of_field (field : n ∈ fields) : n ≠ "__annotations__" := by
  have others : ∀ m ∈ fields, m ≠ "__annotations__" := by decide
  exact others n field

theorem outset_rest (isNew : NewObject k w i d) (makes : Makes w u d own)
    (size : u.dicts.size = w.dicts.size) :
    ∃ v, (do
        h.assign (.object i) runnerField .nothing
        h.assign (.object i) overridesField (← newDict {}) : Act Unit) u = .ok () v ∧
      Makes w v d ((overridesField, .ref (.dict w.dicts.size)) :: (runnerField, .nothing) :: own) ∧
      w.dicts.size < v.dicts.size ∧ v.dictAt w.dicts.size = {} := by
  have holds := isNew.holds
  obtain ⟨run₁, makes₁⟩ := makes.assign (h := h) holds (isNew.settable runnerField (by decide))
    (by decide) .nothing
  let u₁ := u.putText d runnerField .nothing
  let u₂ : World := { u₁ with dicts := u₁.dicts.push {} }
  have size₁ : u₁.dicts.size = w.dicts.size := by simp [u₁, World.putText, size]
  have made : newDict {} u₁ = .ok (.ref (.dict w.dicts.size)) u₂ := by rw [← size₁]; rfl
  have makes₂ : Makes w u₂ d _ := makes₁.aside .pushDict rfl
  obtain ⟨run₃, makes₃⟩ := makes₂.assign (h := h) holds (isNew.settable overridesField (by decide))
    (by decide) (.ref (.dict w.dicts.size))
  have kept : Keeps (.own d) u₂ (u₂.putText d overridesField (.ref (.dict w.dicts.size))) :=
    .putText (s := .own d) trivial _
  have new : w.dicts.size < u₂.dicts.size := by simp [u₂, size₁]
  refine ⟨_, (bind_of_ok run₁).trans ((bind_of_ok made).trans run₃), makes₃,
    Nat.lt_of_lt_of_le new kept.dictsSize, ?_⟩
  rw [kept.dictAt new (Nat.ne_of_gt holds.inside)]
  simp [u₂, World.dictAt, ← size₁]

theorem outset_eq (isNew : NewObject k w i d) (name : Value) :
    ∃ u, outset h (.object i) name w = .ok () u ∧ Makes w u d (outsetOwn name w.dicts.size) ∧
      w.dicts.size < u.dicts.size ∧ u.dictAt w.dicts.size = {} := by
  rw [outset, outsetOwn]
  cases name.isNothing with
  | true =>
    exact outset_rest isNew isNew.makes rfl
  | false =>
    obtain ⟨run, makes⟩ :=
      isNew.makes.assign (h := h) isNew.holds (isNew.settable "name" (by decide))
      (by decide) name
    obtain ⟨u, rest, outcome⟩ := outset_rest (h := h) isNew makes (by simp [World.putText])
    exact ⟨u, (bind_of_ok run).trans rest, outcome⟩

def completeOwn (name : Value) (p g q : Nat) : List (String × Value) :=
  [(subscriptionsField, .ref (.list q)), (forwardersField, .ref (.names g)),
    (handlersField, .nothing)] ++ outsetOwn name p

theorem complete_front (isNew : NewObject k w i d) {name : Value}
    (makes : Makes w u d (outsetOwn name p)) :
    ∃ g q v, complete h (.object i) u = (do
        let _ ← h.send (.object i) "init" []
        pure .nothing : Act Value) v ∧
      Makes w v d (completeOwn name p g q) ∧ Keeps (.own d) u v ∧ v.namesAt g = {} ∧
      v.lists[q]? = some [] := by
  have holds := isNew.holds
  obtain ⟨run₁, makes₁⟩ := makes.assign (h := h) holds (isNew.settable handlersField (by decide))
    (by decide) .nothing
  let u₁ := u.putText d handlersField .nothing
  let u₂ : World := { u₁ with gatherings := u₁.gatherings.push {} }
  have pushed : Keeps (.nothing d) u₁ u₂ := .pushNames
  have makes₂ : Makes w u₂ d _ := makes₁.aside pushed rfl
  obtain ⟨run₃, makes₃⟩ := makes₂.assign (h := h) holds (isNew.settable forwardersField (by decide))
    (by decide) (.ref (.names u₁.gatherings.size))
  let u₃ := u₂.putText d forwardersField (.ref (.names u₁.gatherings.size))
  let u₄ : World := { u₃ with lists := u₃.lists.push [] }
  have makes₄ : Makes w u₄ d _ := makes₃.aside (.pushList []) rfl
  obtain ⟨run₅, makes₅⟩ :=
    makes₄.assign (h := h) holds (isNew.settable subscriptionsField (by decide))
    (by decide) (.ref (.list u₃.lists.size))
  have names : newNames u₁ = .ok (.ref (.names u₁.gatherings.size)) u₂ := rfl
  have list : newList [] u₃ = .ok (.ref (.list u₃.lists.size)) u₄ := rfl
  have put {x : World} (n : String) (y : Value) : Keeps (.own d) x (x.putText d n y) :=
    .putText (s := .own d) trivial y
  have kept₂ : Keeps (.own d) u u₂ := (put _ _).trans pushed.of_nothing
  have kept₄ : Keeps (.own d) u u₄ := (kept₂.trans (put _ _)).trans (.pushList [])
  refine ⟨u₁.gatherings.size, u₃.lists.size, _, ?_, makes₅, kept₄.trans (put _ _), ?_, ?_⟩
  · rw [complete, bind_of_ok run₁]
    exact (bind_of_ok names).trans
      ((bind_of_ok run₃).trans ((bind_of_ok list).trans (bind_of_ok run₅)))
  · show (u₁.gatherings.push {})[u₁.gatherings.size]?.getD {} = {}
    simp
  · exact Array.getElem?_push_size

theorem not_field (named : Naming.isHandlerName n = true) : n ∉ fields := by
  have others : ∀ m ∈ fields, Naming.isHandlerName m = false := by decide
  exact fun field => by simp [others n field] at named

theorem lookup_completeOwn {name : Value} {g q : Nat} (other : n ∉ fields) :
    (completeOwn name p g q).lookup n = none := by
  simp only [fields, List.mem_cons, List.not_mem_nil, or_false, not_or] at other
  obtain ⟨h₁, h₂, h₃, h₄, h₅, h₆⟩ := other
  rw [completeOwn, outsetOwn]
  cases name.isNothing <;> simp [lookup_entry, h₁, h₂, h₃, h₄, h₅, h₆]

theorem lookup_name {name : Value} {g q : Nat} :
    (completeOwn name p g q).lookup "name" = if name.isNothing then none else some name := by
  cases nothing : name.isNothing <;> simp only [completeOwn, outsetOwn, nothing] <;> rfl

theorem Makes.unbound {name : Value} {g q : Nat} (isNew : NewObject k w i d)
    (makes : Makes w v d (completeOwn name p g q)) (new : w.dicts.size ≤ p)
    (inside : p < v.dicts.size)
    (texts : (v.dictAt p).Textual)
    (given : ∀ n, ((v.dictAt p).text? n).isSome → Naming.isHandlerName n = true ∧ w.Settable i n)
    (simple : name.IsSimple) (named : name = .nothing → IsNamed w i) : Unbound k v i d p where
  usual := makes.kept.readsUsually isNew.usual
  holds := makes.kept.holds isNew.holds
  bindable := isNew.bindable.later makes.kept makes.classes
  operation := makes.means isNew.holds (isNew.operations _ (by decide)) (by decide)
    (lookup_completeOwn (by decide))
  unset n handler :=
    (makes.attributesOf isNew.holds n).trans (lookup_completeOwn (not_field handler))
  overrides := makes.shows isNew.holds (isNew.settable _ (by decide)) (by decide) rfl
  inside := inside
  apart := by have := isNew.holds.inside; omega
  texts := texts
  given n found := by
    obtain ⟨handler, settable⟩ := given n found
    exact ⟨handler, makes.kept.settable (Naming.isHandlerName_ne handler (by decide)) settable⟩
  settable := makes.kept.settable (by decide) (isNew.settable _ (by decide))
  named := isNew.isNamed makes.kept ((makes.attributesOf isNew.holds "name").trans lookup_name)
    simple
    named

theorem Receives.of_keeps {x y : Option Value} (bindable : Bindable k w i d)
    (kept : Keeps (.own d) w u)
    (classes : u.classes = w.classes) (receives : Receives k u i d n x y) :
    Receives k w i d n x y := by
  have same := bindable.explorable.offered_eq kept classes
  cases receives with
  | given => exact .given
  | nothing lacks =>
    rw [kept.objectClassOf, same] at lacks
    exact .nothing lacks
  | bound offers entry binds =>
    have hn := Naming.isHandlerName_ne (m := "__annotations__") (isHandlerName_of_offered offers)
      (by decide)
    rw [kept.objectClassOf, same] at offers
    rw [kept.objectClassOf, kept.definition? hn] at entry
    exact .bound offers entry (kept.binds binds)

/-- What `ConformanceTask.__init__` makes of an object. Under the name of a handler it has what was
given for it last, or what its class has there, bound to the task. No other attribute depends on
what was given. -/
structure Made (k : Nat) (w w' : World) (i d : Nat) (name : Value)
    (given : List (String × Value)) : Prop where
  kept : Keeps (.own d) w w'
  receives : ∀ n, Naming.isHandlerName n = true →
    Receives k w i d n (lastFor given n) ((w'.attributesOf i).text? n)
  shows : ∀ n x, Naming.isHandlerName n = true → (w'.attributesOf i).text? n = some x →
    w'.Shows i n x
  others : ∀ n, Naming.isHandlerName n = false → n ∉ fields → (w'.attributesOf i).text? n = none
  reads : ∀ (h : Host) n e, n ≠ "__annotations__" → (w'.attributesOf i).text? n = none →
    w.definition? (w.objectClassOf i) n = some e →
    h.attr (.object i) n w' = h.fetch e (some (.object i)) (w.objectClassOf i) w'
  name : (w'.attributesOf i).text? "name" = if name.isNothing then none else some name
  runner : (w'.attributesOf i).text? runnerField = some .nothing
  booked : ∃ q, (w'.attributesOf i).text? subscriptionsField = some (.ref (.list q)) ∧
    w'.lists[q]? = some []
  overrides : ∃ p, w'.Shows i overridesField (.ref (.dict p)) ∧
    ∀ n, (w'.dictAt p).text? n = lastFor given n
  table : ∃ q, w'.Shows i handlersField (.ref (.dict q)) ∧ q ≠ d ∧ q < w'.dicts.size ∧
    (w'.dictAt q).Textual ∧ ∀ n, (w'.dictAt q).text? n =
      if Naming.isHandlerName n then (w'.attributesOf i).text? n else none
  forwarders : ∃ g, w'.Shows i forwardersField (.ref (.names g)) ∧ (w'.namesAt g).Texts

theorem Made.idle {name : Value} {given : List (String × Value)} (made : Made k w w' i d name given)
    (isNew : NewObject k w i d) : Idle w' i where
  runner := (made.kept.settable (by decide) (isNew.settable _ (by decide))).shows made.runner
  kept := made.booked.imp fun _ booked =>
    ⟨(made.kept.settable (by decide) (isNew.settable _ (by decide))).shows booked.1, booked.2⟩

/-- What a class defines and an object does not have of its own is read from the class. -/
theorem attr_of_class (usual : w.ReadsUsually i) {e : Value}
    (own : (w.attributesOf i).text? n = none)
    (entry : w.definition? (w.objectClassOf i) n = some e) :
    h.attr (.object i) n w = h.fetch e (some (.object i)) (w.objectClassOf i) w := by
  rw [Host.attr_eq_usual usual, Host.usualAttribute, bind_of_ok (get_run w)]
  simp only [Value.object, Value.objectPlace?, World.classOf, World.classOfRef, own, entry]

/-- A task that has bound its handlers is what a new task is. -/
theorem Makes.made {w' : World} {name : Value} {g q b : Nat} {given : List (String × Value)}
    (makes : Makes w u d (completeOwn name p g q)) (isNew : NewObject k w i d)
    (unbound : Unbound k u i d p) (bound : HasBound k u w' i d p b)
    (table : ∀ n, (u.dictAt p).text? n = lastFor given n) (texts : u.namesAt g = {})
    (list : u.lists[q]? = some []) : Made k w w' i d name given := by
  have kept : Keeps (.own d) w w' :=
    makes.kept.trans (bound.kept.mono rfl (fun _ _ => trivial) (fun _ => id))
  have own {n : String} (other : Naming.isHandlerName n = false) (field : n ≠ handlersField) :
      (w'.attributesOf i).text? n = (completeOwn name p g q).lookup n :=
    (bound.own_other unbound other field).trans (makes.own n)
  have shows {n : String} {x : Value} (field : n ∈ fields) (other : Naming.isHandlerName n = false)
      (apart : n ≠ handlersField) (here : (completeOwn name p g q).lookup n = some x) :
      w'.Shows i n x :=
    (kept.settable (ne_of_field field) (isNew.settable n field)).shows
      ((own other apart).trans here)
  constructor
  case kept => exact kept
  case receives =>
    intro n handler
    rw [bound.own_handler unbound handler, ← table n]
    exact (bound.receives n).of_keeps isNew.bindable makes.kept makes.classes
  case shows => exact fun n x handler found => bound.shows_handler unbound handler found
  case others =>
    intro n other free
    rw [own other fun same => free (same ▸ by decide), lookup_completeOwn free]
  case reads =>
    intro h n e hn none entry
    have same := kept.objectClassOf i
    rw [← same] at entry ⊢
    rw [← kept.definition? hn] at entry
    exact attr_of_class (kept.readsUsually isNew.usual) none entry
  case name => rw [own (by decide) (by decide), lookup_name]
  case runner => exact own (by decide) (by decide)
  case booked => exact ⟨q, own (by decide) (by decide), bound.kept.lists _ _ id list⟩
  case overrides =>
    refine ⟨p, shows (by decide) (by decide) (by decide) rfl, fun n => ?_⟩
    rw [bound.kept.dictAt unbound.inside unbound.apart, table n]
  case table =>
    have apart : b ≠ d := Nat.ne_of_gt (Nat.lt_of_lt_of_le unbound.holds.inside bound.new)
    exact ⟨b, bound.shows, apart, bound.inside, bound.texts, bound.table_eq unbound⟩
  case forwarders =>
    refine ⟨g, shows (by decide) (by decide) (by decide) rfl, bound.kept.texts g ?_⟩
    rw [texts]
    exact fun m found => absurd found List.not_mem_nil

theorem Makes.bound {name : Value} {g q : Nat} {given : List (String × Value)}
    (isNew : NewObject k w i d)
    (makes : Makes w u d (completeOwn name p g q)) (unbound : Unbound k u i d p)
    (table : ∀ n, (u.dictAt p).text? n = lastFor given n) (texts : u.namesAt g = {})
    (list : u.lists[q]? = some []) :
    match obstacle? (Host.ofDepth k) w (w.objectClassOf i) with
    | some f => ∃ w', bindHandlers (Host.ofDepth (k + 1)) (.object i) u = .error f w'
    | none => ∃ w', bindHandlers (Host.ofDepth (k + 1)) (.object i) u = .ok .nothing w' ∧
        Made k w w' i d name given := by
  have outcome := bindHandlers_eq unbound
  rw [makes.kept.objectClassOf,
    isNew.bindable.explorable.obstacle?_eq makes.kept makes.classes] at outcome
  cases obstacle : obstacle? (Host.ofDepth k) w (w.objectClassOf i) with
  | some f =>
    rw [obstacle] at outcome
    exact outcome
  | none =>
    rw [obstacle] at outcome
    obtain ⟨w', b, run, bound⟩ := outcome
    exact ⟨w', run, makes.made isNew unbound bound table texts list⟩

theorem send_init {x : World} (usual : x.ReadsUsually i) (holds : x.Holds i d)
    (shows : x.Shows i handlersField .nothing)
    (begins : x.Means i TaskOp.init.name (.library (.task .init)))
    (binds : x.Means i TaskOp.bindHandlers.name (.library (.task .bindHandlers))) (k : Nat) :
    (Host.ofDepth (k + 2)).send (.object i) "init" [] x =
      (bindHandlers (Host.ofDepth k) (.object i) >>= fun _ => pure .nothing) x.later.later := by
  have later : Keeps (.nothing d) x x.later := .later
  have asked : (Host.ofDepth (k + 2)).send (.object i) "init" [] x =
      init (Host.ofDepth (k + 1)) (.object i) x.later := Host.send_means usual begins (k + 1) []
  have read := Host.attr_shows (h := Host.ofDepth (k + 1)) (later.readsUsually usual)
    (later.shows holds (.inr id) (by decide) shows)
  have sent : (Host.ofDepth (k + 1)).send (.object i) "_bind_handlers" [] x.later =
      bindHandlers (Host.ofDepth k) (.object i) x.later.later :=
    Host.send_means (later.readsUsually usual) (later.means holds (.inr id) (by decide) binds) k []
  rw [asked, init, bind_of_ok read]
  show ((Host.ofDepth (k + 1)).send (.object i) "_bind_handlers" [] >>=
    fun _ => pure Value.nothing) x.later = _
  rw [bind_run, sent, bind_run]

theorem complete_eq {name : Value} {given : List (String × Value)} (isNew : NewObject k w i d)
    (makes : Makes w u d (outsetOwn name p)) (new : w.dicts.size ≤ p) (inside : p < u.dicts.size)
    (texts : (u.dictAt p).Textual) (table : ∀ n, (u.dictAt p).text? n = lastFor given n)
    (settable : ∀ e ∈ given, Naming.isHandlerName e.1 = true ∧ w.Settable i e.1)
    (simple : name.IsSimple) (named : name = .nothing → IsNamed w i) :
    match obstacle? (Host.ofDepth k) w (w.objectClassOf i) with
    | some f => ∃ w', complete (Host.ofDepth (k + 3)) (.object i) u = .error f w'
    | none => ∃ w', complete (Host.ofDepth (k + 3)) (.object i) u = .ok .nothing w' ∧
        Made k w w' i d name given := by
  have holds := isNew.holds
  obtain ⟨g, q, v, front, makes', kept', empty, list⟩ :=
    complete_front (h := Host.ofDepth (k + 3)) isNew makes
  have later : Keeps (.nothing d) v v.later.later := Keeps.trans .later .later
  have makes'' : Makes w v.later.later d (completeOwn name p g q) := makes'.aside later rfl
  have other : p ≠ d := by have := holds.inside; omega
  have same : v.dictAt p = u.dictAt p := kept'.dictAt inside other
  have unbound : Unbound k v.later.later i d p := makes''.unbound isNew new
    (Nat.lt_of_lt_of_le inside kept'.dictsSize) (by rw [← same] at texts; exact texts)
    (fun n found => by
      have here : (lastFor given n).isSome := by rw [← table n, ← same]; exact found
      obtain ⟨x, last⟩ := Option.isSome_iff_exists.1 here
      exact settable (n, x) (mem_of_lastFor last)) simple named
  have bound := makes''.bound isNew unbound (fun n => (congrArg (·.text? n) same).trans (table n))
    empty list
  have begins := makes'.means holds (isNew.operations .init (by decide)) (by decide)
    (lookup_completeOwn (by decide))
  have binds := makes'.means holds (isNew.operations .bindHandlers (by decide)) (by decide)
    (lookup_completeOwn (by decide))
  have sent := send_init (makes'.kept.readsUsually isNew.usual) (makes'.kept.holds holds)
    (makes'.shows holds (isNew.settable handlersField (by decide)) (by decide) rfl)
      begins binds (k + 1)
  have told : complete (Host.ofDepth (k + 3)) (.object i) u =
      (bindHandlers (Host.ofDepth (k + 1)) (.object i) >>= fun _ => pure .nothing)
          v.later.later := by
    rw [front, bind_run, sent, bind_run]
    cases bindHandlers (Host.ofDepth (k + 1)) (.object i) v.later.later <;> rfl
  rw [told]
  cases obstacle : obstacle? (Host.ofDepth k) w (w.objectClassOf i) with
  | some f =>
    rw [obstacle] at bound
    obtain ⟨w', failed⟩ := bound
    exact ⟨w', bind_of_error failed⟩
  | none =>
    rw [obstacle] at bound
    obtain ⟨w', run, made⟩ := bound
    exact ⟨w', bind_of_ok run, made⟩

/-- A table that was just made, of what is given for the handlers of a new task. -/
theorem Makes.tables {name : Value} (isNew : NewObject k w i d)
    (makes : Makes w u d (outsetOwn name w.dicts.size)) (inside : w.dicts.size < u.dicts.size)
    (fresh : u.dictAt w.dicts.size = {}) : Tables w u i d w.dicts.size where
  kept := makes.kept
  classes := makes.classes
  holds := isNew.holds
  usual := isNew.usual
  shows := makes.shows isNew.holds (isNew.settable overridesField (by decide)) (by decide) rfl
  new := Nat.le_refl _
  inside := inside
  texts := fresh ▸ Dictionary.textual_empty

/-- The loop of `__init__` over `handlers`. -/
theorem takeAll_eq {name handlers : Value} {entries : List (Value × Value)}
    {shown key : Value → String}
    (isNew : NewObject k w i d) (given : Given w d handlers entries)
    (makes : Makes w u d (outsetOwn name w.dicts.size)) (inside : w.dicts.size < u.dicts.size)
    (fresh : u.dictAt w.dicts.size = {}) (k : Nat)
    (legible : ∀ e ∈ entries, Legible (Host.ofDepth (k + 1)) d w e.1 (shown e.1) (key e.1)) :
    ∃ v, Fills w.dicts.size u v ∧
      match entries.findSome? (spoils? w shown key) with
      | some f => takeAll (Host.ofDepth (k + 1)) (.object i) handlers u = .error f v
      | none => takeAll (Host.ofDepth (k + 1)) (.object i) handlers u = .ok () v ∧
          ∀ n, (v.dictAt w.dicts.size).text? n = lastFor (entries.map (namedFor key)) n := by
  have tables := makes.tables isNew inside fresh
  cases given with
  | nothing => exact ⟨u, .refl _ u, rfl, fun n => by rw [fresh]; rfl⟩
  | @mapping r l listing sound apart =>
    have there := (makes.kept.listing?_of_classes makes.classes apart).trans listing
    have asked := Host.truth_listing (h := Host.ofDepth (k + 1)) there
    cases none : l.entries.isEmpty with
    | true =>
      rw [none] at asked
      rw [List.isEmpty_iff.1 none]
      exact ⟨u, .refl _ u, bind_of_ok asked, fun n => by rw [fresh]; rfl⟩
    | false =>
      rw [none] at asked
      obtain ⟨v, fills, outcome⟩ := foldEntries_takeOverride tables
        (makes.kept.standard isNew.standard) sound listing apart legible
      refine ⟨v, fills, ?_⟩
      have nothing (n : String) : (Dictionary.text? {} n) = Option.none := rfl
      simp only [fresh, nothing, Option.or_none] at outcome
      rw [takeAll, bind_of_ok asked]
      cases spoilt : l.entries.findSome? (spoils? w shown key) with
      | some f | none =>
        rw [spoilt] at outcome
        exact outcome

/-- How `ConformanceTask.__init__` ends: with the fault of the first bad entry of `handlers`, or
else with that of `inspect.getmembers` on the class, or else with a task that has its handlers. -/
theorem create_eq {name handlers : Value} {entries : List (Value × Value)}
    {shown key : Value → String} (isNew : NewObject k w i d) (given : Given w d handlers entries)
    (simple : name.IsSimple) (named : name = .nothing → IsNamed w i)
    (legible : ∀ e ∈ entries, Legible (Host.ofDepth (k + 3)) d w e.1 (shown e.1) (key e.1))
    (settable : ∀ e ∈ entries, w.Settable i (namedFor key e).1) :
    ∃ w', match (entries.findSome? (spoils? w shown key)).or
        (obstacle? (Host.ofDepth k) w (w.objectClassOf i)) with
      | some f => create (Host.ofDepth (k + 3)) (.object i) name handlers w = .error f w'
      | none => create (Host.ofDepth (k + 3)) (.object i) name handlers w = .ok .nothing w' ∧
        Made k w w' i d name (entries.map (namedFor key)) := by
  obtain ⟨u, outset, makes, inside, fresh⟩ := outset_eq (h := Host.ofDepth (k + 3)) isNew name
  obtain ⟨v, fills, outcome⟩ := takeAll_eq isNew given makes inside fresh (k + 2) legible
  rw [create_def, bind_of_ok outset]
  cases spoilt : entries.findSome? (spoils? w shown key) with
  | some f =>
    rw [spoilt] at outcome
    exact ⟨v, bind_of_error outcome⟩
  | none =>
    rw [spoilt] at outcome
    obtain ⟨taken, table⟩ := outcome
    have tables := (makes.tables isNew inside fresh).filled fills
    have completed := complete_eq isNew (makes.filled isNew.holds fills (Nat.le_refl _))
      (Nat.le_refl _) tables.inside tables.texts table (fun q hq => by
        obtain ⟨e, he, rfl⟩ := List.mem_map.1 hq
        exact ⟨isHandlerName_namedFor key e, settable e he⟩) simple named
    rw [Option.none_or, bind_of_ok taken]
    cases obstacle : obstacle? (Host.ofDepth k) w (w.objectClassOf i) with
    | some f | none =>
      rw [obstacle] at completed
      exact completed

theorem made_of_create {name handlers v : Value} {entries : List (Value × Value)}
    {shown key : Value → String} {w' : World} (isNew : NewObject k w i d)
    (given : Given w d handlers entries) (simple : name.IsSimple)
    (named : name = .nothing → IsNamed w i)
    (legible : ∀ e ∈ entries, Legible (Host.ofDepth (k + 3)) d w e.1 (shown e.1) (key e.1))
    (settable : ∀ e ∈ entries, w.Settable i (namedFor key e).1)
    (run : create (Host.ofDepth (k + 3)) (.object i) name handlers w = .ok v w') :
    Made k w w' i d name (entries.map (namedFor key)) := by
  obtain ⟨u, outcome⟩ := create_eq isNew given simple named legible settable
  split at outcome
  · cases run.symm.trans outcome
  · obtain ⟨done, made⟩ := outcome
    obtain ⟨-, rfl⟩ := EStateM.Result.ok.inj (run.symm.trans done)
    exact made

end Task

end EventTasks
