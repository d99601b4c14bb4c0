import EventTasks.Proofs.Sparing
import EventTasks.Proofs.Answering

/-!
Installing tasks on objects of any kind. All that is asked of such a host is that it minds its own
business: when it is asked to subscribe a handler or to take it back, it may do whatever it likes,
and fail, but it leaves tasks and classes alone; and reading its methods does nothing. Then an
install gives a task its books and forwarders and nothing else, and taking it back forgets the
books.
-/
namespace EventTasks

open Act EventTasks.Task

structure Cast.Lets (cast : Cast) (fine : Nat → Nat → World → Prop) (q : Nat)
    (w u : World) : Prop where
  spares : cast.Spares (fun _ _ => False) w u
  classes : w.KeepsClasses u
  list : ∀ items, w.lists[q]? = some items → u.lists[q]? = some items
  callable : ∀ f : Ref, w.isCallable (.ref f) = true → u.isCallable (.ref f) = true
  fine : ∀ r, fine r q w → fine r q u

/-- The objects that the tasks of a cast may be installed on. `fine r q w` says that the object at
`r` is in order in the world `w` and does not use the list at `q`. -/
structure Hosting (cast : Cast) where
  fine : Nat → Nat → World → Prop
  /-- In order, a host that is asked to subscribe or to take back leaves alone what is not its
  own. -/
  asked : ∀ {r q w n event f depth}, fine r q w → event.Plain w →
    (n = "on" ∧ w.isCallable (.ref f) = true ∨ n = "off") →
      cast.Lets fine q w (((Host.ofDepth depth).send (.object r) n [event, .ref f]).after w)
  /-- Reading the attributes of a host that anybody may use does nothing. -/
  read : ∀ {r q w n depth}, fine r q w → IsPublic n →
    Untouched w (((Host.ofDepth depth).attr (.object r) n).after w)
  /-- What changes attributes of a task only leaves hosts in order. -/
  aside : ∀ {r q w u} {m : Actor}, fine r q w → m ∈ cast.actors → Keeps (.own m.place) w u →
    fine r q u

variable {cast : Cast} {u v w w' : World} {m : Actor} {r k lo place : Nat} {items : List Value}
  {pairs : List (Value × Ref)}

namespace Cast.Lets

variable {fine : Nat → Nat → World → Prop} {q : Nat}

theorem refl : cast.Lets fine q w w :=
  ⟨.refl _ _ _, .refl _, fun _ => id, fun _ => id, fun _ => id⟩

theorem trans (h : cast.Lets fine q u v) (h' : cast.Lets fine q v w) : cast.Lets fine q u w where
  spares := h.spares.trans h'.spares
  classes := h.classes.trans h'.classes
  list items there := h'.list items (h.list items there)
  callable f can := h'.callable f (h.callable f can)
  fine r now := h'.fine r (h.fine r now)

end Cast.Lets

namespace Hosting

variable (H : Hosting cast)

def Fine (r : Nat) (w : World) : Prop := ∀ q, w.lists.size ≤ q → H.fine r q w

variable {H}

/-- Handing pairs over to a host, whatever comes of it, leaves alone what is not the host's. -/
theorem handOver_goes (actor : m ∈ cast.actors) (internals : m.HasDefaultInternals w)
    (runner : m.own? w runnerField = some (.object r)) (list : w.lists[place]? = some items)
    (arePairs : ArePairs items pairs) (events : ∀ p ∈ pairs, ∃ e ∈ m.listing.entries, p.1 = e.2)
    (held : lo ≤ place ∨ m.own? w subscriptionsField = some (.ref (.list place)))
    (fine : ∀ q, lo ≤ q → H.fine r q w) {n : String}
    (asks : n = "on" ∧ (∀ p ∈ pairs, w.isCallable (.ref p.2) = true) ∨ n = "off") :
    Goes False (fun u => ∀ q, lo ≤ q → cast.Lets H.fine q w u)
      (handOver (Host.ofDepth k) (.object m.object) n (.ref (.list place))) w fun _ _ => True := by
  let S (u : World) : Prop := ∀ q, lo ≤ q → cast.Lets H.fine q w u
  have spared {u : World} (now : S u) : m.Spared (fun _ => False) w u :=
    (now lo (Nat.le_refl _)).spares.actors m actor internals
  have shown (u : World) (now : S u) : u.lists[place]? = some items := by
    rcases held with new | booked
    · exact (now place new).list items list
    · exact (spared now).recorded id place items booked list
  have one (v : Value) (hv : v ∈ items) (b : Unit) (u : World) (now : S u) :
      Goes False S (handOne (Host.ofDepth k) (.object m.object) n b v) u fun _ _ => True := by
    obtain ⟨⟨event, f⟩, hp, stamp, rfl⟩ := arePairs.exists_pair hv
    obtain ⟨e, found, same⟩ := events _ hp
    obtain rfl : event = e.2 := same
    have internals' := (spared now).internals
    have run : handOne (Host.ofDepth k) (.object m.object) n () (.tuple stamp [e.2, .ref f]) u =
        ((fun _ => ()) <$> (Host.ofDepth k).send (.object r) n [e.2, .ref f]) u :=
      handOne_eq internals'.usual
        (internals'.shows (by simp) (((spared now).own _ id).trans runner)) _ n stamp
    refine ⟨fun q hq => (now q hq).trans ?_, False.elim, fun _ _ _ => trivial⟩
    rw [after, run, ← after, after_map]
    exact H.asked ((now q hq).fine r (fine q hq)) (internals'.plain e found)
      (asks.imp_left fun on => ⟨on.1, (now q hq).callable f (on.2 _ hp)⟩)
  exact goes_of_eq (Host.foldItems_list (P := fun _ u => S u) (fun _ u => shown u)
      (fun v hv b u _ u' now run => ((one v hv b u now).of_ok run).1) () fun _ _ => .refl)
    (goes_foldlM (fun v hv b u now _ => one v hv b u now) (fun _ _ => .refl) trivial)

end Hosting

/-! How a task stands -/

namespace Actor

def books (m m' : Actor) (n : String) : Prop := m' = m ∧ n ∈ [runnerField, subscriptionsField]

def gains (m : Actor) (w : World) (m' : Actor) (n : String) : Prop :=
  m' = m ∧ (n ∈ [runnerField, subscriptionsField] ∨ m.Lacks w n)

/-- A task is in order and has its own `_log_prefix`. It is installed on the object of `host`, or
not at all. -/
structure Stands (m : Actor) (host : Option Nat) (w : World) : Prop where
  internals : m.HasDefaultInternals w
  prefixes : Prefixes w m.object
  runner : m.own? w runnerField = some (host.elim .nothing .object)
  booked : ∃ place items pairs, m.own? w subscriptionsField = some (.ref (.list place)) ∧
    w.lists[place]? = some items ∧ ArePairs items pairs ∧
    ∀ p ∈ pairs, ∃ e ∈ m.listing.entries, p.1 = e.2

theorem Spared.prefixes {may : String → Prop} (spared : m.Spared may w w')
    (prefixes : Prefixes w m.object) (free : ¬ may "_log_prefix") : Prefixes w' m.object :=
  ⟨(spared.own _ free).trans prefixes.1, (spared.defined _ (by decide)).trans prefixes.2⟩

theorem Stands.of_spared {host : Option Nat} {may : String → Prop} (stands : m.Stands host w)
    (spared : m.Spared may w w') (prefixes : ¬ may "_log_prefix")
    (books : ∀ n ∈ [runnerField, subscriptionsField], ¬ may n) : m.Stands host w' where
  internals := spared.internals
  prefixes := spared.prefixes stands.prefixes prefixes
  runner := (spared.own _ (books _ (by simp))).trans stands.runner
  booked := by
    obtain ⟨place, items, pairs, booked, list, rest⟩ := stands.booked
    have free := books subscriptionsField (by simp)
    exact ⟨place, items, pairs, (spared.own _ free).trans booked,
      spared.recorded free place items booked list, rest⟩

end Actor

/-! Setting one of the books -/

theorem Actor.HasDefaultInternals.assign_book {h : Host} {n : String}
    (internals : m.HasDefaultInternals w)
    (hn : n ∈ [runnerField, subscriptionsField]) (x : Value) :
    h.assign (.object m.object) n x w = .ok () (w.putText m.place n x) :=
  Host.assign_settable internals.holds (internals.settable n hn)

theorem Actor.HasDefaultInternals.own?_putText (internals : m.HasDefaultInternals w) (n : String)
    (x : Value) (n' : String) :
    m.own? (w.putText m.place n x) n' = if n' = n then some x else m.own? w n' := by
  have holds := internals.holds
  rw [Actor.own?, (holds.putText m.place n x).attributesOf_eq, World.dictAt_putText holds.inside,
    Dictionary.text?_setText, Actor.own?, holds.attributesOf_eq]

def Scope.notes (d : Nat) : Scope :=
  ⟨d, fun n => n ∈ [runnerField, subscriptionsField], fun _ => False⟩

theorem Keeps.book {n : String} {d : Nat} (hn : n ∈ [runnerField, subscriptionsField]) (x : Value) :
    Keeps (.notes d) w (w.putText d n x) :=
  .putText hn x

theorem Cast.Spares.of_books (actor : m ∈ cast.actors) (kept : Keeps (.notes m.place) w w') :
    cast.Spares m.books w w' :=
  .of_keeps kept actor rfl fun internals => .of_keeps internals kept internals.apart
    (fun _ free => .inr fun book => free ⟨rfl, book⟩)
    fun _ hn book => (List.mem_cons.1 book.2).elim (ne_of_essential hn).2.1 fun last =>
      (ne_of_essential hn).2.2 (List.mem_singleton.1 last)

namespace Hosting

variable {H : Hosting cast}

theorem fine_of_keeps {s : Scope} {q : Nat} (fine : H.fine r q w) (actor : m ∈ cast.actors)
    (kept : Keeps s w w') (place : s.place = m.place) (tables : ∀ p, ¬ s.tables p) :
    H.fine r q w' :=
  H.aside fine actor (kept.mono place.symm (fun _ _ => trivial) fun p hp => tables p hp)

structure Installed (H : Hosting cast) (m : Actor) (r : Nat) (w w' : World) : Prop where
  spares : cast.Spares (m.gains w) w w'
  classes : w.KeepsClasses w'
  fine : ∀ r q, w.lists.size ≤ q → H.fine r q w → H.fine r q w'
  stands : m.Stands (some r) w'
  /-- What the task has gained, its books apart, are forwarders of its own. -/
  forwards : ∀ n x, m.Lacks w n → n ∉ [runnerField, subscriptionsField] → m.own? w' n = some x →
    w'.Forwards m.object n x

/-- Where only the books were changed and then new attributes were gained, a task was installed. -/
theorem Installed.of_gains (actor : m ∈ cast.actors) (internals : m.HasDefaultInternals w)
    (spares : cast.Spares m.books w u) (classes : w.KeepsClasses u)
    (fine : ∀ r q, w.lists.size ≤ q → H.fine r q w → H.fine r q u) (stands : m.Stands (some r) u)
    (gains : Gains u m.object m.place v) : H.Installed m r w v := by
  have spared := spares.actors m actor internals
  have lacks {n : String} (free : n ∉ [runnerField, subscriptionsField]) :
      m.Lacks u n ↔ m.Lacks w n :=
    spared.lacks fun book => free book.2
  have kept := gains.toKeeps
  have given : m.Spared (m.gains w m) u v :=
    .of_internals stands.internals (DefaultInternals.gaining stands.internals gains) kept
        fun n free => .inr fun fresh => by
      by_cases book : n ∈ [runnerField, subscriptionsField]
      · exact free ⟨rfl, .inl book⟩
      · exact free ⟨rfl, .inr ((lacks book).1 fresh)⟩
  have none {n : String} {x : Value} (own : m.own? u n = some x) : ¬ m.Lacks u n := fun fresh => by
    have absent : m.own? u n = none := fresh.2.1
    simp [own] at absent
  exact {
    spares := (spares.mono fun _ _ _ book => ⟨book.1, .inl book.2⟩).trans
      (.of_keeps kept actor rfl fun _ => given)
    classes := classes.trans (.of_keeps kept gains.recalls)
    fine := fun r q hq now => fine_of_keeps (fine r q hq now) actor kept rfl fun _ => id
    stands := stands.of_spared
      (show m.Spared (m.Lacks u) u v from
        .of_internals stands.internals (DefaultInternals.gaining stands.internals gains) kept
          fun n free => .inr free)
      (fun fresh => by
        have absent := stands.prefixes.2
        rw [fresh.2.2] at absent
        simp at absent)
      (fun n hn => by
        rcases List.mem_cons.1 hn with rfl | hn
        · exact none stands.runner
        · obtain ⟨_, _, _, booked, -⟩ := stands.booked
          exact List.mem_singleton.1 hn ▸ none booked)
    forwards := fun n x fresh free found => by
      have held := given.internals.holds.attributesOf_eq
      rw [Actor.own?, held] at found
      exact gains.forwards n x ((lacks free).2 fresh) found }

structure Noted (H : Hosting cast) (m : Actor) (r lo : Nat) (w u : World) : Prop where
  spares : cast.Spares m.books w u
  classes : w.KeepsClasses u
  stands : m.Stands (some r) u
  fine : ∀ r q, lo ≤ q → H.fine r q w → H.fine r q u

/-- Keeping the runner, handing it the pairs and keeping them changes nothing else, however it
ends. -/
theorem subscribe_goes {host : Option Nat} (actor : m ∈ cast.actors) (stands : m.Stands host w)
    (list : w.lists[place]? = some items) (new : lo ≤ place) (arePairs : ArePairs items pairs)
    (events : ∀ p ∈ pairs, ∃ e ∈ m.listing.entries, p.1 = e.2)
    (callable : ∀ p ∈ pairs, w.isCallable (.ref p.2) = true) (fine : ∀ q, lo ≤ q → H.fine r q w)
    (k : Nat) :
    Goes False (H.Noted m r lo w)
      (subscribe (Host.ofDepth k) (.object m.object) (.object r) (.ref (.list place))) w
      fun _ _ => True := by
  have internals := stands.internals
  let w₁ : World := w.putText m.place runnerField (.object r)
  have kept₁ : Keeps (.notes m.place) w w₁ := .book (by simp) _
  have spares₁ : cast.Spares m.books w w₁ := .of_books actor kept₁
  have spared₁ := spares₁.actors m actor internals
  have internals₁ := spared₁.internals
  have fine₁ (r q : Nat) (hq : H.fine r q w) : H.fine r q w₁ :=
    H.aside hq actor (Keeps.putText (s := .own m.place) trivial _)
  have runner₁ : m.own? w₁ runnerField = some (.object r) := by
    rw [internals.own?_putText, if_pos rfl]
  have stands₁ : m.Stands (some r) w₁ := by
    obtain ⟨old, items', pairs', booked, list', rest⟩ := stands.booked
    refine ⟨internals₁, spared₁.prefixes stands.prefixes fun book => absurd book.2 (by decide),
      runner₁,
      old, items', pairs', ?_, kept₁.lists _ _ id list', rest⟩
    rw [internals.own?_putText, if_neg (by decide)]
    exact booked
  have handing := handOver_goes (k := k) actor internals₁ runner₁ (kept₁.lists _ _ id list)
    arePairs events
    (.inl new) (fun q hq => fine₁ r q (fine q hq))
    (.inl ⟨rfl, fun p hp => (kept₁.isCallable _).trans (callable p hp)⟩)
  have noted {u : World} (lets : ∀ q, lo ≤ q → cast.Lets H.fine q w₁ u) : H.Noted m r lo w u := by
    have lets' := lets lo (Nat.le_refl _)
    exact {
      spares := spares₁.trans (lets'.spares.mono fun _ _ _ => False.elim)
      classes := (World.KeepsClasses.of_keeps kept₁ (.of_eq rfl)).trans lets'.classes
      stands := stands₁.of_spared (lets'.spares.actors m actor internals₁) id fun _ _ => id
      fine := fun r' q hq now => (lets q hq).fine r' (fine₁ r' q now) }
  rw [subscribe]
  refine goes_bind_of_ok (internals.assign_book (by simp) _)
    (goes_bind (handing.mono id (fun _ => noted)
    fun _ _ lets _ => lets) fun _ w₂ now lets => ?_)
  have internals₂ := now.stands.internals
  have kept₃ : Keeps (.notes m.place) w₂
      (w₂.putText m.place subscriptionsField (.ref (.list place))) := .book (by simp) _
  have spares₃ : cast.Spares m.books w₂
      (w₂.putText m.place subscriptionsField (.ref (.list place))) := .of_books actor kept₃
  have spared₃ := spares₃.actors m actor internals₂
  refine goes_of_ok (internals₂.assign_book (by simp) _) ?_ trivial
  exact {
    spares := now.spares.trans spares₃
    classes := now.classes.trans (.of_keeps kept₃ (.of_eq rfl))
    stands := ⟨spared₃.internals, spared₃.prefixes now.stands.prefixes fun book =>
      absurd book.2 (by decide),
      by rw [internals₂.own?_putText, if_neg (by decide)]; exact now.stands.runner,
      place, items, pairs, by rw [internals₂.own?_putText, if_pos rfl],
      (lets place new).list items (kept₁.lists _ _ id list), arePairs, events⟩
    fine := fun r' q hq before => H.aside (now.fine r' q hq before) actor
      (Keeps.putText (s := .own m.place) trivial _) }

/-- Once the checks are passed, an install on a host in order has installed the task, however it
ends. -/
theorem install_goes {host : Option Nat} {options name : Value} {text : String} {stamp : Nat}
    {attach : Option Bool} (actor : m ∈ cast.actors) (stands : m.Stands host w) (fine : H.Fine r w)
    (readOnly : ChecksReadOnly (k + 1) w m.object m.place m.registry m.listing options name text)
    (decodes : Decodes (k + 1) w options stamp (.object r) attach u)
    (passes : ∀ f, ¬ Rejects (k + 1) w m.object options name text m.listing f) :
    Goes False (H.Installed m r w) (install (Host.ofDepth (k + 2)) (.object m.object) options) w
      fun _ _ => True := by
  have internals := stands.internals
  obtain ⟨stamp', runner, attach', place, items, pairs, w₁, same, passed, ⟨u', decodes'⟩, new, list,
    arePairs, paired⟩ := checked_of_not_rejects readOnly passes
  obtain ⟨rfl, rfl, rfl, -⟩ := decodes.unique decodes'
  rw [install]
  refine goes_bind_of_ok passed ?_
  -- up to here nothing has changed; a warning changes the surroundings alone
  have kept₁ := (same m.place).toKeeps
  have internals₁ : m.HasDefaultInternals w₁ :=
    DefaultInternals.of_keeps internals kept₁ internals.apart fun _ _ => .inr id
  have shown :=
    kept₁.shows internals.holds (.inr id) (by decide) (internals.shows (by simp) stands.runner)
  obtain ⟨text, told⟩ := nameText_eq (h := Host.ofDepth (k + 2)) internals₁.usual internals₁.named
  obtain ⟨root, warned⟩ := warnIfInstalled_eq internals₁.usual told shown
  refine goes_bind_of_ok warned ?_
  let w₂ := w₁.withRoot root
  have kept₂ : Keeps (.nothing m.place) w w₂ := kept₁.trans (.withRoot root)
  have spares₂ : cast.Spares (fun _ _ => False) w w₂ :=
    .of_keeps kept₂ actor rfl fun _ =>
      .of_keeps internals kept₂ internals.apart (fun _ _ => .inr id) fun _ _ => id
  have stands₂ : m.Stands host w₂ :=
    stands.of_spared (spares₂.actors m actor internals) id fun _ _ => id
  have fine₂ (r q : Nat) (now : H.fine r q w) : H.fine r q w₂ :=
    fine_of_keeps now actor kept₂ rfl fun _ => id
  have subscribing := subscribe_goes actor stands₂ list new arePairs
    (fun p hp => (exists_of_forall₂ paired hp).imp fun _ now => ⟨now.1, now.2.1⟩)
    (fun p hp => (kept₂.isCallable _).trans (exists_of_forall₂ paired hp).choose_spec.2.2)
    (fun q hq => fine₂ r q (fine q hq)) (k + 2)
  -- what is gained from there on are forwarders, and reading the runner does nothing
  have installed {w₃ v : World} (noted : H.Noted m r w.lists.size w₂ w₃)
      (gains : Gains w₃ m.object m.place v) : H.Installed m r w v :=
    .of_gains actor internals ((spares₂.mono fun _ _ _ => False.elim).trans noted.spares)
      ((World.KeepsClasses.of_keeps kept₂ (same 0).recalls).trans noted.classes)
      (fun r q hq now => noted.fine r q hq (fine₂ r q now)) noted.stands gains
  refine goes_bind
    (subscribing.mono id (fun w₃ noted => installed noted (.refl noted.stands.internals.holds))
    fun _ _ noted _ => noted) fun _ w₃ _ noted => ?_
  have stands₃ := noted.stands
  have reports : Reports w₃ m.object m.place := by
    refine ⟨r, stands₃.internals.shows (by simp) stands₃.runner, fun depth u n gains isPublic => ?_⟩
    have now : H.fine r w.lists.size u := fine_of_keeps
      (noted.fine r _ (Nat.le_refl _) (fine₂ r _ (fine _ (Nat.le_refl _)))) actor gains.toKeeps rfl
      fun _ => id
    exact gains.rest (Host.after_attrOrNothing_of_attr (H.read now isPublic) m.place)
  have goes := finish_goes stands₃.internals reports (.refl stands₃.internals.holds) stamp
    (.object r) attach
    (k + 2)
  refine goes_bind (goes.mono False.elim (fun _ => installed noted) fun _ _ gains _ => gains)
    fun _ _ now _ => goes_pure now trivial

theorem installed_of_run {host : Option Nat} {options name value : Value}
    {text : String} {stamp : Nat}
    {attach : Option Bool} (actor : m ∈ cast.actors) (stands : m.Stands host w) (fine : H.Fine r w)
    (readOnly : ChecksReadOnly (k + 1) w m.object m.place m.registry m.listing options name text)
    (decodes : Decodes (k + 1) w options stamp (.object r) attach u)
    (run : install (Host.ofDepth (k + 2)) (.object m.object) options w = .ok value w') :
    H.Installed m r w w' := by
  have passes (f : Fault) : ¬ Rejects (k + 1) w m.object options name text m.listing f :=
      fun rejects => by
    obtain ⟨_, failed, -⟩ := rejects.install_fails readOnly
    cases run.symm.trans failed
  exact ((install_goes actor stands fine readOnly decodes passes).of_ok run).1

theorem forget_run {host : Option Nat} (actor : m ∈ cast.actors)
    (stands : m.Stands host w) (k : Nat) :
    ∃ u, (do
        (Host.ofDepth k).assign (.object m.object) subscriptionsField (← newList [])
        (Host.ofDepth k).assign (.object m.object) runnerField .nothing : Act Unit) w = .ok () u ∧
      Keeps (.notes m.place) w u ∧ m.Stands none u := by
  have internals := stands.internals
  have next {u v : World} (internals : m.HasDefaultInternals u) (kept :
      Keeps (.notes m.place) u v) :
      m.Spared (m.books m) u v := (Cast.Spares.of_books actor kept).actors m actor internals
  let w₁ : World := { w with lists := w.lists.push [] }
  have made : newList [] w = .ok (.ref (.list w.lists.size)) w₁ := rfl
  have kept₁ : Keeps (.notes m.place) w w₁ := .pushList []
  have spared₁ := next internals kept₁
  let w₂ : World := w₁.putText m.place subscriptionsField (.ref (.list w.lists.size))
  have kept₂ : Keeps (.notes m.place) w₁ w₂ := .book (by simp) _
  have spared₂ := next spared₁.internals kept₂
  let w₃ : World := w₂.putText m.place runnerField .nothing
  have kept₃ : Keeps (.notes m.place) w₂ w₃ := .book (by simp) _
  have spared := (spared₁.trans spared₂).trans (next spared₂.internals kept₃)
  refine ⟨w₃, ?_, (kept₁.trans kept₂).trans kept₃, spared.internals,
    spared.prefixes stands.prefixes fun book => absurd book.2 (by decide), ?_,
    w.lists.size, [], [], ?_, kept₃.lists _ _ id (kept₂.lists _ _ id Array.getElem?_push_size),
      .nil,
    by simp⟩
  · rw [bind_of_ok made, bind_of_ok (spared₁.internals.assign_book (by simp) _)]
    exact spared₂.internals.assign_book (by simp) _
  · rw [spared₂.internals.own?_putText, if_pos rfl]
    rfl
  · rw [spared₂.internals.own?_putText, if_neg (by decide),
      spared₁.internals.own?_putText, if_pos rfl]

/-- What follows when all pairs are taken back does not fail: the books are forgotten, and a message
is said. -/
theorem leave_run {host : Option Nat} (actor : m ∈ cast.actors)
    (stands : m.Stands host w) (k : Nat) :
    ∃ u, ((do
        (Host.ofDepth k).assign (.object m.object) subscriptionsField (← newList [])
        (Host.ofDepth k).assign (.object m.object) runnerField .nothing : Act Unit) >>= fun _ =>
          farewell (Host.ofDepth k) (.object m.object)) w = .ok .nothing u ∧
      Keeps (.notes m.place) w u ∧ m.Stands none u := by
  obtain ⟨w₁, run, kept, stands₁⟩ := forget_run actor stands k
  obtain ⟨around, told⟩ :=
    farewell_eq (h := Host.ofDepth k) stands₁.internals.usual stands₁.internals.named
  have spares : cast.Spares (fun _ _ => False) w₁ { w₁ with around := around } :=
    .of_rests (s := .nothing 0) fun _ => .around around
  exact ⟨_, (bind_of_ok run).trans told, kept.trans (.around around),
    stands₁.of_spared (spares.actors m actor stands₁.internals) id fun _ _ => id⟩

/-- `destroy` of a task on a host in order: if it succeeds the task has no runner, and if it fails
the task is installed as before. -/
theorem destroy_goes {host : Option Nat} (actor : m ∈ cast.actors) (stands : m.Stands host w)
    (fine : ∀ r, host = some r → H.Fine r w) (k : Nat) :
    Goes False (fun u => cast.Spares m.books w u ∧
        ∀ r q, w.lists.size ≤ q → H.fine r q w → H.fine r q u)
      (destroy (Host.ofDepth k) (.object m.object)) w (fun _ u => m.Stands none u) ∧
    ∀ f u, destroy (Host.ofDepth k) (.object m.object) w = .error f u → m.Stands host u := by
  have internals := stands.internals
  have shown := internals.shows (by simp) stands.runner
  cases host with
  | none =>
    obtain ⟨task, text, failed⟩ := Company.destroy_idle (h := Host.ofDepth k)
      internals.usual internals.named shown
    refine ⟨goes_of_error failed ⟨.refl _ _ w, fun _ _ _ => id⟩ id, fun f u run => ?_⟩
    obtain ⟨-, rfl⟩ := EStateM.Result.error.inj (failed.symm.trans run)
    exact stands
  | some r =>
    have something : (Value.object r).isNothing = false := rfl
    obtain ⟨place, items, pairs, booked, list, arePairs, events⟩ := stands.booked
    have handing := handOver_goes (k := k) actor internals stands.runner list arePairs
      events (.inr booked) (fine r rfl) (.inr rfl : "off" = "on" ∧ _ ∨ _)
    have whole : destroy (Host.ofDepth k) (.object m.object) w =
        (handOver (Host.ofDepth k) (.object m.object) "off" (.ref (.list place)) >>= fun _ => (do
          (Host.ofDepth k).assign (.object m.object) subscriptionsField (← newList [])
          (Host.ofDepth k).assign (.object m.object) runnerField .nothing : Act Unit) >>= fun _ =>
            farewell (Host.ofDepth k) (.object m.object)) w := by
      rw [destroy_shows internals.usual shown something,
        bind_of_eq (unsubscribe_shows internals.usual (internals.shows (by simp) booked)),
          bind_assoc]
    have stays : ∀ u, (∀ q, w.lists.size ≤ q → cast.Lets H.fine q w u) → cast.Spares m.books w u ∧
        ∀ r q, w.lists.size ≤ q → H.fine r q w → H.fine r q u := fun u lets =>
      ⟨(lets _ (Nat.le_refl _)).spares.mono fun _ _ _ => False.elim,
        fun r q hq => (lets q hq).fine r⟩
    have back (w₁ : World) (lets : ∀ q, w.lists.size ≤ q → cast.Lets H.fine q w w₁) :
        m.Stands (some r) w₁ :=
      stands.of_spared ((lets _ (Nat.le_refl _)).spares.actors m actor internals) id fun _ _ => id
    refine ⟨goes_of_eq whole (goes_bind (handing.mono id stays fun _ u lets _ => lets)
      fun _ w₁ _ lets => ?_), fun f u run => ?_⟩
    · obtain ⟨u, done, kept, stands'⟩ := leave_run actor (back w₁ lets) k
      refine goes_of_ok done ⟨(stays w₁ lets).1.trans (.of_books actor kept),
        fun r q hq now => ?_⟩ stands'
      exact fine_of_keeps ((lets q hq).fine r now) actor kept rfl fun _ => id
    · rw [whole] at run
      cases handed : handOver (Host.ofDepth k) (.object m.object) "off" (.ref (.list place)) w with
      | error g w₁ =>
        obtain ⟨-, rfl⟩ := EStateM.Result.error.inj ((bind_of_error handed).symm.trans run)
        exact back w₁ (handing.of_error handed).1
      | ok a w₁ =>
        obtain ⟨u', done, -⟩ := leave_run actor (back w₁ (handing.of_ok handed).1) k
        cases ((bind_of_ok handed).trans done).symm.trans run

end Hosting

/-! Emitters as hosts -/

/-- An emitter in order that is asked to subscribe or to take back changes its table at most, and
stays in order. -/
theorem Emitter.asked {e p : Nat} {event : Value} {f : Ref} {n : String} (serves : w.Serves r e p)
    (plain : event.Plain w) (asks : n = "on" ∧ w.isCallable (.ref f) = true ∨ n = "off")
    (depth : Nat) :
    ∃ u, ((Host.ofDepth depth).send (.object r) n [event, .ref f]).after w = u ∧ u.Serves r e p ∧
      ∀ d, Rests (.table d p) w u := by
  have usual := serves.emitter.usual
  have same {run : EStateM.Result Fault World Value} {u : World}
      (ends : ∀ d, ∃ w', run = .ok (.object r) w' ∧
      Rests (.table d p) w w' ∧ w'.Serves r e p) (now : run = .ok (.object r) u) :
      u.Serves r e p ∧ ∀ d, Rests (.table d p) w u := by
    have each (d : Nat) : Rests (.table d p) w u ∧ u.Serves r e p := by
      obtain ⟨w', done, rest⟩ := ends d
      obtain ⟨-, rfl⟩ := EStateM.Result.ok.inj (now.symm.trans done)
      exact rest
    exact ⟨(each 0).2, fun d => (each d).1⟩
  cases depth with
  | zero =>
    refine ⟨w.later, ?_, serves_later serves, fun _ => .later⟩
    rcases asks with ⟨rfl, -⟩ | rfl
    · exact after_of_error (Host.send_means_exhausted usual serves.emitter.on _)
    · exact after_of_error (Host.send_means_exhausted usual serves.emitter.off _)
  | succ k =>
    cases key : event.key with
    | error kind =>
      refine ⟨w.later, ?_, serves_later serves, fun _ => .later⟩
      rcases asks with ⟨rfl, callable⟩ | rfl
      · exact after_of_error (send_on_unhashable serves.emitter plain key callable k)
      · refine after_of_error ((Host.send_means usual serves.emitter.off k _).trans
          (off_unhashable (serves_later serves).emitter ?_ key _))
        exact (Keeps.later (s := .table 0 p)).plain.2 plain
    | ok key' =>
      rcases asks with ⟨rfl, callable⟩ | rfl
      · have ends (d : Nat) := send_on serves plain key callable k d
        obtain ⟨u, run, -⟩ := ends 0
        exact ⟨u, after_of_ok run,
          same (fun d => (ends d).imp fun _ now => ⟨now.1, now.2.1, now.2.2.1⟩) run⟩
      · have ends (d : Nat) := send_off serves plain key f k d
        obtain ⟨u, run, -⟩ := ends 0
        exact ⟨u, after_of_ok run,
          same (fun d => (ends d).imp fun _ now => ⟨now.1, now.2.1, now.2.2.1⟩) run⟩

namespace Company

def tasks (c : Company)
    (registries : ∀ m ∈ c.actors, ∀ m' ∈ c.actors, m.registry ≠ .dict m'.place) :
    Cast where
  actors := c.actors
  objects := c.objects
  places := c.places
  registries := registries

def emitters (c : Company)
    (registries : ∀ m ∈ c.actors, ∀ m' ∈ c.actors, m.registry ≠ .dict m'.place) :
    Hosting (c.tasks registries) where
  fine r _ w := ∃ v ∈ c.venues, v.object = r ∧ w.Serves v.object v.place v.table ∧
    w.Readable v.object
  asked := by
    rintro r q w n event f depth ⟨v, venue, rfl, serves, readable⟩ plain asks
    obtain ⟨u, run, serves', rests⟩ := Emitter.asked serves plain asks depth
    rw [run]
    exact {
      spares := .of_rests (s := .table 0 v.table) fun d => (rests d).toKeeps
      classes := .of_keeps (rests 0).toKeeps (rests 0).recalls
      list := fun items => (rests 0).lists q items id
      callable := fun f => ((rests 0).isCallable _).trans
      fine := by
        rintro r ⟨v', venue', rfl, now, readable'⟩
        refine ⟨v', venue', rfl, ?_, (rests 0).toKeeps.readable readable'⟩
        by_cases same : v'.table = v.table
        · exact c.tables v' venue' v venue same ▸ serves'
        · exact now.of_keeps (rests 0).toKeeps (.inr ⟨id, id, id⟩) same }
  read := by
    rintro r q w n depth ⟨v, venue, rfl, serves, readable⟩ isPublic d
    exact Host.after_attr readable.usual (readable.quiet n isPublic)
  aside := by
    rintro r q w u m ⟨v, venue, rfl, serves, readable⟩ actor kept
    exact ⟨v, venue, rfl, serves.of_keeps kept (.inl (c.apart v venue m actor)) id,
      kept.readable readable⟩

end Company

end EventTasks
