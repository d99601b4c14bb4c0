import EventTasks.Proofs.Checking
import EventTasks.Proofs.Gathered
import EventTasks.Proofs.Surveying
import EventTasks.Task.Forwarding

/-!
The end of an install: the log methods and the message. All that an ordinary task gains by it are
attributes under names that meant nothing to it; its books, the runner and the tables stay as they
are, also when something goes wrong on the way.
-/
namespace EventTasks

open Act

def Scope.fresh (w : World) (i d : Nat) : Scope where
  place := d
  names n := n ≠ "__annotations__" ∧ (w.attributesOf i).text? n = none ∧
    w.definition? (w.objectClassOf i) n = none
  tables _ := False

namespace World

structure Readable (w : World) (i : Nat) : Prop where
  usual : w.ReadsUsually i
  quiet : ∀ n, IsPublic n → w.Quiet i n

end World

namespace Keeps

variable {s : Scope} {w w' : World} {i : Nat} {n : String}

theorem readable (kept : Keeps s w w') (readable : w.Readable i) : w'.Readable i where
  usual := kept.readsUsually readable.usual
  quiet n isPublic := kept.quiet isPublic.ne (readable.quiet n isPublic)

end Keeps

def Value.isFunction : Value → Bool
  | .ref (.function _) => true
  | _ => false

theorem Value.eq_of_isFunction {v : Value} (isFunction : v.isFunction = true) :
    ∃ f, v = .function f := by
  cases v with
  | ref r =>
    cases r with
    | function f => exact ⟨f, rfl⟩
    | _ => simp [Value.isFunction] at isFunction
  | _ => simp [Value.isFunction] at isFunction

/-! Whether a name is taken -/

def World.offersCall (w : World) : Value → Bool
  | .ref (.classMethod _) => true
  | e => w.isCallable e

def World.Pauses (w w' : World) : Prop := w' = w ∨ w' = w.later

theorem World.Pauses.rests {s : Scope} {w w' : World} (pauses : w.Pauses w') : Rests s w w' := by
  obtain rfl | rfl := pauses
  · exact .refl s w'
  · exact .later

namespace Host

variable {h : Host} {s : Scope} {w : World} {c i d : Nat} {n : String} {e : Value}

theorem fetchHeld_class (unhooked : w.hookOf? e "__get__" = none) (c : Nat) :
    ∃ v w', h.fetchHeld e none c w = .ok v w' ∧ w.Pauses w' ∧ w.isCallable v = w.offersCall e := by
  cases e with
  | ref r =>
    cases r with
    | classMethod f => exact ⟨_, _, rfl, .inr rfl, rfl⟩
    | subject t =>
      cases t with
      | object j =>
        refine ⟨.object j, w, ?_, .inl rfl, rfl⟩
        show ((get : Act World) >>= _) w = _
        simp only [bind_run, get_run, unhooked, pure_run]
        rfl
      | cls k => exact ⟨_, w, rfl, .inl rfl, rfl⟩
    | _ => exact ⟨_, w, rfl, .inl rfl, rfl⟩
  | _ => exact ⟨_, w, rfl, .inl rfl, rfl⟩

theorem fetch_class (unhooked : w.hookOf? e "__get__" = none) (c : Nat) :
    ∃ v w', h.fetch e none c w = .ok v w' ∧ w.Pauses w' ∧ w.isCallable v = w.offersCall e := by
  have same : h.fetch e none c = h.fetchHeld e none c := by
    unfold fetch
    split <;> simp_all
  rw [same]
  exact fetchHeld_class unhooked c

theorem function_of_kind (standard : w.Standard) (usual : w.UsualKind c) (isPublic : IsPublic n)
    (entry : w.definition? (w.classInfo c).kind n = some e) : ∃ f, e = .function f := by
  have functions : ∀ k ∈ [Library.typeClass, Library.abstractTypeClass, Library.protocolTypeClass],
      ∀ m ∈ World.start.orderOf k, ∀ p ∈ (World.start.classInfo m).body,
        "_".toList.isPrefixOf p.1.toList = true ∨ p.2.isFunction = true := by decide
  obtain ⟨k, hk, found⟩ := mem_of_kind standard usual isPublic.ne entry
  rcases functions _ usual k hk (n, e) found with isPrivate | isFunction
  · rw [IsPublic, isPrivate] at isPublic
    simp at isPublic
  · exact Value.eq_of_isFunction isFunction

theorem has_class_goes (standard : w.Standard) (usual : w.UsualKind c) (isPublic : IsPublic n)
    (unhooked : ∀ e, w.definition? c n = some e → w.hookOf? e "__get__" = none) :
    Goes True (Rests s w) (h.has (.cls c) n) w fun b _ => b = false → w.definition? c n = none := by
  have late : (w.definition? (w.classInfo c).kind n).filter w.comesFirst = none := by
    cases above : w.definition? (w.classInfo c).kind n with
    | none => rfl
    | some e =>
      obtain ⟨f, rfl⟩ := function_of_kind standard usual isPublic above
      rfl
  have read : h.attr (.cls c) n w =
      (match w.definition? c n, w.definition? (w.classInfo c).kind n with
      | some entry, _ => h.fetch entry none c
      | none, some entry => h.fetch entry (some (.cls c)) (w.classInfo c).kind
      | none, none => throw (w.missing (.cls c) n)) w := by
    show h.classAttribute c n w = _
    rw [classAttribute, bind_run]
    simp only [get_run, late]
    cases w.definition? c n <;> cases w.definition? (w.classInfo c).kind n <;> rfl
  have given {v : Value} {w' : World} (run : h.attr (.cls c) n w = .ok v w') :
      h.has (.cls c) n w = .ok true w' := by
    rw [has, bind_run, attr?, orMissing, tryCatch_run, map_run, run]
    rfl
  cases entry : w.definition? c n with
  | some e =>
    obtain ⟨v, w', run, pauses, -⟩ := fetch_class (h := h) (unhooked e entry) c
    rw [entry] at read
    exact goes_of_ok (given (read.trans run)) pauses.rests (by simp)
  | none =>
    rw [entry] at read
    cases above : w.definition? (w.classInfo c).kind n with
    | none =>
      rw [above] at read
      have lacks : h.has (.cls c) n w = .ok false w := by
        rw [has, bind_run, attr?, orMissing, tryCatch_run, map_run, read]
        rfl
      exact goes_of_ok lacks (.refl s w) fun _ => rfl
    | some e =>
      obtain ⟨f, rfl⟩ := function_of_kind standard usual isPublic above
      rw [above] at read
      exact goes_of_ok (given (read.trans rfl)) .later (by simp)

theorem ownEntries_object (usual : w.ReadsUsually i) (holds : w.Holds i d) {o : Nat}
    (entry : w.definition? (w.objectClassOf i) "__dict__" = some (.ref (.aspect o .attributes))) :
    h.ownEntries (.object i) w = .ok (.ref (.dict d)) w := by
  have told : aspectOf (.object i) .attributes w = .ok (.ref (.dict d)) w := by
    rw [aspectOf, bind_run]
    simp only [get_run, Value.object, World.attributes?, holds.held, Option.map_some, pure_run]
  have read : h.attr (.object i) "__dict__" w = .ok (.ref (.dict d)) w := by
    rw [attr_eq_usual usual, usualAttribute, bind_run]
    simp only [get_run, Value.object, Value.objectPlace?, World.classOf, World.classOfRef, entry]
    have fetched : h.fetch (.ref (.aspect o .attributes)) (some (.ref (.subject (.object i))))
        (w.objectClassOf i) w = .ok (.ref (.dict d)) w := bind_of_ok told
    cases (w.attributesOf i).text? "__dict__" <;> exact fetched
  rw [ownEntries, bind_run, attr?, orMissing, tryCatch_run, map_run, read]
  rfl

theorem holds_own (textual : (w.dictAt d).Textual) (place : Nat) (n : String) :
    h.holds (.ref (.dict d)) (.text place n) w =
      .ok ((w.dictAt d).text? n).isSome w := by
  obtain ⟨found, run, same⟩ := findAt_eq (h := h) textual place n
  rw [holds, bind_run]
  simp only [get_run, mappingItem?, bind_run, run, pure_run, Option.isSome_map, same]

end Host

theorem ownSize?_listing {w : World} {r : Ref} {l : Listing} (listing : w.listing? r = some l) :
    w.ownSize? (.ref r) = some l.entries.length := by
  have length := Host.length_namesOf? listing
  cases r with
  | dict | body | registry => exact length
  | _ => simp [World.listing?] at listing

theorem Host.size_listing {h : Host} {w : World} {r : Ref} {l : Listing}
    (listing : w.listing? r = some l) : h.size (.ref r) w = .ok l.entries.length w := by
  rw [size, bind_run, size?, bind_run]
  simp only [get_run, ownSize?_listing listing, pure_run]

/-! What an ordinary task gains -/

def World.Forwards (w : World) (i : Nat) (n : String) (v : Value) : Prop :=
  IsPublic n ∧ ∃ j info, v = .function (.forwarder j) ∧ w.forwarders[j]? = some info ∧
    info.task = .object i ∧ info.name = n

/-- The attributes that the object at `i` gained are forwarders of its own under names that were
free. No forwarder was changed; of the settings at most that they were read. -/
structure Gains (w : World) (i d : Nat) (u : World) : Prop extends Keeps (.fresh w i d) w u where
  recalls : w.Recalls u
  settings : w.around.MayRead u.around
  forwarders : Grown w.forwarders u.forwarders
  forwards : ∀ n v, (Scope.fresh w i d).names n → (u.dictAt d).text? n = some v → u.Forwards i n v

def World.pushForwarder (w : World) (info : ForwarderInfo) : World :=
  { w with forwarders := w.forwarders.push info }

section gains

variable {w u v : World} {i d : Nat} {n : String}

theorem World.Forwards.of_grown {x : Value} (forwards : u.Forwards i n x)
    (grown : Grown u.forwarders v.forwarders) : v.Forwards i n x := by
  obtain ⟨isPublic, j, info, rfl, found, rest⟩ := forwards
  exact ⟨isPublic, j, info, rfl, grown j info id found, rest⟩

theorem outside_fresh {x : Value} (shows : w.Shows i n x) :
    d ≠ (Scope.fresh w i d).place ∨ ¬ (Scope.fresh w i d).names n := by
  refine .inr fun ⟨_, own, entry⟩ => ?_
  rcases shows with ⟨here, -⟩ | ⟨-, there, -⟩
  · rw [own] at here
    simp at here
  · rw [entry] at there
    simp at there

theorem Keeps.of_nothing {s : Scope} (kept : Keeps (.nothing s.place) w u) : Keeps s w u :=
  kept.mono rfl (fun _ => False.elim) (fun _ => False.elim)

namespace Gains

theorem refl (holds : w.Holds i d) : Gains w i d w where
  toKeeps := .refl _ w
  recalls := .of_eq rfl
  settings := .refl _
  forwarders := .refl _ _
  forwards n v fresh found := by
    have own := fresh.2.1
    rw [holds.attributesOf_eq, found] at own
    simp at own

theorem keep (gains : Gains w i d u) (kept : Keeps (.nothing d) u v) (recalls : u.Recalls v)
    (settings : u.around.MayRead v.around) (grown : Grown u.forwarders v.forwarders) :
    Gains w i d v where
  toKeeps := gains.toKeeps.trans kept.of_nothing
  recalls c x known := recalls c x (gains.recalls c x known)
  settings := gains.settings.trans settings
  forwarders := gains.forwarders.trans grown
  forwards n x fresh found := by
    have same : (v.dictAt d).text? n = (u.dictAt d).text? n := kept.attributes n id
    exact (gains.forwards n x fresh (same ▸ found)).of_grown grown

theorem rest (gains : Gains w i d u) (rests : Rests (.nothing d) u v) : Gains w i d v :=
  gains.keep rests.toKeeps rests.recalls (rests.around ▸ .refl _) (rests.forwarders ▸ .refl _ _)

theorem around (gains : Gains w i d u) {around' : Surroundings} (may : u.around.MayRead around') :
    Gains w i d { u with around := around' } :=
  gains.keep (.around around') (.of_eq rfl) may (.refl _ _)

theorem give {x : Value} (gains : Gains w i d u) (holds : w.Holds i d)
    (fresh : (Scope.fresh w i d).names n) (forwards : u.Forwards i n x) :
    Gains w i d (u.putText d n x) where
  toKeeps := gains.toKeeps.trans (.putText fresh x)
  recalls := gains.recalls
  settings := gains.settings
  forwarders := gains.forwarders
  forwards m y fresh' found := by
    rw [World.dictAt_putText (gains.toKeeps.holds holds).inside, Dictionary.text?_setText] at found
    split at found
    · rename_i same
      obtain rfl := Option.some.inj found
      exact same ▸ forwards
    · exact gains.forwards m y fresh' found

end Gains

end gains

namespace Task

variable {h : Host} {w u : World} {i d : Nat} {r : Ref} {l : Listing} {n : String}

theorem DefaultInternals.gaining (internals : DefaultInternals w i d r l) (gains : Gains w i d u) :
    DefaultInternals u i d r l :=
  internals.of_keeps gains.toKeeps internals.apart fun _ hn => .inr fun fresh =>
    internals.present hn fresh.2

theorem Ordinary.gaining (ordinary : Ordinary w i d r l) (gains : Gains w i d u) :
    Ordinary u i d r l :=
  ordinary.of_keeps gains.toKeeps ordinary.apart fun _ hn => .inr fun fresh =>
    ordinary.toDefaultInternals.present hn fresh.2

theorem isTaken_goes (internals : DefaultInternals w i d r l) (gains : Gains w i d u)
    (isPublic : IsPublic n)
    (unhooked : ∀ e, w.definition? (w.objectClassOf i) n = some e → w.hookOf? e "__get__" = none) :
    Goes True (Gains w i d) (isTaken h (.object i) (.word n)) u fun b _ =>
      b = false → (Scope.fresh w i d).names n := by
  have internals₁ := internals.gaining gains
  refine goes_bind_of_ok (get_run u) ?_
  refine goes_bind_of_ok (show Host.nameOf (.word n) u = .ok n u from rfl) ?_
  have unhooked₁ (e : Value) (found : u.definition? (u.objectClassOf i) n = some e) :
      u.hookOf? e "__get__" = none := by
    rw [gains.toKeeps.objectClassOf, gains.toKeeps.definition? isPublic.ne] at found
    rw [gains.toKeeps.hookOf? (by decide)]
    exact unhooked e found
  refine goes_bind
    ((Host.has_class_goes internals₁.standard internals₁.kind isPublic unhooked₁).mono id
      (fun _ => gains.rest) fun _ _ _ => id)
    fun b v gains' lacks => ?_
  cases b with
  | true => exact goes_pure gains' (by simp)
  | false =>
    have internals₂ := internals.gaining gains'
    obtain ⟨o, entry⟩ := internals₂.entries
    simp only [Bool.false_eq_true, if_false]
    refine goes_bind_of_ok (Host.ownEntries_object internals₂.usual internals₂.holds entry) ?_
    refine goes_of_ok (Host.holds_own internals₂.textual 0 n) gains' fun absent => ?_
    have none₂ : (v.attributesOf i).text? n = none := by
      rw [internals₂.holds.attributesOf_eq]
      simpa using absent
    have none₁ := lacks rfl
    rw [gains.toKeeps.objectClassOf, gains.toKeeps.definition? isPublic.ne] at none₁
    by_cases fresh : (Scope.fresh w i d).names n
    · exact fresh
    · rw [gains'.toKeeps.own internals.holds (.inr fresh)] at none₂
      exact ⟨isPublic.ne, none₂, none₁⟩

def Answers (w : World) (i d x : Nat) : Prop :=
  ∀ depth u n, Gains w i d u → IsPublic n →
    Gains w i d (((Host.ofDepth depth).attrOrNothing (.object x) n).after u)

def Reports (w : World) (i d : Nat) : Prop :=
  ∃ x, w.Shows i runnerField (.object x) ∧ Answers w i d x

theorem answers_of_readable {x : Nat} (readable : w.Readable x) : Answers w i d x :=
  fun _ _ n gains isPublic => gains.rest (Host.after_attrOrNothing
    (gains.toKeeps.readable readable).usual ((gains.toKeeps.readable readable).quiet n isPublic))

theorem readTarget_goes (internals : DefaultInternals w i d r l) (reports : Reports w i d)
    (gains : Gains w i d u) (isPublic : IsPublic n) (depth : Nat) :
    Goes True (Gains w i d) (readTarget (Host.ofDepth depth) (.object i) (.word n)) u
      fun _ _ => True := by
  obtain ⟨x, shows, answers⟩ := reports
  have shown := gains.toKeeps.shows internals.holds (outside_fresh shows) (by decide) shows
  refine goes_attempt ?_
  rw [after_bind_of_ok (Host.attr_shows (gains.toKeeps.readsUsually internals.usual) shown),
    after_bind_of_ok (show Host.nameOf (.word n) u = .ok n u from rfl)]
  exact answers depth u n gains isPublic

theorem tell_goes (internals : DefaultInternals w i d r l) (gains : Gains w i d u)
    (severity : Log.Severity)
    (message : String → String) :
    Goes True (Gains w i d) (do
      let task ← nameText h (.object i)
      say severity (message task)) u fun _ _ => True := by
  have internals₁ := internals.gaining gains
  obtain ⟨text, run⟩ := nameText_eq (h := h) internals₁.usual internals₁.named
  exact goes_bind_of_ok run (goes_of_ok rfl (gains.around (.of_root _ _)) trivial)

theorem makeForwarder_eq (i : Nat) (n : String) :
    ∃ info : ForwarderInfo, info.task = .object i ∧ info.name = n ∧
      makeForwarder h (.object i) (.word n) u =
        .ok (.function (.forwarder u.forwarders.size)) (u.pushForwarder info) := by
  obtain ⟨shown, run⟩ := Host.formatted_simple (v := .word n) trivial
  refine ⟨⟨.object i, .word n, n, u.shortKindOf (.object i) ++ "." ++ shown⟩, rfl, rfl, ?_⟩
  have told : (pure n : Act String) u = .ok n u := rfl
  exact (bind_of_ok told).trans ((bind_of_ok (run h u)).trans rfl)

theorem add_goes {s : Scope} {g : Nat} (depth : Nat) (standard : w.Standard)
    (texts : (w.namesAt g).Texts) (n : String) :
    Goes (depth ≠ 0)
      (fun u => Keeps s w u ∧ u.classes = w.classes ∧ u.forwarders = w.forwarders ∧
        u.around = w.around)
      ((Host.ofDepth depth).send (.ref (.names g)) "add" [.word n]) w fun _ _ => True := by
  have entry : w.definition? Library.namesClass "add" =
      some (.function (.library (.holding .names .add))) :=
    standard.definition? (by decide) (by decide) (by decide)
  cases depth with
  | zero =>
    exact goes_of_error (Host.send_bound_exhausted rfl rfl rfl entry _)
      ⟨.pushBound _ _, rfl, rfl, rfl⟩
      (by simp)
  | succ k =>
    obtain ⟨u, run, kept, same⟩ := Host.gather_eq (h := Host.ofDepth k) (s := s)
      (w := w.pushBound (.ref (.names g)) (.library (.holding .names .add))) texts 0 n
    have added : (Host.ofDepth (k + 1)).send (.ref (.names g)) "add" [.word n] w =
        .ok .nothing u := (Host.send_bound rfl rfl rfl entry k _).trans (bind_of_ok run)
    exact goes_of_ok added ⟨(Keeps.pushBound _ _).trans kept, same⟩ trivial

theorem give_goes (internals : DefaultInternals w i d r l) (gains : Gains w i d u)
    (fresh : (Scope.fresh w i d).names n) (isPublic : IsPublic n) (depth : Nat) :
    Goes (depth ≠ 0) (Gains w i d) (do
      let f ← (Host.ofDepth depth).send (.object i) "_make_forwarder" [.word n]
      (Host.ofDepth depth).assign (.object i) (← Host.nameOf (.word n)) f
      let _ ← (Host.ofDepth depth).send
        (← (Host.ofDepth depth).attr (.object i) forwardersField) "add" [.word n]) u
      fun _ _ => True := by
  have internals₁ := internals.gaining gains
  have means := internals₁.operations .makeForwarder (by decide)
  cases depth with
  | zero =>
    exact goes_of_error (bind_of_error (Host.send_means_exhausted internals₁.usual means _))
      (gains.rest .later) (by simp)
  | succ k =>
    obtain ⟨info, task, name, made⟩ := makeForwarder_eq (h := Host.ofDepth k) (u := u.later) i n
    let v := u.later.pushForwarder info
    refine goes_bind_of_ok ((Host.send_means internals₁.usual means k _).trans made) ?_
    have gains₂ : Gains w i d v :=
      (gains.rest .later).keep (.of_eq rfl rfl rfl (.refl _) (grownBut_push _ _ _) rfl rfl rfl rfl)
        (.of_eq rfl) (.refl _)
        (grownBut_push _ _ _)
    have internals₂ := internals.gaining gains₂
    have settable : v.Settable i n := ⟨internals₂.sets, fun e he => by
      rw [gains₂.toKeeps.objectClassOf, gains₂.toKeeps.definition? fresh.1, fresh.2.2] at he
      simp at he⟩
    refine goes_bind_of_ok (show Host.nameOf (.word n) v = .ok n v from rfl) ?_
    refine goes_bind_of_ok (Host.assign_settable internals₂.holds settable) ?_
    have gains₃ := gains₂.give internals.holds fresh
      (x := .function (.forwarder u.forwarders.size))
      ⟨isPublic, _, info, rfl, Array.getElem?_push_size, task, name⟩
    have internals₃ := internals.gaining gains₃
    obtain ⟨g, shows, texts⟩ := internals₃.forwarders
    refine goes_bind_of_ok (Host.attr_shows internals₃.usual shows) ?_
    refine goes_bind ((add_goes (s := .nothing d) (k + 1) internals₃.standard texts n).mono id
      (fun x ⟨kept, classes, forwarders, around⟩ => gains₃.keep kept (.of_eq classes)
        (around ▸ .refl _) (forwarders ▸ .refl _ _)) fun _ _ _ => id)
      fun _ x gains₄ _ => goes_pure gains₄ trivial

/-- One turn of `_attach_logger` gives the task nothing but a forwarder under a free name. -/
theorem attachOne_goes (internals : DefaultInternals w i d r l) (reports : Reports w i d)
    (gains : Gains w i d u) (isPublic : IsPublic n)
    (unhooked : ∀ e, w.definition? (w.objectClassOf i) n = some e → w.hookOf? e "__get__" = none)
    (depth : Nat) :
    Goes (depth ≠ 0) (Gains w i d) (attachOne (Host.ofDepth depth) (.object i) (.word n)) u
      fun _ _ => True := by
  have internals₁ := internals.gaining gains
  obtain ⟨g, shows, texts⟩ := internals₁.forwarders
  obtain ⟨known, held⟩ := Host.isGathered_texts (h := Host.ofDepth depth) texts 0 n
  have asked : (Host.ofDepth depth).holds (.ref (.names g)) (.word n) u = .ok known u := held
  obtain ⟨shown, formatted⟩ := Host.formatted_simple (v := .word n) trivial
  have said {u : World} (gains : Gains w i d u) (severity : Log.Severity) (message : String) :
      Goes (depth ≠ 0) (Gains w i d) (say severity message) u fun _ _ => True :=
    goes_of_ok rfl (gains.around (.of_root _ _)) trivial
  refine goes_bind_of_ok (Host.attr_shows internals₁.usual shows) ?_
  refine goes_bind_of_ok asked ?_
  cases known with
  | true => exact goes_pure gains trivial
  | false =>
    simp only [Bool.false_eq_true, if_false]
    refine goes_bind
      ((isTaken_goes internals gains isPublic unhooked).mono (fun _ => trivial) (fun _ => id)
      fun _ _ _ => id) fun taken u₁ gains₁ free => ?_
    cases taken with
    | true =>
      have internals₂ := internals.gaining gains₁
      obtain ⟨text, run⟩ := nameText_eq (h := Host.ofDepth depth) internals₂.usual internals₂.named
      simp only [if_true]
      exact goes_bind_of_ok run (goes_bind_of_ok (formatted _ u₁) (said gains₁ _ _))
    | false =>
      simp only [Bool.false_eq_true, if_false]
      refine goes_bind ((readTarget_goes internals reports gains₁ isPublic depth).mono
        (fun _ => trivial) (fun _ => id) fun _ _ _ => id) fun found u₂ gains₂ _ => ?_
      cases found with
      | error f =>
        exact (tell_goes internals gains₂ _ _).mono (fun _ => trivial) (fun _ => id) fun _ _ _ => id
      | ok target =>
        refine goes_bind_of_ok (get_run u₂) ?_
        cases u₂.isCallable target with
        | false =>
          exact goes_bind_of_ok (formatted _ u₂) (said gains₂ _ _)
        | true => exact give_goes internals gains₂ (free rfl) isPublic depth

/-- So does the whole loop. -/
theorem attachLogger_goes (internals : DefaultInternals w i d r l) (reports : Reports w i d)
    (gains : Gains w i d u) (depth : Nat) :
    Goes (depth ≠ 0) (Gains w i d) (attachLogger (Host.ofDepth depth) (.object i)) u
      fun _ _ => True := by
  have internals₁ := internals.gaining gains
  obtain ⟨k, shows, surveyable, leaves⟩ := internals.capability
  have shown := gains.toKeeps.shows internals.holds (outside_fresh shows) (by decide) shows
  have each {names : List Value} {u : World} (areListed : AreListed w k names)
      (gains : Gains w i d u) : Goes (depth ≠ 0) (Gains w i d)
        (names.forM (attachOne (Host.ofDepth depth) (.object i))) u fun _ _ => True := by
    induction names generalizing u with
    | nil => exact goes_pure gains trivial
    | cons v names ih =>
      obtain ⟨n, rfl, isPublic, defines⟩ := areListed v (by simp)
      exact goes_bind (attachOne_goes internals reports gains isPublic
        (fun e => leaves n e isPublic defines) depth) fun _ u' gains' _ =>
          ih (fun v hv => areListed v (by simp [hv])) gains'
  refine goes_bind_of_ok (Host.attr_shows internals₁.usual shown) ?_
  refine goes_bind ((Capability.operations_goes depth internals₁.standard
    (gains.toKeeps.surveyable surveyable)).mono id (fun _ => gains.rest) fun _ _ _ => id)
    fun names u₁ gains₁ areListed => ?_
  refine goes_bind (each (fun v hv => ?_) gains₁) fun _ u₂ gains₂ _ => goes_pure gains₂ trivial
  obtain ⟨n, rfl, isPublic, defines⟩ := areListed v hv
  exact ⟨n, rfl, isPublic, gains.toKeeps.definesAlong isPublic defines⟩

theorem wantsLogger_mayRead {flag own : Value} (usual : u.ReadsUsually i) (simple : flag.IsSimple)
    (simple' : own.IsSimple) (shows : u.Shows i Options.flagField own) :
    Goes (∃ settings, u.around.Gives settings)
      (fun v => ∃ around', u.around.MayRead around' ∧ v = { u with around := around' })
      (wantsLogger h (.object i) flag) u fun _ _ => True := by
  have truth {v : Value} (simple : v.IsSimple) : Goes (∃ settings, u.around.Gives settings)
      (fun v => ∃ around', u.around.MayRead around' ∧ v = { u with around := around' })
      (h.truth v) u fun _ _ => True := by
    obtain ⟨b, run⟩ := Host.truth_simple (h := h) (w := u) simple
    exact goes_of_ok run ⟨_, .refl _, rfl⟩ trivial
  rw [wantsLogger]
  cases flag.isNothing with
  | false => exact truth simple
  | true =>
    simp only [Bool.not_true, Bool.false_eq_true, if_false]
    refine goes_bind_of_ok (Host.attr_shows usual shows) ?_
    cases own.isNothing with
    | false => exact truth simple'
    | true =>
      exact goes_bind (sharedSettings_goes.mono id
        (fun _ ⟨_, may, same⟩ => ⟨_, may, same⟩) fun _ _ _ => id)
          fun _ _ read _ => goes_pure read trivial

theorem wantsLogger_goes {flag : Value} (internals : DefaultInternals w i d r l)
    (gains : Gains w i d u)
    (simple : flag.IsSimple) :
    Goes (∃ settings, u.around.Gives settings) (Gains w i d) (wantsLogger h (.object i) flag) u
      fun _ _ => True := by
  have internals₁ := internals.gaining gains
  obtain ⟨own, simple', shows⟩ := internals₁.flag
  exact (wantsLogger_mayRead internals₁.usual simple simple' shows).mono id
    (fun _ ⟨_, may, same⟩ => same ▸ gains.around may) fun _ _ _ => id

/-- The end of `install` once it is known whether the log methods are wanted. -/
def conclude (h : Host) (self : Value) (wanted : Bool) : Act Unit := do
  if wanted then
    let _ ← h.send self "_attach_logger" []
  let name ← nameText h self
  let count ← h.size (← h.attr self "events")
  say .debug s!"Installed task [{name}] with {count} events"

theorem finish_eq (h : Host) (self options : Value) : finish h self options = (do
    let flag ← h.attr options Options.flagField
    conclude h self (← wantsLogger h self flag)) := rfl

theorem conclude_told {text : String} (told : nameText h (.object i) u = .ok text u)
    (usual : u.ReadsUsually i) (events : u.Shows i "events" (.ref r))
    (listing : u.listing? r = some l) :
    ∃ root, conclude h (.object i) false u = .ok () (u.withRoot root) := by
  rw [conclude]
  simp only [Bool.false_eq_true, if_false]
  rw [bind_of_ok told, bind_of_ok (Host.attr_shows usual events),
    bind_of_ok (Host.size_listing listing)]
  exact ⟨_, rfl⟩

theorem conclude_goes (internals : DefaultInternals w i d r l) (reports : Reports w i d)
    (gains : Gains w i d u)
    (wanted : Bool) (depth : Nat) :
    Goes (2 ≤ depth) (Gains w i d) (conclude (Host.ofDepth depth) (.object i) wanted) u
      fun _ _ => True := by
  have told {v : World} (gains : Gains w i d v) :
      Goes (2 ≤ depth) (Gains w i d) (conclude (Host.ofDepth depth) (.object i) false) v
        fun _ _ => True := by
    have internals₁ := internals.gaining gains
    obtain ⟨text, run⟩ := nameText_eq (h := Host.ofDepth depth) internals₁.usual internals₁.named
    obtain ⟨root, done⟩ := conclude_told run internals₁.usual internals₁.events internals₁.listing
    exact goes_of_ok done (gains.around (.of_root _ root)) trivial
  cases wanted with
  | false => exact told gains
  | true =>
    have internals₁ := internals.gaining gains
    have means := internals₁.operations .attachLogger (by decide)
    refine goes_bind (Q := fun _ _ => True) ?_ fun _ u₂ gains₂ _ => told gains₂
    cases depth with
    | zero =>
      exact goes_of_error (Host.send_means_exhausted internals₁.usual means _) (gains.rest .later)
        (by simp)
    | succ k =>
      exact goes_of_eq (Host.send_means internals₁.usual means k [])
        ((attachLogger_goes internals reports (gains.rest .later) k).mono (by omega)
          (fun _ => id) fun _ _ _ => id)

theorem finish_goes (internals : DefaultInternals w i d r l) (reports : Reports w i d)
    (gains : Gains w i d u)
    (stamp : Nat) (runner : Value) (attach : Option Bool) (depth : Nat) :
    Goes (2 ≤ depth ∧ ∃ settings, u.around.Gives settings) (Gains w i d)
      (finish (Host.ofDepth depth) (.object i) (.options stamp runner attach)) u
      fun _ _ => True := by
  rw [finish_eq]
  refine goes_bind_of_ok (attr_options (internals.gaining gains).standard stamp attach).2 ?_
  refine goes_bind
    ((wantsLogger_goes internals gains (Value.isSimple_ofFlag? attach)).mono And.right
    (fun _ => id) fun _ _ _ => id) fun wanted u₁ gains₁ _ => ?_
  exact (conclude_goes internals reports gains₁ wanted depth).mono And.left (fun _ => id)
    fun _ _ _ => id

/-- Deciding whether to attach the logger fails only if there are no valid settings. -/
theorem invalid_of_wantsLogger {flag : Value} {f : Fault} (internals : DefaultInternals w i d r l)
    (simple : flag.IsSimple) (failed : wantsLogger h (.object i) flag w = .error f u) :
    ∃ report, f = .invalid report := by
  have truth {v : Value} (simple : v.IsSimple) : h.truth v w ≠ .error f u := by
    obtain ⟨b, run⟩ := Host.truth_simple (h := h) (w := w) simple
    simp [run]
  obtain ⟨own, simple', shows⟩ := internals.flag
  rw [wantsLogger] at failed
  cases unset : flag.isNothing with
  | false => simp [unset, truth simple] at failed
  | true =>
    simp only [unset, Bool.not_true, Bool.false_eq_true, if_false] at failed
    rw [bind_of_ok (Host.attr_shows internals.usual shows)] at failed
    cases unset' : own.isNothing with
    | false => simp [unset', truth simple'] at failed
    | true =>
      simp only [unset', Bool.not_true, Bool.false_eq_true, if_false, bind_run, around] at failed
      cases read : Surroundings.sharedSettings w.around with
      | ok found s => simp [read] at failed
      | error g s =>
        obtain ⟨-, -, ⟨problems, -, rfl⟩, -⟩ := Surroundings.sharedSettings_refuses read
        rw [read] at failed
        obtain ⟨rfl, -⟩ := EStateM.Result.error.inj failed
        exact ⟨_, rfl⟩

/-- The end of `install` fails only if there are no valid settings. -/
theorem invalid_of_finish {stamp depth : Nat} {runner : Value} {attach : Option Bool} {f : Fault}
    (internals : DefaultInternals w i d r l) (reports : Reports w i d) (deep : 2 ≤ depth)
    (failed : finish (Host.ofDepth depth) (.object i) (.options stamp runner attach) w =
      .error f u) :
    ∃ report, f = .invalid report := by
  have simple := Value.isSimple_ofFlag? attach
  rw [finish_eq, bind_of_ok (attr_options internals.standard stamp attach).2] at failed
  have goes := wantsLogger_goes (h := Host.ofDepth depth) internals (.refl internals.holds) simple
  cases wants : wantsLogger (Host.ofDepth depth) (.object i) (.ofFlag? attach) w with
  | error g v =>
    rw [bind_of_error wants] at failed
    obtain ⟨rfl, -⟩ := EStateM.Result.error.inj failed
    exact invalid_of_wantsLogger internals simple wants
  | ok wanted v =>
    rw [bind_of_ok wants] at failed
    obtain ⟨_, _, done⟩ :=
      (conclude_goes internals reports (goes.of_ok wants).1 wanted depth).runs deep
    cases failed.symm.trans done

end Task

end EventTasks
