import EventTasks.Proofs.Attaching

/-!
What an install rejects, and how: its checks decide in a fixed order, and the fault is that of the
first one that fails. A rejected install has changed nothing, whatever state the task is in. Nothing
is assumed of the handlers but that they can be read, nor of the options and the runner but that
asking them does nothing.
-/
namespace EventTasks

open Act

namespace Act

variable {m : Act α} {w w' : World} {a : α}

theorem untouched_after (rests : ∀ d, ∃ w', Rests (.nothing d) w w' ∧
    ((∃ f, m w = .error f w') ∨ ∃ a, m w = .ok a w')) : Untouched w (m.after w) := by
  intro d
  obtain ⟨w', kept, ⟨f, run⟩ | ⟨a, run⟩⟩ := rests d
  · rwa [after_of_error run]
  · rwa [after_of_ok run]

end Act

namespace Task

variable {h : Host} {w u v : World} {i d : Nat} {n : String} {r : Ref} {l : Listing}
  {options runner name : Value} {text : String} {f g : Fault}

/-! What is asked -/

structure Reviewable (w : World) (i d : Nat) (r : Ref) (l : Listing) : Prop where
  standard : w.Standard
  usual : w.ReadsUsually i
  holds : w.Holds i d
  operations : ∀ op ∈ [TaskOp.parseOptions, .resolveHandlers],
    w.Means i op.name (.library (.task op))
  events : w.Shows i "events" (.ref r)
  apart : ∃ place, r.IsApart w place
  listing : w.listing? r = some l
  sound : l.Sound
  keys : ∀ e ∈ l.entries, ∃ place key, e.1 = .text place key

theorem DefaultInternals.reviewable (internals : DefaultInternals w i d r l) :
    Reviewable w i d r l :=
  { internals with
    operations := fun op hop => internals.operations op (by
      simp only [List.mem_cons, List.not_mem_nil, or_false] at hop
      rcases hop with rfl | rfl <;> decide)
    apart := ⟨d, internals.apart⟩ }

theorem Reviewable.untouched (reviewable : Reviewable w i d r l) (same : Untouched w u) :
    Reviewable u i d r l := by
  have kept := (same d).toKeeps
  obtain ⟨place, apart⟩ := reviewable.apart
  exact { reviewable with
    standard := kept.standard reviewable.standard
    usual := kept.readsUsually reviewable.usual
    holds := kept.holds reviewable.holds
    operations := fun op hop => kept.means reviewable.holds (.inr id) (by
      simp only [List.mem_cons, List.not_mem_nil, or_false] at hop
      rcases hop with rfl | rfl <;> decide) (reviewable.operations op hop)
    events := kept.shows reviewable.holds (.inr id) (by decide) reviewable.events
    apart := ⟨place, kept.isApart apart⟩
    listing := ((same place).toKeeps.listing? apart).trans reviewable.listing }

def Firm (h : Host) (w : World) (i : Nat) (n : String) : Prop :=
  ∃ b, ∀ u, Untouched w u → ∃ v u', h.attrOrNothing (.object i) n u = .ok v u' ∧
    Untouched u u' ∧ u'.isCallable v = b

def Handles (h : Host) (w : World) (i : Nat) (n : String) : Prop :=
  ∃ v u, h.attrOrNothing (.object i) n w = .ok v u ∧ u.isCallable v = true

def GoesBy (h : Host) (w : World) (i : Nat) (name : Value) (text : String) : Prop :=
  ∀ u, Untouched w u → h.attr (.object i) "name" u = .ok name u ∧
    h.formatted name u = .ok text u

def Decodes (k : Nat) (w : World) (options : Value) (stamp : Nat) (runner : Value)
    (attach : Option Bool) (u : World) : Prop :=
  parseOptions (Host.ofDepth k) options w.later = .ok (.options stamp runner attach) u

structure Asks (k : Nat) (w : World) (options : Value) : Prop where
  decoding : Untouched w.later ((parseOptions (Host.ofDepth k) options).after w.later)
  accepting : ∀ stamp runner attach u, Decodes k w options stamp runner attach u →
    runner.isNothing = false → Untouched u ((Runner.accepts (Host.ofDepth (k + 1)) runner).after u)
  describing : ∀ stamp runner attach u u', Decodes k w options stamp runner attach u →
    runner.isNothing = false → Runner.accepts (Host.ofDepth (k + 1)) runner u = .ok false u' →
    Untouched u' (((Host.ofDepth (k + 1)).describe runner).after u')

/-! What is rejected -/

inductive Refuses (h : Host) (w : World) (runner : Value) : Fault → Prop where
  | unlike {text : String} {u u' : World} (asked : Runner.accepts h runner w = .ok false u)
    (told : h.describe runner u = .ok text u') : Refuses h w runner (.notRunner text)
  | unasked {f : Fault} {u : World} (failed : Runner.accepts h runner w = .error f u) :
    Refuses h w runner f
  | untold {f : Fault} {u u' : World} (asked : Runner.accepts h runner w = .ok false u)
    (failed : h.describe runner u = .error f u') : Refuses h w runner f

/-- The first entry of a registry, in its order, without a handler: its key is empty, or the
attribute that it names cannot be called. -/
inductive Lacks (h : Host) (w : World) (i : Nat) (name : Value) (text : String) :
    List (Value × Value) → Fault → Prop where
  | empty {place : Nat} {event : Value} {rest : List (Value × Value)} :
    Lacks h w i name text ((.text place "", event) :: rest) .emptyEventKey
  | unhandled {place : Nat} {key n : String} {event : Value} {rest : List (Value × Value)}
    (named : Naming.handlerName? key = some n) (missing : ¬ Handles h w i n) :
    Lacks h w i name text ((.text place key, event) :: rest)
      (.missingHandler (.word n) name n text)
  | later {place : Nat} {key n : String} {event : Value} {rest : List (Value × Value)} {f : Fault}
    (named : Naming.handlerName? key = some n) (handled : Handles h w i n)
    (lacks : Lacks h w i name text rest f) :
    Lacks h w i name text ((.text place key, event) :: rest) f

/-- What `install` rejects, with which fault: options that cannot be decoded, then no runner, then
something that is no runner, then a registry entry without a handler. -/
inductive Rejects (k : Nat) (w : World) (i : Nat) (options name : Value) (text : String)
    (l : Listing) : Fault → Prop where
  | undecoded {f : Fault} {u : World}
    (failed : parseOptions (Host.ofDepth k) options w.later = .error f u) :
    Rejects k w i options name text l f
  | noRunner {stamp : Nat} {attach : Option Bool} {u : World}
    (decoded : Decodes k w options stamp .nothing attach u) :
    Rejects k w i options name text l .noRunner
  | refused {stamp : Nat} {runner : Value} {attach : Option Bool} {f : Fault} {u : World}
    (decoded : Decodes k w options stamp runner attach u)
    (something : runner.isNothing = false)
    (refuses : Refuses (Host.ofDepth (k + 1)) u runner f) : Rejects k w i options name text l f
  | lacking {stamp : Nat} {runner : Value} {attach : Option Bool} {f : Fault} {u u' : World}
    (decoded : Decodes k w options stamp runner attach u)
    (something : runner.isNothing = false)
    (accepted : Runner.accepts (Host.ofDepth (k + 1)) runner u = .ok true u')
    (lacks : Lacks (Host.ofDepth k) w i name text l.entries f) : Rejects k w i options name text l f

theorem handlerName?_eq_none {key : String} : Naming.handlerName? key = none ↔ key = "" := by
  by_cases empty : key = "" <;> simp [Naming.handlerName?, empty]

theorem Lacks.unique {entries : List (Value × Value)} (lacks : Lacks h w i name text entries f)
    (lacks' : Lacks h w i name text entries g) : f = g := by
  induction lacks with
  | empty =>
    cases lacks' with
    | empty => rfl
    | unhandled named | later named => simp [Naming.handlerName?] at named
  | unhandled named missing =>
    cases lacks' with
    | empty => simp [Naming.handlerName?] at named
    | unhandled named' => rw [Option.some.inj (named.symm.trans named')]
    | later named' handled =>
      exact absurd (Option.some.inj (named'.symm.trans named) ▸ handled) missing
  | later named handled rest ih =>
    cases lacks' with
    | empty => simp [Naming.handlerName?] at named
    | unhandled named' missing =>
      exact absurd (Option.some.inj (named.symm.trans named') ▸ handled) missing
    | later _ _ rest' => exact ih rest'

theorem not_lacks {entries : List (Value × Value)}
    (handled : ∀ e ∈ entries, ∀ place key, e.1 = .text place key →
      ∃ n, Naming.handlerName? key = some n ∧ Handles h w i n) (f : Fault) :
    ¬ Lacks h w i name text entries f := by
  intro lacks
  induction lacks with
  | empty =>
    obtain ⟨n, named, -⟩ := handled _ List.mem_cons_self _ _ rfl
    simp [Naming.handlerName?] at named
  | unhandled named missing =>
    obtain ⟨m, named', handles⟩ := handled _ List.mem_cons_self _ _ rfl
    exact missing (Option.some.inj (named'.symm.trans named) ▸ handles)
  | later named handles lacks ih =>
    exact ih fun e inside => handled e (List.mem_cons_of_mem _ inside)

/-! Options -/

theorem build_ok {flag : Value} (run : Options.build h runner flag w = .ok name u) :
    ∃ stamp attach, name = .options stamp runner attach := by
  obtain ⟨flag', w₁, -, run⟩ := bind_eq_ok.1 run
  cases read : Settings.readOptionalFlag flag' with
  | ok attach =>
    simp only [read] at run
    obtain ⟨rfl, -⟩ := EStateM.Result.ok.inj run
    exact ⟨_, attach, rfl⟩
  | error complaint =>
    simp only [read] at run
    obtain ⟨x, w₂, -, run⟩ := bind_eq_ok.1 run
    obtain ⟨f, w₃, -, run⟩ := bind_eq_ok.1 run
    simp at run

theorem parseOptions_ok (run : parseOptions h options w = .ok name u) :
    ∃ stamp runner attach, name = .options stamp runner attach := by
  have parsed {w u : World} (run : Options.parse h options w = .ok name u) :
      ∃ stamp runner attach, name = .options stamp runner attach := by
    unfold Options.parse at run
    split at run
    · obtain ⟨rfl, -⟩ := EStateM.Result.ok.inj run
      exact ⟨_, _, _, rfl⟩
    · obtain ⟨rfl, -⟩ := EStateM.Result.ok.inj run
      exact ⟨_, _, _, rfl⟩
    · obtain ⟨found, w₁, -, run⟩ := bind_eq_ok.1 run
      obtain ⟨stamp, attach, same⟩ := build_ok run
      exact ⟨stamp, _, attach, same⟩
  obtain ⟨asMapping, w₁, -, run⟩ := bind_eq_ok.1 run
  cases asMapping with
  | true =>
    simp only [if_true, tryCatch_run] at run
    cases inner : Options.parse h options w₁ with
    | ok x w₂ =>
      rw [inner] at run
      obtain ⟨rfl, -⟩ := EStateM.Result.ok.inj run
      exact parsed inner
    | error f w₂ =>
      rw [inner] at run
      cases f <;> simp at run
  | false =>
    simp only [Bool.false_eq_true, if_false] at run
    obtain ⟨has, w₂, -, run⟩ := bind_eq_ok.1 run
    cases has with
    | true =>
      simp only [if_true] at run
      obtain ⟨runner, w₃, -, run⟩ := bind_eq_ok.1 run
      obtain ⟨flag, w₄, -, run⟩ := bind_eq_ok.1 run
      obtain ⟨stamp, attach, same⟩ := build_ok run
      exact ⟨stamp, _, attach, same⟩
    | false =>
      simp only [Bool.false_eq_true, if_false] at run
      obtain ⟨x, w₃, -, run⟩ := bind_eq_ok.1 run
      simp at run

/-! Handlers -/

theorem Firm.read (firm : Firm h w i n) (same : Untouched w u) :
    ∃ v u', h.attrOrNothing (.object i) n u = .ok v u' ∧ Untouched u u' ∧
      (u'.isCallable v = true ↔ Handles h w i n) := by
  obtain ⟨b, reads⟩ := firm
  obtain ⟨v, u', run, same', callable⟩ := reads u same
  obtain ⟨v₀, u₀, run₀, -, callable₀⟩ := reads w (.refl w)
  refine ⟨v, u', run, same', fun yes => ⟨v₀, u₀, run₀, ?_⟩, fun ⟨v₁, u₁, run₁, yes⟩ => ?_⟩
  · rw [callable₀, ← callable, yes]
  · obtain ⟨rfl, rfl⟩ := EStateM.Result.ok.inj (run₀.symm.trans run₁)
    rw [callable, ← callable₀, yes]

def Pairs (w : World) (entry : Value × Value) (pair : Value × Ref) : Prop :=
  pair.1 = entry.2 ∧ w.isCallable (.ref pair.2) = true

structure Takes (h : Host) (w : World) (i : Nat) (entry : Value × Value) (pair : Value × Ref) :
    Prop where
  pairs : Pairs w entry pair
  read : ∃ place key n u u', entry.1 = .text place key ∧ Naming.handlerName? key = some n ∧
    Untouched w u ∧ h.attrOrNothing (.object i) n u = .ok (.ref pair.2) u'

theorem resolveEntry_decides (goes : GoesBy h w i name text) (same : Untouched w u) (place : Nat)
    {key : String} (event : Value)
    (firm : ∀ n, Naming.handlerName? key = some n → Firm h w i n) (found : List Value) :
    ∃ u', Untouched w u' ∧
      ((∃ f, resolveEntry h (.object i) found (.text place key, event) u = .error f u' ∧
          ∀ rest, Lacks h w i name text ((.text place key, event) :: rest) f) ∨
        ∃ n stamp g, resolveEntry h (.object i) found (.text place key, event) u =
            .ok (found ++ [.tuple stamp [event, .ref g]]) u' ∧
          Naming.handlerName? key = some n ∧ Handles h w i n ∧
          Takes h w i (.text place key, event) (event, g)) := by
  cases named : Naming.handlerName? key with
  | none =>
    have told : handlerName h (.text place key) u = .error .emptyEventKey u := by
      simp only [handlerName, named, throw_run]
    obtain rfl := handlerName?_eq_none.1 named
    exact ⟨u, same, .inl ⟨_, bind_of_error told, fun _ => .empty⟩⟩
  | some n =>
    have told : handlerName h (.text place key) u = .ok n u := by
      simp only [handlerName, named, pure_run]
    obtain ⟨v, u₁, read, same', callable⟩ := (firm n named).read same
    have same₁ := same.trans same'
    rw [resolveEntry, bind_of_ok told, bind_of_ok read, bind_of_ok (get_run u₁)]
    cases answer : u₁.isCallable v with
    | false =>
      obtain ⟨read', shown⟩ := goes u₁ same₁
      refine ⟨u₁, same₁, .inl ⟨_, ?_, fun _ => .unhandled named fun handles => ?_⟩⟩
      · simp only [Bool.not_false, if_true, bind_run, read', shown, throw_run]
      · simp [callable.2 handles] at answer
    | true =>
      obtain ⟨g, rfl⟩ := World.exists_ref_of_isCallable answer
      refine ⟨u₁.later, same₁.trans .later, .inr ⟨n, u₁.later.stamps, g, ?_, rfl,
        callable.1 answer, ⟨rfl, ((same₁ 0).toKeeps.isCallable _).symm.trans answer⟩,
        place, key, n, u, u₁, rfl, named, same, read⟩⟩
      simp only [Bool.not_true, Bool.false_eq_true, if_false, bind_run, newTuple_run, pure_run]

/-- Some entries are resolved one after the other, or the first one without a handler is met. -/
theorem foldlM_decides {entries : List (Value × Value)} (goes : GoesBy h w i name text)
    (keys : ∀ e ∈ entries, ∃ place key, e.1 = .text place key)
    (firm : ∀ e ∈ entries, ∀ place key n, e.1 = .text place key →
      Naming.handlerName? key = some n → Firm h w i n) (same : Untouched w u)
    {found : List Value} {pairs : List (Value × Ref)} (arePairs : ArePairs found pairs) :
    ∃ u', Untouched w u' ∧
      ((∃ f, (entries.foldlM (fun found e => do
          let _ ← newTuple [e.1, e.2]
          resolveEntry h (.object i) found e) found : Act _) u = .error f u' ∧
          Lacks h w i name text entries f) ∨
        (∀ f, ¬ Lacks h w i name text entries f) ∧
          ∃ items more, (entries.foldlM (fun found e => do
              let _ ← newTuple [e.1, e.2]
              resolveEntry h (.object i) found e) found : Act _) u = .ok items u' ∧
            ArePairs items (pairs ++ more) ∧ List.Forall₂ (Takes h w i) entries more) := by
  induction entries generalizing u found pairs with
  | nil =>
    refine ⟨u, same, .inr ⟨fun f lacks => ?_, found, [], rfl, by simpa using arePairs, .nil⟩⟩
    cases lacks
  | cons e entries ih =>
    obtain ⟨key', event⟩ := e
    obtain ⟨place, key, rfl⟩ : ∃ place key, key' = .text place key := keys (key', event) (by simp)
    rw [List.foldlM_cons]
    have first : (do
        let _ ← newTuple [.text place key, event]
        resolveEntry h (.object i) found (.text place key, event) : Act _) u =
          resolveEntry h (.object i) found (.text place key, event) u.later := rfl
    obtain ⟨u₁, same₁, outcome⟩ := resolveEntry_decides goes (same.trans .later) place event
      (fun n named => firm (.text place key, event) (by simp) place key n rfl named) found
    rcases outcome with ⟨f, run, lacks⟩ | ⟨n, stamp, g, run, named, handles, pair⟩
    · exact ⟨u₁, same₁, .inl ⟨f, bind_of_error (first.trans run), lacks entries⟩⟩
    · obtain ⟨u', same', outcome⟩ := ih (fun e he => keys e (by simp [he]))
        (fun e he => firm e (by simp [he])) same₁
        (List.rel_append arePairs (.cons ⟨stamp, rfl⟩ .nil) :
          ArePairs (found ++ [.tuple stamp [event, .ref g]]) (pairs ++ [(event, g)]))
      refine ⟨u', same', ?_⟩
      rw [bind_of_ok (first.trans run)]
      rcases outcome with ⟨f, runs, lacks⟩ | ⟨none, items, more, runs, arePairs, rest⟩
      · exact .inl ⟨f, runs, .later named handles lacks⟩
      · refine .inr ⟨fun f lacks => ?_, items, (event, g) :: more, runs, by simpa using arePairs,
          .cons pair rest⟩
        cases lacks with
        | empty => simp [Naming.handlerName?] at named
        | unhandled named' missing =>
          exact missing (Option.some.inj (named.symm.trans named') ▸ handles)
        | later _ _ lacks => exact none f lacks

/-- The handlers are found for the whole registry, or the first entry without one is met. -/
theorem resolveHandlers_decides (k : Nat) (reviewable : Reviewable w i d r l)
    (goes : GoesBy (Host.ofDepth (k + 1)) w i name text)
    (firm : ∀ e ∈ l.entries, ∀ place key n, e.1 = .text place key →
      Naming.handlerName? key = some n → Firm (Host.ofDepth (k + 1)) w i n) (same : Untouched w u) :
    ∃ u', Untouched w u' ∧
      ((∃ f, resolveHandlers (Host.ofDepth (k + 1)) (.object i) u = .error f u' ∧
          Lacks (Host.ofDepth (k + 1)) w i name text l.entries f) ∨
        (∀ f, ¬ Lacks (Host.ofDepth (k + 1)) w i name text l.entries f) ∧
          ∃ place items pairs,
            resolveHandlers (Host.ofDepth (k + 1)) (.object i) u = .ok (.ref (.list place)) u' ∧
            w.lists.size ≤ place ∧ u'.lists[place]? = some items ∧ ArePairs items pairs ∧
            List.Forall₂ (Takes (Host.ofDepth (k + 1)) w i) l.entries pairs) := by
  have now := reviewable.untouched same
  have read := Host.attr_shows (h := Host.ofDepth (k + 1)) now.usual now.events
  have leaves : ∀ e ∈ l.entries, Host.Leaves (fun _ u => Untouched w u)
      (resolveEntry (Host.ofDepth (k + 1)) (.object i)) e := by
    intro e he b u b' u' same run
    obtain ⟨key', event⟩ := e
    obtain ⟨place, key, rfl⟩ : ∃ place key, key' = .text place key := reviewable.keys _ he
    obtain ⟨u₁, same₁, outcome⟩ := resolveEntry_decides goes same place event
      (fun n named => firm _ he place key n rfl named) b
    rcases outcome with ⟨f, failed, -⟩ | ⟨n, stamp, g, done, -⟩
    · simp [failed] at run
    · obtain ⟨-, rfl⟩ := EStateM.Result.ok.inj (done.symm.trans run)
      exact same₁
  obtain ⟨u₁, -, same₁, fold⟩ := Host.foldEntries_eq (P := fun _ u => Untouched w u)
    now.standard now.sound now.listing (fun _ u same => (reviewable.untouched same).listing)
    (fun _ u same => same.trans .later) leaves [] (fun _ same' _ => same.trans same') k
  obtain ⟨u₂, same₂, outcome⟩ := foldlM_decides goes reviewable.keys firm same₁
    (.nil : ArePairs [] [])
  rw [← fold] at outcome
  rcases outcome with ⟨f, failed, lacks⟩ | ⟨none, items, pairs, done, arePairs, resolved⟩
  · refine ⟨u₂, same₂, .inl ⟨f, ?_, lacks⟩⟩
    rw [resolveHandlers, bind_of_ok read, bind_of_error failed]
  · refine ⟨_, same₂.trans fun d => .pushList items, .inr ⟨none, u₂.lists.size, items, pairs, ?_,
      (same₂ 0).lists.size_le, by simp, by simpa using arePairs, resolved⟩⟩
    rw [resolveHandlers, bind_of_ok read, bind_of_ok done]
    rfl

/-! The checks -/

theorem Decodes.unique {k stamp stamp' : Nat} {runner' : Value} {attach attach' : Option Bool}
    (decodes : Decodes k w options stamp runner attach u)
    (decodes' : Decodes k w options stamp' runner' attach' v) :
    stamp = stamp' ∧ runner = runner' ∧ attach = attach' ∧ u = v := by
  obtain ⟨same, rfl⟩ := EStateM.Result.ok.inj (Eq.trans (Eq.symm decodes) decodes')
  obtain ⟨rfl, rfl, rfl⟩ := Value.options.inj same
  exact ⟨rfl, rfl, rfl, rfl⟩

/-- The checks of `install` change nothing by reading the task, the options and the runner. -/
structure ChecksReadOnly (k : Nat) (w : World) (i d : Nat) (r : Ref) (l : Listing)
    (options name : Value)
    (text : String) : Prop extends Reviewable w i d r l, Asks k w options where
  goesBy : GoesBy (Host.ofDepth k) w i name text
  firm : ∀ e ∈ l.entries, ∀ place key n, e.1 = .text place key →
    Naming.handlerName? key = some n → Firm (Host.ofDepth k) w i n

section checks

variable {k : Nat} (readOnly : ChecksReadOnly (k + 1) w i d r l options name text)

include readOnly

theorem ChecksReadOnly.decode :
    (Host.ofDepth (k + 2)).send (.object i) "_parse_options" [options] w =
    parseOptions (Host.ofDepth (k + 1)) options w.later :=
  Host.send_means readOnly.usual (readOnly.operations .parseOptions (by simp)) (k + 1) [options]

theorem ChecksReadOnly.decoded {stamp : Nat} {attach : Option Bool}
    (decodes : Decodes (k + 1) w options stamp runner attach u) : Untouched w u := by
  have same := readOnly.decoding
  rw [after_of_ok decodes] at same
  exact Untouched.later.trans same

theorem ChecksReadOnly.accepted {stamp : Nat} {attach : Option Bool} {b : Bool}
    (decodes : Decodes (k + 1) w options stamp runner attach u)
    (something : runner.isNothing = false)
    (asked : Runner.accepts (Host.ofDepth (k + 2)) runner u = .ok b v) : Untouched w v := by
  have same := readOnly.accepting stamp runner attach u decodes something
  rw [after_of_ok asked] at same
  exact (readOnly.decoded decodes).trans same

theorem ChecksReadOnly.checked_eq {stamp : Nat} {attach : Option Bool}
    (decodes : Decodes (k + 1) w options stamp runner attach u) :
    checked (Host.ofDepth (k + 2)) (.object i) options w = (do
      if runner.isNothing then throw .noRunner
      if !(← Runner.accepts (Host.ofDepth (k + 2)) runner) then
        throw (.notRunner (← (Host.ofDepth (k + 2)).describe runner))
      let pairs ← (Host.ofDepth (k + 2)).send (.object i) "_resolve_handlers" []
      pure (.options stamp runner attach, runner, pairs) : Act _) u := by
  have standard := (readOnly.toReviewable.untouched (readOnly.decoded decodes)).standard
  have read : (Host.ofDepth (k + 2)).attr (.options stamp runner attach) runnerField u =
      .ok runner u := (attr_options standard stamp attach).1
  rw [checked, bind_of_ok (readOnly.decode.trans decodes)]
  simp only [checkedRunner, bind_run, read]
  cases runner.isNothing with
  | true => rfl
  | false =>
    simp only [Bool.false_eq_true, if_false, pure_run, bind_run]
    cases Runner.accepts (Host.ofDepth (k + 2)) runner u with
    | error f v => rfl
    | ok b v =>
      cases b with
      | true => simp only [Bool.not_true, Bool.false_eq_true, if_false, pure_run, bind_run]
      | false =>
        simp only [Bool.not_false, if_true, bind_run]
        cases (Host.ofDepth (k + 2)).describe runner v <;> rfl

theorem ChecksReadOnly.resolve (same : Untouched w v) :
    (Host.ofDepth (k + 2)).send (.object i) "_resolve_handlers" [] v =
      resolveHandlers (Host.ofDepth (k + 1)) (.object i) v.later := by
  have now := readOnly.toReviewable.untouched same
  exact Host.send_means now.usual (now.operations .resolveHandlers (by simp)) (k + 1) []

/-- What is rejected fails the checks, and they change nothing. -/
theorem Rejects.checked (rejects : Rejects (k + 1) w i options name text l f) :
    ∃ w', checked (Host.ofDepth (k + 2)) (.object i) options w = .error f w' ∧ Untouched w w' := by
  cases rejects with
  | @undecoded _ u failed =>
    have same := readOnly.decoding
    rw [after_of_error failed] at same
    exact ⟨u, bind_of_error (readOnly.decode.trans failed), Untouched.later.trans same⟩
  | noRunner decoded => exact ⟨_, readOnly.checked_eq decoded, readOnly.decoded decoded⟩
  | @refused stamp runner attach _ u decoded something refuses =>
    rw [readOnly.checked_eq decoded]
    simp only [something, Bool.false_eq_true, if_false, bind_run]
    cases refuses with
    | @unlike _ u₁ u₂ asked told =>
      refine ⟨u₂, by simp only [asked, Bool.not_false, if_true, bind_run, told, throw_run], ?_⟩
      have same := readOnly.describing stamp runner attach u u₁ decoded something asked
      rw [after_of_ok told] at same
      exact (readOnly.accepted decoded something asked).trans same
    | @unasked _ u₁ failed =>
      refine ⟨u₁, by simp only [failed], ?_⟩
      have same := readOnly.accepting stamp runner attach u decoded something
      rw [after_of_error failed] at same
      exact (readOnly.decoded decoded).trans same
    | @untold _ u₁ u₂ asked failed =>
      refine ⟨u₂, by simp only [asked, Bool.not_false, if_true, bind_run, failed], ?_⟩
      have same := readOnly.describing stamp runner attach u u₁ decoded something asked
      rw [after_of_error failed] at same
      exact (readOnly.accepted decoded something asked).trans same
  | lacking decoded something accepted lacks =>
    have same := readOnly.accepted decoded something accepted
    obtain ⟨w', same', outcome⟩ :=
      resolveHandlers_decides k readOnly.toReviewable readOnly.goesBy readOnly.firm
      (same.trans .later)
    rcases outcome with ⟨g, failed, lacks'⟩ | ⟨none, -⟩
    · refine ⟨w', ?_, same'⟩
      rw [readOnly.checked_eq decoded]
      simp only [something, Bool.false_eq_true, if_false, bind_run, accepted, Bool.not_true,
        readOnly.resolve same, failed, lacks.unique lacks']
    · exact absurd lacks (none f)

theorem Rejects.install_fails (rejects : Rejects (k + 1) w i options name text l f) :
    ∃ w', install (Host.ofDepth (k + 2)) (.object i) options w = .error f w' ∧ Untouched w w' := by
  obtain ⟨w', failed, same⟩ := rejects.checked readOnly
  exact ⟨w', bind_of_error failed, same⟩

/-- What is not rejected passes the checks, with the handlers of the registry in a new list. -/
theorem taken_of_not_rejects (passes : ∀ f, ¬ Rejects (k + 1) w i options name text l f) :
    ∃ stamp runner attach place items pairs w', Untouched w w' ∧
      checked (Host.ofDepth (k + 2)) (.object i) options w =
        .ok (.options stamp runner attach, runner, .ref (.list place)) w' ∧
      (∃ u, Decodes (k + 1) w options stamp runner attach u) ∧ w.lists.size ≤ place ∧
      w'.lists[place]? = some items ∧ ArePairs items pairs ∧
      List.Forall₂ (Takes (Host.ofDepth (k + 1)) w i) l.entries pairs := by
  cases decoded : parseOptions (Host.ofDepth (k + 1)) options w.later with
  | error f u => exact absurd (.undecoded decoded) (passes f)
  | ok found u =>
    obtain ⟨stamp, runner, attach, rfl⟩ := parseOptions_ok decoded
    have decodes : Decodes (k + 1) w options stamp runner attach u := decoded
    have something : runner.isNothing = false := by
      cases runner with
      | nothing => exact absurd (.noRunner decodes) (passes _)
      | _ => rfl
    cases asked : Runner.accepts (Host.ofDepth (k + 2)) runner u with
    | error f v => exact absurd (.refused decodes something (.unasked asked)) (passes f)
    | ok b v =>
      cases b with
      | false =>
        cases told : (Host.ofDepth (k + 2)).describe runner v with
        | ok text' v' =>
          exact absurd (.refused decodes something (.unlike asked told)) (passes _)
        | error f v' => exact absurd (.refused decodes something (.untold asked told)) (passes f)
      | true =>
        have same := readOnly.accepted decodes something asked
        obtain ⟨w', same', outcome⟩ :=
          resolveHandlers_decides k readOnly.toReviewable readOnly.goesBy
          readOnly.firm (same.trans .later)
        rcases outcome with ⟨f, -, lacks⟩ | ⟨-, place, items, pairs, done, new, list,
          arePairs, resolved⟩
        · exact absurd (.lacking decodes something asked lacks) (passes f)
        · refine ⟨stamp, runner, attach, place, items, pairs, w', same', ?_,
            ⟨u, decodes⟩, new, list,
            arePairs, resolved⟩
          rw [readOnly.checked_eq decodes]
          simp only [something, Bool.false_eq_true, if_false, pure_run, bind_run, asked,
            Bool.not_true, readOnly.resolve same, done]

/-- What is not rejected comes up with something that can be called for every entry. -/
theorem checked_of_not_rejects (passes : ∀ f, ¬ Rejects (k + 1) w i options name text l f) :
    ∃ stamp runner attach place items pairs w', Untouched w w' ∧
      checked (Host.ofDepth (k + 2)) (.object i) options w =
        .ok (.options stamp runner attach, runner, .ref (.list place)) w' ∧
      (∃ u, Decodes (k + 1) w options stamp runner attach u) ∧ w.lists.size ≤ place ∧
      w'.lists[place]? = some items ∧ ArePairs items pairs ∧
      List.Forall₂ (Pairs w) l.entries pairs := by
  obtain ⟨stamp, runner, attach, place, items, pairs, w', same, passed, decodes, new,
    list, arePairs,
    taken⟩ := taken_of_not_rejects readOnly passes
  exact ⟨stamp, runner, attach, place, items, pairs, w', same, passed, decodes, new, list, arePairs,
    taken.imp fun _ _ => Takes.pairs⟩

end checks

/-! Where nothing written is asked -/

/-- Asking simple options does nothing if what they offer is accepted without doing anything. -/
theorem asks_of_accepted {flag : Value} (offers : w.Offers options runner flag)
    (simple : flag.IsSimple)
    (k : Nat) (accepts : runner.isNothing = false → ∀ stamp attach u,
      Decodes k w options stamp runner attach u → Untouched w u → ∃ u',
        Runner.accepts (Host.ofDepth (k + 1)) runner u = .ok true u' ∧ Untouched u u') :
    Asks k w options := by
  have parsed (d : Nat) :=
    parseOptions_eq (h := Host.ofDepth k) (s := .nothing d) offers.later simple
  have decoding : Untouched w.later ((parseOptions (Host.ofDepth k) options).after w.later) :=
    untouched_after fun d => by
      obtain ⟨w', kept, ⟨f, run⟩ | ⟨stamp, attach, run⟩⟩ := parsed d
      · exact ⟨w', kept, .inl ⟨f, run⟩⟩
      · exact ⟨w', kept, .inr ⟨_, run⟩⟩
  have accepted {stamp : Nat} {runner' : Value} {attach : Option Bool} {u : World}
      (decodes : Decodes k w options stamp runner' attach u) (something :
        runner'.isNothing = false) :
      ∃ u', Runner.accepts (Host.ofDepth (k + 1)) runner' u = .ok true u' ∧ Untouched u u' := by
    obtain ⟨w', -, ⟨f, run⟩ | ⟨stamp', attach', run⟩⟩ := parsed 0
    · cases run.symm.trans decodes
    · obtain ⟨same, rfl⟩ := EStateM.Result.ok.inj (run.symm.trans decodes)
      obtain ⟨rfl, rfl, rfl⟩ := Value.options.inj same
      rw [after_of_ok run] at decoding
      exact accepts something _ _ _ run (Untouched.later.trans decoding)
  refine ⟨decoding, fun stamp runner' attach u decodes something => ?_,
    fun stamp runner' attach u u' decodes something refused => ?_⟩
  · obtain ⟨u', run, kept⟩ := accepted decodes something
    rwa [after_of_ok run]
  · obtain ⟨u', run, -⟩ := accepted decodes something
    cases run.symm.trans refused

/-- Asking simple options that offer nothing at all, or an emitter in order, does nothing. -/
theorem asks_of_offers {flag : Value} (standard : w.Standard)
    (offers : w.Offers options runner flag)
    (simple : flag.IsSimple) (checkable : w.Checkable runner) (k : Nat) : Asks k w options := by
  refine asks_of_accepted offers simple k fun something _ _ u _ same => ?_
  obtain rfl | ⟨r, e, p, rfl, emitter⟩ := checkable
  · simp [Value.isNothing] at something
  · have kept := (same e).toKeeps
    exact Runner.accepts_emitter (kept.standard standard)
      (kept.isEmitter (Scope.spares_nothing e e) emitter)

theorem goesBy_of_shows (usual : w.ReadsUsually i) (holds : w.Holds i d) (simple : name.IsSimple)
    (shows : w.Shows i "name" name) : ∃ text, GoesBy h w i name text := by
  obtain ⟨text, told⟩ := Host.formatted_simple simple
  refine ⟨text, fun u same => ⟨?_, told h u⟩⟩
  have kept := (same d).toKeeps
  exact Host.attr_shows (kept.readsUsually usual) (kept.shows holds (.inr id) (by decide) shows)

theorem firm_of_gives {x : Value} (usual : w.ReadsUsually i) (holds : w.Holds i d)
    (hn : n ≠ "__annotations__") (gives : w.Gives i n x) : Firm h w i n := by
  refine ⟨w.isCallable x, fun u same => ⟨x, u, ?_, .refl u, (same d).toKeeps.isCallable x⟩⟩
  have kept := (same d).toKeeps
  exact Host.attrOrNothing_gives (kept.readsUsually usual) (kept.gives holds (.inr id) hn gives)

theorem handles_of_means {f : Function} (usual : w.ReadsUsually i) (means : w.Means i n f) :
    Handles h w i n := by
  refine ⟨.ref (.method w.later.stamps (.object i) f), w.later, ?_, rfl⟩
  rw [Host.attrOrNothing, orMissing, tryCatch_run, Host.attr_means usual means]

theorem firm_of_means {f : Function} (usual : w.ReadsUsually i) (holds : w.Holds i d)
    (hn : n ≠ "__annotations__") (means : w.Means i n f) : Firm h w i n := by
  refine ⟨true, fun u same =>
    ⟨.ref (.method u.later.stamps (.object i) f), u.later, ?_, .later, rfl⟩⟩
  have kept := (same d).toKeeps
  rw [Host.attrOrNothing, orMissing, tryCatch_run,
    Host.attr_means (kept.readsUsually usual) (kept.means holds (.inr id) hn means)]

/-- Nothing stands in the way of reviewing a task whose handlers are values, methods or missing, and
options that can be asked. -/
theorem Reviewable.readOnly {k : Nat} (reviewable : Reviewable w i d r l) (named : IsNamed w i)
    (asks : Asks k w options)
    (handlers : ∀ e ∈ l.entries, ∀ place key n, e.1 = .text place key →
      Naming.handlerName? key = some n → (∃ x, w.Gives i n x) ∨ ∃ f, w.Means i n f) :
    ∃ name text, ChecksReadOnly k w i d r l options name text := by
  obtain ⟨name, simple, shows⟩ := named
  obtain ⟨text, goesBy⟩ :=
    goesBy_of_shows (h := Host.ofDepth k) reviewable.usual reviewable.holds simple shows
  refine ⟨name, text, { reviewable, asks with
    goesBy := goesBy
    firm := fun e he place key n same named => ?_ }⟩
  rcases handlers e he place key n same named with ⟨x, gives⟩ | ⟨f, means⟩
  · exact firm_of_gives reviewable.usual reviewable.holds (handlerName_ne named) gives
  · exact firm_of_means reviewable.usual reviewable.holds (handlerName_ne named) means

theorem DefaultInternals.readOnly_of_asks {k : Nat} (internals : DefaultInternals w i d r l)
    (asks : Asks k w options)
    (handlers : ∀ e ∈ l.entries, ∀ place key n, e.1 = .text place key →
      Naming.handlerName? key = some n → (∃ x, w.Gives i n x) ∨ ∃ f, w.Means i n f) :
    ∃ name text, ChecksReadOnly k w i d r l options name text :=
  internals.reviewable.readOnly internals.named asks handlers

/-- In particular if the options are simple and offer nothing or an emitter in order. -/
theorem DefaultInternals.readOnly {flag : Value} (internals : DefaultInternals w i d r l)
    (offers : w.Offers options runner flag) (simple : flag.IsSimple)
    (checkable : w.Checkable runner)
    (handlers : ∀ e ∈ l.entries, ∀ place key n, e.1 = .text place key →
      Naming.handlerName? key = some n → (∃ x, w.Gives i n x) ∨ ∃ f, w.Means i n f) (k : Nat) :
    ∃ name text, ChecksReadOnly k w i d r l options name text :=
  internals.readOnly_of_asks (asks_of_offers internals.standard offers simple checkable k) handlers

end Task

end EventTasks
