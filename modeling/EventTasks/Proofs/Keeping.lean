import EventTasks.Proofs.Outcome
import EventTasks.Proofs.Subscribing
import EventTasks.Proofs.Textual

/-!
What a computation leaves as it was. A scope says what may be changed: the attributes held at one
place, under some names, and the tables at some places. Everything else that was there is kept; new
things may be made, and a class may remember more of itself: the mapping of its fields, and what the
contract found of it.
-/
namespace EventTasks

def GrownBut (P : Nat → Prop) (a b : Array α) : Prop :=
  ∀ i x, ¬ P i → a[i]? = some x → b[i]? = some x

abbrev Grown (a b : Array α) : Prop := GrownBut (fun _ => False) a b

theorem GrownBut.refl (P : Nat → Prop) (a : Array α) : GrownBut P a a := fun _ _ _ h => h

theorem GrownBut.trans {P : Nat → Prop} {a b c : Array α} (h : GrownBut P a b)
    (h' : GrownBut P b c) : GrownBut P a c := fun i x hi hx => h' i x hi (h i x hi hx)

theorem GrownBut.mono {P Q : Nat → Prop} {a b : Array α} (h : GrownBut P a b)
    (sub : ∀ i, P i → Q i) : GrownBut Q a b := fun i x hi hx => h i x (fun hp => hi (sub i hp)) hx

theorem GrownBut.size_le {a b : Array α} (grown : Grown a b) : a.size ≤ b.size := by
  by_contra less
  have there : b.size < a.size := by omega
  have absent := grown b.size a[b.size] id (Array.getElem?_eq_getElem there)
  simp at absent

theorem grownBut_push (P : Nat → Prop) (a : Array α) (x : α) : GrownBut P a (a.push x) := by
  intro i y _ hy
  have lt := (Array.getElem?_eq_some_iff.1 hy).1
  rwa [Array.getElem?_push, if_neg (by omega)]

theorem grownBut_modify {P : Nat → Prop} {i : Nat} (hi : P i) (a : Array α) (f : α → α) :
    GrownBut P a (a.modify i f) := by
  intro j x hj hx
  have other : i ≠ j := fun same => hj (same ▸ hi)
  rwa [Array.getElem?_modify, if_neg other]

theorem grownBut_setIfInBounds {P : Nat → Prop} {i : Nat} (hi : P i) (a : Array α) (x : α) :
    GrownBut P a (a.setIfInBounds i x) := by
  intro j y hj hy
  have other : i ≠ j := fun same => hj (same ▸ hi)
  rwa [Array.getElem?_setIfInBounds_ne other]

structure ClassInfo.Alike (k k' : ClassInfo) : Prop where
  order : k'.order = k.order
  kind : k'.kind = k.kind
  lookup : ∀ n, n ≠ "__annotations__" → k'.body.lookup n = k.body.lookup n
  entries : ∀ p ∈ k'.body, p.1 = "__annotations__" ∧ (∃ q, p.2 = .ref (.dict q)) ∨ p ∈ k.body

theorem ClassInfo.Alike.refl (k : ClassInfo) : k.Alike k :=
  ⟨rfl, rfl, fun _ _ => rfl, fun _ => .inr⟩

theorem ClassInfo.Alike.trans {k l m : ClassInfo} (h : k.Alike l) (h' : l.Alike m) : k.Alike m where
  order := h'.order.trans h.order
  kind := h'.kind.trans h.kind
  lookup n hn := (h'.lookup n hn).trans (h.lookup n hn)
  entries p hp := (h'.entries p hp).elim .inl (h.entries p)

def FunctionInfo.ran (f : FunctionInfo) (runs : Nat) : FunctionInfo :=
  { f with behaviour := { f.behaviour with runs } }

def FunctionsKept (a b : Array FunctionInfo) : Prop :=
  ∀ (i : Nat) f, a[i]? = some f → ∃ runs, b[i]? = some (f.ran runs)

theorem FunctionsKept.refl (a : Array FunctionInfo) : FunctionsKept a a :=
  fun _ f found => ⟨f.behaviour.runs, found⟩

theorem FunctionsKept.trans {a b c : Array FunctionInfo} (h : FunctionsKept a b)
    (h' : FunctionsKept b c) : FunctionsKept a c := by
  intro i f found
  obtain ⟨runs, found⟩ := h i f found
  obtain ⟨runs', found⟩ := h' i _ found
  exact ⟨runs', found⟩

theorem functionsKept_modify (a : Array FunctionInfo) (i : Nat) :
    FunctionsKept a (a.modify i fun f => f.ran (f.behaviour.runs + 1)) := by
  intro j f found
  rw [Array.getElem?_modify]
  split
  · exact ⟨_, by rw [found]; rfl⟩
  · exact ⟨f.behaviour.runs, found⟩

/-- What may be changed: attributes held at a place, and tables. -/
structure Scope where
  place : Nat
  names : String → Prop
  tables : Nat → Prop

def Scope.nothing (place : Nat) : Scope := ⟨place, fun _ => False, fun _ => False⟩

def Scope.own (place : Nat) : Scope := ⟨place, fun _ => True, fun _ => False⟩

def Gathering.Texts (g : Gathering) : Prop := ∀ m ∈ g.members, ∃ place s, m.value = .text place s

/-- Between two worlds nothing was changed outside a scope. -/
structure Keeps (s : Scope) (w w' : World) : Prop where
  classes : ∀ c, (w.classInfo c).Alike (w'.classInfo c)
  objects : w'.objects = w.objects
  properties : w'.properties = w.properties
  functions : FunctionsKept w.functions w'.functions
  forwarded : Grown w.forwarders w'.forwarders
  lists : Grown w.lists w'.lists
  dicts : GrownBut (· = s.place) w.dicts w'.dicts
  attributes : ∀ n, ¬ s.names n → (w'.dictAt s.place).text? n = (w.dictAt s.place).text? n
  textual : (w.dictAt s.place).Textual → (w'.dictAt s.place).Textual
  dictsSize : w.dicts.size ≤ w'.dicts.size
  tables : GrownBut s.tables w.tables w'.tables
  tablesSize : w.tables.size ≤ w'.tables.size
  texts : ∀ g, (w.namesAt g).Texts → (w'.namesAt g).Texts

namespace Keeps

variable {s : Scope} {u v w w' : World}

@[refl]
theorem refl (s : Scope) (w : World) : Keeps s w w :=
  ⟨fun _ => .refl _, rfl, rfl, .refl _, .refl _ _, .refl _ _, .refl _ _, fun _ _ => rfl, id,
    Nat.le_refl _,
    .refl _ _, Nat.le_refl _, fun _ => id⟩

theorem trans (h : Keeps s u v) (h' : Keeps s v w) : Keeps s u w where
  classes c := (h.classes c).trans (h'.classes c)
  objects := h'.objects.trans h.objects
  properties := h'.properties.trans h.properties
  functions := h.functions.trans h'.functions
  forwarded := h.forwarded.trans h'.forwarded
  lists := h.lists.trans h'.lists
  dicts := h.dicts.trans h'.dicts
  attributes n hn := (h'.attributes n hn).trans (h.attributes n hn)
  textual := h'.textual ∘ h.textual
  dictsSize := h.dictsSize.trans h'.dictsSize
  tables := h.tables.trans h'.tables
  tablesSize := h.tablesSize.trans h'.tablesSize
  texts g := h'.texts g ∘ h.texts g

theorem mono {t : Scope} (h : Keeps s w w') (place : t.place = s.place)
    (names : ∀ n, s.names n → t.names n) (tables : ∀ p, s.tables p → t.tables p) :
    Keeps t w w' := by
  obtain ⟨p, N, T⟩ := t
  obtain rfl : p = s.place := place
  exact { h with
    attributes := fun n hn => h.attributes n fun hs => hn (names n hs)
    tables := h.tables.mono tables }

theorem of_eq (classes : w'.classes = w.classes) (objects : w'.objects = w.objects)
    (properties : w'.properties = w.properties) (functions : FunctionsKept w.functions w'.functions)
    (forwarded : Grown w.forwarders w'.forwarders) (lists : w'.lists = w.lists)
    (dicts : w'.dicts = w.dicts) (tables : w'.tables = w.tables)
    (gatherings : w'.gatherings = w.gatherings) : Keeps s w w' where
  classes c := by
    simp only [World.classInfo, classes]
    exact .refl _
  objects := objects
  properties := properties
  functions := functions
  forwarded := forwarded
  lists := lists ▸ .refl _ _
  dicts := dicts ▸ .refl _ _
  attributes n _ := by simp only [World.dictAt, dicts]
  textual := by simp only [World.dictAt, dicts, imp_self]
  dictsSize := dicts ▸ Nat.le_refl _
  tables := tables ▸ .refl _ _
  tablesSize := tables ▸ Nat.le_refl _
  texts g := by simp only [World.namesAt, gatherings, imp_self]

theorem later : Keeps s w w.later := of_eq rfl rfl rfl (.refl _) (.refl _ _) rfl rfl rfl rfl

theorem pushList (l : List Value) : Keeps s w { w with lists := w.lists.push l } :=
  { refl s w with lists := grownBut_push _ _ _ }

theorem putTable {p : Nat} (hp : s.tables p) (x : Subscriptions) : Keeps s w (w.putTable p x) :=
  { refl s w with
    tables := grownBut_setIfInBounds hp _ _
    tablesSize := by simp [World.putTable] }

/-- A change of the attributes held at the place that leaves the names outside the scope alone. -/
theorem changeText {f : Dictionary → Dictionary}
    (others : ∀ (D : Dictionary) n, ¬ s.names n → (f D).text? n = D.text? n)
    (textual : ∀ D : Dictionary, D.Textual → (f D).Textual) :
    Keeps s w { w with dicts := w.dicts.modify s.place f } := by
  have there : ({ w with dicts := w.dicts.modify s.place f } : World).dictAt s.place =
      if s.place < w.dicts.size then f (w.dictAt s.place) else w.dictAt s.place := by
    simp only [World.dictAt, Array.getElem?_modify, if_true]
    split <;> simp [*]
  exact { refl s w with
    dicts := grownBut_modify (P := (· = s.place)) rfl _ _
    attributes := fun n hn => by
      rw [there]
      split
      · exact others _ n hn
      · rfl
    textual := fun h => by
      rw [there]
      split
      · exact textual _ h
      · exact h
    dictsSize := by simp }

theorem setText {n : String} (hn : s.names n) (x : Value) :
    Keeps s w { w with dicts := w.dicts.modify s.place (·.setText n x) } :=
  changeText (fun D m hm => (D.text?_setText n m x).trans
    (if_neg fun same : m = n => hm (same ▸ hn)))
    fun _ h => h.setText n x

theorem pushDict_of_eq {d : Dictionary}
    (there : ({ w with dicts := w.dicts.push d } : World).dictAt s.place = w.dictAt s.place) :
    Keeps s w { w with dicts := w.dicts.push d } :=
  { refl s w with
    dicts := grownBut_push _ _ _
    attributes := fun m _ => by rw [there]
    textual := fun h => by rwa [there]
    dictsSize := by simp }

theorem pushDict : Keeps s w { w with dicts := w.dicts.push {} } := by
  refine pushDict_of_eq ?_
  simp only [World.dictAt, Array.getElem?_push]
  split
  · rename_i last
    simp [last]
  · rfl

theorem pushDict_of_lt (inside : s.place < w.dicts.size) (d : Dictionary) :
    Keeps s w { w with dicts := w.dicts.push d } :=
  pushDict_of_eq (by simp only [World.dictAt, Array.getElem?_push, if_neg (Nat.ne_of_lt inside)])

end Keeps

def World.Recalls (w w' : World) : Prop :=
  ∀ c v, (w.classInfo c).body.lookup "__annotations__" = some v →
    (w'.classInfo c).body.lookup "__annotations__" = some v

theorem World.Recalls.of_eq {w w' : World} (classes : w'.classes = w.classes) : w.Recalls w' := by
  intro c v known
  rwa [World.classInfo, classes]

/-- As `Keeps`, and nothing was said, no set was added to, no forwarder was made, no name was
given. -/
structure Rests (s : Scope) (w w' : World) : Prop extends Keeps s w w' where
  recalls : w.Recalls w'
  forwarders : w'.forwarders = w.forwarders
  gatherings : w'.gatherings = w.gatherings
  around : w'.around = w.around
  names : w'.names = w.names

instance {s : Scope} {w w' : World} : Coe (Rests s w w') (Keeps s w w') := ⟨Rests.toKeeps⟩

namespace Rests

variable {s : Scope} {u v w w' : World}

@[refl]
theorem refl (s : Scope) (w : World) : Rests s w w := ⟨.refl s w, .of_eq rfl, rfl, rfl, rfl, rfl⟩

theorem trans (h : Rests s u v) (h' : Rests s v w) : Rests s u w where
  toKeeps := h.toKeeps.trans h'.toKeeps
  recalls c v known := h'.recalls c v (h.recalls c v known)
  forwarders := h'.forwarders.trans h.forwarders
  gatherings := h'.gatherings.trans h.gatherings
  around := h'.around.trans h.around
  names := h'.names.trans h.names

theorem mono {t : Scope} (h : Rests s w w') (place : t.place = s.place)
    (names : ∀ n, s.names n → t.names n) (tables : ∀ p, s.tables p → t.tables p) :
    Rests t w w' := { h with toKeeps := h.toKeeps.mono place names tables }

theorem later : Rests s w w.later := ⟨.later, .of_eq rfl, rfl, rfl, rfl, rfl⟩

theorem pushList (l : List Value) : Rests s w { w with lists := w.lists.push l } :=
  ⟨.pushList l, .of_eq rfl, rfl, rfl, rfl, rfl⟩

theorem putTable {p : Nat} (hp : s.tables p) (x : Subscriptions) : Rests s w (w.putTable p x) :=
  ⟨.putTable hp x, .of_eq rfl, rfl, rfl, rfl, rfl⟩

end Rests

/-- Between two worlds nothing was changed at all. -/
def Untouched (w w' : World) : Prop := ∀ d, Rests (.nothing d) w w'

namespace Untouched

variable {u v w w' : World}

@[refl]
theorem refl (w : World) : Untouched w w := fun _ => .refl _ w

theorem trans (h : Untouched u v) (h' : Untouched v w) : Untouched u w :=
  fun d => (h d).trans (h' d)

theorem later : Untouched w w.later := fun _ => .later

theorem rests {s : Scope} (untouched : Untouched w w') : Rests s w w' :=
  (untouched s.place).mono rfl (fun _ => False.elim) (fun _ => False.elim)

theorem keeps {s : Scope} (untouched : Untouched w w') : Keeps s w w' := untouched.rests.toKeeps

end Untouched

def Stays (w w' : World) : Prop := ∀ d < w.dicts.size, Rests (.nothing d) w w'

theorem Untouched.stays {w w' : World} (untouched : Untouched w w') : Stays w w' :=
  fun d _ => untouched d

namespace Stays

variable {u v w : World}

@[refl]
theorem refl (w : World) : Stays w w := fun _ _ => .refl _ w

theorem trans (h : Stays u v) (h' : Stays v w) : Stays u w := fun d inside =>
  (h d inside).trans (h' d (Nat.lt_of_lt_of_le inside (h d inside).dictsSize))

end Stays

namespace Act

variable {m : Act α} {f : α → Act β} {w w' : World} {a : α} {Q : α → World → Prop}

/-! What holds of the world that a computation ends in -/

/-- A computation ends in a world of which `R` holds, and succeeds if all is `fine`; `Q` holds of
what it then gives. -/
structure Goes (fine : Prop) (R : World → Prop) (m : Act α) (w : World)
    (Q : α → World → Prop) : Prop where
  stays : R (m.after w)
  runs : fine → ∃ a w', m w = .ok a w'
  gives : ∀ a w', m w = .ok a w' → Q a w'

section goes

variable {fine fine' : Prop} {S S' : World → Prop} {T : β → World → Prop}

theorem Goes.of_ok (goes : Goes fine S m w Q) (run : m w = .ok a w') : S w' ∧ Q a w' :=
  ⟨after_of_ok run ▸ goes.stays, goes.gives a w' run⟩

theorem Goes.of_error {e : Fault} (goes : Goes fine S m w Q) (run : m w = .error e w') :
    S w' ∧ ¬ fine := by
  refine ⟨after_of_error run ▸ goes.stays, fun good => ?_⟩
  obtain ⟨a, u, run'⟩ := goes.runs good
  simp [run] at run'

theorem goes_of_ok (run : m w = .ok a w') (stays : S w') (gives : Q a w') : Goes fine S m w Q where
  stays := by rwa [after_of_ok run]
  runs _ := ⟨a, w', run⟩
  gives b u run' := by
    obtain ⟨rfl, rfl⟩ := EStateM.Result.ok.inj (run.symm.trans run')
    exact gives

theorem goes_of_error {e : Fault} (run : m w = .error e w') (stays : S w') (bad : ¬ fine) :
    Goes fine S m w Q where
  stays := by rwa [after_of_error run]
  runs good := absurd good bad
  gives b u run' := by simp [run] at run'

theorem goes_pure (stays : S w) (gives : Q a w) : Goes fine S (pure a) w Q :=
  goes_of_ok rfl stays gives

theorem Goes.mono (goes : Goes fine S m w Q) (better : fine' → fine) (less : ∀ u, S u → S' u)
    {Q' : α → World → Prop} (sub : ∀ a u, S u → Q a u → Q' a u) : Goes fine' S' m w Q' where
  stays := less _ goes.stays
  runs good := goes.runs (better good)
  gives a u run := sub a u (goes.of_ok run).1 (goes.gives a u run)

/-- What a computation does may be read off another one that goes on in a later world. -/
theorem goes_of_eq {m' : Act α} (same : m w = m' w') (goes : Goes fine S m' w' Q) :
    Goes fine S m w Q where
  stays := by
    rw [after, same]
    exact goes.stays
  runs good := same ▸ goes.runs good
  gives a u run := goes.gives a u (same ▸ run)

theorem goes_bind (first : Goes fine S m w Q)
    (second : ∀ a w', S w' → Q a w' → Goes fine S (f a) w' T) : Goes fine S (m >>= f) w T := by
  cases run : m w with
  | ok a w' =>
    obtain ⟨stays, gives⟩ := first.of_ok run
    exact goes_of_eq (bind_of_ok run) (second a w' stays gives)
  | error e w' =>
    obtain ⟨stays, bad⟩ := first.of_error run
    exact goes_of_error (bind_of_error run) stays bad

/-- Goes on behind a step whose outcome is known. -/
theorem goes_bind_of_ok (run : m w = .ok a w') (rest : Goes fine S (f a) w' T) :
    Goes fine S (m >>= f) w T := goes_of_eq (bind_of_ok run) rest

theorem goes_attempt (stays : S (m.after w)) : Goes fine S (attempt m) w fun _ _ => True where
  stays := after_attempt (R := fun _ u => S u) stays
  runs _ := attempt_run m w
  gives _ _ _ := trivial

/-- What every step of a fold keeps, the whole fold keeps. -/
theorem goes_foldlM {l : List α} {g : β → α → Act β} {b : β}
    (step : ∀ x ∈ l, ∀ b u, S u → T b u → Goes fine S (g b x) u T) (stays : S w) (now : T b w) :
    Goes fine S (l.foldlM g b) w T := by
  induction l generalizing b w with
  | nil => exact goes_pure stays now
  | cons x l ih =>
    rw [List.foldlM_cons]
    exact goes_bind (step x (by simp) b w stays now) fun b' u stays' now' =>
      ih (fun y hy => step y (by simp [hy])) stays' now'

end goes

end Act

end EventTasks
