import EventTasks.Host

/-!
Computations on the world, one outcome at a time: what the steps of a computation do in a given
world, when a sequence of steps succeeds or fails, and in which world it ends.
-/
namespace EventTasks

namespace Act

/-- The world in which a computation ends, whether it succeeds or fails. -/
def after (m : Act α) (w : World) : World :=
  match m w with
  | .ok _ w' => w'
  | .error _ w' => w'

def succeeds (m : Act α) (w : World) : Bool :=
  match m w with
  | .ok _ _ => true
  | .error _ _ => false

def value? (m : Act α) (w : World) : Option α :=
  match m w with
  | .ok a _ => some a
  | .error _ _ => none

def endedIn (kind : FaultKind) : Except Fault α → Bool
  | .ok _ => false
  | .error e => e.kind = kind

variable {m : Act α} {f : α → Act β} {w w' : World} {a : α} {b : β} {e : Fault}

@[simp]
theorem pure_run (a : α) (w : World) : (pure a : Act α) w = .ok a w := rfl

@[simp]
theorem get_run (w : World) : (get : Act World) w = .ok w w := rfl

@[simp]
theorem throw_run (e : Fault) (w : World) : (throw e : Act α) w = .error e w := rfl

@[simp]
theorem modify_run (g : World → World) (w : World) :
    (modify g : Act Unit) w = .ok ⟨⟩ (g w) := rfl

@[simp]
theorem set_run (w' w : World) : (set w' : Act PUnit) w = .ok ⟨⟩ w' := rfl

@[simp]
theorem modifyGet_run (g : World → α × World) (w : World) :
    (modifyGet g : Act α) w = .ok (g w).1 (g w).2 := rfl

theorem exists_of_succeeds (h : succeeds m w = true) : ∃ a w', m w = .ok a w' := by
  unfold succeeds at h
  cases hm : m w with
  | ok a w' => exact ⟨a, w', rfl⟩
  | error e w' => simp [hm] at h

theorem exists_of_not_succeeds (h : succeeds m w = false) : ∃ e w', m w = .error e w' := by
  unfold succeeds at h
  cases hm : m w with
  | ok a w' => simp [hm] at h
  | error e w' => exact ⟨e, w', rfl⟩

theorem bind_run (m : Act α) (f : α → Act β) (w : World) :
    (m >>= f) w = match m w with
      | .ok a w' => f a w'
      | .error e w' => .error e w' := by
  simp only [bind, EStateM.bind]
  cases m w <;> rfl

theorem bind_of_ok (h : m w = .ok a w') : (m >>= f) w = f a w' := by
  rw [bind_run, h]

theorem bind_of_error (h : m w = .error e w') : (m >>= f) w = .error e w' := by
  rw [bind_run, h]

theorem bind_of_eq {m' : Act α} (same : m w = m' w) : (m >>= f) w = (m' >>= f) w := by
  rw [bind_run, bind_run, same]

theorem bind_eq_ok {w'' : World} :
    (m >>= f) w = .ok b w'' ↔ ∃ a w', m w = .ok a w' ∧ f a w' = .ok b w'' := by
  rw [bind_run]
  constructor
  · intro h
    cases hm : m w with
    | ok a w' => exact ⟨a, w', rfl, by rwa [hm] at h⟩
    | error e w' => simp [hm] at h
  · rintro ⟨a, w', hm, h⟩
    rw [hm]
    exact h

theorem map_run (g : α → β) (m : Act α) (w : World) :
    (g <$> m) w = match m w with
      | .ok a w' => .ok (g a) w'
      | .error e w' => .error e w' := by
  simp only [Functor.map, EStateM.map]
  cases m w <;> rfl

theorem tryCatch_run (m : Act α) (handle : Fault → Act α) (w : World) :
    (tryCatch m handle) w = match m w with
      | .ok a w' => .ok a w'
      | .error e w' => handle e w' := by
  show EStateM.tryCatch m handle w = _
  delta EStateM.tryCatch
  cases m w with
  | ok a w' => rfl
  | error e w' => rfl

theorem attempt_eq (m : Act α) (w : World) :
    attempt m w = match m w with
      | .ok a w' => .ok (.ok a) w'
      | .error e w' => .ok (.error e) w' := by
  rw [attempt, tryCatch_run, bind_run]
  cases m w <;> rfl

theorem attempt_run (m : Act α) (w : World) : ∃ x w', attempt m w = .ok x w' := by
  rw [attempt_eq]
  cases m w <;> exact ⟨_, _, rfl⟩

theorem exists_of_endedIn {kind : FaultKind} {x : Except Fault α} (tried : attempt m w = .ok x w')
    (ended : endedIn kind x = true) : ∃ e, m w = .error e w' ∧ e.kind = kind := by
  rw [attempt_eq] at tried
  cases run : m w with
  | ok a u =>
    rw [run] at tried
    obtain ⟨rfl, rfl⟩ := EStateM.Result.ok.inj tried
    cases ended
  | error e u =>
    rw [run] at tried
    obtain ⟨rfl, rfl⟩ := EStateM.Result.ok.inj tried
    exact ⟨e, rfl, of_decide_eq_true ended⟩

theorem after_of_ok (h : m w = .ok a w') : m.after w = w' := by simp [after, h]

theorem after_of_error (h : m w = .error e w') : m.after w = w' := by simp [after, h]

theorem value?_of_ok (h : m w = .ok a w') : m.value? w = some a := by simp [value?, h]

theorem value?_of_error (h : m w = .error e w') : m.value? w = none := by simp [value?, h]

theorem value?_eq_some : m.value? w = some a ↔ m w = .ok a (m.after w) := by
  cases run : m w with
  | ok b u => simp [value?_of_ok run, after_of_ok run]
  | error e u => simp [value?_of_error run]

theorem value?_eq_none : m.value? w = none ↔ ∃ e, m w = .error e (m.after w) := by
  cases run : m w with
  | ok b u => simp [value?_of_ok run]
  | error e u => simp [value?_of_error run, after_of_error run]

@[simp]
theorem after_pure (a : α) (w : World) : (pure a : Act α).after w = w := rfl

@[simp]
theorem after_throw (e : Fault) (w : World) : (throw e : Act α).after w = w := rfl

@[simp]
theorem after_get (w : World) : (get : Act World).after w = w := rfl

theorem after_liftExcept (r : Except Fault α) (w : World) : (liftExcept r).after w = w := by
  cases r <;> rfl

theorem after_bind_of_ok (h : m w = .ok a w') : (m >>= f).after w = (f a).after w' := by
  simp only [after, bind_of_ok h]

/-- A transitive relation that the steps of a computation keep is kept by the whole. -/
theorem after_bind {R : World → World → Prop} (trans : ∀ {u v x}, R u v → R v x → R u x)
    (first : R w (m.after w)) (second : ∀ a w', m w = .ok a w' → R w' ((f a).after w')) :
    R w ((m >>= f).after w) := by
  cases hm : m w with
  | ok a w' =>
    rw [after_of_ok hm] at first
    exact after_bind_of_ok hm ▸ trans first (second a w' hm)
  | error e w' =>
    rw [after_of_error hm] at first
    rw [after_of_error (bind_of_error hm)]
    exact first

theorem around_ok {m : Surrounded α} (run : around m w = .ok a w') :
    m w.around = .ok a w'.around ∧ w' = { w with around := w'.around } := by
  rw [around] at run
  cases inner : m w.around with
  | ok b s =>
    rw [inner] at run
    cases run
    exact ⟨rfl, rfl⟩
  | error f s => simp [inner] at run

theorem around_error {m : Surrounded α} (run : around m w = .error e w') :
    m w.around = .error e w'.around := by
  rw [around] at run
  cases inner : m w.around with
  | ok b s => simp [inner] at run
  | error f s =>
    rw [inner] at run
    cases run
    rfl

theorem around_bind (m : Surrounded α) (f : α → Surrounded β) (w : World) :
    around (m >>= f) w = (around m >>= fun a => around (f a)) w := by
  rw [bind_run]
  simp only [around, bind, EStateM.bind]
  cases m w.around <;> rfl

theorem after_map (g : α → β) (m : Act α) (w : World) : (g <$> m).after w = m.after w := by
  simp only [after, map_run]
  cases m w <;> rfl

theorem after_tryCatch {R : World → World → Prop} (trans : ∀ {u v x}, R u v → R v x → R u x)
    {handle : Fault → Act α} (first : R w (m.after w))
    (second : ∀ e w', m w = .error e w' → R w' ((handle e).after w')) :
    R w ((tryCatch m handle).after w) := by
  cases hm : m w with
  | ok a w' =>
    rw [after_of_ok hm] at first
    have whole : (tryCatch m handle).after w = w' := by simp only [after, tryCatch_run, hm]
    exact whole ▸ first
  | error e w' =>
    rw [after_of_error hm] at first
    have whole : (tryCatch m handle).after w = (handle e).after w' := by
      simp only [after, tryCatch_run, hm]
    exact whole ▸ trans first (second e w' hm)

theorem after_attempt {R : World → World → Prop} (ends : R w (m.after w)) :
    R w ((attempt m).after w) := by
  rw [attempt, after, tryCatch_run, bind_run]
  cases run : m w with
  | ok a w' => rwa [after_of_ok run] at ends
  | error e w' => rwa [after_of_error run] at ends

end Act

def World.later (w : World) : World := { w with stamps := w.stamps + 1 }

theorem newTuple_run (items : List Value) (w : World) :
    newTuple items w = .ok (.tuple w.later.stamps items) w.later := rfl

end EventTasks
