import EventTasks.Proofs.Engaging

/-!
What calling a forwarder does. It speaks for its task: it looks for the runner that the task has
then, and calls the method of that runner with the bracketed name that the task has then in front of
the arguments. Before that call it does nothing but read. Without a runner it calls nothing.
-/
namespace EventTasks

open Act

namespace Task

def front (settings : Settings) (text : String) : Value :=
  .word (if settings.useColors then settings.prefixColor.paint ("[" ++ text ++ "]")
    else "[" ++ text ++ "]")

def reach (h : Host) (info : ForwarderInfo) : Act (Value × Value) := do
  let runner ← h.attr info.task runnerField
  if runner.isNothing then throw (← notInstalled h info.task)
  let runner ← h.attr info.task runnerField
  let f ← h.attr runner info.name
  let front ← h.send info.task "_log_prefix" []
  pure (f, front)

def Prefixes (w : World) (i : Nat) : Prop := w.Means i "_log_prefix" (.library (.task .logPrefix))

variable {h : Host} {w u : World} {i j d k r : Nat} {n : String} {f name : Value} {text : String}
  {info : ForwarderInfo} {args : List Value} {settings : Settings}

theorem forward_eq (h : Host) (info : ForwarderInfo) (args : List Value) :
    forward h info args = (reach h info >>= fun found => h.call found.1 (found.2 :: args) []) := by
  simp only [forward, reach, bind_assoc]
  congr 1
  funext runner
  split <;> simp

/-- Calling a forwarder calls what it reaches, with the front before the arguments. -/
theorem call_forwarder (there : w.forwarders[j]? = some info) (k : Nat) (args : List Value) :
    (Host.ofDepth (k + 1)).call (.function (.forwarder j)) args [] w =
      (reach (Host.ofDepth k) info >>= fun found =>
        (Host.ofDepth k).call found.1 (found.2 :: args) []) w := by
  rw [← forward_eq]
  show Script.callFunction (Host.ofDepth k) (.forwarder j) false args [] w = _
  rw [Script.callFunction, bind_run]
  simp only [get_run, there]

/-- A forwarder of a task without a runner raises `TaskNotInstalledError` with the name of the
task. -/
theorem reach_idle (usual : w.ReadsUsually i) (task : info.task = .object i)
    (idle : w.Shows i runnerField .nothing) (shows : w.Shows i "name" name)
    (told : h.formatted name w = .ok text w) :
    reach h info w = .error (.notInstalled name text) w := by
  have nothing : Value.nothing.isNothing = true := rfl
  rw [reach, task, bind_of_ok (Host.attr_shows usual idle)]
  simp only [nothing, if_true, bind_run, notInstalled_eq usual shows told, throw_run]

/-- What stands in front of the messages of a task, after one reading of the settings. -/
theorem logPrefix_run (usual : w.ReadsUsually i) (shows : w.Shows i "name" name)
    (told : ∀ u, h.formatted name u = .ok text u) :
    logPrefix h (.object i) w = (around Surroundings.sharedSettings >>= fun found =>
      pure (front found.2 text)) w := by
  rw [logPrefix, bind_run, bind_run, around]
  cases Surroundings.sharedSettings w.around with
  | error f s => rfl
  | ok found s =>
    let u : World := { w with around := s }
    have usual' : u.ReadsUsually i := ⟨usual.always, usual.missing⟩
    have named : nameText h (.object i) u = .ok text u :=
      (bind_of_ok (Host.attr_shows usual' (show u.Shows i "name" name from shows))).trans (told u)
    exact bind_of_ok named

theorem logPrefix_goes (usual : w.ReadsUsually i) (named : IsNamed w i) :
    Goes False (fun u => ∃ around', u = { w with around := around' }) (logPrefix h (.object i)) w
      fun _ _ => True := by
  refine goes_bind (sharedSettings_goes.mono False.elim
    (fun _ ⟨around', _, same⟩ => ⟨around', same⟩) fun _ _ _ => id) fun found u surroundings _ => ?_
  obtain ⟨around', rfl⟩ := surroundings
  obtain ⟨name, simple, shows⟩ := named
  obtain ⟨text, run⟩ := nameText_eq (h := h) (w := { w with around := around' })
    ⟨usual.always, usual.missing⟩ ⟨name, simple, shows⟩
  exact goes_bind_of_ok run (goes_pure ⟨around', rfl⟩ trivial)

section engaged

variable (usual : w.ReadsUsually i) (holds : w.Holds i d) (prefixes : Prefixes w i)
  (task : info.task = .object i)

include usual holds prefixes task

/-- With a runner the method of it is reached, and the settings are read once; the front is that of
the name and of these settings. -/
theorem reach_run (runner : w.Shows i runnerField (.object r)) (shows : w.Shows i "name" name)
    (told : ∀ (h : Host) u, h.formatted name u = .ok text u)
    (read : (Host.ofDepth (k + 1)).attr (.object r) info.name w = .ok f u) (same : Untouched w u) :
    reach (Host.ofDepth (k + 1)) info w = (around Surroundings.sharedSettings >>= fun found =>
      pure (f, front found.2 text)) u.later := by
  have kept := (same d).toKeeps
  have kept' := ((same.trans .later) d).toKeeps
  have sent : (Host.ofDepth (k + 1)).send (.object i) "_log_prefix" [] u = _ :=
    (Host.send_means (kept.readsUsually usual)
      (kept.means holds (.inr id) (by decide) prefixes) k []).trans
      (logPrefix_run (h := Host.ofDepth k) (kept'.readsUsually usual)
        (kept'.shows holds (.inr id) (by decide) shows) (told _))
  have something : (Value.object r).isNothing = false := rfl
  rw [reach, task, bind_of_ok (Host.attr_shows usual runner)]
  simp only [something, Bool.false_eq_true, if_false, pure_run, bind_run,
    Host.attr_shows usual runner, read, sent]
  cases around Surroundings.sharedSettings u.later <;> rfl

theorem reach_ok (runner : w.Shows i runnerField (.object r)) (shows : w.Shows i "name" name)
    (told : ∀ (h : Host) u, h.formatted name u = .ok text u)
    (read : (Host.ofDepth (k + 1)).attr (.object r) info.name w = .ok f u) (same : Untouched w u)
    (gives : w.around.Gives settings) :
    ∃ around', reach (Host.ofDepth (k + 1)) info w =
      .ok (f, front settings text) { u.later with around := around' } ∧ around'.Gives settings := by
  have given : u.later.around.Gives settings := by rwa [World.later, (same d).around]
  obtain ⟨number, around', run, gives'⟩ := sharedSettings_run given
  exact ⟨around', (reach_run usual holds prefixes task runner shows told read same).trans
    (bind_of_ok run), gives'⟩

/-- Whatever comes of it, a forwarder that looks for what to call leaves everything as it is but the
surroundings. -/
theorem reach_goes (named : IsNamed w i) (k : Nat) (runner : w.Shows i runnerField .nothing ∨
      ∃ r, w.Shows i runnerField (.object r) ∧
        Untouched w (((Host.ofDepth k).attr (.object r) info.name).after w)) :
    Goes False (fun u => ∀ s, Keeps s w u)
      (reach (Host.ofDepth k) info) w fun _ _ => True := by
  rcases runner with idle | ⟨r, shows, reading⟩
  · obtain ⟨name, simple, shows⟩ := named
    obtain ⟨text, told⟩ := Host.formatted_simple simple
    exact goes_of_error (reach_idle usual task idle shows (told _ w)) (fun s => .refl s w) id
  · have something : (Value.object r).isNothing = false := rfl
    rw [reach, task]
    refine goes_bind_of_ok (Host.attr_shows usual shows) ?_
    simp only [something, Bool.false_eq_true, if_false]
    refine goes_bind_of_ok (Host.attr_shows usual shows) ?_
    cases read : (Host.ofDepth k).attr (.object r) info.name w with
    | error f u =>
      rw [after_of_error read] at reading
      exact goes_of_error (bind_of_error read)
        (fun s => reading.keeps) id
    | ok f u =>
      rw [after_of_ok read] at reading
      have kept := (reading d).toKeeps
      have means := kept.means holds (.inr id) (by decide) prefixes
      refine goes_bind_of_ok read ?_
      cases k with
      | zero =>
        exact goes_of_error
          (bind_of_error (Host.send_means_exhausted (kept.readsUsually usual) means []))
          (fun s => reading.keeps.trans .later) id
      | succ k =>
        have later : Keeps (.nothing d) w u.later := kept.trans .later
        obtain ⟨name, simple, shows⟩ := named
        refine goes_bind (Q := fun _ _ => True) (goes_of_eq
          (Host.send_means (kept.readsUsually usual) means k [])
          ((logPrefix_goes (later.readsUsually usual)
            ⟨name, simple, later.shows holds (.inr id) (by decide) shows⟩).mono id ?_
            fun _ _ _ => id)) fun found u now _ => goes_pure now trivial
        rintro _ ⟨around', rfl⟩
        exact fun s => reading.keeps.trans (Keeps.later.trans (.around around'))

end engaged

/-- A forwarder of the task at `i`, whose name has this text and whose runner is at `r`. -/
structure SpeaksTo (w : World) (info : ForwarderInfo) (i r : Nat) (text : String) : Prop where
  task : info.task = .object i
  usual : w.ReadsUsually i
  holds : ∃ d, w.Holds i d
  prefixes : Prefixes w i
  runner : w.Shows i runnerField (.object r)
  named : ∃ name, w.Shows i "name" name ∧ ∀ (h : Host) u, h.formatted name u = .ok text u

/-- Calling such a forwarder reads the settings once; if this fails the call does, and else the
method of the runner is called once. -/
theorem SpeaksTo.call (speaks : SpeaksTo w info i r text) (there : w.forwarders[j]? = some info)
    (read : (Host.ofDepth (k + 1)).attr (.object r) info.name w = .ok f u) (same : Untouched w u)
    (args : List Value) :
    (Host.ofDepth (k + 2)).call (.function (.forwarder j)) args [] w =
      (around Surroundings.sharedSettings >>= fun found =>
        (Host.ofDepth (k + 1)).call f (front found.2 text :: args) []) u.later := by
  obtain ⟨task, usual, ⟨d, holds⟩, prefixes, runner, name, shows, told⟩ := speaks
  rw [call_forwarder there, bind_run,
    reach_run usual holds prefixes task runner shows told read same, bind_run, bind_run]
  cases around Surroundings.sharedSettings u.later <;> rfl

end Task

end EventTasks
