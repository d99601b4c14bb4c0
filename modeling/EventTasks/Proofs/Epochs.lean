import EventTasks.Proofs.Consulting

/-!
The epochs of the shared settings, which last from one reset to the next. Within an epoch the first
reading that succeeds decides: it gives what the sources say at that time, and all later readings
give the same thing, whatever the sources say then. A reading that fails leaves nothing behind, so
the next one looks at the sources again; and a reset leaves nothing of the epoch before.
-/
namespace EventTasks

/-- A reading of the shared settings, with the sources as they are then, or a reset. -/
inductive Sight where
  | read (sources : Settings.Sources) (outcome : Except Fault (Nat × Settings))
  | reset

namespace Surroundings

def cache (s : Surroundings) : Option (Nat × Settings) × Nat := (s.shared, s.readings)

def look (s : Surroundings) : Sight :=
  .read (s.sources []) (match sharedSettings s with
    | .ok found _ => .ok found
    | .error f _ => .error f)

theorem look_of_ok {s s' : Surroundings} {found : Nat × Settings}
    (run : sharedSettings s = .ok found s') : s.look = .read (s.sources []) (.ok found) := by
  rw [look, run]

theorem look_of_error {s s' : Surroundings} {f : Fault} (run : sharedSettings s = .error f s') :
    s.look = .read (s.sources []) (.error f) := by
  rw [look, run]

theorem MayRead.cache {s s' : Surroundings} {known : Nat × Settings} (may : s.MayRead s')
    (kept : s.shared = some known) : s'.cache = s.cache := by
  obtain ⟨same, count⟩ := may.kept kept
  rw [Surroundings.cache, Surroundings.cache, same, kept, count]

end Surroundings

/-- What readings and resets make of the cached settings. -/
inductive Course : Option (Nat × Settings) × Nat → List Sight → Option (Nat × Settings) × Nat → Prop
  | still (c) : Course c [] c
  | reset {kept n sights c} : Course (none, n) sights c → Course (kept, n) (.reset :: sights) c
  /-- What is kept is given, whatever the sources are. -/
  | again {found n sights c} (sources) : Course (some found, n) sights c →
      Course (some found, n) (.read sources (.ok found) :: sights) c
  /-- What the sources give is kept, under a number of its own. -/
  | first {settings n sights c} {sources : Settings.Sources} :
      Settings.resolve sources = .ok settings → Course (some (n, settings), n + 1) sights c →
      Course (none, n) (.read sources (.ok (n, settings)) :: sights) c
  /-- Nothing is kept of a refusal. -/
  | refused {problems n sights c} {sources : Settings.Sources} :
      Settings.resolve sources = .error problems → Course (none, n) sights c →
      Course (none, n) (.read sources (.error (Surroundings.refusal problems)) :: sights) c

namespace Course

variable {c c' c'' : Option (Nat × Settings) × Nat}
  {sights later before between behind : List Sight}
  {found : Nat × Settings} {sources sources' : Settings.Sources}
  {outcome : Except Fault (Nat × Settings)} {n : Nat}

theorem append (course : Course c sights c') (further : Course c' later c'') :
    Course c (sights ++ later) c'' := by
  induction course with
  | still => exact further
  | reset _ ih => exact .reset (ih further)
  | again sources _ ih => exact .again sources (ih further)
  | first gives _ ih => exact .first gives (ih further)
  | refused refuses _ ih => exact .refused refuses (ih further)

theorem split (course : Course c (before ++ later) c'') :
    ∃ c', Course c before c' ∧ Course c' later c'' := by
  induction before generalizing c with
  | nil => exact ⟨c, .still c, course⟩
  | cons sight before ih =>
    cases course with
    | reset rest => exact (ih rest).imp fun _ => .imp_left .reset
    | again sources rest => exact (ih rest).imp fun _ => .imp_left (.again sources)
    | first gives rest => exact (ih rest).imp fun _ => .imp_left (.first gives)
    | refused refuses rest => exact (ih rest).imp fun _ => .imp_left (.refused refuses)

theorem eq_of_nil (course : Course c [] c') : c' = c := by
  cases course
  rfl

theorem after_reset (course : Course c (sights ++ [.reset]) c') : c'.1 = none := by
  obtain ⟨_, -, last⟩ := course.split
  cases last with
  | reset rest => rw [rest.eq_of_nil]

theorem read_ok {s s' : Surroundings} (run : Surroundings.sharedSettings s = .ok found s') :
    Course s.cache [.read (s.sources []) (.ok found)] s'.cache := by
  unfold Surroundings.cache
  cases run ▸ s.consults with
  | kept shared =>
    rw [shared]
    exact .again _ (.still _)
  | read none gives =>
    rw [none]
    exact .first gives (.still _)

theorem read_error {s s' : Surroundings} {f : Fault}
    (run : Surroundings.sharedSettings s = .error f s') :
    Course s.cache [.read (s.sources []) (.error f)] s'.cache := by
  unfold Surroundings.cache
  cases run ▸ s.consults with
  | refused none refuses =>
    simp only [Surroundings.warned, none]
    exact .refused refuses (.still _)

theorem kept (course : Course c (.read sources (.ok found) :: later) c') :
    ∃ n, Course (some found, n) later c' := by
  cases course with
  | again _ rest => exact ⟨_, rest⟩
  | first _ rest => exact ⟨_, rest⟩

theorem stays (course : Course (some found, n) between c') (noReset : .reset ∉ between) :
    c' = (some found, n) := by
  generalize start : (some found, n) = c at course
  induction course with
  | still => rfl
  | reset => exact absurd List.mem_cons_self noReset
  | again _ _ ih => exact ih (fun inside => noReset (List.mem_cons_of_mem _ inside)) start
  | first => cases start
  | refused => cases start

/-- A reading that has succeeded decides for the rest of the epoch. -/
theorem same (course : Course c (before ++ .read sources (.ok found) ::
      between ++ .read sources' outcome :: behind) c') (noReset : .reset ∉ between) :
    outcome = .ok found := by
  rw [List.append_assoc] at course
  obtain ⟨_, -, course⟩ := course.split
  obtain ⟨n, course⟩ := course.kept
  obtain ⟨c, between, course⟩ := course.split
  obtain rfl := between.stays noReset
  cases course
  rfl

theorem empty (course : Course c sights c') (nothing : c.1 = none)
    (refused : ∀ sources found, .read sources (.ok found) ∉ sights) : c'.1 = none := by
  induction course with
  | still => exact nothing
  | reset _ ih => exact ih rfl fun s found inside => refused s found (List.mem_cons_of_mem _ inside)
  | again => cases nothing
  | first => exact absurd List.mem_cons_self (refused _ _)
  | refused _ _ ih =>
    exact ih rfl fun s found inside => refused s found (List.mem_cons_of_mem _ inside)

/-- Where nothing is cached the sources decide, as they are at that time. -/
theorem afresh (course : Course c (.read sources outcome :: later) c') (nothing : c.1 = none) :
    match Settings.resolve sources with
    | .ok settings => ∃ number, outcome = .ok (number, settings)
    | .error problems => outcome = .error (Surroundings.refusal problems) := by
  cases course with
  | again => cases nothing
  | first gives => rw [gives]; exact ⟨_, rfl⟩
  | refused refuses => rw [refuses]

def Counted (c : Option (Nat × Settings) × Nat) : Prop := ∀ found, c.1 = some found → found.1 < c.2

theorem numbers (course : Course c sights c') (counted : Counted c) :
    Counted c' ∧ c.2 ≤ c'.2 ∧ ∀ sources found, .read sources (.ok found) ∈ sights →
      (c.1 = some found ∨ c.2 ≤ found.1) ∧ found.1 < c'.2 := by
  induction course with
  | still => exact ⟨counted, Nat.le_refl _, fun _ _ inside => absurd inside List.not_mem_nil⟩
  | reset _ ih =>
    obtain ⟨counted', below, given⟩ := ih nofun
    refine ⟨counted', below, fun s found inside => ?_⟩
    obtain ⟨new, bound⟩ := given s found (by simpa using inside)
    exact ⟨.inr (new.resolve_left nofun), bound⟩
  | @again known n sights c sources rest ih =>
    obtain ⟨counted', below, given⟩ := ih counted
    refine ⟨counted', below, fun s found inside => ?_⟩
    rcases List.mem_cons.1 inside with same | inside
    · cases same
      exact ⟨.inl rfl, Nat.lt_of_lt_of_le (counted _ rfl) below⟩
    · exact given s found inside
  | @first settings n sights c sources gives rest ih =>
    obtain ⟨counted', below, given⟩ := ih fun found same => by
      obtain rfl := Option.some.inj same
      exact Nat.lt_succ_self n
    refine ⟨counted', Nat.le_of_succ_le below, fun s found inside => ?_⟩
    rcases List.mem_cons.1 inside with same | inside
    · cases same
      exact ⟨.inr (Nat.le_refl n), below⟩
    · obtain ⟨new, bound⟩ := given s found inside
      refine ⟨.inr ?_, bound⟩
      rcases new with same | later
      · exact Nat.le_of_eq (congrArg Prod.fst (Option.some.inj same))
      · exact Nat.le_of_succ_le later
  | refused _ _ ih =>
    obtain ⟨counted', below, given⟩ := ih counted
    exact ⟨counted', below, fun s found inside => given s found (by simpa using inside)⟩

/-- No two epochs give the same object. -/
theorem number_lt {found' : Nat × Settings} (counted : Counted c)
    (course : Course c (before ++ .read sources (.ok found) ::
      between ++ .read sources' (.ok found') :: behind) c') (reset : .reset ∈ between) :
    found.1 < found'.1 := by
  obtain ⟨older, newer, rfl⟩ := List.append_of_mem reset
  rw [show before ++ .read sources (.ok found) :: (older ++ .reset :: newer) ++
    .read sources' (.ok found') :: behind = (before ++ .read sources (.ok found) :: older) ++
      .reset :: (newer ++ .read sources' (.ok found') :: behind) by simp] at course
  obtain ⟨⟨known, n⟩, past, future⟩ := course.split
  have below : found.1 < n := ((past.numbers counted).2.2 sources found (by simp)).2
  cases future with
  | reset rest =>
    have above := ((rest.numbers nofun).2.2 sources' found' (by simp)).1.resolve_left nofun
    exact Nat.lt_of_lt_of_le below above

end Course

end EventTasks
