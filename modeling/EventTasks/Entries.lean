/-!
Named entries in the order in which their names were first used.
-/
namespace EventTasks

/-- Sets an entry in place, or adds it at the end. -/
def setEntry (name : String) (a : α) : List (String × α) → List (String × α)
  | [] => [(name, a)]
  | (n, b) :: rest => if n = name then (name, a) :: rest else (n, b) :: setEntry name a rest

def dropEntry (name : String) (entries : List (String × α)) : List (String × α) :=
  entries.filter fun p => p.1 ≠ name

def setEntries (new entries : List (String × α)) : List (String × α) :=
  new.foldl (fun found p => setEntry p.1 p.2 found) entries

theorem lookup_entry (n name : String) (a : α) (rest : List (String × α)) :
    List.lookup name ((n, a) :: rest) = if name = n then some a else rest.lookup name := by
  by_cases h : name = n
  · simp [h]
  · have : (name == n) = false := beq_eq_false_iff_ne.2 h
    simp [List.lookup_cons, this, h]

theorem lookup_setEntry (name other : String) (a : α) (entries : List (String × α)) :
    (setEntry name a entries).lookup other =
      if other = name then some a else entries.lookup other := by
  induction entries with
  | nil => simp [setEntry, lookup_entry]
  | cons p rest ih =>
    obtain ⟨n, b⟩ := p
    by_cases hn : n = name
    · by_cases ho : other = name <;> simp [setEntry, lookup_entry, hn, ho]
    · by_cases ho : other = n
      · simp [setEntry, hn, ho]
      · simp [setEntry, lookup_entry, hn, ho, ih]

end EventTasks
