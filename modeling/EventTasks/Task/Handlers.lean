import EventTasks.Task.Basic

/-!
The handlers a task exposes now: by name, first those bound at construction, then those of its
registry. A name whose attribute is missing or cannot be called is left out.
-/
namespace EventTasks.Task

def addName (h : Host) (bound : Value) (found : List Value) (key : Value) : Act (List Value) := do
  if ← h.holds bound (.word (← handlerName h key)) then pure found
  else do pure (found ++ [.word (← handlerName h key)])

def readCallable (h : Host) (self : Value) (found : Dictionary) : List Value → Act Dictionary
  | [] => pure found
  | name :: rest => do
    let f ← h.attrOrNothing self (← Host.nameOf name)
    let found ← if (← get).isCallable f then h.storeIn name f found else pure found
    readCallable h self found rest

/-- The property `ConformanceTask.handlers`. -/
def handlers (h : Host) (self : Value) : Act Value := do
  let held ← h.attr self handlersField
  let bound ← if ← h.truth held then h.items held else pure []
  let events ← h.attr self "events"
  let more ← h.foldItems events (addName h (.tuple 0 bound)) []
  newDict (← readCallable h self {} (bound ++ more))

end EventTasks.Task
