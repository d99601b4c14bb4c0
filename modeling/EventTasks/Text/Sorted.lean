/-!
Texts in the order of their characters, each once.
-/
namespace EventTasks.Text.Sorted

/-- Puts a text in its place, unless it is there. -/
def insert (text : String) : List String → List String
  | [] => [text]
  | other :: rest =>
    if text = other then other :: rest
    else if text < other then text :: other :: rest
    else other :: insert text rest

def ofList (texts : List String) : List String := texts.foldr insert []

theorem mem_insert {a text : String} {texts : List String} :
    a ∈ insert text texts ↔ a = text ∨ a ∈ texts := by
  induction texts with
  | nil => simp [insert]
  | cons other rest ih =>
    unfold insert
    split
    · simp_all
    · split
      · simp
      · simp [ih, or_left_comm]

theorem mem_ofList {a : String} {texts : List String} : a ∈ ofList texts ↔ a ∈ texts := by
  induction texts with
  | nil => simp [ofList]
  | cons text rest ih =>
    rw [show ofList (text :: rest) = insert text (ofList rest) from rfl, mem_insert, ih,
      List.mem_cons]

end EventTasks.Text.Sorted
