import EventTasks.ParseEvent
import EventTasks.Text.Case

/-!
How handlers are named. A registry key in lower case, behind a fixed word, names the handler of its
event. An event may be given as its identifier or as a key in any case; both lead to a registry key.
-/
namespace EventTasks.Naming

def handlerWord : String := "on_"

/-- `handler_name`, without its error for an empty key. -/
def handlerName? (key : String) : Option String :=
  if key = "" then none else some (handlerWord ++ Text.lower key)

/-- `event_key` of a text. -/
def registryKey (text : String) : String :=
  match ParseEvent.ofIdentifier? text with
  | some e => e.name
  | none => Text.upper text

def isHandlerName (name : String) : Bool := handlerWord.toList.isPrefixOf name.toList

end EventTasks.Naming
