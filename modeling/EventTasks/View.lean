import EventTasks.Surroundings

/-!
What a session sees: values as they are at the moment of looking, with a name in place of everything
that has an identity, the replies to steps, and notes of what scripted callables did.
-/
namespace EventTasks

inductive View where
  | nothing
  | flag (b : Bool)
  | int (i : Int)
  | float (text : String)
  | text (s : String)
  | list (items : List View)
  | tuple (items : List View)
  | dict (entries : List (View × View))
  | event (name : String)
  | options (runner : View) (attach : Option Bool)
  /-- Something that the session knows by a name. -/
  | named (label : String)
  | method (self : View) (name : String)
  | forwarder (qualifiedName : String)
  | function (qualifiedName : String)
  /-- Anything else, by its kind. -/
  | other (kind : String)
deriving Inhabited

structure Delivery where
  enabled : Bool
  console : String
  files : List (String × String)

inductive Reply where
  | view (v : View)
  | settings (s : Settings)
  | sharedSettings (same : Bool) (s : Settings)
  | status (s : Log.Status)
  | logger (name : View) (s : Log.Status)
  | handler (shared : Bool) (s : Log.Status)
  | file (level : Log.Level) (painted : View) (attached : Bool)
  | delivery (d : Delivery)

/-- A call of a listener or of a written function, or a step and its reply. -/
inductive Note where
  | listener (label : String) (args : List View)
  | method (name : String) (self : Option View) (args : List View)
  | action (reply : Reply)

end EventTasks
