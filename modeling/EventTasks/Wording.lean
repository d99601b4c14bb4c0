import EventTasks.Iteration
import EventTasks.Log.Layout
import EventTasks.Number.Shortest
import EventTasks.Text.Address

/-!
Values as texts: the description of a value, which shows how it would be written, its own text, and
the text that stands for it inside a larger one. A session's class may say each of the three for its
objects. A collection that is met again inside its own description is only hinted at.
-/
namespace EventTasks

/-- Describes a collection, or gives `hint` if its description is under way already. -/
def whileDescribed (v : Value) (hint : String) (m : Act String) : Act String := do
  let w ← get
  if w.described.any v.isSame then pure hint
  else
    set { w with described := v :: w.described }
    let found ← attempt m
    modify fun w => { w with described := w.described.drop 1 }
    liftExcept found

def flagText (b : Bool) : String := if b then "True" else "False"

def optionalFlagText : Option Bool → String
  | none => "None"
  | some b => flagText b

def eventText (e : ParseEvent) : String := "ParseEvent." ++ e.name

def braced (parts : List String) : String := "\x7b" ++ String.intercalate ", " parts ++ "\x7d"

def bracketed (parts : List String) : String := "[" ++ String.intercalate ", " parts ++ "]"

def parenthesized (parts : List String) : String :=
  match parts with
  | [one] => "(" ++ one ++ ",)"
  | parts => "(" ++ String.intercalate ", " parts ++ ")"

def World.plainDescription (w : World) (v : Value) : String :=
  "<" ++ w.classPath (w.classOf v) ++ " object" ++ Text.somePlace ++ ">"

namespace Host

mutual

/-- `repr`. -/
def describe (h : Host) : Value → Act String
  | .nothing => pure "None"
  | .flag b => pure (flagText b)
  | .int _ i => pure (toString i)
  | .float _ x => pure x.text
  | .text _ s => pure (Text.quoted s)
  | .event e => pure ("<" ++ eventText e ++ ": " ++ Text.quoted e.identifier ++ ">")
  | .tuple stamp items =>
    whileDescribed (.tuple stamp items) "(...)" (do pure (parenthesized (← describeAll h items)))
  | .options _ runner attach => do
    let runner ← describe h runner
    let attach := optionalFlagText attach
    pure ("InstallOptions(runner=" ++ runner ++ ", attach_logger=" ++ attach ++ ")")
  | .undecided => pure "NotImplemented"
  | .ref r => h.describeRef r

def describeAll (h : Host) : List Value → Act (List String)
  | [] => pure []
  | v :: rest => do
    let one ← describe h v
    pure (one :: (← describeAll h rest))

end

def describeEntries (h : Host) : List (Value × Value) → Act (List String)
  | [] => pure []
  | (k, v) :: rest => do
    let key ← h.describe k
    let value ← h.describe v
    pure ((key ++ ": " ++ value) :: (← describeEntries h rest))

def ownText (h : Host) (v : Value) (name : String) (entry : Value) : Act String := do
  let found ← h.callEntry v entry []
  match found.text? with
  | some s => pure s
  | none => throw (.notTextReturned name ((← get).kindOf found))

/-- `str`. -/
def textOf (h : Host) (v : Value) : Act String := do
  match v with
  | .text _ s => pure s
  | .event e => pure (eventText e)
  | .options _ runner attach =>
    let runner ← h.describe runner
    pure ("runner=" ++ runner ++ " attach_logger=" ++ optionalFlagText attach)
  | .ref (.subject (.object _)) =>
    let w ← get
    match (w.hookOf? v "__str__").or (w.hookOf? v "__repr__") with
    | some entry => h.ownText v "__str__" entry
    | none => h.describe v
  | v => h.describe v

def textsOf (h : Host) : List Value → Act (List String)
  | [] => pure []
  | v :: rest => do
    let text ← h.textOf v
    pure (text :: (← textsOf h rest))

def ownFormat? (h : Host) (v : Value) (spec : String) : Act (Option String) := do
  match ← h.ask? v "__format__" [.word spec] with
  | none => pure none
  | some found =>
    match found.text? with
    | some s => pure (some s)
    | none => throw (.formatNotText ((← get).kindOf found))

/-- `format` with an empty spec. -/
def formatted (h : Host) (v : Value) : Act String := do
  match ← h.ownFormat? v "" with
  | some s => pure s
  | none => h.textOf v

def columnOf (h : Host) (width : Nat) (v : Value) : Act String := do
  match v with
  | .text _ s => pure (Log.column width s)
  | .event e => pure (Log.column width (eventText e))
  | .int _ i => pure (Log.column width (toString i))
  | .flag b => pure (Log.column width (if b then "1" else "0"))
  | .float _ x => pure (Log.column width x.text)
  | v =>
    match ← h.ownFormat? v s!"<{width}" with
    | some s => pure s
    | none => throw (.formatUnsupported ((← get).kindOf v))

def nameOf (v : Value) : Act String := do
  match v.text? with
  | some s => pure s
  | none => throw (.nameNotText ((← get).kindOf v))

def functionText (w : World) (f : Function) : String :=
  match f with
  | .library op =>
    match op.form with
    | .plain => s!"<function {op.qualifiedName}{Text.somePlace}>"
    | .sign => s!"<slot wrapper '{op.name}' of '{op.owner}' objects>"
    | .builtin =>
      if op = .object .new then s!"<built-in method {op.name} of type object{Text.somePlace}>"
      else s!"<method '{op.name}' of '{op.owner}' objects>"
  | f => s!"<function {w.qualifiedName f}{Text.somePlace}>"

def methodText (h : Host) (self : Value) (f : Function) : Act String := do
  let w ← get
  let kind := w.kindOf self
  let c := World.methodClassOf f
  if c = Library.boundWrapperClass then
    pure s!"<method-wrapper '{w.functionName f}' of {kind} object{Text.somePlace}>"
  else if c = Library.builtinClass then
    pure s!"<built-in method {w.functionName f} of {kind} object{Text.somePlace}>"
  else
    let subject ← h.describe self
    pure ("<bound method " ++ w.qualifiedName f ++ " of " ++ subject ++ ">")

def describeTable (h : Host) : Table → Act (List String)
  | [] => pure []
  | c :: rest => do
    let event ← h.describe c.topic.event
    let handlers ← h.describeAll (c.handlers.map .ref)
    pure ((event ++ ": " ++ bracketed handlers) :: (← describeTable h rest))

def entriesFrom (mapping : Ref) : Nat → Nat → Act (List (Value × Value))
  | 0, _ => pure []
  | left + 1, position => do
    match ← entryOf mapping position with
    | some e => do pure (e :: (← entriesFrom mapping left (position + 1)))
    | none => pure []

def entriesOf (mapping : Ref) : Act (List (Value × Value)) := do
  entriesFrom mapping ((((← get).namesOf? mapping).map List.length).getD 0) 0

def classText (w : World) (c : Nat) : String :=
  if (w.classInfo c).kind = Library.enumTypeClass then s!"<enum '{w.className c}'>"
  else s!"<class '{w.classPath c}'>"

def entryText (w : World) (form name : String) (owner : Nat) : String :=
  s!"<{form} '{name}' of '{w.className owner}' objects>"

def aspectName (w : World) (owner : Nat) (a : Aspect) : String :=
  (((w.classInfo owner).body.find? fun p =>
    match p.2 with
    | .ref (.aspect _ b) => decide (a = b)
    | _ => false).map Prod.fst).getD ""

def describeHeld (h : Host) (r : Ref) : Act String := do
  let w ← get
  let mapping : Act String :=
    whileDescribed (.ref r) "\x7b...\x7d" (do
      pure (braced (← h.describeEntries (← entriesOf r))))
  match r with
  | .subject (.object i) =>
    match w.hook? (w.objectClassOf i) "__repr__" with
    | some entry => h.ownText (.ref r) "__repr__" entry
    | none => pure ((Library.description? i).getD (w.plainDescription (.ref r)))
  | .subject (.cls c) => pure (classText w c)
  | .function f => pure (functionText w f)
  | .staticMethod (.library (.object op)) => pure (functionText w (.library (.object op)))
  | .classMethod (.library (.object op)) => pure (functionText w (.library (.object op)))
  | .staticMethod f => do pure s!"<staticmethod({functionText w f})>"
  | .classMethod f => do pure s!"<classmethod({functionText w f})>"
  | .method _ self f => h.methodText (.ref (.subject self)) f
  | .bound p =>
    match w.bound[p]? with
    | some (self, f) => h.methodText self f
    | none => pure ""
  | .property _ => pure s!"<property object{Text.somePlace}>"
  | .slot s => pure (entryText w "member" (w.slotInfo s).name (w.slotInfo s).owner)
  | .aspect owner a => pure (entryText w "attribute" (aspectName w owner a) owner)
  | .list p =>
    whileDescribed (.ref r) "[...]" (do pure (bracketed (← h.describeAll (w.listAt p))))
  | .dict _ => mapping
  | .body _ _ | .registry => do pure ("mappingproxy(" ++ (← mapping) ++ ")")
  | .table p =>
    let parts ← h.describeTable (w.tableAt p)
    pure ("defaultdict(<class 'list'>, " ++ braced parts ++ ")")
  | .names p =>
    match (w.namesAt p).toList with
    | [] => pure "set()"
    | found => do pure (braced (← h.describeAll found))
  | .part part m => do
    let found ← (← entriesOf m).mapM (partOf part)
    pure (part.kind ++ "(" ++ bracketed (← h.describeAll found) ++ ")")

end Host

end EventTasks
