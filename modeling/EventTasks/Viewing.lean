import EventTasks.Lookup
import EventTasks.Number.Shortest
import EventTasks.Text.Address

/-!
What a session sees of values: data and collections as they are now, and everything else by the name
under which the session knows it, or else by its kind. Faults are seen by those who know the names
of the library alone.
-/
namespace EventTasks

inductive Familiar where
  | library | session
deriving DecidableEq

namespace World

def viewSubject (w : World) (known : Familiar) : Subject → View
  | .object i =>
    match w.objects[i]?.bind ObjectInfo.label, known with
    | some label, .session => .named label
    | _, _ => .other (w.className (w.objectClassOf i))
  | .cls c =>
    match (w.classInfo c).label with
    | some label =>
      if known = .session ∨ c < Library.size then .named label
      else .other (w.className (w.classInfo c).kind)
    | none => .other (w.className (w.classInfo c).kind)

def viewFunction (w : World) (f : Function) : View :=
  let c := functionClassOf f
  if c ≠ Library.functionClass then .other (w.className c)
  else
    match f with
    | .forwarder _ => .forwarder (w.qualifiedName f)
    | f => .function (w.qualifiedName f)

def viewMethod (w : World) (self : View) (f : Function) : View :=
  let c := methodClassOf f
  if c ≠ Library.methodClass then .other (w.className c) else .method self (w.functionName f)

def viewTexts (entries : List (String × View)) : View :=
  .dict (entries.map fun p => (.text p.1, p.2))

def viewTo (w : World) (known : Familiar) : Nat → Value → View
  | 0, v => .other (w.shortKindOf v)
  | depth + 1, v =>
    let inside := w.viewTo known depth
    match v with
    | .nothing => .nothing
    | .flag b => .flag b
    | .int _ i => .int i
    | .float _ x => .float x.text
    | .text _ s => .text (Text.masked s)
    | .event e => .event e.name
    | .tuple _ items => .tuple (items.map inside)
    | .options _ runner attach => .options (inside runner) attach
    | .undecided => .other (w.shortKindOf v)
    | .ref r =>
      match r with
      | .subject s => w.viewSubject known s
      | .function f => w.viewFunction f
      | .method _ self f => w.viewMethod (w.viewSubject known self) f
      | .bound p =>
        match w.bound[p]? with
        | some (self, f) => w.viewMethod (inside self) f
        | none => .other (w.shortKindOf v)
      | .list p => .list ((w.listAt p).map inside)
      | .dict p => .dict ((w.dictAt p).entries.map fun e => (inside e.name, inside e.value))
      | .table p =>
        .dict ((w.tableAt p).map fun c =>
          (inside c.topic.event, .list (c.handlers.map fun h => inside (.ref h))))
      | .body _ c => viewTexts ((w.classInfo c).body.map fun p => (Text.masked p.1, inside p.2))
      | .registry => viewTexts (ParseEvent.registry.map fun p => (p.1, .text p.2))
      | _ => .other (w.shortKindOf v)

def viewDepth : Nat := 1000

/-- What a session sees of a value. -/
def view (w : World) (v : Value) : View := w.viewTo .session viewDepth v

def viewExactly (w : World) (v : Value) : View :=
  match v with
  | .text _ s => .text s
  | v => w.view v

def viewPlainly (w : World) (v : Value) : View := w.viewTo .library viewDepth v

end World

end EventTasks
