import EventTasks.Value

/-!
When two values mean the same event. A value's key is a short word over atoms: equal values have
equal keys, whatever their form, so numbers count by their exact size, an event as its identifier,
a tuple by its members between brackets, and a method by its object and function. What is not a
number equals only itself. Values that may change have no key.
-/
namespace EventTasks

inductive Atom where
  | nothing
  | number (size : Dyadic)
  | infinite (negative : Bool)
  | nan (stamp : Nat)
  | text (s : String)
  | undecided
  | ref (r : Ref)
  | method (self : Subject) (f : Function)
  /-- An object that gives a number for itself. -/
  | numbered (number : Int) (object : Nat)
  | opening
  | closing
deriving DecidableEq

abbrev Key := List Atom

namespace Part

def kind : Part → String
  | keys => "dict_keys"
  | values => "dict_values"
  | items => "dict_items"

end Part

namespace Ref

/-- The atom of something with an identity, or the kind of something that may change. -/
def atom : Ref → Except String Atom
  | .method _ self f => .ok (.method self f)
  | .list _ => .error "list"
  | .dict _ => .error "dict"
  | .table _ => .error "collections.defaultdict"
  | .names _ => .error "set"
  | .body _ _ | .registry => .error "mappingproxy"
  | .part .values r => .ok (.ref (.part .values r))
  | .part p _ => .error p.kind
  | r => .ok (.ref r)

end Ref

namespace Double

def atom (stamp : Nat) : Double → Atom
  | .finite negative m e =>
    let size : Int := m
    .number (Dyadic.ofIntWithPrec (if negative then -size else size) (-e))
  | .infinite negative => .infinite negative
  | .nan => .nan stamp

end Double

namespace Value

mutual

/-- The key of a value as an event: equal keys are one event. Unhashable values have none. -/
def key : Value → Except String Key
  | nothing => .ok [.nothing]
  | flag b => .ok [.number (Dyadic.ofIntWithPrec (if b then 1 else 0) 0)]
  | int _ i => .ok [.number (Dyadic.ofIntWithPrec i 0)]
  | float stamp x => .ok [x.atom stamp]
  | text _ s => .ok [.text s]
  | event e => .ok [.text e.identifier]
  | tuple _ items => (keys items).map fun ks => .opening :: ks ++ [.closing]
  | options _ _ _ => .error "InstallOptions"
  | undecided => .ok [.undecided]
  | ref r => r.atom.map fun a => [a]

def keys : List Value → Except String Key
  | [] => .ok []
  | v :: rest =>
    match key v with
    | .error kind => .error kind
    | .ok k => (keys rest).map (k ++ ·)

end

def lookup? (k : Key) : List (Value × Value) → Option Value
  | [] => none
  | (name, v) :: rest => if name.key.toOption = some k then some v else lookup? k rest

end Value

end EventTasks
