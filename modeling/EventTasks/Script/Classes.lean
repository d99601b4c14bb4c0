import EventTasks.Script.Evaluation
import EventTasks.Script.Reservation

/-!
Classes that a session makes. The entries of the body are made in order; of two entries with the
same name the later one counts. The class of the new class follows from its bases. When the body is
complete, what stands in it takes the names under which the class holds it, and the next class in
the search order is told. Only then does the session know the class by its name.
-/
namespace EventTasks.Script

/-! Class bodies -/

def makeFunction (owner : Nat) (cls name : String) (form : FunctionForm) (routine : Routine Step) :
    Act Function :=
  let info : FunctionInfo :=
    { name, owner, qualifiedName := cls ++ "." ++ name, form, behaviour := { routine } }
  modifyGet fun w =>
    (.scripted w.functions.size, { w with functions := w.functions.push info })

def makeProperty (rule : PropertyRule) : Act Value :=
  modifyGet fun w =>
    (.ref (.property w.properties.size), { w with properties := w.properties.push ⟨rule, none⟩ })

def entryOf (h : Host) (owner : Nat) (cls name : String) : MemberTerm Step → Act Value
  | .method r => do pure (.function (← makeFunction owner cls name .method r))
  | .staticMethod r => do pure (.ref (.staticMethod (← makeFunction owner cls name .free r)))
  | .classMethod r => do pure (.ref (.classMethod (← makeFunction owner cls name .classwise r)))
  | .property t => makeProperty (.result t)
  | .failingProperty raised => makeProperty (.failing raised)
  | .value t => evaluate h t

def bodyOf (h : Host) (owner : Nat) (cls : String) (found : List (String × Value)) :
    List (String × MemberTerm Step) → Act (List (String × Value))
  | [] => pure found
  | (name, t) :: rest => do
    let v ← entryOf h owner cls name t
    bodyOf h owner cls (setEntry name v found) rest

def settled (p : String × Value) : String × Value :=
  match p.2 with
  | .ref (.function f) =>
    if World.functionClassOf f ≠ Library.functionClass then p
    else if p.1 = "__new__" then (p.1, .ref (.staticMethod f))
    else if p.1 = "__init_subclass__" ∨ p.1 = "__class_getitem__" then
      (p.1, .ref (.classMethod f))
    else p
  | _ => p

def withDefaults (body : List (String × Value)) (new : List (String × Value)) :
    List (String × Value) :=
  new.foldl (fun body p => if (body.lookup p.1).isSome then body else body ++ [p]) body

/-- The body of a class with what every class holds. A class with `__eq__` and no `__hash__` gets
`__hash__ = None`. -/
def completed (body own : List (String × Value)) : List (String × Value) :=
  let body := withDefaults (body.map settled) (own ++ [("__doc__", .nothing)])
  if (body.lookup "__eq__").isSome then withDefaults body [("__hash__", .nothing)] else body

def checkText (s : String) : Except Fault Unit :=
  match Text.unencodable? (fun _ => false) s with
  | some (start, stop) => .error (.unencodable s start stop)
  | none => .ok ()

def qualifiedNameIn (w : World) (id : String) (body : List (String × Value)) :
    Except Fault String := do
  checkText id
  if id.toList.contains (Char.ofNat 0) then throw .classNameNull
  match body.lookup "__qualname__" with
  | none => pure id
  | some v =>
    match v.text? with
    | some s => pure s
    | none => throw (.qualifiedNameNotText (w.kindOf v))

/-! Making a class -/

def kindOver (w : World) (bases : List Value) : Except Fault Nat :=
  match bases.map w.classOf with
  | [] => .ok Library.typeClass
  | first :: rest =>
    rest.foldlM (fun winner k =>
      if w.isUnder winner k then .ok winner
      else if w.isUnder k winner then .ok k
      else .error .baseNotClass) first

def reserveClass (id : String) : Act Nat :=
  let blank : ClassInfo :=
    { name := id, qualifiedName := id, bases := [], order := [], body := [],
      kind := Library.typeClass }
  modifyGet fun w => (w.classes.size, { w with classes := w.classes.push blank })

def nameEntries (h : Host) (c : Nat) : List (String × Value) → Act Unit
  | [] => pure ()
  | (name, .ref (.property p)) :: rest => do
    modify fun w => { w with properties := w.properties.modify p ({ · with name := some name }) }
    nameEntries h c rest
  | (name, v) :: rest => do
    match ← attempt (h.ask? v "__set_name__" [.cls c, .word name]) with
    | .ok _ => nameEntries h c rest
    | .error _ => do
      let w ← get
      throw (.setName (w.kindOf v) (Text.quoted name) (w.className c))

def announce (h : Host) (c : Nat) : Act Unit := do
  let w ← get
  match w.findEntry (w.orderOf c).tail "__init_subclass__" with
  | some (_, entry) => do
    let _ ← h.call (← h.fetch entry none c) [] []
  | none => pure ()

def isLacking (h : Host) (entry : Value) : Act Bool := do
  match ← h.attr? entry "__isabstractmethod__" with
  | some v => h.truth v
  | none => pure false

def lackingOf (h : Host) : List (String × Value) → Act (List Value)
  | [] => pure []
  | (name, v) :: rest => do
    if ← isLacking h v then pure (.word name :: (← lackingOf h rest)) else lackingOf h rest

def stillLacking (h : Host) (c : Nat) : List Value → Act (List Value)
  | [] => pure []
  | name :: rest => do
    let found ← match name.text? with
      | some s => h.attr? (.cls c) s
      | none => pure none
    match found with
    | some v => do
      if ← isLacking h v then pure (name :: (← stillLacking h c rest)) else stillLacking h c rest
    | none => stillLacking h c rest

def noteLacking (h : Host) (c : Nat) : Act Unit := do
  let k := (← get).classInfo c
  let own ← lackingOf h k.body
  let inherited ← k.bases.mapM fun base => do
    match ((← get).classInfo base).abstract with
    | some v => do stillLacking h c (← h.items v)
    | none => pure []
  let records ← newObject { cls := Library.recordsClass }
  let lacking := own ++ inherited.flatten
  let abstract ← if lacking.isEmpty then pure none else some <$> newList lacking
  modifyClass c fun k =>
    let body := setEntry "__abstractmethods__" (.object Library.nothingAbstract) k.body
    { k with abstract, body := setEntry "_abc_impl" (.object records) body }

/-- Fills the place reserved for a class. -/
def fillClass (h : Host) (c : Nat) (id : String) (kind : Nat) (bases : List Nat)
    (body : List (String × Value)) : Act Unit := do
  let w ← get
  let chief ← match w.chief? bases with
    | some b => pure b
    | none => throw (.slots .layout)
  let reservation ← Reservation.ofBody h chief bases id body
  let qualifiedName ← liftExcept (qualifiedNameIn (← get) id body)
  match body.lookup "__doc__" with
  | some (.text _ s) => liftExcept (checkText s)
  | _ => pure ()
  let order ← liftExcept (orderFor (← get) c bases)
  let own ← reservation.entries c
  let body := completed (dropEntry "__qualname__" body) own
  let isOpen := (w.classInfo chief).isOpen || reservation.attributes
  let basesStamp ← newStamp
  let orderStamp ← newStamp
  modifyClass c fun k =>
    { k with qualifiedName, bases, order, body, kind, isOpen, basesStamp, orderStamp }
  nameEntries h c body
  announce h c
  if (← get).isUnder kind Library.abstractTypeClass then noteLacking h c

def makeFrom (h : Host) (c : Nat) (id : String) (bases : List Value)
    (body : List (String × Value)) : Act Value := do
  let w ← get
  let kind ← liftExcept (kindOver w bases)
  if w.isUnder kind Library.typeClass then
    let found := bases.filterMap Value.classPlace?
    if found.length ≠ bases.length then throw .basesNotClasses
    fillClass h c id kind (if found.isEmpty then [Library.objectClass] else found) body
    pure (.cls c)
  else h.call (.cls kind) [.word id, ← newTuple bases, ← newDict (.ofTexts body)] []

def define (id : String) (v : Value) : Act Unit :=
  modify fun w => { w with names := (id, v) :: w.names }

def label (id : String) (v : Value) : Act Unit :=
  match v with
  | .ref (.subject (.object i)) => modifyObject i fun o => { o with label := some id }
  | .ref (.subject (.cls c)) => modifyClass c fun k => { k with label := some id }
  | _ => pure ()

/-- Makes a class and tells the classes along its search order. -/
def makeClass (h : Host) (id : String) (bases : List String)
    (body : List (String × MemberTerm Step)) : Act (List Value) := do
  let bases ← bases.mapM named
  let c ← reserveClass id
  let body ← bodyOf h c id [("__module__", .word "session")] body
  let made ← makeFrom h c id bases body
  label id made
  define id made
  (← h.items (← h.attr made "__mro__")).mapM fun k => h.attr k "__name__"

end EventTasks.Script
