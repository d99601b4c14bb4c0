import EventTasks.Library

/-!
Where names are looked up: the classes of values, the definition that a class uses for a name, and
the definitions that classes put in place of what every object has.
-/
namespace EventTasks.World

def classInfo (w : World) (c : Nat) : ClassInfo := w.classes[c]?.getD Library.objectInfo

def orderOf (w : World) (c : Nat) : List Nat := (w.classInfo c).order

def findEntry (w : World) (order : List Nat) (name : String) : Option (Nat × Value) :=
  order.findSome? fun c => ((w.classInfo c).body.lookup name).map (c, ·)

/-- The first definition of `name` along the search order of class `c`. -/
def definition? (w : World) (c : Nat) (name : String) : Option Value :=
  (w.findEntry (w.orderOf c) name).map Prod.snd

/-- As `definition?`, but what every object has by `object` does not count. -/
def hook? (w : World) (c : Nat) (name : String) : Option Value :=
  (w.findEntry ((w.orderOf c).filter (· ≠ Library.objectClass)) name).map Prod.snd

def className (w : World) (c : Nat) : String := (w.classInfo c).name

def kindName (w : World) (c : Nat) : String :=
  if c = Library.tableClass then "collections.defaultdict"
  else if c = Library.recordsClass then "_abc._abc_data"
  else w.className c

def objectClassOf (w : World) (i : Nat) : Nat :=
  match w.objects[i]? with
  | some o => o.cls
  | none => Library.objectClass

def functionClassOf : Function → Nat
  | .library op =>
    match op.form with
    | .plain => Library.functionClass
    | .sign => Library.wrapperClass
    | .builtin =>
      if op = .object .new then Library.builtinClass else Library.methodDescriptorClass
  | _ => Library.functionClass

def methodClassOf : Function → Nat
  | .library op =>
    match op.form with
    | .plain => Library.methodClass
    | .sign => Library.boundWrapperClass
    | .builtin => Library.builtinClass
  | _ => Library.methodClass

def classOfRef (w : World) : Ref → Nat
  | .subject (.object i) => w.objectClassOf i
  | .subject (.cls c) => (w.classInfo c).kind
  | .function f => functionClassOf f
  | .staticMethod (.library (.object _)) => Library.builtinClass
  | .staticMethod _ => Library.staticMethodClass
  | .classMethod (.library (.object _)) => Library.classwiseDescriptorClass
  | .classMethod _ => Library.classMethodClass
  | .method _ _ f => methodClassOf f
  | .bound p => ((w.bound[p]?).map fun b => methodClassOf b.2).getD Library.methodClass
  | .property _ => Library.propertyClass
  | .slot _ => Library.slotClass
  | .aspect _ _ => Library.aspectClass
  | .list _ => Library.listClass
  | .dict _ => Library.dictClass
  | .table _ => Library.tableClass
  | .names _ => Library.namesClass
  | .body _ _ | .registry => Library.proxyClass
  | .part .keys _ => Library.keysClass
  | .part .values _ => Library.valuesClass
  | .part .items _ => Library.itemsClass

def classOf (w : World) : Value → Nat
  | .nothing => Library.nothingClass
  | .flag _ => Library.flagClass
  | .int _ _ => Library.intClass
  | .float _ _ => Library.floatClass
  | .text _ _ => Library.textClass
  | .event _ => Library.eventClass
  | .tuple _ _ => Library.tupleClass
  | .options _ _ _ => Library.optionsClass
  | .undecided => Library.undecidedClass
  | .ref r => w.classOfRef r

def kindOf (w : World) (v : Value) : String := w.kindName (w.classOf v)

def shortKindOf (w : World) (v : Value) : String := w.className (w.classOf v)

/-- Whether `d` is in the search order of class `c`. -/
def isUnder (w : World) (c d : Nat) : Bool := decide (d ∈ w.orderOf c)

/-- The class above `c`, or itself, that decides where objects hold slots. -/
def layoutOf (w : World) (c : Nat) : Nat :=
  ((w.orderOf c).find? fun k => w.slots.any fun s => s.owner == k).getD Library.objectClass

def chief? (w : World) (bases : List Nat) : Option Nat :=
  bases.find? fun b => bases.all fun d => w.isUnder (w.layoutOf b) (w.layoutOf d)

def isReferable (w : World) (c : Nat) : Bool :=
  (w.orderOf c).any fun k => (w.classInfo k).body.any fun p =>
    match p.2 with
    | .ref (.aspect owner .weakReference) => owner == k
    | _ => false

def ownReserved (w : World) (c : Nat) : List String :=
  (w.slots.toList.filter fun s => s.owner == c).map SlotInfo.name

def addSame (w : World) (c d : Nat) : Bool :=
  (w.classInfo c).isOpen == (w.classInfo d).isOpen && w.isReferable c == w.isReferable d &&
    w.ownReserved c == w.ownReserved d

def layoutRootFrom (w : World) : Nat → Nat → Nat
  | 0, c => c
  | left + 1, c =>
    match w.chief? (w.classInfo c).bases with
    | some b =>
      if (w.ownReserved c).isEmpty && (w.classInfo c).isOpen == (w.classInfo b).isOpen &&
        w.isReferable c == w.isReferable b then w.layoutRootFrom left b
      else c
    | none => c

def layoutRoot (w : World) (c : Nat) : Nat := w.layoutRootFrom (w.orderOf c).length c

def sameLayout (w : World) (c d : Nat) : Bool :=
  let r := w.layoutRoot c
  let s := w.layoutRoot d
  let above (k : Nat) : Option Nat := w.chief? (w.classInfo k).bases
  r == s || (above r == above s && w.addSame r s)

def isBare (w : World) (c : Nat) : Bool :=
  !(w.classInfo c).isOpen && !w.isReferable c &&
    (w.orderOf c).all fun k => (w.ownReserved k).isEmpty

def hookOf? (w : World) (v : Value) (name : String) : Option Value :=
  match v.objectPlace? with
  | some i => w.hook? (w.objectClassOf i) name
  | none => none

def attributes? (w : World) (i : Nat) : Option (Nat × Dictionary) :=
  (w.objects[i]?.bind ObjectInfo.attributes).map fun p => (p, w.dictAt p)

def attributesOf (w : World) (i : Nat) : Dictionary :=
  ((w.attributes? i).map Prod.snd).getD {}

def propertyInfo (w : World) (p : Nat) : PropertyInfo :=
  w.properties[p]?.getD ⟨.result .nothing, none⟩

def slotInfo (w : World) (s : Nat) : SlotInfo := w.slots[s]?.getD ⟨Library.objectClass, ""⟩

def placeOf? (w : World) (c : Nat) : Option String :=
  match ((w.classInfo c).body.lookup "__module__").bind Value.text? with
  | some "builtins" | none => none
  | found => found

def classPath (w : World) (c : Nat) : String :=
  let k := w.classInfo c
  match w.placeOf? c with
  | some place => place ++ "." ++ k.qualifiedName
  | none => k.name

def missing (w : World) (v : Value) (name : String) : Fault :=
  match v with
  | .ref (.subject (.cls c)) => .missingClassAttribute (w.className c) name
  | .ref (.method _ _ f) =>
    let c := methodClassOf f
    .missingAttribute (w.className (if c = Library.methodClass then functionClassOf f else c)) name
  | v => .missingAttribute (w.kindOf v) name

/-- `callable`. -/
def isCallable (w : World) : Value → Bool
  | .ref (.subject (.object i)) => (w.definition? (w.objectClassOf i) "__call__").isSome
  | .ref (.subject (.cls _)) | .ref (.function _) | .ref (.method ..) | .ref (.bound _)
  | .ref (.staticMethod _) => true
  | _ => false

def functionName (w : World) : Function → String
  | .library op => op.name
  | .scripted i => (w.functions[i]?.map FunctionInfo.name).getD ""
  | .forwarder i => (w.forwarders[i]?.map ForwarderInfo.name).getD ""

def qualifiedName (w : World) : Function → String
  | .library op => op.qualifiedName
  | .scripted i => (w.functions[i]?.map FunctionInfo.qualifiedName).getD ""
  | .forwarder i => (w.forwarders[i]?.map ForwarderInfo.qualifiedName).getD ""

end EventTasks.World
