import EventTasks.World
import EventTasks.Linearization

/-!
The classes that every world starts with, and the parameters of their functions: emitters, the
logging capability, runners that are both, tasks, the contract of a runner, plain objects with
attributes, listeners, and what classes and all objects have.
-/
namespace EventTasks

/-- The parameters of a function: the last `optional` ones default to `None`. -/
structure Signature where
  parameters : List String
  optional : Nat := 0
  variadic : Bool := false
  isOpen : Bool := false

namespace Library

def objectClass : Nat := 0
def emitterClass : Nat := 1
def loggerClass : Nat := 2
def runnerClass : Nat := 3
def taskClass : Nat := 4
def contractClass : Nat := 5
def protocolClass : Nat := 6
def genericClass : Nat := 7
def plainClass : Nat := 8
def listenerClass : Nat := 9
def typeClass : Nat := 10
def protocolTypeClass : Nat := 11
def abstractTypeClass : Nat := 12
def nothingClass : Nat := 13
def intClass : Nat := 14
def flagClass : Nat := 15
def floatClass : Nat := 16
def textClass : Nat := 17
def enumClass : Nat := 18
def eventClass : Nat := 19
def enumTypeClass : Nat := 20
def tupleClass : Nat := 21
def proxyClass : Nat := 22
def modelClass : Nat := 23
def optionsClass : Nat := 24
def modelTypeClass : Nat := 25
def undecidedClass : Nat := 26
def functionClass : Nat := 27
def methodClass : Nat := 28
def builtinClass : Nat := 29
def methodDescriptorClass : Nat := 30
def wrapperClass : Nat := 31
def boundWrapperClass : Nat := 32
def propertyClass : Nat := 33
def staticMethodClass : Nat := 34
def classMethodClass : Nat := 35
def slotClass : Nat := 36
def aspectClass : Nat := 37
def listClass : Nat := 38
def dictClass : Nat := 39
def tableClass : Nat := 40
def namesClass : Nat := 41
def keysClass : Nat := 42
def valuesClass : Nat := 43
def itemsClass : Nat := 44
def fixedSetClass : Nat := 45
def recordsClass : Nat := 46
def classwiseDescriptorClass : Nat := 47
def aliasClass : Nat := 48
def unionClass : Nat := 49

end Library

namespace EmitterOp

def name : EmitterOp → String
  | create => "__init__"
  | describe => "__repr__"
  | on => "on"
  | off => "off"
  | emit => "emit"
  | listeners => "listeners"
  | listenerCount => "listener_count"
  | eventNames => "event_names"
  | removeAllListeners => "remove_all_listeners"

def signature : EmitterOp → Signature
  | create | describe | eventNames => { parameters := ["self"] }
  | on | off => { parameters := ["self", "event", "handler"] }
  | emit => { parameters := ["self", "event"], variadic := true }
  | listeners | listenerCount => { parameters := ["self", "event"] }
  | removeAllListeners => { parameters := ["self", "event"], optional := 1 }

end EmitterOp

namespace LogOp

def all : List LogOp := [log, info, warn, error, debug]

def name : LogOp → String
  | log => "log"
  | info => "info"
  | warn => "warn"
  | error => "error"
  | debug => "debug"

def severity : LogOp → Log.Severity
  | log | info => .info
  | warn => .warning
  | error => .error
  | debug => .debug

end LogOp

namespace TaskOp

def name : TaskOp → String
  | create => "__init__"
  | describe => "__repr__"
  | init => "init"
  | handlerNames => "_get_handlers"
  | bindHandlers => "_bind_handlers"
  | parseOptions => "_parse_options"
  | resolveHandlers => "_resolve_handlers"
  | install => "install"
  | destroy => "destroy"
  | logPrefix => "_log_prefix"
  | makeForwarder => "_make_forwarder"
  | attachLogger => "_attach_logger"
  | handle e => e.handler

def signature : TaskOp → Signature
  | create => { parameters := ["self", "name", "handlers"], optional := 2 }
  | parseOptions => { parameters := ["self", "options"] }
  | install => { parameters := ["self", "options"], optional := 1 }
  | makeForwarder => { parameters := ["self", "method"] }
  | handle e => { parameters := ["self", e.parameter] }
  | _ => { parameters := ["self"] }

end TaskOp

namespace ContractOp

def name : ContractOp → String
  | create => "_no_init_or_replace_init"
  | on => "on"
  | off => "off"
  | adopt => "__init_subclass__"
  | judge | abstain => "_proto_hook"
  | isInstance => "__instancecheck__"
  | isSubclass => "__subclasscheck__"
  | register => "register"

def signature : ContractOp → Signature
  | create => { parameters := ["self"], variadic := true, isOpen := true }
  | on | off => { parameters := ["self", "event", "handler"] }
  | adopt => { parameters := ["cls"], variadic := true, isOpen := true }
  | judge | abstain => { parameters := ["other"] }
  | isInstance => { parameters := ["cls", "instance"] }
  | isSubclass | register => { parameters := ["cls", "subclass"] }

end ContractOp

namespace ObjectOp

def name : ObjectOp → String
  | create => "__init__"
  | describe => "__repr__"
  | asText => "__str__"
  | hash => "__hash__"
  | equal => "__eq__"
  | unequal => "__ne__"
  | less => "__lt__"
  | lessEqual => "__le__"
  | greater => "__gt__"
  | greaterEqual => "__ge__"
  | read => "__getattribute__"
  | assign => "__setattr__"
  | remove => "__delattr__"
  | format => "__format__"
  | directory => "__dir__"
  | size => "__sizeof__"
  | state => "__getstate__"
  | reduce => "__reduce__"
  | reduceFully => "__reduce_ex__"
  | new => "__new__"
  | initSubclass => "__init_subclass__"
  | subclassHook => "__subclasshook__"

def all : List ObjectOp := [new, describe, hash, asText, read, assign, remove, less, lessEqual,
  equal, unequal, greater, greaterEqual, create, reduceFully, reduce, state, subclassHook,
  initSubclass, format, size, directory]

def signature : ObjectOp → Signature
  | create | new | subclassHook => { parameters := ["self"], variadic := true, isOpen := true }
  | describe | asText | hash | directory | size | state | reduce | initSubclass =>
    { parameters := ["self"] }
  | assign => { parameters := ["self", "name", "value"] }
  | _ => { parameters := ["self", "other"] }

end ObjectOp

namespace ListenerOp

def name : ListenerOp → String
  | create => "__init__"
  | call => "__call__"
  | describe => "__repr__"

end ListenerOp

namespace ClassOp

def name : ClassOp → String
  | order => "mro"
  | call => "__call__"
  | subclasses => "__subclasses__"
  | prepare => "__prepare__"
  | isInstance => "__instancecheck__"
  | isSubclass => "__subclasscheck__"

end ClassOp

namespace HoldingOp

def name : HoldingOp → String
  | append => "append"
  | add => "add"
  | get => "get"
  | keys => "keys"
  | values => "values"
  | items => "items"
  | pop => "pop"
  | clear => "clear"
  | copy => "copy"
  | item => "__getitem__"
  | length => "__len__"

end HoldingOp

namespace TextOp

def name : TextOp → String
  | lower => "lower"
  | upper => "upper"
  | startsWith => "startswith"

end TextOp

namespace Holding

def kind : Holding → String
  | list => "list"
  | dict => "dict"
  | table => "defaultdict"
  | names => "set"
  | fixed => "mappingproxy"

end Holding

/-- Where a library function is at home. -/
inductive OperationForm where
  | plain | sign | builtin
deriving DecidableEq

namespace Operation

def name : Operation → String
  | emitter op => op.name
  | contract op => op.name
  | log op => op.name
  | task op => op.name
  | object op => op.name
  | listener op => op.name
  | cls op => op.name
  | holding _ op => op.name
  | text op => op.name

def owner : Operation → String
  | emitter .describe => "ConformanceRunner"
  | emitter _ => "EventEmitter"
  | contract _ => "Runner"
  | log _ => "ConformanceLogger"
  | task _ => "ConformanceTask"
  | object _ => "object"
  | listener _ => "Listener"
  | cls _ => "type"
  | holding form _ => form.kind
  | text _ => "str"

def qualifiedName : Operation → String
  | contract .create => ContractOp.create.name
  | contract .adopt => "Protocol.__init_subclass__"
  | contract .judge | contract .abstain => "Protocol.__init_subclass__.<locals>._proto_hook"
  | contract .isInstance => "_ProtocolMeta." ++ ContractOp.isInstance.name
  | contract .isSubclass => "ABCMeta." ++ ContractOp.isSubclass.name
  | contract .register => "ABCMeta." ++ ContractOp.register.name
  | op => op.owner ++ "." ++ op.name

def signature : Operation → Signature
  | emitter op => op.signature
  | contract op => op.signature
  | log _ => { parameters := ["self"], variadic := true }
  | task op => op.signature
  | object op => op.signature
  | listener .create => { parameters := ["self", "id", "spec"] }
  | listener .call => { parameters := ["self"], variadic := true }
  | cls .call | cls .prepare => { parameters := ["self"], variadic := true, isOpen := true }
  | cls .isInstance | cls .isSubclass => { parameters := ["self", "other"] }
  | listener .describe | cls _ => { parameters := ["self"] }
  | holding .. | text _ => { parameters := ["self"], variadic := true, isOpen := true }

def form : Operation → OperationForm
  | object .format | object .directory | object .size | object .state | object .reduce
  | object .reduceFully | object .new | object .initSubclass | object .subclassHook => .builtin
  | object _ | cls .call | holding _ .length => .sign
  | cls _ | holding .. | text _ => .builtin
  | _ => .plain

end Operation

namespace Library

def function (op : Operation) : String × Value := (op.name, .function (.library op))

def textEntry (name s : String) : String × Value := (name, .word s)

def flagEntry (name : String) (b : Bool) : String × Value := (name, .flag b)

def aspectEntry (owner : Nat) (name : String) (a : Aspect) : String × Value :=
  (name, .ref (.aspect owner a))

def about (place doc : String) : List (String × Value) :=
  [textEntry "__module__" place, textEntry "__doc__" doc]

def ownAspects (owner : Nat) : List (String × Value) :=
  [aspectEntry owner "__dict__" .attributes, aspectEntry owner "__weakref__" .weakReference]

def basic (name : String) (self : Nat) (body : List (String × Value)) : ClassInfo where
  name := name
  qualifiedName := name
  bases := [objectClass]
  order := [self, objectClass]
  kind := typeClass
  isFixed := true
  isOpen := false
  body := body

def defined (name label : String) (self : Nat) (body : List (String × Value)) : ClassInfo where
  name := name
  qualifiedName := name
  label := if label = "" then none else some label
  bases := [objectClass]
  order := [self, objectClass]
  kind := typeClass
  body := body ++ ownAspects self

def objectEntry (op : ObjectOp) : String × Value :=
  let f : Function := .library (.object op)
  match op with
  | .new => (op.name, .ref (.staticMethod f))
  | .initSubclass | .subclassHook => (op.name, .ref (.classMethod f))
  | op => (op.name, .function f)

def objectInfo : ClassInfo where
  name := "object"
  qualifiedName := "object"
  label := some "object"
  bases := []
  order := [objectClass]
  kind := typeClass
  isFixed := true
  isOpen := false
  body := (ObjectOp.all.map objectEntry) ++
    [aspectEntry objectClass "__class__" .cls,
      textEntry "__doc__" ("The base class of the class hierarchy.\n\n" ++
        "When called, it accepts no arguments and returns a new featureless\n" ++
        "instance that has no instance attributes and cannot be given any.\n")]

/-- The class `EventEmitter`. -/
def emitterInfo : ClassInfo :=
  defined "EventEmitter" "Emitter" emitterClass
    (about "conformance.emitter" ("\n    Synchronous event emitter.\n\n" ++
      "    • Listeners are called in subscription order\n" ++
      "    • The same listener may be subscribed more than once\n" ++
      "    • `off` removes the most recently added matching listener\n    ") ++
    [EmitterOp.create, .on, .off, .emit, .listeners, .listenerCount, .eventNames,
      .removeAllListeners].map fun op => function (.emitter op))

/-- The class `ConformanceLogger`. -/
def loggerInfo : ClassInfo :=
  defined "ConformanceLogger" "Logger" loggerClass
    (about "conformance.task_logger" "Logging operations exposed by a conformance runner." ++
      LogOp.all.map fun op => function (.log op))

/-- The class `ConformanceRunner`. -/
def runnerInfo : ClassInfo where
  name := "ConformanceRunner"
  qualifiedName := "ConformanceRunner"
  label := some "ConfRunner"
  bases := [emitterClass, loggerClass]
  order := [runnerClass, emitterClass, loggerClass, objectClass]
  kind := typeClass
  body := about "conformance.emitter" "Event emitter that tasks can also forward log output to." ++
    [function (.emitter .describe)]

def installedProperty : Nat := 0
def handlersProperty : Nat := 1

def properties : Array PropertyInfo :=
  #[⟨.installed, some "installed"⟩, ⟨.handlers, some "handlers"⟩]

def taskAnnotations : Nat := 0

/-- The class `ConformanceTask`. -/
def taskInfo : ClassInfo :=
  defined "ConformanceTask" "Task" taskClass
    ([textEntry "__module__" "conformance.task",
      ("__annotations__", .ref (.dict taskAnnotations)),
      textEntry "__doc__" ("\n    Base conformance listener/task class.\n\n" ++
    "    Provides:\n" ++
    "      • one bound handler per parse event, looked up on the instance at install\n" ++
    "      • install(options) / destroy() to subscribe to and leave a runner\n" ++
    "      • optional per-instance logging methods that forward to the runner\n" ++
    "        with a \"[<task name>]\" prefix\n    "),
      textEntry "name" "Base", ("events", Value.registry),
      ("log_capability", .cls loggerClass), ("attach_logger", .nothing),
      function (.task .create), function (.task .describe),
      ("installed", .ref (.property installedProperty)),
      ("handlers", .ref (.property handlersProperty))] ++
    ([TaskOp.init, .handlerNames, .bindHandlers, .parseOptions, .resolveHandlers, .install,
      .destroy, .logPrefix, .makeForwarder, .attachLogger] ++
      ParseEvent.all.map TaskOp.handle).map fun op => function (.task op))

def nothingAbstract : Nat := 0
def contractRecords : Nat := 1
def eventsKind : Nat := 2
def attachKind : Nat := 3

def objects : Array ObjectInfo := #[{ cls := fixedSetClass }, { cls := recordsClass },
  { cls := aliasClass }, { cls := unionClass }]

def description? (i : Nat) : Option String :=
  if i = nothingAbstract then some "frozenset()"
  else if i = eventsKind then some "typing.Mapping[str, str]"
  else if i = attachKind then some "bool | None"
  else none

/-- The annotations of `ConformanceTask`. -/
def taskFields : List (String × Value) := [("name", .cls textClass), ("events", .object eventsKind),
  ("log_capability", .cls typeClass), ("attach_logger", .object attachKind)]

/-- The protocol `Runner`. -/
def contractInfo : ClassInfo where
  name := "Runner"
  qualifiedName := "Runner"
  label := some "Runner"
  bases := [protocolClass]
  order := [contractClass, protocolClass, genericClass, objectClass]
  kind := protocolTypeClass
  body := about "conformance.emitter" "Anything a task can subscribe its handlers to." ++
    [function (.contract .on), function (.contract .off)] ++ ownAspects contractClass ++
    [("__parameters__", .tuple 0 []), flagEntry "_is_protocol" true,
      ("__subclasshook__", .function (.library (.contract .judge))),
      ("__init__", .function (.library (.contract .create))),
      ("__abstractmethods__", .object nothingAbstract), ("_abc_impl", .object contractRecords),
      flagEntry "_is_runtime_protocol" true]

def protocolInfo : ClassInfo where
  name := "Protocol"
  qualifiedName := "Protocol"
  bases := [genericClass]
  order := [protocolClass, genericClass, objectClass]
  kind := protocolTypeClass
  isOpen := false
  body := [textEntry "__module__" "typing", ("__slots__", .tuple 0 []),
    flagEntry "_is_protocol" true, flagEntry "_is_runtime_protocol" false,
    (ContractOp.adopt.name, .ref (.classMethod (.library (.contract .adopt)))),
    ("__parameters__", .tuple 0 [])]

def genericInfo : ClassInfo where
  name := "Generic"
  qualifiedName := "Generic"
  bases := [objectClass]
  order := [genericClass, objectClass]
  kind := typeClass
  isOpen := false
  body := [textEntry "__module__" "typing", ("__slots__", .tuple 0 []),
    flagEntry "_is_protocol" false]

def plainInfo : ClassInfo :=
  defined "Options" "" plainClass [textEntry "__module__" "__main__", ("__doc__", .nothing)]

def listenerInfo : ClassInfo :=
  defined "Listener" "" listenerClass ([textEntry "__module__" "__main__"] ++
    [ListenerOp.create, .call, .describe].map (fun op => function (.listener op)) ++
    [("__doc__", .nothing)])

def classAspects : List (String × Aspect) := [("__name__", .name), ("__qualname__", .qualifiedName),
  ("__bases__", .bases), ("__mro__", .order), ("__base__", .base), ("__module__", .place),
  ("__abstractmethods__", .abstract), ("__dict__", .body), ("__doc__", .doc),
  ("__text_signature__", .signature), ("__annotations__", .annotations), ("__flags__", .flags),
  ("__basicsize__", .size), ("__itemsize__", .itemSize),
  ("__dictoffset__", .attributesOffset), ("__weakrefoffset__", .weakOffset)]

def typeInfo : ClassInfo :=
  { basic "type" typeClass
      ([ClassOp.order, .call, .subclasses, .isInstance, .isSubclass].map
          (fun op => function (.cls op)) ++
        [(ClassOp.prepare.name, .ref (.classMethod (.library (.cls .prepare))))] ++
        classAspects.map fun p => aspectEntry typeClass p.1 p.2) with
    isOpen := true }

def kindOfClasses (name place : String) (self : Nat) (above : List Nat)
    (own : List ContractOp) : ClassInfo where
  name := name
  qualifiedName := name
  bases := above.take 1
  order := self :: above ++ [typeClass, objectClass]
  kind := typeClass
  body := [textEntry "__module__" place, ("__doc__", .nothing)] ++
    own.map fun op => function (.contract op)

def holding (form : Holding) (ops : List HoldingOp) : List (String × Value) :=
  ops.map fun op => function (.holding form op)

def eventInfo : ClassInfo where
  name := "ParseEvent"
  qualifiedName := "ParseEvent"
  bases := [textClass, enumClass]
  order := [eventClass, textClass, enumClass, objectClass]
  kind := enumTypeClass
  body := [textEntry "__module__" "conformance.events"]

def modelInfo (name place : String) (self : Nat) (above : List Nat) : ClassInfo where
  name := name
  qualifiedName := name
  bases := above.take 1
  order := self :: above ++ [objectClass]
  kind := modelTypeClass
  body := [textEntry "__module__" place]

def under (parent : Nat) (k : ClassInfo) : ClassInfo :=
  { k with bases := [parent], order := k.order.take 1 ++ [parent, objectClass] }

def classes : Array ClassInfo := #[objectInfo, emitterInfo, loggerInfo, runnerInfo, taskInfo,
  contractInfo, protocolInfo, genericInfo, plainInfo, listenerInfo, typeInfo,
  kindOfClasses "_ProtocolMeta" "typing" protocolTypeClass [abstractTypeClass] [.isInstance],
  kindOfClasses "ABCMeta" "abc" abstractTypeClass [] [.register, .isSubclass],
  basic "NoneType" nothingClass [], basic "int" intClass [],
  under intClass (basic "bool" flagClass []), basic "float" floatClass [],
  basic "str" textClass ([TextOp.lower, .upper, .startsWith].map fun op => function (.text op)),
  { basic "Enum" enumClass [textEntry "__module__" "enum"] with kind := enumTypeClass },
  eventInfo, kindOfClasses "EnumType" "enum" enumTypeClass [] [], basic "tuple" tupleClass [],
  basic "mappingproxy" proxyClass (holding .fixed [.get, .keys, .values, .items, .copy, .item]),
  modelInfo "BaseModel" "pydantic.main" modelClass [],
  modelInfo "InstallOptions" "conformance.models" optionsClass [modelClass],
  kindOfClasses "ModelMetaclass" "pydantic._internal._model_construction" modelTypeClass
    [abstractTypeClass] [],
  basic "NotImplementedType" undecidedClass [], basic "function" functionClass [],
  basic "method" methodClass [], basic "builtin_function_or_method" builtinClass [],
  basic "method_descriptor" methodDescriptorClass [],
  basic "wrapper_descriptor" wrapperClass [], basic "method-wrapper" boundWrapperClass [],
  basic "property" propertyClass [], basic "staticmethod" staticMethodClass [],
  basic "classmethod" classMethodClass [], basic "member_descriptor" slotClass [],
  basic "getset_descriptor" aspectClass [],
  basic "list" listClass (holding .list [.append, .pop, .clear, .copy, .item, .length]),
  basic "dict" dictClass
    (holding .dict [.get, .keys, .values, .items, .pop, .clear, .copy, .item, .length]),
  under dictClass (basic "defaultdict" tableClass (textEntry "__module__" "collections" ::
    holding .table [.get, .keys, .values, .items, .pop, .clear, .copy, .item, .length])),
  basic "set" namesClass (holding .names [.add, .clear, .copy, .length]),
  basic "dict_keys" keysClass [], basic "dict_values" valuesClass [],
  basic "dict_items" itemsClass [], basic "frozenset" fixedSetClass [],
  basic "_abc_data" recordsClass [textEntry "__module__" "_abc"],
  basic "classmethod_descriptor" classwiseDescriptorClass [],
  basic "_GenericAlias" aliasClass [textEntry "__module__" "typing"],
  basic "UnionType" unionClass [textEntry "__module__" "types"]]

/-- The number of library classes; all later ones belong to the session. -/
def size : Nat := 50

def names : List (String × Value) := [("Task", .cls taskClass), ("Emitter", .cls emitterClass),
  ("ConfRunner", .cls runnerClass), ("Logger", .cls loggerClass), ("Runner", .cls contractClass),
  ("object", .cls objectClass)]

end Library

/-- The world in which every session starts. -/
def World.start : World :=
  { classes := Library.classes, properties := Library.properties, names := Library.names,
    dicts := #[.ofTexts Library.taskFields], objects := Library.objects }

end EventTasks
