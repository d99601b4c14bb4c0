import EventTasks.Value
import EventTasks.Text.Quoted
import EventTasks.Text.Cut

/-!
What can go wrong, by cause. Each cause has a kind, which decides who may handle it, and a message.
Parts of a message that describe a value are texts: they are made when the fault arises.
-/
namespace EventTasks

/-- The exception classes that a caller can tell apart. -/
inductive FaultKind where
  | type | value | key | index | lookup | attribute | runtime | overflow | recursion | system
  | memory | assertion | decode | encode | install | missingHandler | notInstalled | task
  | validation | sources
deriving DecidableEq, Repr

def FaultKind.isValue : FaultKind → Bool
  | value | decode | encode | validation | sources => true
  | _ => false

inductive ArityFault where
  | missing (parameters : List String)
  | tooMany (least most given : Nat)
  | unexpectedName (name : String)
  | givenTwice (name : String)
deriving Repr

inductive FormatFault where
  | notEnough
  | notAllUsed
  | mappingRequired
  | incomplete
  | incompleteKey
  | missingKey (key : String)
  | unsupported (conversion : Char) (position : Nat)
  | realRequired (conversion : Char) (kind : String)
  | integerRequired (conversion : Char) (kind : String)
  | widthNotInteger
  | characterRequired
  | characterRange
  | notANumber
  | infinite
  | numberRequired (kind : String)
  | tooGreatForFraction
  | widthTooBig
  | precisionTooBig
  | widthOutOfRange
  | precisionOutOfRange
  | precisionTooLarge
  | tooLong
deriving Repr

inductive SlotFault where
  | notText (kind : String)
  | notName
  | taken (name : String)
  | secondAttributes
  | secondReference
  | layout
deriving Repr

inductive BasesFault where
  | notTuple (cls kind : String)
  | empty (cls : String)
  | notClass (cls kind : String)
  | cycle
  | layout (former new : String)
  | deallocator (former new : String)
deriving Repr

inductive Fault where
  /-- Raised by a scripted callable. -/
  | scripted (kind : FaultKind) (message : String)
  | unknownId (id : String)
  | missingKey (key : String)
  | missingAttribute (kind name : String)
  | missingClassAttribute (cls name : String)
  /-- There is no place for an attribute of that name, or nothing to delete. -/
  | unsettable (kind name : String)
  | missingInherited (name : String)
  /-- An entry of a class that decides about itself, but not about this. -/
  | missingHook (name : String)
  | slotUnset (kind name : String)
  | slotEmpty (name : String)
  | slots (fault : SlotFault)
  | nameNotText (kind : String)
  | property (name : Option String) (cls lacking : String)
  | readOnly (kind name : String)
  /-- An entry that tells something of the objects of another class. -/
  | foreignEntry (name owner kind : String)
  | noAttributes
  | classNotClass (kind : String)
  | classFixed
  | classKept
  | layoutDiffers (former new : String)
  | deallocatorDiffers (former new : String)
  | classEntryFixed
  | aspectFixed (name owner : String)
  | immutableClass (name cls : String) (deletion : Bool)
  | attributesNotMapping (kind : String)
  | classArgument
  /-- A class under the contract judged another one neither way, and did not leave it open. -/
  | hookAnswer
  | onlyClasses
  | circle
  | classNameNotText (name cls kind : String)
  | classNameNull
  | bases (fault : BasesFault)
  | functionNameNotText
  | setName (kind name cls : String)
  | abstract (cls : String) (methods : List String)
  | notCallable (kind : String)
  | unhashable (kind : String)
  | hashNotNumber
  | notIterable (kind : String)
  | notIterator (kind : String)
  | keysNotIterable (mapping kind : String)
  | notReversible (kind : String)
  | notContainer (kind : String)
  | textOperand (kind : String)
  | notSubscriptable (kind : String)
  | classNotSubscriptable (cls : String)
  | placeKind (holder kind : String)
  | placeRange (holder : String)
  | popEmpty
  | popRange
  /-- A mapping changed its size while it was gone through. -/
  | sizeChanged
  | keysChanged
  | noItemAssignment (kind : String)
  | noItemDeletion (kind : String)
  | noLength (kind : String)
  | notInteger (kind : String)
  | notWhole (function kind : String)
  | notReal (owner kind : String)
  | lengthNegative
  | lengthTooGreat
  | truthNotFlag (kind : String)
  | arity (function : String) (fault : ArityFault)
  | noArguments (cls : String)
  /-- A number of arguments that an operation of every object does not take. -/
  | miscounted (wanted given : Nat)
  | atMost (function : String) (most given : Nat)
  | atLeast (function : String) (least given : Nat)
  | exactlyOne (function : String) (given : Nat)
  | exactlyNone (function : String) (given : Nat)
  | noNames (function : String)
  | startKind (kind : String)
  | startCount (given : Nat)
  | needsObject (name owner : String)
  | needsSubject (function : String)
  | needsClass
  | onlyTheObject (cls : String)
  | protocolObject
  | contractBase (base : String)
  | onlyTheClass
  | qualifiedNameNotText (kind : String)
  | notClass (owner kind : String)
  | createReturned (kind : String)
  | notTextReturned (function kind : String)
  | formatNotText (kind : String)
  | formatUnsupported (kind : String)
  | formatSpec (kind : String)
  | inconsistentOrder (bases : List String)
  | repeatedBase (name : String)
  | baseNotClass
  | basesNotClasses
  /-- A class is made of three things, and the class of a value is told of one. -/
  | classParts
  | classPart (position : Nat) (wanted kind : String)
  | foreignSelf
  | wrongUnpacking (wanted : Nat) (given : Option Nat)
  | notUnpackable (kind : String)
  | pairLength (index length : Nat)
  | pairNotSequence (index : Nat)
  | readOnlyItem (deletion : Bool)
  | listenerNotCallable (event : String)
  | handlerNotCallable (event : String)
  | emptyEventKey
  | unknownEvent (value : String)
  | noRunner
  | notRunner (runner : String)
  | unusableOptions (kind : String)
  | invalidOptions (report : String)
  | missingHandler (handler task : Value) (handlerText taskText : String)
  | notInstalled (task : Value) (taskText : String)
  | invalid (report : String)
  | unusableSource (field source : String)
  /-- A file stands where a directory should. -/
  | notDirectory
  | unsubtractable (kind : String)
  | unknownLevel (level : String)
  | levelNotNumber (level : String)
  | notOrdered (sign left right : String)
  | loggerName
  | notAFloat (text : String)
  | textExpected (kind : String)
  | pathExpected (kind : String)
  | encodingKind (kind : String)
  | unknownEncoding (name : String)
  | undecodable (encoding : String) (byte : Nat) (position : Nat) (reason : String)
  /-- The halves of characters from `start` up to `stop` stand for nothing. -/
  | unencodable (text : String) (start stop : Nat)
  | nullByte
  | variableName
  | emptyVariableName
  | timeNotNumber
  | timeOutOfRange
  | timeTooGreat
  | yearTooGreat
  | format (fault : FormatFault)
  | tooDeep
deriving Repr

namespace ArityFault

def listed : List String → String
  | [] => ""
  | [a] => a
  | [a, b] => a ++ " and " ++ b
  | [a, b, c] => a ++ ", " ++ b ++ ", and " ++ c
  | a :: rest => a ++ ", " ++ listed rest

def message : ArityFault → String
  | missing ps =>
    let noun := if ps.length = 1 then "argument" else "arguments"
    s!"missing {ps.length} required positional {noun}: " ++
      listed (ps.map fun p => "'" ++ p ++ "'")
  | tooMany least most given =>
    let range := if least = most then s!"{most}" else s!"from {least} to {most}"
    let noun := if most = 1 then "argument" else "arguments"
    let verb := if given = 1 then "was" else "were"
    s!"takes {range} positional {noun} but {given} {verb} given"
  | unexpectedName name => s!"got an unexpected keyword argument '{name}'"
  | givenTwice name => s!"got multiple values for argument '{name}'"

end ArityFault

namespace FormatFault

def kind : FormatFault → FaultKind
  | notEnough | notAllUsed | mappingRequired | realRequired .. | integerRequired ..
  | widthNotInteger | characterRequired | numberRequired _ => .type
  | incomplete | incompleteKey | unsupported .. | notANumber | widthTooBig | precisionTooBig =>
    .value
  | missingKey _ => .key
  | characterRange | infinite | tooGreatForFraction | widthOutOfRange | precisionOutOfRange
  | precisionTooLarge => .overflow
  | tooLong => .memory

def message : FormatFault → String
  | notEnough => "not enough arguments for format string"
  | notAllUsed => "not all arguments converted during string formatting"
  | mappingRequired => "format requires a mapping"
  | incomplete => "incomplete format"
  | incompleteKey => "incomplete format key"
  | missingKey key => Text.quoted key
  | unsupported c position =>
    let shown := if 31 ≤ c.toNat ∧ c.toNat < 127 then String.singleton c else "?"
    let code := String.ofList (Nat.toDigits 16 c.toNat)
    s!"unsupported format character '{shown}' (0x{code}) at index {position}"
  | realRequired c type =>
    "%" ++ String.singleton c ++ s!" format: a real number is required, not {Text.cut 200 type}"
  | integerRequired c type =>
    "%" ++ String.singleton c ++ s!" format: an integer is required, not {Text.cut 200 type}"
  | widthNotInteger => "* wants int"
  | characterRequired => "%c requires int or char"
  | characterRange => "%c arg not in range(0x110000)"
  | notANumber => "cannot convert float NaN to integer"
  | infinite => "cannot convert float infinity to integer"
  | numberRequired type => s!"must be real number, not {Text.cut 50 type}"
  | tooGreatForFraction => "int too large to convert to float"
  | widthTooBig => "width too big"
  | precisionTooBig => "precision too big"
  | widthOutOfRange => "Python int too large to convert to C ssize_t"
  | precisionOutOfRange => "Python int too large to convert to C int"
  | precisionTooLarge => "precision too large"
  | tooLong => ""

end FormatFault

namespace SlotFault

def message : SlotFault → String
  | notText kind => s!"__slots__ items must be strings, not '{Text.cut 200 kind}'"
  | notName => "__slots__ must be identifiers"
  | taken name => s!"{name} in __slots__ conflicts with class variable"
  | secondAttributes => "__dict__ slot disallowed: we already got one"
  | secondReference => "__weakref__ slot disallowed: either we already got one, " ++
      "or __itemsize__ != 0"
  | layout => "multiple bases have instance lay-out conflict"

end SlotFault

namespace BasesFault

def message : BasesFault → String
  | notTuple cls kind => s!"can only assign tuple to {cls}.__bases__, not {kind}"
  | empty cls => s!"can only assign non-empty tuple to {cls}.__bases__, not ()"
  | notClass cls kind => s!"{cls}.__bases__ must be tuple of classes, not '{kind}'"
  | cycle => "a __bases__ item causes an inheritance cycle"
  | layout former new => s!"__bases__ assignment: '{new}' object layout differs from '{former}'"
  | deallocator former new => s!"__bases__ assignment: '{new}' deallocator differs from '{former}'"

end BasesFault

namespace Fault

open Text (cut)

def kind : Fault → FaultKind
  | scripted k _ => k
  | unknownId _ | missingKey _ => .key
  | missingAttribute .. | missingClassAttribute .. | unsettable .. | missingInherited _
  | missingHook _ | slotUnset .. | slotEmpty _ | property .. | readOnly .. | classEntryFixed
  | aspectFixed .. => .attribute
  | slots (.taken _) | classNameNull | wrongUnpacking .. | pairLength .. | emptyEventKey
  | unknownEvent _ | unknownLevel _ | notAFloat _ | lengthNegative | nullByte | variableName
  | timeNotNumber => .value
  | placeRange _ | popEmpty | popRange => .index
  | lengthTooGreat | timeOutOfRange | yearTooGreat => .overflow
  | emptyVariableName | timeTooGreat => .system
  | noRunner | notRunner _ | unusableOptions _ | invalidOptions _ => .install
  | missingHandler .. => .missingHandler
  | notInstalled .. => .notInstalled
  | invalid _ => .validation
  | unusableSource .. | notDirectory => .sources
  | unknownEncoding _ => .lookup
  | undecodable .. => .decode
  | unencodable .. => .encode
  | format f => f.kind
  | tooDeep => .recursion
  | hookAnswer => .assertion
  | sizeChanged | keysChanged | setName .. | circle => .runtime
  | _ => .type

def counted (count : Nat) : String := if count = 1 then "1 argument" else s!"{count} arguments"

def orderText (above : List String) : String :=
  cut 999 ("Cannot create a consistent method resolution\norder (MRO) for bases " ++
    String.intercalate ", " above)

def lacksAttribute (kind name : String) : String := s!"'{kind}' object has no attribute '{name}'"

def message : Fault → String
  | scripted k m => if k = .key then Text.quoted m else m
  | unknownId id => Text.quoted id
  | missingKey key => key
  | missingAttribute kind name => lacksAttribute (cut 50 kind) name
  | missingClassAttribute cls name => s!"type object '{cut 50 cls}' has no attribute '{name}'"
  | unsettable kind name => lacksAttribute (cut 100 kind) name
  | missingInherited name => lacksAttribute "super" name
  | missingHook name => name
  | slotUnset kind name => lacksAttribute (cut 200 kind) name
  | slotEmpty name => name
  | slots f => f.message
  | nameNotText kind => s!"attribute name must be string, not '{cut 200 kind}'"
  | property (some name) cls lacking => s!"property {name} of {cls} object has no {lacking}"
  | property none cls lacking => s!"property of {cls} object has no {lacking}"
  | readOnly kind name => s!"'{cut 50 kind}' object attribute '{name}' is read-only"
  | foreignEntry name owner kind =>
    s!"descriptor '{name}' for '{cut 100 owner}' objects doesn't apply to a " ++
      s!"'{cut 100 kind}' object"
  | noAttributes => "vars() argument must have __dict__ attribute"
  | classNotClass kind => s!"__class__ must be set to a class, not '{kind}' object"
  | classFixed => "__class__ assignment only supported for mutable types or ModuleType subclasses"
  | classKept => "can't delete __class__ attribute"
  | layoutDiffers former new =>
    s!"__class__ assignment: '{new}' object layout differs from '{former}'"
  | deallocatorDiffers former new =>
    s!"__class__ assignment: '{new}' deallocator differs from '{former}'"
  | classEntryFixed => "readonly attribute"
  | aspectFixed name owner => s!"attribute '{name}' of '{cut 100 owner}' objects is not writable"
  | immutableClass name cls deletion =>
    let verb := if deletion then "delete" else "set"
    s!"cannot {verb} {Text.quoted name} attribute of immutable type '{cls}'"
  | attributesNotMapping kind => s!"__dict__ must be set to a dictionary, not a '{cut 200 kind}'"
  | classArgument => "issubclass() arg 1 must be a class"
  | hookAnswer => "__subclasshook__ must return either False, True, or NotImplemented"
  | onlyClasses => "Can only register classes"
  | circle => "Refusing to create an inheritance cycle"
  | classNameNotText name cls kind => s!"can only assign string to {cls}.{name}, not '{kind}'"
  | classNameNull => "type name must not contain null characters"
  | bases f => f.message
  | functionNameNotText => "__name__ must be set to a string object"
  | setName kind name cls =>
    s!"Error calling __set_name__ on '{cut 100 kind}' instance {name} in '{cut 100 cls}'"
  | abstract cls methods =>
    let noun := if methods.length = 1 then "method" else "methods"
    s!"Can't instantiate abstract class {cls} with abstract {noun} " ++
      String.intercalate ", " methods
  | notCallable kind => s!"'{cut 200 kind}' object is not callable"
  | unhashable kind => s!"unhashable type: '{cut 200 kind}'"
  | hashNotNumber => "__hash__ method should return an integer"
  | notIterable kind => s!"'{cut 200 kind}' object is not iterable"
  | notIterator kind => s!"iter() returned non-iterator of type '{cut 100 kind}'"
  | keysNotIterable mapping kind =>
    s!"{cut 200 mapping}.keys() returned a non-iterable (type {cut 200 kind})"
  | notReversible kind => s!"'{cut 200 kind}' object is not reversible"
  | notContainer kind => s!"argument of type '{cut 200 kind}' is not iterable"
  | textOperand kind =>
    s!"'in <string>' requires string as left operand, not {cut 200 kind}"
  | notSubscriptable kind => s!"'{cut 200 kind}' object is not subscriptable"
  | classNotSubscriptable cls => s!"type '{cut 200 cls}' is not subscriptable"
  | placeKind "string" kind => s!"string indices must be integers, not '{cut 200 kind}'"
  | placeKind holder kind => s!"{holder} indices must be integers or slices, not {cut 200 kind}"
  | placeRange holder => s!"{holder} index out of range"
  | popEmpty => "pop from empty list"
  | popRange => "pop index out of range"
  | sizeChanged => "dictionary changed size during iteration"
  | keysChanged => "dictionary keys changed during iteration"
  | noItemAssignment kind => s!"'{cut 200 kind}' object does not support item assignment"
  | noItemDeletion kind => s!"'{cut 200 kind}' object doesn't support item deletion"
  | noLength kind => s!"object of type '{cut 200 kind}' has no len()"
  | notInteger kind => s!"'{cut 200 kind}' object cannot be interpreted as an integer"
  | notWhole function kind => s!"{function} returned non-int (type {cut 200 kind})"
  | notReal owner kind =>
    s!"{cut 50 owner}.__float__ returned non-float (type {cut 50 kind})"
  | lengthNegative => "__len__() should return >= 0"
  | lengthTooGreat => "cannot fit 'int' into an index-sized integer"
  | truthNotFlag kind => s!"__bool__ should return bool, returned {kind}"
  | arity function f => s!"{function}() {f.message}"
  | noArguments cls => s!"{cut 200 cls}() takes no arguments"
  | miscounted wanted given =>
    if wanted = 1 then s!"expected 1 argument, got {given}"
    else if wanted = 2 then s!" expected 2 arguments, got {given}"
    else s!"expected {wanted} arguments, got {given}"
  | atMost function most given => s!"{function} expected at most {counted most}, got {given}"
  | atLeast function least given => s!"{function} expected at least {counted least}, got {given}"
  | exactlyOne function given => s!"{function}() takes exactly one argument ({given} given)"
  | exactlyNone function given => s!"{function}() takes no arguments ({given} given)"
  | noNames function => s!"{function}() takes no keyword arguments"
  | startKind kind => s!"startswith first arg must be str or a tuple of str, not {cut 100 kind}"
  | startCount given =>
    if given = 0 then "startswith() takes at least 1 argument (0 given)"
    else s!"startswith() takes at most 3 arguments ({given} given)"
  | needsObject name owner => s!"descriptor '{name}' of '{owner}' object needs an argument"
  | needsSubject function => s!"unbound method {function}() needs an argument"
  | needsClass => "object.__new__(): not enough arguments"
  | onlyTheObject cls =>
    s!"{cut 200 cls}.__init__() takes exactly one argument (the instance to initialize)"
  | notClass owner kind => s!"{owner}.__new__(X): X is not a type object ({kind})"
  | protocolObject => "Protocols cannot be instantiated"
  | contractBase base => s!"Protocols can only inherit from other protocols, got {base}"
  | onlyTheClass => "object.__new__() takes exactly one argument (the type to instantiate)"
  | qualifiedNameNotText kind => s!"type __qualname__ must be a str, not {kind}"
  | createReturned kind => s!"__init__() should return None, not '{cut 200 kind}'"
  | notTextReturned function kind => s!"{function} returned non-string (type {cut 200 kind})"
  | formatNotText kind => s!"__format__ must return a str, not {cut 200 kind}"
  | formatSpec kind => s!"__format__() argument must be str, not {cut 50 kind}"
  | formatUnsupported kind => s!"unsupported format string passed to {cut 200 kind}.__format__"
  | inconsistentOrder above => orderText above
  | repeatedBase name => s!"duplicate base class {name}"
  | baseNotClass =>
    "metaclass conflict: the metaclass of a derived class must be a (non-strict) subclass of " ++
      "the metaclasses of all its bases"
  | basesNotClasses => "bases must be types"
  | classParts => "type() takes 1 or 3 arguments"
  | classPart position wanted kind =>
    s!"type.__new__() argument {position} must be {wanted}, not {cut 50 kind}"
  | foreignSelf => "super(type, obj): obj must be an instance or subtype of type"
  | wrongUnpacking wanted (some given) =>
    s!"not enough values to unpack (expected {wanted}, got {given})"
  | wrongUnpacking wanted none => s!"too many values to unpack (expected {wanted})"
  | notUnpackable kind => s!"cannot unpack non-iterable {cut 200 kind} object"
  | pairLength index length =>
    s!"dictionary update sequence element #{index} has length {length}; 2 is required"
  | pairNotSequence index =>
    s!"cannot convert dictionary update sequence element #{index} to a sequence"
  | readOnlyItem deletion =>
    "'mappingproxy' object does not support item " ++
      if deletion then "deletion" else "assignment"
  | listenerNotCallable event => s!"listener for {event} must be callable"
  | handlerNotCallable event => s!"Handler for {event} must be callable"
  | emptyEventKey => "event key must be a non-empty string"
  | unknownEvent value => s!"{value} is not a valid ParseEvent"
  | noRunner => "Install should pass an instance of the conformance runner"
  | notRunner runner => s!"Conformance runner {runner} must provide on() and off()"
  | unusableOptions kind => s!"Install options must be a mapping with a runner, got {kind}"
  | invalidOptions report => s!"Invalid install options: {report}"
  | missingHandler _ _ handler task => s!"{handler} must be on plugin :: [{task}]"
  | notInstalled _ task => s!"Task [{task}] has no runner; install it before destroy"
  | invalid report => report
  | unusableSource field source =>
    s!"error getting value for field \"{field}\" from source \"{source}\""
  | notDirectory => "secrets_dir must reference a directory, not a file"
  | unsubtractable kind =>
    s!"unsupported operand type(s) for -: '{cut 100 kind}' and 'int'"
  | unknownLevel level => s!"Unknown level: {level}"
  | levelNotNumber level => s!"Level not an integer or a valid string: {level}"
  | notOrdered sign left right =>
    s!"'{sign}' not supported between instances of '{cut 100 left}' and '{cut 100 right}'"
  | loggerName => "A logger name must be a string"
  | notAFloat text => s!"could not convert string to float: {text}"
  | textExpected kind => s!"str expected, not {kind}"
  | pathExpected kind => s!"expected str, bytes or os.PathLike object, not {kind}"
  | encodingKind kind => s!"open() argument 'encoding' must be str or None, not {cut 50 kind}"
  | unknownEncoding name => s!"unknown encoding: {name}"
  | undecodable encoding byte position reason =>
    let code := String.ofList (Text.hexDigits 2 byte)
    s!"'{encoding}' codec can't decode byte 0x{code} in position {position}: {reason}"
  | unencodable text start stop =>
    let shown := String.ofList (((text.toList.drop start).take 1).flatMap fun c =>
      Text.numbered (Text.codeOf c))
    let which := if stop = start + 1 then s!"character '{shown}' in position {start}"
      else s!"characters in position {start}-{stop - 1}"
    s!"'utf-8' codec can't encode {which}: surrogates not allowed"
  | nullByte => "embedded null byte"
  | variableName => "illegal environment variable name"
  | emptyVariableName => "[Errno 22] Invalid argument"
  | timeNotNumber => "Invalid value NaN (not a number)"
  | timeOutOfRange => "timestamp out of range for platform time_t"
  | timeTooGreat => "[Errno 75] Value too large for defined data type"
  | yearTooGreat => "signed integer is greater than maximum"
  | format f => f.message
  | tooDeep => "maximum recursion depth exceeded"

/-- `AttributeError`: the only fault that `getattr` with a default and `hasattr` pass over. -/
def isMissing (f : Fault) : Bool := f.kind == .attribute

end Fault

end EventTasks
