import EventTasks.Log.Template
import EventTasks.Subscript

/-!
Messages with their arguments. The directives of a message are carried out one after the other, and
what has been done before one fails stays done: objects may have been asked for their texts and
numbers. Arguments are used in order and must all be used, or stand under keys in one mapping.
-/
namespace EventTasks

inductive Arguments where
  | inOrder (values : List Value)
  | byKey (mapping : Value)

namespace Rendering

open Log (Spec Directive)

/-- The arguments not yet used, the mapping that keys refer to, the measures taken for the next
place, and the characters written so far, the latest first. -/
structure State where
  pending : List Value
  mapping : Option Value := none
  width : Option Int := none
  precision : Option Nat := none
  written : List Char := []

def refuse (f : FormatFault) : Act α := throw (.format f)

def take (s : State) : Act (Value × State) :=
  match s.pending with
  | [] => refuse .notEnough
  | v :: rest => pure (v, { s with pending := rest })

def isDigital (letter : Char) : Bool := letter = 'o' || letter = 'x' || letter = 'X'

def isNumeric (w : World) (v : Value) : Bool :=
  match v with
  | .float _ _ => true
  | v => v.int?.isSome ||
    ["__index__", "__int__", "__float__"].any fun name => (w.hookOf? v name).isSome

def givenWhole (h : Host) (v : Value) : Act Int := do
  match ← h.ask? v "__int__" [] with
  | some found => wholeOr found (.notWhole "__int__" ((← get).kindOf found))
  | none =>
    match ← h.index? v with
    | some i => pure i
    | none =>
      match ← h.ask? v "__trunc__" [] with
      | some found =>
        match ← h.index? found with
        | some i => pure i
        | none => throw (.notWhole "__trunc__" ((← get).kindOf found))
      | none => throw (.notInteger ((← get).kindOf v))
where
  wholeOr (found : Value) (f : Fault) : Act Int :=
    match found.int? with
    | some i => pure i
    | none => throw f

def truncated (h : Host) (v : Value) : Act Int :=
  match v.int?, v with
  | some i, _ => pure i
  | none, .float _ .nan => refuse .notANumber
  | none, .float _ (.infinite _) => refuse .infinite
  | none, .float _ x => pure (x.truncate?.getD 0)
  | none, v => givenWhole h v

def wholeFor (h : Host) (letter : Char) (v : Value) : Act Int := do
  let w ← get
  let kind := w.kindOf v
  let refused : Act Int :=
    refuse (if isDigital letter then .integerRequired letter kind else .realRequired letter kind)
  if !isNumeric w v then refused
  else
    tryCatch (if isDigital letter then h.index v else truncated h v) fun f =>
      if f.kind = .type then refused else throw f

def realFor (h : Host) (v : Value) : Act Double := do
  match ← h.fraction? v with
  | some x => pure x
  | none => refuse (.numberRequired ((← get).kindOf v))

def characterFor (h : Host) (v : Value) : Act Char := do
  match v.text?.map String.toList with
  | some [c] => pure c
  | some _ => refuse .characterRequired
  | none => do
    let i ← tryCatch (h.index v) fun f =>
      if f.kind = .type then refuse .characterRequired else throw f
    if 0 ≤ i ∧ i < 0x110000 then pure (Text.charOf i.toNat) else refuse .characterRange

def greatestDigits : Nat := Nat.pow 2 31 - 4

def putWhole (h : Host) (spec : Spec) (letter : Char) (v : Value) : Act (List Char) := do
  let i ← wholeFor h letter v
  if greatestDigits < spec.precision.getD 0 then refuse .precisionTooLarge
  else
    pure (match letter with
      | 'o' => spec.ofInt ['0', 'o'] 8 false i
      | 'x' => spec.ofInt ['0', 'x'] 16 false i
      | 'X' => spec.ofInt ['0', 'X'] 16 true i
      | _ => spec.ofInt [] 10 false i)

/-- What a conversion makes of a value. -/
def putValue (h : Host) (spec : Spec) (letter : Char) (position : Nat) (v : Value) :
    Act (List Char) := do
  if letter ∈ ['s'] then pure (spec.ofText (← h.textOf v))
  else if letter ∈ ['r'] then pure (spec.ofText (← h.describe v))
  else if letter ∈ ['a'] then pure (spec.ofText (Text.inAscii (← h.describe v)))
  else if letter ∈ ['d', 'i', 'u', 'o', 'x', 'X'] then putWhole h spec letter v
  else if letter ∈ ['e', 'f', 'g'] then pure (spec.ofDouble letter false (← realFor h v))
  else if letter ∈ ['E', 'F', 'G'] then pure (spec.ofDouble letter.toLower true (← realFor h v))
  else if letter ∈ ['c'] then pure (spec.pad [← characterFor h v])
  else refuse (.unsupported letter position)

def measure (v : Value) : Act Int :=
  match v.int? with
  | some i => pure i
  | none => refuse .widthNotInteger

def measured (spec : Spec) (s : State) : Spec :=
  let spec := match s.width with
    | none => spec
    | some i =>
      let width := if i = -Int.pow 2 63 then 0 else i.natAbs
      { spec with width, left := spec.left || decide (i < 0) }
  match s.precision with
  | none => spec
  | some n => { spec with precision := some n }

def roomFor : Nat := Nat.pow 2 32

def carryOut (h : Host) (s : State) : Directive → Act State
  | .write c => pure { s with written := c :: s.written }
  | .needMapping => if s.mapping.isNone then refuse .mappingRequired else pure s
  | .select key =>
    match s.mapping with
    | none => refuse .mappingRequired
    | some mapping => do pure { s with pending := [← h.item mapping (.word key)] }
  | .width => do
    let (v, s) ← take s
    let i ← measure v
    if -Int.pow 2 63 ≤ i ∧ i < Int.pow 2 63 then pure { s with width := some i }
    else refuse .widthOutOfRange
  | .precision => do
    let (v, s) ← take s
    let i ← measure v
    if -Int.pow 2 31 ≤ i ∧ i < Int.pow 2 31 then pure { s with precision := some i.toNat }
    else refuse .precisionOutOfRange
  | .put spec letter position => do
    let spec := measured spec s
    let (v, s) ← take s
    let tooWide := decide (roomFor ≤ spec.width)
    let cs ← putValue h { spec with width := if tooWide then 0 else spec.width } letter position v
    if tooWide then refuse .tooLong
    else pure { s with width := none, precision := none, written := cs.reverse ++ s.written }
  | .fail f => refuse f

end Rendering

namespace Host

/-- `message % args`. -/
def render (h : Host) (text : String) (args : Arguments) : Act String := do
  let start : Rendering.State := match args with
    | .inOrder values => { pending := values }
    | .byKey mapping => { pending := [mapping], mapping := some mapping }
  let s ← (Log.Template.read text).foldlM (Rendering.carryOut h) start
  if s.mapping.isNone && !s.pending.isEmpty then throw (.format .notAllUsed)
  else pure (String.ofList s.written.reverse)

end Host

end EventTasks
