/-!
Digests of texts: numbers of 64 bits by which texts are spread over the cells of a table. The bytes
of a text are taken in blocks of eight; each block is mixed into four words, and three more rounds
follow the last one. A character takes as many bytes as the widest one of its text, the lowest
byte first.
-/
namespace EventTasks.Text.Digest

structure State where
  a : UInt64 := 0x736f6d6570736575
  b : UInt64 := 0x646f72616e646f6d
  c : UInt64 := 0x6c7967656e657261
  d : UInt64 := 0x7465646279746573

def rotate (x : UInt64) (n : UInt64) : UInt64 := (x <<< n) ||| (x >>> (64 - n))

def State.round (s : State) : State :=
  let a := s.a + s.b
  let c := s.c + s.d
  let b := rotate s.b 13 ^^^ a
  let d := rotate s.d 16 ^^^ c
  let a := rotate a 32
  let c := c + b
  let a := a + d
  let b := rotate b 17 ^^^ c
  let d := rotate d 21 ^^^ a
  ⟨a, b, rotate c 32, d⟩

def State.absorb (s : State) (block : UInt64) : State :=
  let s := { s with d := s.d ^^^ block }.round
  { s with a := s.a ^^^ block }

def word (bytes : List UInt8) : UInt64 :=
  bytes.foldr (fun b n => (n <<< 8) ||| b.toUInt64) 0

def absorbAll (length : Nat) : Nat → State → List UInt8 → State
  | 0, s, _ => s
  | blocks + 1, s, bytes =>
    if bytes.length < 8 then s.absorb (word bytes ||| (length.toUInt64 <<< 56))
    else absorbAll length blocks (s.absorb (word (bytes.take 8))) (bytes.drop 8)

def finish (s : State) : UInt64 :=
  let s := { s with c := s.c ^^^ 0xff }.round.round.round
  s.a ^^^ s.b ^^^ s.c ^^^ s.d

def lowBytes : Nat → Nat → List UInt8
  | 0, _ => []
  | count + 1, n => n.toUInt8 :: lowBytes count (n / 256)

def width (codes : List Nat) : Nat :=
  if codes.all (· ≤ 0xff) then 1 else if codes.all (· ≤ 0xffff) then 2 else 4

def bytesOf (s : String) : List UInt8 :=
  let codes := s.toList.map Char.toNat
  codes.flatMap (lowBytes (width codes))

/-- The hash of a text under seed zero. -/
def ofText (s : String) : Int :=
  if s = "" then 0
  else
    let bytes := bytesOf s
    let n := (finish (absorbAll bytes.length (bytes.length / 8 + 1) {} bytes)).toNat
    let i : Int := if n < Nat.pow 2 63 then n else (n : Int) - Int.pow 2 64
    if i = -1 then -2 else i

end EventTasks.Text.Digest
