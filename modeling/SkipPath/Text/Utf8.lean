import SkipPath.Text.Hex

/-!
UTF-8, read and written strictly (`decode` and `encode`).

The first byte of a character says how many bytes follow and which second bytes are allowed; the
narrower second ranges after E0, ED, F0 and F4 shut out overlong forms, surrogates and numbers above
10FFFF.  A byte that cannot start a character, a byte that cannot continue one, and an end in the
middle of a character are told apart, with the bytes that are at fault.  A text that holds a surrogate is
not written.
-/

namespace SkipPath.Text.Utf8

/-- What is wrong with a sequence of bytes. -/
inductive Fault where
  | invalidStart
  | invalidContinuation
  | unexpectedEnd
deriving Repr, DecidableEq

/-- A fault, with the first byte concerned and the positions of the first and last one. -/
structure Error where
  fault : Fault
  byte : UInt8
  first : Nat
  last : Nat
deriving Repr, DecidableEq

/-- What is said about each fault. -/
def Fault.message : Fault → Text
  | .invalidStart => ofString "invalid start byte"
  | .invalidContinuation => ofString "invalid continuation byte"
  | .unexpectedEnd => ofString "unexpected end of data"

/-- The whole account of a fault: one byte is shown with its value, several by their positions. -/
def Error.message (e : Error) : Text :=
  let place :=
    if e.first = e.last then
      ofString "byte 0x" ++ hexDigits 2 e.byte.toNat ++ ofString s!" in position {e.first}"
    else ofString s!"bytes in position {e.first}-{e.last}"
  ofString "'utf-8' codec can't decode " ++ place ++ ofString ": " ++ e.fault.message

/-- What the first byte of a character of several bytes announces: the value of its own bits, the
allowed second bytes, and the number of bytes after the second. -/
structure Lead where
  bits : Nat
  low : Nat
  high : Nat
  more : Nat
deriving Repr

/-- The announcement of a first byte; none if no character of several bytes starts with it. -/
def lead? (b : Nat) : Option Lead :=
  if b < 0xC2 then none
  else if b < 0xE0 then some ⟨b - 0xC0, 0x80, 0xBF, 0⟩
  else if b < 0xF0 then
    some ⟨b - 0xE0, if b = 0xE0 then 0xA0 else 0x80, if b = 0xED then 0x9F else 0xBF, 1⟩
  else if b < 0xF5 then
    some ⟨b - 0xF0, if b = 0xF0 then 0x90 else 0x80, if b = 0xF4 then 0x8F else 0xBF, 2⟩
  else none

/-- How reading the bytes after a first byte ends. -/
inductive Tail where
  /-- The value of the whole character. -/
  | value (n : Nat)
  /-- The bytes end; so many belong to the character, the first one not counted. -/
  | ended (count : Nat)
  /-- A byte does not continue the character; so many before it do. -/
  | broken (count : Nat)

/-- Read the announced bytes from `bytes`: the next one has to lie between `low` and `high`, and
`more` follow it, each between 80 and BF.  `count` of them have been read. -/
def tail (n low high : Nat) (count : Nat) : (more : Nat) → List UInt8 → Tail
  | _, [] => .ended count
  | 0, b :: _ =>
    if low ≤ b.toNat && b.toNat ≤ high then .value (64 * n + (b.toNat - 0x80)) else .broken count
  | more + 1, b :: rest =>
    if low ≤ b.toNat && b.toNat ≤ high then
      tail (64 * n + (b.toNat - 0x80)) 0x80 0xBF (count + 1) more rest
    else .broken count

/-- One step of reading: the bytes still to be skipped as parts of the last character, the position,
and the characters found, last first. -/
def decodeFrom (skip position : Nat) (found : Text) : List UInt8 → Except Error Text
  | [] => .ok found.reverse
  | b :: rest =>
    match skip with
    | skip + 1 => decodeFrom skip (position + 1) found rest
    | 0 =>
      if b < 0x80 then decodeFrom 0 (position + 1) (CodePoint.ofNat b.toNat :: found) rest
      else
        match lead? b.toNat with
        | none => .error ⟨.invalidStart, b, position, position⟩
        | some l =>
          match tail l.bits l.low l.high 0 l.more rest with
          | .value n => decodeFrom (l.more + 1) (position + 1) (CodePoint.ofNat n :: found) rest
          | .ended count => .error ⟨.unexpectedEnd, b, position, position + count⟩
          | .broken count => .error ⟨.invalidContinuation, b, position, position + count⟩

/-- The text that bytes stand for. -/
def decode (bytes : List UInt8) : Except Error Text := decodeFrom 0 0 [] bytes

/-! ## Writing -/

/-- What keeps a text from being written: surrogates, with the number of the first one and the positions
of the first and last one of the run. -/
structure Refusal where
  number : Nat
  first : Nat
  last : Nat
deriving Repr, DecidableEq

/-- The whole account of a refusal: one surrogate is shown with its number, several by their positions. -/
def Refusal.message (r : Refusal) : Text :=
  let place :=
    if r.first = r.last then
      ofString "character '\\u" ++ hexDigits 4 r.number ++ ofString s!"' in position {r.first}"
    else ofString s!"characters in position {r.first}-{r.last}"
  ofString "'utf-8' codec can't encode " ++ place ++ ofString ": surrogates not allowed"

/-- Whether a code point can be written.  A name of a file may hold bytes that are not UTF-8: where such
bytes may be written (`escaping`), the surrogates DC80 to DCFF stand for the bytes 80 to FF. -/
def isWritable (escaping : Bool) : CodePoint → Bool
  | .char _ => true
  | .surrogate n => escaping && 0x480 ≤ n.val && n.val < 0x500

/-- The refusal of a text that starts at a position, if it cannot be written. -/
def refusalFrom (escaping : Bool) (position : Nat) : Text → Option Refusal
  | [] => none
  | c :: rest =>
    if isWritable escaping c then refusalFrom escaping (position + 1) rest
    else some
      { number := c.toNat
        first := position
        last := position + (rest.takeWhile (·.isSurrogate)).length }

/-- The refusal of the name of a file, if it cannot be written. -/
def nameRefusal? (t : Text) : Option Refusal := refusalFrom true 0 t

/-- The bytes of a code point; a surrogate stands for one byte, if for any. -/
def bytesOf : CodePoint → List UInt8
  | .char c => String.utf8EncodeChar c
  | .surrogate n => [UInt8.ofNat n.val]

/-- The bytes of a text. -/
def encode (t : Text) : Except Refusal (List UInt8) :=
  match refusalFrom false 0 t with
  | some r => .error r
  | none => .ok (t.flatMap bytesOf)

/-- The number of bytes that the name of a file takes. -/
def size (t : Text) : Nat := t.foldl (fun n c => n + (bytesOf c).length) 0

end SkipPath.Text.Utf8
