import EntityForge.Text.Basic

/-!
# UTF-8

Encoding of texts, which fails at the first surrogate, and decoding that reports where and why a
sequence of bytes is no text.  A fault of bytes covers those of the character that cannot be
completed: its valid beginning, or all that is left when the bytes end inside it.
-/

namespace EntityForge.Text.Utf8

/-! ## Encoding -/

/-- The bytes of a number, each after the first one with six bits of it. -/
def codeBytes (code : Nat) : List UInt8 :=
  let further (unit : Nat) := UInt8.ofNat (code / unit % 0x40 + 0x80)
  if code ≤ 0x7f then [UInt8.ofNat code]
  else if code ≤ 0x7ff then [UInt8.ofNat (code / 0x40 % 0x20 + 0xc0), further 1]
  else if code ≤ 0xffff then [UInt8.ofNat (code / 0x1000 % 0x10 + 0xe0), further 0x40, further 1]
  else [UInt8.ofNat (code / 0x40000 % 0x08 + 0xf0), further 0x1000, further 0x40, further 1]

/-- The bytes of a code point.  Those of a surrogate follow the scheme for characters, though they
are not read as one. -/
def encodePoint (point : Point) : List UInt8 :=
  codeBytes point.toNat

/-- The bytes of a text. -/
def encode (text : Text) : List UInt8 :=
  text.toList.flatMap encodePoint

/-- Why a text has no encoding: the surrogates in a row that come first, and where they begin. -/
structure EncodingFault where
  position : Nat
  first : Point
  more : Nat
  deriving BEq, DecidableEq, Repr

/-- The wording of a fault.  A single surrogate is shown, several are given by their positions. -/
def EncodingFault.message (fault : EncodingFault) : String :=
  let place :=
    if fault.more = 0 then
      let digits := String.ofList (Nat.toDigits 16 fault.first.toNat)
      s!"character '\\u{digits}' in position {fault.position}"
    else s!"characters in position {fault.position}-{fault.position + fault.more}"
  s!"'utf-8' codec can't encode {place}: surrogates not allowed"

/-- The fault at the first code point that is refused, and at the surrogates that follow it. -/
def faultAt? (isRefused : Point → Bool) (text : Text) : Option EncodingFault :=
  let position := (text.toList.takeWhile (!isRefused ·)).length
  match text.toList.dropWhile (!isRefused ·) with
  | [] => none
  | first :: rest => some ⟨position, first, (rest.takeWhile Point.isSurrogate).length⟩

/-- What keeps a text from being encoded, if anything. -/
def encodingFault? (text : Text) : Option EncodingFault :=
  faultAt? Point.isSurrogate text

/-- What keeps the name of a file from being encoded, if anything. -/
def nameFault? (name : Text) : Option EncodingFault :=
  faultAt? (fun point => point.isSurrogate && !point.isEscapedByte) name

/-- The number of bytes of the name of a file. -/
def nameSize (name : Text) : Nat :=
  name.toList.foldr (fun point size => (if point.isEscapedByte then 1 else point.utf8Size) + size) 0

/-- The bytes of a text, unless there is a surrogate in it. -/
def encoded (text : Text) : Except EncodingFault (List UInt8) :=
  match encodingFault? text with
  | some fault => .error fault
  | none => .ok (encode text)

/-! ## Decoding -/

/-- Why bytes are no text. -/
inductive Cause where
  | invalidStart
  | invalidContinuation
  | unexpectedEnd
  deriving BEq, DecidableEq, Repr

/-- The wording of a cause. -/
def Cause.text : Cause → String
  | .invalidStart => "invalid start byte"
  | .invalidContinuation => "invalid continuation byte"
  | .unexpectedEnd => "unexpected end of data"

/-- The bytes at fault and where they begin. -/
structure Fault where
  position : Nat
  bytes : List UInt8
  cause : Cause
  deriving BEq, DecidableEq, Repr

/-- The wording of a fault.  A single byte is shown, several are given by their positions. -/
def Fault.message (fault : Fault) : String :=
  let place :=
    match fault.bytes with
    | [byte] =>
        let digits := Nat.toDigits 16 byte.toNat
        let padded := List.replicate (2 - digits.length) '0' ++ digits
        s!"byte 0x{String.ofList padded} in position {fault.position}"
    | bytes => s!"bytes in position {fault.position}-{fault.position + bytes.length - 1}"
  s!"'utf-8' codec can't decode {place}: {fault.cause.text}"

/-- A character whose bytes are being read: what was read of it in reverse, how many bytes it
still owes, the bounds of the next one, and the code point so far. -/
structure Partial where
  read : List UInt8
  owed : Nat
  low : Nat
  high : Nat
  code : Nat

/-- The character that a byte opens.  The bounds of its second byte exclude overlong forms,
surrogates and code points beyond the last. -/
def opening? (byte : UInt8) : Option Partial :=
  let value := byte.toNat
  if value < 0xc2 then none
  else if value < 0xe0 then some ⟨[byte], 1, 0x80, 0xbf, value - 0xc0⟩
  else if value < 0xf0 then
    let low := if value = 0xe0 then 0xa0 else 0x80
    let high := if value = 0xed then 0x9f else 0xbf
    some ⟨[byte], 2, low, high, value - 0xe0⟩
  else if value < 0xf5 then
    let low := if value = 0xf0 then 0x90 else 0x80
    let high := if value = 0xf4 then 0x8f else 0xbf
    some ⟨[byte], 3, low, high, value - 0xf0⟩
  else none

/-- Decodes bytes after `position` others, inside a character or between two. -/
def decodeFrom (position : Nat) : Option Partial → List UInt8 → Except Fault (List Char)
  | none, [] => .ok []
  | some part, [] => .error ⟨position - part.read.length, part.read.reverse, .unexpectedEnd⟩
  | none, byte :: rest =>
      if byte.toNat < 0x80 then
        (decodeFrom (position + 1) none rest).map (Char.ofNat byte.toNat :: ·)
      else
        match opening? byte with
        | none => .error ⟨position, [byte], .invalidStart⟩
        | some part => decodeFrom (position + 1) (some part) rest
  | some part, byte :: rest =>
      let value := byte.toNat
      if part.low ≤ value && value ≤ part.high then
        let code := part.code * 0x40 + (value - 0x80)
        if part.owed ≤ 1 then
          (decodeFrom (position + 1) none rest).map (Char.ofNat code :: ·)
        else
          decodeFrom (position + 1)
            (some ⟨byte :: part.read, part.owed - 1, 0x80, 0xbf, code⟩) rest
      else
        .error ⟨position - part.read.length, part.read.reverse, .invalidContinuation⟩

/-- The text that bytes encode. -/
def decode (bytes : List UInt8) : Except Fault String :=
  (decodeFrom 0 none bytes).map String.ofList

end EntityForge.Text.Utf8
