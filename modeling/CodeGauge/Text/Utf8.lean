import CodeGauge.Text.Basic

/-!
UTF-8: the bytes that a text occupies, pieces of a text given by byte offsets, and the decoding of
bytes with the exact place and kind of the first fault.
-/
namespace CodeGauge

namespace Text

/-- The number of bytes of the text's UTF-8 form. -/
def byteLength (text : Text) : Nat :=
  text.foldr (fun c length => c.utf8Size + length) 0

/-- The characters whose first byte lies at an offset from `start` up to, not including, `stop`,
when the first character of the text is at offset `at`. -/
def byteSliceFrom (start stop : Nat) : Nat → Text → Text
  | _, [] => []
  | offset, c :: rest =>
    if stop ≤ offset then []
    else if offset < start then byteSliceFrom start stop (offset + c.utf8Size) rest
    else c :: byteSliceFrom start stop (offset + c.utf8Size) rest

/-- The characters between two byte offsets, or up to the end when it comes first. -/
def byteSlice (text : Text) (start stop : Nat) : Text :=
  byteSliceFrom start stop 0 text

end Text

/-- What is wrong with a byte sequence. -/
inductive DecodeFault where
  | invalidStart
  | invalidContinuation
  | unexpectedEnd
deriving Repr, DecidableEq

/-- The first place where bytes are not UTF-8: the fault covers the bytes from `start` up to, not
including, `stop`. -/
structure DecodeError where
  fault : DecodeFault
  firstByte : UInt8
  start : Nat
  stop : Nat
deriving Repr, DecidableEq

namespace Utf8

def isContinuation (b : UInt8) : Bool :=
  0x80 ≤ b && b < 0xC0

/-- Whether a second byte is allowed after the given first one: no overlong form, no surrogate, and
nothing beyond U+10FFFF. -/
def allowsSecond (first second : UInt8) : Bool :=
  isContinuation second &&
    (if first == 0xE0 then 0xA0 ≤ second
    else if first == 0xED then second < 0xA0
    else if first == 0xF0 then 0x90 ≤ second
    else if first == 0xF4 then second < 0x90
    else true)

/-- One decoded character and its width in bytes, or a fault and the number of bytes it covers. -/
inductive Step where
  | char (c : Char) (width : Nat)
  | fault (kind : DecodeFault) (width : Nat)

/-- The payload bits of continuation bytes below the payload bits of a first byte. -/
def assemble (high : Nat) (continuations : List UInt8) : Char :=
  Char.ofNat (continuations.foldl (fun n b => n * 64 + (b.toNat - 0x80)) high)

/-- Decodes the character that begins with `first`, where `rest` are the bytes after it. -/
def step (first : UInt8) (rest : List UInt8) : Step :=
  if first < 0x80 then .char (Char.ofNat first.toNat) 1
  else if first < 0xC2 then .fault .invalidStart 1
  else if first < 0xE0 then
    match rest with
    | [] => .fault .unexpectedEnd 1
    | b :: _ =>
      if isContinuation b then .char (assemble (first.toNat - 0xC0) [b]) 2
      else .fault .invalidContinuation 1
  else if first < 0xF0 then
    match rest with
    | [] => .fault .unexpectedEnd 1
    | b :: rest =>
      if !allowsSecond first b then .fault .invalidContinuation 1
      else
        match rest with
        | [] => .fault .unexpectedEnd 2
        | b' :: _ =>
          if isContinuation b' then .char (assemble (first.toNat - 0xE0) [b, b']) 3
          else .fault .invalidContinuation 2
  else if first < 0xF5 then
    match rest with
    | [] => .fault .unexpectedEnd 1
    | b :: rest =>
      if !allowsSecond first b then .fault .invalidContinuation 1
      else
        match rest with
        | [] => .fault .unexpectedEnd 2
        | b' :: rest =>
          if !isContinuation b' then .fault .invalidContinuation 2
          else
            match rest with
            | [] => .fault .unexpectedEnd 3
            | b'' :: _ =>
              if isContinuation b'' then .char (assemble (first.toNat - 0xF0) [b, b', b'']) 4
              else .fault .invalidContinuation 3
  else .fault .invalidStart 1

/-- Decodes the bytes that follow the next `skip` ones; `offset` numbers the first of them. -/
def decodeFrom : (skip offset : Nat) → List UInt8 → Except DecodeError Text
  | _, _, [] => .ok []
  | skip + 1, offset, _ :: rest => decodeFrom skip (offset + 1) rest
  | 0, offset, b :: rest =>
    match step b rest with
    | .char c width =>
      match decodeFrom (width - 1) (offset + 1) rest with
      | .ok text => .ok (c :: text)
      | .error e => .error e
    | .fault kind width => .error ⟨kind, b, offset, offset + width⟩

/-- The text that the bytes encode. -/
def decode (bytes : List UInt8) : Except DecodeError Text :=
  decodeFrom 0 0 bytes

end Utf8

def DecodeFault.message : DecodeFault → Text
  | .invalidStart => "invalid start byte"
  | .invalidContinuation => "invalid continuation byte"
  | .unexpectedEnd => "unexpected end of data"

end CodeGauge
