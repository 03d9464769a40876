/-!
# UTF-8

Text as bytes and back. A decoder reads one character at a time; where the bytes are no character it
names the longest beginning of one that they hold.

* `Utf8.encode`: the bytes of a text.
* `Utf8.decodeLossy`: the text of bytes, with `U+FFFD` for each part that is no character.
* `Utf8.decode`: the text of bytes, or the first part that is no character.
-/

namespace BranchCover.Utf8

/-- The bytes of a text. -/
def encode (text : List Char) : List UInt8 := text.flatMap String.utf8EncodeChar

/-- Why bytes are no character. -/
inductive Reason where
  | startByte
  | continuationByte
  | endOfData
  deriving DecidableEq, Repr

/-- The wording of a reason. -/
def Reason.text : Reason → String
  | startByte => "invalid start byte"
  | continuationByte => "invalid continuation byte"
  | endOfData => "unexpected end of data"

/-- What the first bytes are: a character, or so many bytes that are none. -/
inductive Step where
  | char (c : Char) (size : Nat)
  | bad (size : Nat) (reason : Reason)
  deriving DecidableEq, Repr

/-- Whether a byte continues a character. -/
def isContinuation (b : UInt8) : Bool := 0x80 ≤ b && b ≤ 0xbf

/-- The bits that a byte adds to a code point. -/
def bitsOf (b : UInt8) : Nat := b.toNat % 64

/-- The second byte may not spell a shorter form, a surrogate or a code point past the last. -/
def isSecond (first second : UInt8) : Bool :=
  isContinuation second &&
    (if first = 0xe0 then 0xa0 ≤ second
     else if first = 0xed then second < 0xa0
     else if first = 0xf0 then 0x90 ≤ second
     else if first = 0xf4 then second < 0x90
     else true)

/-- The second and further bytes of a character of `left` more bytes, read so far up to `size`. -/
def stepRest (code size : Nat) : Nat → List UInt8 → Step
  | 0, _ => .char (Char.ofNat code) size
  | _ + 1, [] => .bad size .endOfData
  | left + 1, b :: rest =>
    if isContinuation b then stepRest (code * 64 + bitsOf b) (size + 1) left rest
    else .bad size .continuationByte

/-- What a first byte and those behind it are. -/
def step (first : UInt8) (rest : List UInt8) : Step :=
  let length :=
    if first < 0x80 then 1
    else if first < 0xc2 then 0
    else if first < 0xe0 then 2
    else if first < 0xf0 then 3
    else if first < 0xf5 then 4
    else 0
  let lead := first.toNat % Nat.pow 2 (7 - length)
  match length, rest with
  | 0, _ => .bad 1 .startByte
  | 1, _ => .char (Char.ofNat first.toNat) 1
  | _, [] => .bad 1 .endOfData
  | length + 2, second :: rest =>
    if isSecond first second then stepRest (lead * 64 + bitsOf second) 2 length rest
    else .bad 1 .continuationByte

/-- The text of bytes, of which the first `skip` are read already. -/
def decodeFrom : Nat → List UInt8 → List Char
  | _, [] => []
  | skip + 1, _ :: rest => decodeFrom skip rest
  | 0, b :: rest =>
    match step b rest with
    | .char c size => c :: decodeFrom (size - 1) rest
    | .bad size _ => '\uFFFD' :: decodeFrom (size - 1) rest

/-- The text of bytes, with `U+FFFD` for each part that is no character. -/
def decodeLossy (bytes : List UInt8) : List Char := decodeFrom 0 bytes

/-- The first part of some bytes that is no character. -/
structure DecodeError where
  byte : UInt8
  position : Nat
  size : Nat
  reason : Reason
  deriving DecidableEq, Repr

/-- The two hexadecimal digits of a byte. -/
def hexByte (b : UInt8) : String :=
  String.ofList [Nat.digitChar (b.toNat / 16), Nat.digitChar (b.toNat % 16)]

/-- The wording of an error. -/
def DecodeError.message (error : DecodeError) : String :=
  let place :=
    if error.size = 1 then "byte 0x" ++ hexByte error.byte ++ " in position " ++
      toString error.position
    else "bytes in position " ++ toString error.position ++ "-"
      ++ toString (error.position + error.size - 1)
  "'utf-8' codec can't decode " ++ place ++ ": " ++ error.reason.text

/-- The text of bytes from a position on, of which the first `skip` are read already. -/
def decodeStrict (position : Nat) : Nat → List UInt8 → Except DecodeError (List Char)
  | _, [] => .ok []
  | skip + 1, _ :: rest => decodeStrict (position + 1) skip rest
  | 0, b :: rest =>
    match step b rest with
    | .char c size => (decodeStrict (position + 1) (size - 1) rest).map (c :: ·)
    | .bad size reason => .error { byte := b, position, size, reason }

/-- The text of bytes, or the first part of them that is no character. -/
def decode (bytes : List UInt8) : Except DecodeError (List Char) := decodeStrict 0 0 bytes

end BranchCover.Utf8
