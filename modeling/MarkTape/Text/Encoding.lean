import MarkTape.Text.Numbers
import MarkTape.Text.Written

/-!
# Text from bytes

* `Encoding`: the encodings that are known;
* `Undecodable`: the first bytes that stand for no character, and why;
* `Encoding.decode`: the characters of a file.

In UTF-8 the lead byte fixes how many bytes follow and what the first of them may be, so that
no character has two forms, surrogates have none, and nothing lies past the last code point.
A byte-order mark is a character like any other.
-/

namespace MarkTape.Text

/-- The known encodings. -/
inductive Encoding
  | utf8
  | latin1
  | ascii
  deriving DecidableEq

namespace Encoding

/-- The name of an encoding. -/
def name : Encoding → String
  | .utf8 => "utf-8"
  | .latin1 => "latin-1"
  | .ascii => "ascii"

/-- The encoding of a given name. -/
def ofName? (s : String) : Option Encoding :=
  [Encoding.utf8, .latin1, .ascii].find? (·.name = s)

end Encoding

/-- Why bytes stand for no character. -/
inductive Undecodable.Reason
  /-- No character begins with this byte. -/
  | invalidStart
  /-- The bytes end inside a character. -/
  | unexpectedEnd
  /-- The next byte cannot continue the character. -/
  | invalidContinuation
  /-- The byte is above the seven-bit range. -/
  | notSevenBit
  deriving DecidableEq

/-- The wording of a reason. -/
def Undecodable.Reason.message : Undecodable.Reason → String
  | .invalidStart => "invalid start byte"
  | .unexpectedEnd => "unexpected end of data"
  | .invalidContinuation => "invalid continuation byte"
  | .notSevenBit => "ordinal not in range(128)"

/-- The `count` bytes from `position` on, the first of them `first`, stand for no character. -/
structure Undecodable where
  encoding : Encoding
  first : UInt8
  position : Nat
  count : Nat
  reason : Undecodable.Reason
  deriving DecidableEq

/-- What is said about undecodable bytes: a single one is shown, several are counted out. -/
def Undecodable.message (u : Undecodable) : String :=
  let place :=
    if u.count = 1 then
      "byte 0x" ++ String.ofList (hexadecimal 2 u.first.toNat) ++ " in position " ++
        natural u.position
    else
      "bytes in position " ++ natural u.position ++ "-" ++ natural (u.position + u.count - 1)
  quote u.encoding.name ++ " codec can't decode " ++ place ++ ": " ++ u.reason.message

namespace Utf8

/-- An inclusive range of byte values. -/
structure ByteRange where
  first : Nat
  last : Nat

/-- The range of a byte that continues a character. -/
def continuation : ByteRange := ⟨0x80, 0xBF⟩

/-- What a lead byte contributes to the code point, and the ranges of the bytes to follow. -/
def lead? (b : Nat) : Option (Nat × List ByteRange) :=
  if b < 0x80 then some (b, [])
  else if b < 0xC2 then none
  else if b < 0xE0 then some (b - 0xC0, [continuation])
  else if b = 0xE0 then some (0x0, [⟨0xA0, 0xBF⟩, continuation])
  else if b = 0xED then some (0xD, [⟨0x80, 0x9F⟩, continuation])
  else if b < 0xF0 then some (b - 0xE0, [continuation, continuation])
  else if b = 0xF0 then some (0x0, [⟨0x90, 0xBF⟩, continuation, continuation])
  else if b = 0xF4 then some (0x4, [⟨0x80, 0x8F⟩, continuation, continuation])
  else if b < 0xF4 then some (b - 0xF0, [continuation, continuation, continuation])
  else none

/-- The code point after the bytes `ranges` have been read on top of `code`, or why they cannot
be and how many of them could. -/
def follow (code : Nat) : List ByteRange → List UInt8 → Except (Undecodable.Reason × Nat) Nat
  | [], _ => .ok code
  | _ :: _, [] => .error (.unexpectedEnd, 0)
  | r :: ranges, b :: bytes =>
    if r.first ≤ b.toNat ∧ b.toNat ≤ r.last then
      (follow (64 * code + (b.toNat - 0x80)) ranges bytes).mapError fun (why, n) => (why, n + 1)
    else .error (.invalidContinuation, 0)

/-- The characters of `bytes`, which start at `position`. -/
def decodeFrom (position : Nat) : List UInt8 → Except Undecodable (List Char)
  | [] => .ok []
  | b :: bytes =>
    match lead? b.toNat with
    | none => .error ⟨.utf8, b, position, 1, .invalidStart⟩
    | some (code, ranges) =>
      match follow code ranges bytes with
      | .error (why, n) => .error ⟨.utf8, b, position, n + 1, why⟩
      | .ok code =>
        (decodeFrom (position + 1 + ranges.length) (bytes.drop ranges.length)).map
          (Char.ofNat code :: ·)
termination_by bytes => bytes.length
decreasing_by
  simp only [List.length_drop, List.length_cons]
  omega

end Utf8

/-- Characters of a seven-bit encoding, from `position` on. -/
def decodeSevenBit (position : Nat) : List UInt8 → Except Undecodable (List Char)
  | [] => .ok []
  | b :: bytes =>
    if b.toNat < 0x80 then
      (decodeSevenBit (position + 1) bytes).map (Char.ofNat b.toNat :: ·)
    else .error ⟨.ascii, b, position, 1, .notSevenBit⟩

/-- The characters that `bytes` stand for. -/
def Encoding.decode : Encoding → List UInt8 → Except Undecodable (List Char)
  | .utf8, bytes => Utf8.decodeFrom 0 bytes
  | .latin1, bytes => .ok (bytes.map fun b => Char.ofNat b.toNat)
  | .ascii, bytes => decodeSevenBit 0 bytes

end MarkTape.Text
