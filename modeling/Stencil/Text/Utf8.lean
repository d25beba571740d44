import Stencil.Text.Basic

/-!
# Texts as bytes

The UTF-8 bytes of a text, and the text that a run of bytes stands for.  Reading stops at the first
byte that no text could have put there, and says where it lies and what is wrong with it.
-/

namespace Stencil

abbrev Bytes := List UInt8

/-- What is wrong with a run of bytes that is not UTF-8. -/
inductive Utf8Defect where
  /-- A byte that begins no character. -/
  | startByte
  /-- A byte that does not go on with the character begun before it. -/
  | continuationByte
  /-- The bytes end in the middle of a character. -/
  | unexpectedEnd
deriving DecidableEq, Repr

/-- A failure to read bytes as a text: the first byte concerned, how many bytes of a character were
read from there, where the defective run begins, and the defect. -/
structure Utf8Fault where
  byte : UInt8
  length : Nat
  position : Nat
  defect : Utf8Defect
deriving DecidableEq, Repr

def Utf8Defect.message : Utf8Defect → Text
  | .startByte => "invalid start byte"
  | .continuationByte => "invalid continuation byte"
  | .unexpectedEnd => "unexpected end of data"

def Utf8Fault.message (f : Utf8Fault) : Text :=
  (if f.length = 1 then
    "'utf-8' codec can't decode byte 0x" ++ Text.hex 2 f.byte.toNat ++ " in position "
      ++ Text.ofNat f.position
  else
    "'utf-8' codec can't decode bytes in position " ++ Text.ofNat f.position ++ "-"
      ++ Text.ofNat (f.position + f.length - 1))
  ++ ": " ++ f.defect.message

namespace Text

def toUtf8 (t : Text) : Bytes := t.flatMap String.utf8EncodeChar

/-- The least and the greatest byte that may come second in a character that begins with `b`. -/
def secondRange (b : UInt8) : UInt8 × UInt8 :=
  (if b = 0xe0 then 0xa0 else if b = 0xf0 then 0x90 else 0x80,
    if b = 0xed then 0x9f else if b = 0xf4 then 0x8f else 0xbf)

/-- How many bytes a character that begins with `b` takes. -/
def widthOf? (b : UInt8) : Option Nat :=
  if b < 0x80 then some 1
  else if 0xc2 ≤ b && b ≤ 0xdf then some 2
  else if 0xe0 ≤ b && b ≤ 0xef then some 3
  else if 0xf0 ≤ b && b ≤ 0xf4 then some 4
  else none

/-- The bits that the first byte of a character of the given width contributes. -/
def leadBits (width : Nat) (b : UInt8) : Nat :=
  match width with
  | 2 => b.toNat % 0x20
  | 3 => b.toNat % 0x10
  | 4 => b.toNat % 0x8
  | _ => b.toNat

/-- The rest of a character: `read` bytes of it were read and stand for `bits`, `owed` are still to
come, and the next of them lies between `low` and `high`.  The answer is its code point, or how many
bytes were read and what is wrong with the next. -/
def tailBits (read bits low high : Nat) :
    (owed : Nat) → Bytes → Except (Nat × Utf8Defect) Nat
  | 0, _ => .ok bits
  | _ + 1, [] => .error (read, .unexpectedEnd)
  | owed + 1, b :: bs =>
    if low ≤ b.toNat && b.toNat ≤ high then
      tailBits (read + 1) (bits * 0x40 + b.toNat % 0x40) 0x80 0xbf owed bs
    else .error (read, .continuationByte)

/-- The text that the bytes stand for from offset `position` on; `skip` of them belong to the
character before. -/
def ofUtf8From (position skip : Nat) : Bytes → Except Utf8Fault Text
  | [] => .ok []
  | b :: bs =>
    match skip with
    | skip + 1 => ofUtf8From (position + 1) skip bs
    | 0 =>
      match widthOf? b with
      | none => .error ⟨b, 1, position, .startByte⟩
      | some width =>
        let (low, high) := secondRange b
        match tailBits 1 (leadBits width b) low.toNat high.toNat (width - 1) bs with
        | .error (read, defect) => .error ⟨b, read, position, defect⟩
        | .ok code =>
          match ofUtf8From (position + 1) (width - 1) bs with
          | .error fault => .error fault
          | .ok t => .ok (Char.ofNat code :: t)

def ofUtf8 (bytes : Bytes) : Except Utf8Fault Text := ofUtf8From 0 0 bytes

end Text
end Stencil
