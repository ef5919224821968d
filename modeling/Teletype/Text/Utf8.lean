import Teletype.Text.Basic

/-!
# UTF-8

Bytes are cut into parts (`Utf8.parts`): each part is a character, or the longest row of bytes that
begins one and cannot be continued. A strict reading refuses the first part that is no character and
reports where it lies and what is wrong with it; a lenient one puts the replacement character in the
place of each.
-/

namespace Teletype

namespace Utf8

/-- What is wrong with bytes that are no character. -/
inductive Flaw where
  /-- No character begins with this byte. -/
  | start
  /-- The byte that follows does not continue the character. -/
  | continuation
  /-- The bytes end within the character. -/
  | truncated
deriving DecidableEq, Repr

/-- A part of a row of bytes. -/
inductive Part where
  | char (c : Char)
  | invalid (flaw : Flaw) (bytes : List UInt8)
deriving Repr

/-- What the first byte of a longer character says: the bits it holds, how many bytes follow, and
the least and the greatest value of the next one. -/
def lead? (b : Nat) : Option (Nat × Nat × Nat × Nat) :=
  if 0xc2 ≤ b ∧ b ≤ 0xdf then some (b - 0xc0, 1, 0x80, 0xbf)
  else if b = 0xe0 then some (0, 2, 0xa0, 0xbf)
  else if b = 0xed then some (0xd, 2, 0x80, 0x9f)
  else if 0xe1 ≤ b ∧ b ≤ 0xef then some (b - 0xe0, 2, 0x80, 0xbf)
  else if b = 0xf0 then some (0, 3, 0x90, 0xbf)
  else if 0xf1 ≤ b ∧ b ≤ 0xf3 then some (b - 0xf0, 3, 0x80, 0xbf)
  else if b = 0xf4 then some (4, 3, 0x80, 0x8f)
  else none

/-- Reads the bytes that follow the first of a character: the character, or what is wrong, and how
many of the bytes belong to it. -/
def follow (bits : Nat) : (owed low high : Nat) → List UInt8 → Except Flaw Char × Nat
  | 0, _, _, _ => (.ok (Char.ofNat bits), 0)
  | _ + 1, _, _, [] => (.error .truncated, 0)
  | owed + 1, low, high, b :: r =>
    if low ≤ b.toNat ∧ b.toNat ≤ high then
      let (result, taken) := follow (64 * bits + (b.toNat - 0x80)) owed 0x80 0xbf r
      (result, taken + 1)
    else (.error .continuation, 0)

/-- The first part of a row of bytes, and how many bytes after the first belong to it. -/
def firstPart (b : UInt8) (r : List UInt8) : Part × Nat :=
  if b.toNat < 0x80 then (.char (Char.ofNat b.toNat), 0)
  else match lead? b.toNat with
    | none => (.invalid .start [b], 0)
    | some (bits, owed, low, high) =>
      match follow bits owed low high r with
      | (.ok c, taken) => (.char c, taken)
      | (.error flaw, taken) => (.invalid flaw (b :: r.take taken), taken)

/-- Cuts bytes into parts, each with the number of bytes before it. -/
def parts (position : Nat) : List UInt8 → List (Nat × Part)
  | [] => []
  | b :: r =>
    let (part, taken) := firstPart b r
    (position, part) :: parts (position + 1 + taken) (r.drop taken)
termination_by bytes => bytes.length
decreasing_by simp only [List.length_drop, List.length_cons]; omega

/-- Bytes that are no text: where, which ones and why. -/
structure Fault where
  position : Nat
  flaw : Flaw
  bytes : List UInt8
deriving Repr

/-- What is wrong, in words. -/
def Flaw.message : Flaw → String
  | start => "invalid start byte"
  | continuation => "invalid continuation byte"
  | truncated => "unexpected end of data"

/-- The text that reports bytes that are no text. -/
def Fault.message (f : Fault) : Text :=
  let place := match f.bytes with
    | [b] => "byte 0x".toList ++
      (if b.toNat < 16 then ['0'] else []) ++ Nat.toDigits 16 b.toNat ++
      " in position ".toList ++ Text.ofNat f.position
    | bytes => "bytes in position ".toList ++ Text.ofNat f.position ++
      '-' :: Text.ofNat (f.position + bytes.length - 1)
  "'utf-8' codec can't decode ".toList ++ place ++ ": ".toList ++ f.flaw.message.toList

/-- The text of parts that are all characters. -/
def strict : List (Nat × Part) → Except Fault Text
  | [] => .ok []
  | (_, .char c) :: rest => (strict rest).map (c :: ·)
  | (position, .invalid flaw bytes) :: _ => .error ⟨position, flaw, bytes⟩

/-- The text that bytes spell. -/
def decode (bytes : List UInt8) : Except Fault Text :=
  strict (parts 0 bytes)

/-- The character that stands for bytes that are none. -/
def replacement : Char := '\ufffd'

/-- The text that bytes spell, with a replacement for each part that is no character. -/
def decodeLossy (bytes : List UInt8) : Text :=
  (parts 0 bytes).map fun
    | (_, .char c) => c
    | (_, .invalid _ _) => replacement

end Utf8

end Teletype
