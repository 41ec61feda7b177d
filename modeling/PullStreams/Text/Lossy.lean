/-
Bytes as text, whatever they are.

What is no part of the UTF-8 form of any text is shown by replacement characters, one
for every longest run of bytes that a character could begin with, and one for every
byte with which none begins.
-/
import PullStreams.Bytes

namespace PullStreams.Text

/-- What stands for bytes that are no text. -/
def replacement : Char := '\ufffd'

/-- The character whose number so far is `value` and of which `count` more bytes are to come, and
how many of `bytes` it takes.  The next byte lies between `low` and `high`. -/
def tails : (count : Nat) → (low high : UInt8) → (value taken : Nat) → Bytes → Char × Nat
  | 0, _, _, value, taken, _ => (Char.ofNat value, taken)
  | _ + 1, _, _, _, taken, [] => (replacement, taken)
  | count + 1, low, high, value, taken, byte :: bytes =>
    if low ≤ byte && byte ≤ high then
      tails count 0x80 0xbf (value * 64 + byte.toNat % 64) (taken + 1) bytes
    else (replacement, taken)

/-- The character that begins with a byte, and how many of the bytes behind it belong to it. -/
def characterAt (first : UInt8) (bytes : Bytes) : Char × Nat :=
  let follow (count : Nat) (low high : UInt8) (bits : Nat) := tails count low high bits 0 bytes
  if first < 0x80 then (Char.ofNat first.toNat, 0)
  else if first < 0xc2 then (replacement, 0)
  else if first < 0xe0 then follow 1 0x80 0xbf (first.toNat % 32)
  else if first < 0xf0 then
    follow 2 (if first = 0xe0 then 0xa0 else 0x80) (if first = 0xed then 0x9f else 0xbf)
      (first.toNat % 16)
  else if first < 0xf5 then
    follow 3 (if first = 0xf0 then 0x90 else 0x80) (if first = 0xf4 then 0x8f else 0xbf)
      (first.toNat % 8)
  else (replacement, 0)

/-- The characters of bytes, `fuel` at most. -/
def charactersIn : (fuel : Nat) → Bytes → List Char
  | 0, _ | _, [] => []
  | fuel + 1, first :: bytes =>
    let (c, taken) := characterAt first bytes
    c :: charactersIn fuel (bytes.drop taken)

/-- The text that bytes are shown as. -/
def ofBytesLossy (bytes : Bytes) : String := String.ofList (charactersIn bytes.length bytes)

end PullStreams.Text
