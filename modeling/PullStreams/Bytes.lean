/-
Byte strings, and the numbers that are written in them lowest byte first.

A byte string is a list, so that cutting one is `List.take` and `List.drop` and
every fact about lists holds of it.  `Bytes.slice` names the cut that readers of
files ask for: `count` bytes from an offset, fewer where the string ends.
-/

namespace PullStreams

/-- A byte string. -/
abbrev Bytes := List UInt8

namespace Bytes

/-- The bytes of a text in UTF-8. -/
def ofText (text : String) : Bytes :=
  text.toUTF8.data.toList

/-- The text whose UTF-8 form is `bytes`; `none` when they are not the form of any text. -/
def toText? (bytes : Bytes) : Option String :=
  String.fromUTF8? ⟨bytes.toArray⟩

/-- At most `count` bytes from position `start` on. -/
def slice (bytes : Bytes) (start count : Nat) : Bytes :=
  (bytes.drop start).take count

/-- The number written with its lowest byte first. -/
def toNat : Bytes → Nat
  | [] => 0
  | byte :: rest => byte.toNat + 256 * toNat rest

/-- `buffer` after `bytes` were written over its front; it never grows. -/
def overwrite (buffer bytes : Bytes) : Bytes :=
  bytes.take buffer.length ++ buffer.drop bytes.length

@[simp] theorem length_slice (bytes : Bytes) (start count : Nat) :
    (bytes.slice start count).length = min count (bytes.length - start) := by
  simp [slice]

theorem slice_eq_slice_iff {bytes : Bytes} {start count other : Nat} :
    bytes.slice start count = bytes.slice start other ↔
      min count (bytes.length - start) = min other (bytes.length - start) := by
  rw [slice, slice, List.take_eq_take_iff, List.length_drop]

/-- Asked for by its own length, a cut is the same. -/
theorem slice_length_slice (bytes : Bytes) (start count : Nat) :
    bytes.slice start (bytes.slice start count).length = bytes.slice start count := by
  rw [slice_eq_slice_iff, length_slice]
  omega

theorem slice_of_length_le {bytes : Bytes} {start : Nat} (h : bytes.length ≤ start)
    (count : Nat) : bytes.slice start count = [] := by
  simp [slice, List.drop_eq_nil_of_le h]

theorem slice_append (bytes : Bytes) (start first second : Nat) :
    bytes.slice start first ++ bytes.slice (start + first) second =
      bytes.slice start (first + second) := by
  simp only [slice, ← List.drop_drop, List.take_add]

/-- A cut from the front part is one from the whole. -/
theorem slice_take (bytes : Bytes) {start count limit : Nat} (h : start + count ≤ limit) :
    Bytes.slice (bytes.take limit) start count = bytes.slice start count := by
  have hle : count ≤ limit - start := by omega
  rw [slice, List.drop_take, List.take_take, Nat.min_eq_left hle, slice]

/-- What was written over the front of a buffer can be read there again. -/
theorem take_overwrite {buffer bytes : Bytes} (h : bytes.length ≤ buffer.length) :
    (buffer.overwrite bytes).take bytes.length = bytes := by
  rw [overwrite, List.take_of_length_le h, List.take_left]

/-- What was behind it is there still. -/
theorem drop_overwrite {buffer bytes : Bytes} (h : bytes.length ≤ buffer.length) :
    (buffer.overwrite bytes).drop bytes.length = buffer.drop bytes.length := by
  rw [overwrite, List.take_of_length_le h, List.drop_left]

@[simp] theorem length_overwrite (buffer bytes : Bytes) :
    (buffer.overwrite bytes).length = buffer.length := by
  simp only [overwrite, List.length_append, List.length_take, List.length_drop]
  omega

end Bytes
end PullStreams
