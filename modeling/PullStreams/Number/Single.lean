/-
Numbers of the 32-bit binary format, held as their bits.

A playback rate is such a number.  Comparisons that playback makes are made on
the bits: without its sign, a number that is no NaN orders as its bits do.
-/

namespace PullStreams.Number

/-- A 32-bit binary floating-point number, by its interchange form. -/
structure Single where
  bits : UInt32
  deriving DecidableEq, Repr, Inhabited

namespace Single

/-- The bits without the sign. -/
def magnitude (x : Single) : Nat := x.bits.toNat % 0x80000000

/-- Whether the sign bit is set; it is on a negative zero too. -/
def isSigned (x : Single) : Bool := 0x80000000 ≤ x.bits.toNat

/-- The magnitude of an infinity: every exponent bit set, nothing else. -/
def infinityMagnitude : Nat := 0x7f800000

def isNaN (x : Single) : Bool := infinityMagnitude < x.magnitude

def isInfinite (x : Single) : Bool := x.magnitude = infinityMagnitude

def isZero (x : Single) : Bool := x.magnitude = 0

/-- Less than zero.  Neither zero is, and no NaN is. -/
def isBelowZero (x : Single) : Bool := x.isSigned && !x.isZero && !x.isNaN

/-- Whether the absolute value is above that of `bound`; never so for a NaN. -/
def exceeds (x bound : Single) : Bool := !x.isNaN && decide (bound.magnitude < x.magnitude)

def zero : Single := ⟨0⟩

def one : Single := ⟨0x3f800000⟩

/-- The number with its sign turned. -/
def negate (x : Single) : Single :=
  ⟨UInt32.ofNat (if x.isSigned then x.magnitude else x.magnitude + 0x80000000)⟩

/-- A finite number without its sign is `mantissa * 2 ^ exponent`. -/
def decode (x : Single) : Nat × Int :=
  let field : Nat := x.magnitude / 0x800000
  let rest : Nat := x.magnitude % 0x800000
  if field = 0 then (rest, -149) else (rest + 0x800000, (field : Int) - 150)

end Single
end PullStreams.Number
