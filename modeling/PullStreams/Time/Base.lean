/-
Time bases: the unit that a track counts its timestamps in.

`TimeBase.timeOf` turns a count into seconds.  As long as the product of count
and numerator is below `2 ^ 52` it is divided as one binary number, and what lies
below one is that number's fraction; from there on the whole seconds are divided
exactly and only the remainder as a binary number.  Seconds are counted modulo
`2 ^ 64`.
-/
import PullStreams.Time.Duration

namespace PullStreams

/-- A point in time: whole seconds and a part of the next one. -/
structure ClockTime where
  seconds : Nat
  fraction : Number.Double
  deriving DecidableEq, Repr

namespace ClockTime

/-- The nearest duration: the fraction is rounded to a nanosecond. -/
def toDuration (t : ClockTime) : Duration :=
  .ofParts t.seconds 0 + .ofSeconds t.fraction

/-- A duration as the point in time that a container is asked to seek to. -/
def ofDuration (d : Duration) : ClockTime :=
  let seconds := d.toSeconds
  ⟨min seconds.whole (wordCount - 1), seconds.fraction⟩

end ClockTime

/-- One tick lasts `numer / denom` seconds. -/
structure TimeBase where
  numer : Nat
  denom : Nat
  deriving DecidableEq, Repr

namespace TimeBase

/-- The time at which `ticks` have passed. -/
def timeOf (base : TimeBase) (ticks : Nat) : ClockTime :=
  let product := ticks * base.numer
  if product < 0x10000000000000 then
    let quotient := Number.Double.div (.ofNat product) (.ofNat base.denom)
    ⟨quotient.whole, quotient.fraction⟩
  else
    ⟨product / base.denom % wordCount,
      .div (.ofNat (product % base.denom)) (.ofNat base.denom)⟩

/-- The ticks of a base of one tick in `1 / rate` seconds that have passed at `t`, counted
modulo `2 ^ 64`. -/
def ticksAt (rate : Nat) (t : ClockTime) : Nat :=
  (t.seconds * rate + (Number.Double.mul (.ofNat rate) t.fraction).whole) % wordCount

end TimeBase
end PullStreams
