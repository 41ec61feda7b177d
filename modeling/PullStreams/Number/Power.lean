/-
Powers of two and of ten: the scales of binary numbers and of decimals.

`wordCount` is the power of two that words of 64 bits count up to.
-/

namespace PullStreams

/-- How many words of 64 bits there are: two to the 64. -/
def wordCount : Nat := 0x10000000000000000

namespace Number

/-- Two to a power. -/
def twoTo (power : Nat) : Nat := Nat.pow 2 power

/-- Ten to a power. -/
def tenTo (power : Nat) : Nat := Nat.pow 10 power

end Number
end PullStreams
