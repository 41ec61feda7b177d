/-
White space as the Unicode standard lists it, and texts that hold nothing else.
-/

namespace PullStreams.Text

/-- Whether a character is white space. -/
def isBlank (c : Char) : Bool :=
  let n := c.toNat
  (0x9 ≤ n && n ≤ 0xd) || n == 0x20 || n == 0x85 || n == 0xa0 || n == 0x1680 ||
    (0x2000 ≤ n && n ≤ 0x200a) || n == 0x2028 || n == 0x2029 || n == 0x202f ||
    n == 0x205f || n == 0x3000

/-- Whether a text holds white space only. -/
def allBlank (s : String) : Bool := s.toList.all isBlank

end PullStreams.Text
