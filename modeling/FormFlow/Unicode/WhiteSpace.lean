import FormFlow.Unicode.Ranges

/-!
# White space

The 25 characters of the property White_Space.
-/

namespace FormFlow.Unicode

/-- The ranges of the property White_Space. -/
def whiteSpaceRanges : Ranges :=
  [(0x9, 0xD), (0x20, 0x20), (0x85, 0x85), (0xA0, 0xA0), (0x1680, 0x1680), (0x2000, 0x200A),
   (0x2028, 0x2029), (0x202F, 0x202F), (0x205F, 0x205F), (0x3000, 0x3000)]

/-- Space, tab, line ends and the other characters with the property White_Space. -/
def isWhiteSpace (c : Char) : Bool :=
  whiteSpaceRanges.covers c.toNat

end FormFlow.Unicode
