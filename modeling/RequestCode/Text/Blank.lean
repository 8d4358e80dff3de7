import RequestCode.Text.RangeSet

/-!
# Blank characters

The property White_Space, and trimming by it.
-/

namespace RequestCode.Text

def blankSet : RangeSet :=
  ⟨[(0x09, 0x0D), (0x20, 0x20), (0x85, 0x85), (0xA0, 0xA0), (0x1680, 0x1680), (0x2000, 0x200A),
    (0x2028, 0x2029), (0x202F, 0x202F), (0x205F, 0x205F), (0x3000, 0x3000)]⟩

def isBlank (c : Char) : Bool := blankSet.contains c

/-- The text without the blank characters at its ends. -/
def trim (s : String) : String := .ofList (strip isBlank s.toList)

/-- The control characters of ASCII and Latin-1. -/
def isControl (c : Char) : Bool :=
  c.toNat < 0x20 || (0x7F ≤ c.toNat && c.toNat ≤ 0x9F)

end RequestCode.Text
