import WikiSite.Text.Ranges

/-!
# Blank characters

The characters with the Unicode property `White_Space`: what trimming removes and what separates words.
-/

namespace WikiSite

/-- Code points with the property `White_Space`. -/
def blankRanges : List (Nat × Nat) :=
  [(0x9, 0xD), (0x20, 0x20), (0x85, 0x85), (0xA0, 0xA0), (0x1680, 0x1680), (0x2000, 0x200A), (0x2028, 0x2029),
   (0x202F, 0x202F), (0x205F, 0x205F), (0x3000, 0x3000)]

/-- Whether `c` is a blank: space, tab, a line break or one of the other Unicode spaces. -/
def isBlank (c : Char) : Bool := inRanges c.toNat blankRanges

end WikiSite
