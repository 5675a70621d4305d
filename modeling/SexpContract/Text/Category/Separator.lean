import SexpContract.Text.CodeRange

/-!
# General Categories: Separators

One ascending table of code-point ranges for each category, in edition 16 of Unicode.
-/

namespace SexpContract.Text

/-- Code points of the general category space separator (Zs). -/
def spaceSeparatorRanges : List CodeRange :=
  [(0x20, 0x20), (0xA0, 0xA0), (0x1680, 0x1680), (0x2000, 0x200A), (0x202F, 0x202F),
    (0x205F, 0x205F), (0x3000, 0x3000)]

/-- Code points of the general category line separator (Zl). -/
def lineSeparatorRanges : List CodeRange :=
  [(0x2028, 0x2028)]

/-- Code points of the general category paragraph separator (Zp). -/
def paragraphSeparatorRanges : List CodeRange :=
  [(0x2029, 0x2029)]

end SexpContract.Text
