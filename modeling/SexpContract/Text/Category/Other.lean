import SexpContract.Text.CodeRange

/-!
# General Categories: Controls and Private Use

One ascending table of code-point ranges for each category, in edition 16 of Unicode.
-/

namespace SexpContract.Text

/-- Code points of the general category control (Cc). -/
def controlRanges : List CodeRange :=
  [(0x0, 0x1F), (0x7F, 0x9F)]

/-- Code points of the general category format (Cf). -/
def formatRanges : List CodeRange :=
  [(0xAD, 0xAD), (0x600, 0x605), (0x61C, 0x61C), (0x6DD, 0x6DD), (0x70F, 0x70F), (0x890, 0x891),
    (0x8E2, 0x8E2), (0x180E, 0x180E), (0x200B, 0x200F), (0x202A, 0x202E), (0x2060, 0x2064),
    (0x2066, 0x206F), (0xFEFF, 0xFEFF), (0xFFF9, 0xFFFB), (0x110BD, 0x110BD), (0x110CD, 0x110CD),
    (0x13430, 0x1343F), (0x1BCA0, 0x1BCA3), (0x1D173, 0x1D17A), (0xE0001, 0xE0001),
    (0xE0020, 0xE007F)]

/-- Code points of the general category private use (Co). -/
def privateUseRanges : List CodeRange :=
  [(0xE000, 0xF8FF), (0xF0000, 0xFFFFD), (0x100000, 0x10FFFD)]

end SexpContract.Text
