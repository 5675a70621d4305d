import SexpContract.Text.CodeRange

/-!
# Byte Ranges

The UTF-8 forms of the code points of a range, as few products of byte ranges as there can be.  A
product is a list of ranges, one for each byte, and stands for every choice of a byte from each of
them.
-/

namespace SexpContract.Text

/-- An inclusive range of bytes. -/
structure ByteRange where
  low : Nat
  high : Nat
  deriving DecidableEq, Repr

namespace ByteRange

/-- The range of the bytes that continue a character. -/
def continuation : ByteRange := ⟨0x80, 0xBF⟩

/-- The products for the numbers from `low` to `high`, whose first byte counts from `base` in steps
of the first unit.  The units of the bytes that follow descend to one. -/
def products (base : Nat) : List Nat → Nat → Nat → List (List ByteRange)
  | [], low, high => [[⟨base + low, base + high⟩]]
  | unit :: units, low, high =>
      let first := low / unit
      let last := high / unit
      let behind (byte low high : Nat) : List (List ByteRange) :=
        (products 0x80 units low high).map (⟨base + byte, base + byte⟩ :: ·)
      if first = last then behind first (low % unit) (high % unit)
      else
        -- First bytes behind which not every continuation occurs make products of their own.
        let cutsFirst := low % unit ≠ 0
        let cutsLast := high % unit ≠ unit - 1
        let full := if cutsFirst then first + 1 else first
        let ending := if cutsLast then last else last + 1
        (if cutsFirst then behind first (low % unit) (unit - 1) else []) ++
          (if full < ending then
            [⟨base + full, base + (ending - 1)⟩ :: (unit :: units).map fun _ => continuation]
          else []) ++
          (if cutsLast then behind last 0 (high % unit) else [])

/-- The ranges of code points with forms of one length, the byte that their first bytes count from,
and the units of the bytes that follow it. -/
def blocks : List (CodeRange × Nat × List Nat) :=
  [((0, 0x7F), 0x00, []),
    ((0x80, 0x7FF), 0xC0, [64]),
    ((0x800, 0xD7FF), 0xE0, [4096, 64]),
    ((0xE000, 0xFFFF), 0xE0, [4096, 64]),
    ((0x10000, 0x10FFFF), 0xF0, [262144, 4096, 64])]

/-- The products for the characters of a range of code points. -/
def ofCodeRange (range : CodeRange) : List (List ByteRange) :=
  blocks.flatMap fun ((low, high), base, units) =>
    let low := max low range.1
    let high := min high range.2
    if low ≤ high then products base units low high else []

/-- The products for the characters of several ranges. -/
def ofCodeRanges (ranges : List CodeRange) : List (List ByteRange) :=
  ranges.flatMap ofCodeRange

end ByteRange

end SexpContract.Text
