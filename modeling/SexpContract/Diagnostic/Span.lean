import SexpContract.Text.Length

/-!
# Source Spans

Places of a source as lines and columns, both counted from one.  Columns count characters, and the
counters are words of 32 bits.
-/

namespace SexpContract

/-- A line and a column. -/
structure Place where
  line : UInt32
  column : UInt32
  deriving DecidableEq, Repr

namespace Place

/-- Where a text starts. -/
def start : Place := ⟨1, 1⟩

/-- The place after one more character. -/
def advance (place : Place) (c : Char) : Place :=
  if c = '\n' then ⟨place.line + 1, 1⟩ else ⟨place.line, place.column + 1⟩

/-- The place of an offset in a text that starts at another offset and place.  Offsets past the end
stand for the end, and offsets inside a character for the place after it. -/
def find (offset position : Nat) (place : Place) : List Char → Place
  | [] => place
  | c :: rest =>
      if offset ≤ position then place
      else find offset (position + c.utf8Size) (place.advance c) rest

/-- The place of a byte offset in a source. -/
def ofOffset (source : String) (offset : Nat) : Place :=
  find offset 0 start source.toList

end Place

/-- A stretch of a source between two places. -/
structure SourceSpan where
  startLine : UInt32
  startColumn : UInt32
  endLine : UInt32
  endColumn : UInt32
  deriving DecidableEq, Repr

/-- The span between two byte offsets of a source. -/
def SourceSpan.ofOffsets (source : String) (start stop : Nat) : SourceSpan :=
  let first := Place.ofOffset source start
  let last := Place.ofOffset source stop
  ⟨first.line, first.column, last.line, last.column⟩

end SexpContract
