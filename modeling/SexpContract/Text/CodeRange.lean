/-!
# Code-Point Ranges

Character classes are kept as ascending lists of inclusive code-point ranges.  Membership reads
such a list from the left and stops at the first range that starts past the code point.  The set
operations keep the lists ascending, and join ranges that touch.
-/

namespace SexpContract.Text

/-! ## Section 1: Membership -/

/-- An inclusive range of code points. -/
abbrev CodeRange := Nat × Nat

/-- Whether a code point lies in one of the ascending ranges. -/
def inRanges (code : Nat) : List CodeRange → Bool
  | [] => false
  | (low, high) :: rest =>
      if code < low then false else code ≤ high || inRanges code rest

namespace CodeRange

/-! ## Section 2: Union -/

/-- Two ascending lists of ranges in one list that ascends by the first code points. -/
def merge (first second : List CodeRange) : List CodeRange :=
  match first, second with
  | [], second => second
  | first, [] => first
  | range :: rest, range' :: rest' =>
      if range.1 ≤ range'.1 then range :: merge rest (range' :: rest')
      else range' :: merge (range :: rest) rest'
termination_by first.length + second.length
decreasing_by all_goals simp only [List.length_cons]; omega

/-- Joins a range with those of the ranges behind it that overlap or touch it. -/
def joinFrom (low high : Nat) : List CodeRange → List CodeRange
  | [] => [(low, high)]
  | (low', high') :: rest =>
      if low' ≤ high + 1 then joinFrom low (max high high') rest
      else (low, high) :: joinFrom low' high' rest

/-- A list that ascends by the first code points, with overlapping and touching ranges joined. -/
def joined : List CodeRange → List CodeRange
  | [] => []
  | (low, high) :: rest => joinFrom low high rest

/-- The code points of either list. -/
def union (first second : List CodeRange) : List CodeRange :=
  joined (merge first second)

/-! ## Section 3: Complement -/

/-- The code points of a range that belong to characters; the surrogates between them do not. -/
def characters (low high : Nat) : List CodeRange :=
  let low := if 0xD800 ≤ low ∧ low ≤ 0xDFFF then 0xE000 else low
  let high := if 0xD800 ≤ high ∧ high ≤ 0xDFFF then 0xD7FF else high
  if low ≤ high then [(low, high)] else []

/-- The code points from `low` on that lie in none of the ranges. -/
def gapsFrom (low : Nat) : List CodeRange → List CodeRange
  | [] => characters low 0x10FFFF
  | (low', high') :: rest =>
      (if low < low' then characters low (low' - 1) else []) ++ gapsFrom (high' + 1) rest

/-- The code points of characters that lie in none of the ranges. -/
def complement (ranges : List CodeRange) : List CodeRange :=
  gapsFrom 0 ranges

/-- The code points of both lists. -/
def inter (first second : List CodeRange) : List CodeRange :=
  complement (union (complement first) (complement second))

/-- The code points of the first list that are not in the second. -/
def diff (first second : List CodeRange) : List CodeRange :=
  complement (union (complement first) second)

/-- The code points of exactly one of the two lists. -/
def symmDiff (first second : List CodeRange) : List CodeRange :=
  union (diff first second) (diff second first)

end CodeRange

end SexpContract.Text
