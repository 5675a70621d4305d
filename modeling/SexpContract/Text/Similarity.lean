/-!
# Similarity

The Jaro–Winkler similarity of two texts, a number between zero and one.  It counts the characters
that two texts share within a window, takes off half of those out of order, and favours texts with
the same beginning.
-/

namespace SexpContract.Text

/-! ## Section 1: Matching characters -/

/-- The characters of the second text, with the first free occurrence of `c` taken whose index is at
least `low` and less than `high`.  The list starts at the given index. -/
def takeMatch (c : Char) (low high : Nat) (index : Nat) :
    List (Char × Bool) → Option (List (Char × Bool))
  | [] => none
  | (d, taken) :: rest =>
      if high ≤ index then none
      else if low ≤ index ∧ d = c ∧ taken = false then some ((d, true) :: rest)
      else (takeMatch c low high (index + 1) rest).map ((d, taken) :: ·)

/-- The characters of the first text that find a match in the second, in order, and the second text
with its matches taken.  The first text starts at the given index. -/
def matchesFrom (window index : Nat) (second : List (Char × Bool)) :
    List Char → List Char × List (Char × Bool)
  | [] => ([], second)
  | c :: rest =>
      match takeMatch c (index - window) (index + window + 1) 0 second with
      | some second =>
          let (found, second) := matchesFrom window (index + 1) second rest
          (c :: found, second)
      | none => matchesFrom window (index + 1) second rest

/-- The characters that two texts share, in the order of the first and of the second text. -/
def sharedChars (first second : List Char) : List Char × List Char :=
  let window := max first.length second.length / 2 - 1
  let (found, marked) := matchesFrom window 0 (second.map (·, false)) first
  (found, (marked.filter Prod.snd).map Prod.fst)

/-- The number of places where two lists differ. -/
def mismatches : List Char → List Char → Nat
  | c :: rest, d :: rest' => (if c = d then 0 else 1) + mismatches rest rest'
  | _, _ => 0

/-- The length of the common beginning of two texts. -/
def commonLength : List Char → List Char → Nat
  | c :: rest, d :: rest' => if c = d then 1 + commonLength rest rest' else 0
  | _, _ => 0

/-! ## Section 2: The measure -/

/-- The Jaro similarity of two texts. -/
def jaro (first second : List Char) : Float :=
  if first.isEmpty ∧ second.isEmpty then 1
  else
    let (found, found') := sharedChars first second
    let count := found.length
    if count = 0 then 0
    else
      let moved := mismatches found found' / 2
      (count.toFloat / first.length.toFloat + count.toFloat / second.length.toFloat +
        (count - moved).toFloat / count.toFloat) / 3

/-- The Jaro–Winkler similarity of two texts. -/
def jaroWinkler (first second : List Char) : Float :=
  let similarity := jaro first second
  if similarity > 0.7 then
    let common := commonLength (first.take 4) second
    similarity + 0.1 * common.toFloat * (1 - similarity)
  else similarity

/-! ## Section 3: Ranks -/

/-- The rank of a similarity.  Floats that are not negative order as their bit patterns do, so
ranks compare similarities in a total order. -/
def rank (similarity : Float) : Nat :=
  similarity.toBits.toNat

end SexpContract.Text
