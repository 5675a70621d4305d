import SexpContract.Text.Similarity

/-!
# Suggestions

The defined name that an unknown name was probably meant to be.
-/

namespace SexpContract

open Text

section Scores

variable {α : Type} [LE α] [DecidableLE α]

/-- The better of the best scored name so far and one more, which has to reach the threshold and to
score strictly higher. -/
def betterName (threshold : α) (best : Option (String × α)) (name : String × α) :
    Option (String × α) :=
  if threshold ≤ name.2 then
    match best with
    | none => some name
    | some current => if name.2 ≤ current.2 then some current else some name
  else best

/-- The first of the names that score highest, if that score reaches the threshold. -/
def closest? (score : String → α) (threshold : α) (names : List String) : Option String :=
  ((names.map fun name => (name, score name)).foldl (betterName threshold) none).map Prod.fst

end Scores

/-- The rank of the similarity of two names. -/
def similarityRank (name candidate : String) : Nat :=
  rank (jaroWinkler name.toList candidate.toList)

/-- The least rank that a suggestion has. -/
def suggestionThreshold : Nat :=
  rank 0.8

end SexpContract
