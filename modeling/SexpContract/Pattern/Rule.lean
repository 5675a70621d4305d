import SexpContract.Pattern.Automaton.Size
import SexpContract.Pattern.Search

/-!
# Rules

A rule decides whether a text as a whole is acceptable.  It is compiled from a pattern with a text
anchor written on each side of it.
-/

namespace SexpContract

/-- A compiled rule. -/
structure Rule where
  regex : Regex
  deriving DecidableEq, Repr

namespace Rule

/-- The written form of a pattern between anchors. -/
def anchored (pattern : List Char) : List Char :=
  "^(?:".toList ++ pattern ++ ")$".toList

/-- The rule of a pattern, if the anchored pattern can be read and its automata are small. -/
def compile? (pattern : String) : Option Rule :=
  match PatternTree.parse (anchored pattern.toList) with
  | some tree => if tree.normalForm.isSmall then some ⟨tree.regex⟩ else none
  | none => none

/-- Whether a text obeys a rule. -/
def accepts (rule : Rule) (text : String) : Bool :=
  rule.regex.search text.toList

end Rule

end SexpContract
