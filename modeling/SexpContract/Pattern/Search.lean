import SexpContract.Pattern.Regex

/-!
# Searching

Whether an expression spans some stretch of a text, found in one pass.  The expression is marked
at the character sets that took the last character; each further character moves the marks on, so
the work for a character is bounded by the size of the expression.
-/

namespace SexpContract

/-! ## Section 1: Marked expressions -/

/-- A regular expression with a mark on each character set that has just taken a character. -/
inductive Marked where
  | empty
  | chars (set : CharSet) (mark : Bool)
  | assert (assertion : Assertion)
  | seq (first second : Marked)
  | alt (first second : Marked)
  | plus (body : Marked)
  deriving DecidableEq, Repr

/-- An expression without any mark. -/
def Regex.unmarked : Regex → Marked
  | .empty => .empty
  | .chars set => .chars set false
  | .assert assertion => .assert assertion
  | .seq first second => .seq first.unmarked second.unmarked
  | .alt first second => .alt first.unmarked second.unmarked
  | .plus body => .plus body.unmarked

namespace Marked

/-- The expression without its marks. -/
def regex : Marked → Regex
  | .empty => .empty
  | .chars set _ => .chars set
  | .assert assertion => .assert assertion
  | .seq first second => .seq first.regex second.regex
  | .alt first second => .alt first.regex second.regex
  | .plus body => .plus body.regex

/-- Whether the expression spans the empty text between two characters. -/
def nullable (before after : Option Char) : Marked → Bool
  | .empty => true
  | .chars _ _ => false
  | .assert assertion => assertion.holds before after
  | .seq first second => first.nullable before after && second.nullable before after
  | .alt first second => first.nullable before after || second.nullable before after
  | .plus body => body.nullable before after

/-- Whether some mark reaches the end of the expression between two characters. -/
def final (before after : Option Char) : Marked → Bool
  | .empty => false
  | .chars _ mark => mark
  | .assert _ => false
  | .seq first second =>
      (first.final before after && second.nullable before after) || second.final before after
  | .alt first second => first.final before after || second.final before after
  | .plus body => body.final before after

/-- The marks moved over the character `c`, with one more start at the front when `entered`. -/
def shift (before : Option Char) (c : Char) (entered : Bool) : Marked → Marked
  | .empty => .empty
  | .chars set _ => .chars set (entered && set.contains c)
  | .assert assertion => .assert assertion
  | .seq first second =>
      -- The second part is entered past an empty first part, or when a mark leaves the first.
      .seq (first.shift before c entered)
        (second.shift before c
          ((entered && first.nullable before (some c)) || first.final before (some c)))
  | .alt first second => .alt (first.shift before c entered) (second.shift before c entered)
  | .plus body => .plus (body.shift before c (entered || body.final before (some c)))

/-- Whether a stretch ends in the rest of a text, where stretches may also start everywhere. -/
def search (before : Option Char) (marked : Marked) : List Char → Bool
  | [] => marked.nullable before none || marked.final before none
  | c :: rest =>
      marked.nullable before (some c) || marked.final before (some c) ||
        search (some c) (marked.shift before c true) rest

/-- Marking an expression keeps it. -/
@[simp]
theorem regex_unmarked (regex : Regex) : regex.unmarked.regex = regex := by
  induction regex <;> simp_all [Regex.unmarked, Marked.regex]

/-- Moving the marks keeps the expression. -/
@[simp]
theorem regex_shift (before : Option Char) (c : Char) (entered : Bool) (marked : Marked) :
    (marked.shift before c entered).regex = marked.regex := by
  induction marked generalizing entered with
  | seq first second ihfirst ihsecond => rw [shift, Marked.regex, ihfirst, ihsecond, Marked.regex]
  | alt first second ihfirst ihsecond => rw [shift, Marked.regex, ihfirst, ihsecond, Marked.regex]
  | plus body ih => rw [shift, Marked.regex, ih, Marked.regex]
  | empty => rfl
  | chars set mark => rfl
  | assert assertion => rfl

end Marked

/-! ## Section 2: Search -/

/-- Whether an expression spans some stretch of a text. -/
def Regex.search (regex : Regex) (text : List Char) : Bool :=
  regex.unmarked.search none text

end SexpContract
