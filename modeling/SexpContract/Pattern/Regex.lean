import SexpContract.Pattern.CharSet

/-!
# Regular Expressions

Regular expressions over character sets and assertions.  `Spans` is their meaning: an expression
spans a stretch of a text that has other text before and after it.  Counted repetition is spelled
out in terms of the other operations.
-/

namespace SexpContract

/-! ## Section 1: Assertions -/

/-- A condition on the characters on the two sides of a place in a text. -/
inductive Assertion where
  | textStart
  | textEnd
  | lineStart
  | lineEnd
  | wordBoundary
  | notWordBoundary
  | wordStart
  | wordEnd
  | wordStartHalf
  | wordEndHalf
  deriving DecidableEq, Repr

namespace Assertion

/-- Whether there is a character and it belongs to a word. -/
def isWord (c : Option Char) : Bool :=
  c.any CharSet.wordChars.contains

/-- Whether an assertion holds between two characters; none stands for an end of the text. -/
def holds (before after : Option Char) : Assertion → Bool
  | .textStart => before.isNone
  | .textEnd => after.isNone
  | .lineStart => before.all (· = '\n')
  | .lineEnd => after.all (· = '\n')
  | .wordBoundary => isWord before != isWord after
  | .notWordBoundary => isWord before == isWord after
  | .wordStart => !isWord before && isWord after
  | .wordEnd => isWord before && !isWord after
  | .wordStartHalf => !isWord before
  | .wordEndHalf => !isWord after

end Assertion

/-! ## Section 2: Expressions -/

/-- A regular expression. -/
inductive Regex where
  | empty
  | chars (set : CharSet)
  | assert (assertion : Assertion)
  | seq (first second : Regex)
  | alt (first second : Regex)
  | plus (body : Regex)
  deriving DecidableEq, Repr

namespace Regex

/-- An expression any number of times. -/
def star (body : Regex) : Regex :=
  .alt (.plus body) .empty

/-- The expressions one after the other. -/
def seqAll (parts : List Regex) : Regex :=
  parts.foldr .seq .empty

/-- One of the expressions; without any, nothing is spanned. -/
def altAll : List Regex → Regex
  | [] => .chars .empty
  | [part] => part
  | part :: rest => .alt part (altAll rest)

/-- An expression a number of times, halved at each step so that the result stays shallow. -/
def power (body : Regex) (count : Nat) : Regex :=
  if count = 0 then .empty
  else if count = 1 then body
  else .seq (power body (count / 2)) (power body (count - count / 2))
termination_by count

/-- Whether an expression spans nothing but the empty text by the way it is built. -/
def isEmptyOnly : Regex → Bool
  | .empty => true
  | .chars _ => false
  | .assert _ => true
  | .seq first second => first.isEmptyOnly && second.isEmptyOnly
  | .alt first second => first.isEmptyOnly && second.isEmptyOnly
  | .plus body => body.isEmptyOnly

/-- An expression at least `least` times and, when there is a bound, at most `most?` times.  Where
only the empty text is spanned, more than one time adds nothing. -/
def repeated (body : Regex) (least : Nat) (most? : Option Nat) : Regex :=
  if body.isEmptyOnly then
    if least = 0 then .empty else body
  else
    match most? with
    | none => if least = 0 then body.star else .seq (body.power (least - 1)) (.plus body)
    | some most => .seq (body.power least) ((Regex.alt body .empty).power (most - least))

/-! ## Section 3: Meaning -/

/-- An expression spans a text that stands between two others. -/
inductive Spans : Regex → List Char → List Char → List Char → Prop where
  | empty (before after : List Char) : Spans .empty before [] after
  | chars (set : CharSet) (c : Char) (before after : List Char) (h : set.contains c = true) :
      Spans (.chars set) before [c] after
  | assert (assertion : Assertion) (before after : List Char)
      (h : assertion.holds before.getLast? after.head? = true) :
      Spans (.assert assertion) before [] after
  | seq {first second : Regex} {before text text' after : List Char}
      (hfirst : Spans first before text (text' ++ after))
      (hsecond : Spans second (before ++ text) text' after) :
      Spans (.seq first second) before (text ++ text') after
  | altFirst {first second : Regex} {before text after : List Char}
      (h : Spans first before text after) : Spans (.alt first second) before text after
  | altSecond {first second : Regex} {before text after : List Char}
      (h : Spans second before text after) : Spans (.alt first second) before text after
  | plusOne {body : Regex} {before text after : List Char} (h : Spans body before text after) :
      Spans (.plus body) before text after
  | plusCons {body : Regex} {before text text' after : List Char}
      (hbody : Spans body before text (text' ++ after))
      (hplus : Spans (.plus body) (before ++ text) text' after) :
      Spans (.plus body) before (text ++ text') after

/-- Somewhere in a text an expression spans a stretch of it. -/
def Occurs (regex : Regex) (text : List Char) : Prop :=
  ∃ before middle after, text = before ++ middle ++ after ∧ regex.Spans before middle after

end Regex

end SexpContract
