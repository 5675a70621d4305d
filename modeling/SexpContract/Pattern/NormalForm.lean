import SexpContract.Pattern.Tree

/-!
# Normal Forms

A pattern in the form from which its automaton is built: flags are resolved, adjacent literals are
one literal, a class of one character is a literal, and nothing is nested in its own kind.  The
constructors of `NormalForm` are reached through functions that keep these rules.
-/

namespace SexpContract

open Text

/-! ## Section 1: Normal forms -/

/-- A pattern without flags.  A class holds ascending ranges of code points; without ranges it
matches nothing. -/
inductive NormalForm where
  | empty
  | literal (text : List Char)
  | chars (ranges : List CodeRange)
  | assertion (condition : Assertion)
  | repetition (bounds : Bounds) (isLazy : Bool) (body : NormalForm)
  | capture (body : NormalForm)
  | concat (parts : List NormalForm)
  | alternation (branches : List NormalForm)
  deriving Repr

namespace NormalForm

mutual

/-- Whether two forms are the same.  A recorded group is the same as no other: each has a number of
its own. -/
def same : NormalForm → NormalForm → Bool
  | .empty, .empty => true
  | .literal text, .literal text' => text = text'
  | .chars ranges, .chars ranges' => ranges = ranges'
  | .assertion condition, .assertion condition' => condition = condition'
  | .repetition bounds isLazy body, .repetition bounds' isLazy' body' =>
      bounds = bounds' && isLazy = isLazy' && same body body'
  | .concat parts, .concat parts' => sameList parts parts'
  | .alternation branches, .alternation branches' => sameList branches branches'
  | _, _ => false

/-- Whether two lists of forms are the same, form by form. -/
def sameList : List NormalForm → List NormalForm → Bool
  | [], [] => true
  | form :: rest, form' :: rest' => same form form' && sameList rest rest'
  | _, _ => false

end

/-! ## Section 2: Lengths -/

mutual

/-- The least number of bytes that a form spans, if a bound is known. -/
def minimum? : NormalForm → Option Nat
  | .empty => some 0
  | .literal text => some ((text.map Char.utf8Size).foldl (· + ·) 0)
  | .chars ranges => ranges.head?.map fun range => (Char.ofNat range.1).utf8Size
  | .assertion _ => some 0
  | .repetition bounds _ body => (minimum? body).map (bounds.least * ·)
  | .capture body => minimum? body
  | .concat parts => (minimums? parts).map fun lengths => lengths.foldl (· + ·) 0
  | .alternation branches => (minimums? branches).bind List.min?

/-- The least number of bytes that each of several forms spans, if bounds are known for all. -/
def minimums? : List NormalForm → Option (List Nat)
  | [] => some []
  | form :: rest => (minimum? form).bind fun least => (minimums? rest).map (least :: ·)

end

/-- Whether a form certainly spans some text. -/
def spansText (form : NormalForm) : Bool :=
  form.minimum?.any (0 < ·)

mutual

/-- Whether a form spans nothing but the empty text. -/
def isEmptyOnly : NormalForm → Bool
  | .empty => true
  | .literal _ => false
  | .chars _ => false
  | .assertion _ => true
  | .repetition bounds _ body => bounds.most?.isSome && isEmptyOnly body
  | .capture body => isEmptyOnly body
  | .concat parts => areEmptyOnly parts
  | .alternation branches => areEmptyOnly branches

/-- Whether several forms span nothing but the empty text. -/
def areEmptyOnly : List NormalForm → Bool
  | [] => true
  | form :: rest => isEmptyOnly form && areEmptyOnly rest

end

mutual

/-- Whether every match of a form starts with an assertion. -/
def startsWith (condition : Assertion) : NormalForm → Bool
  | .assertion condition' => condition = condition'
  | .repetition bounds _ body => decide (0 < bounds.least) && startsWith condition body
  | .capture body => startsWith condition body
  | .concat parts => somePartStartsWith condition parts
  | .alternation branches => allStartWith condition branches
  | _ => false

/-- Whether an assertion stands among the parts before the first that may span some text. -/
def somePartStartsWith (condition : Assertion) : List NormalForm → Bool
  | [] => false
  | part :: rest =>
      startsWith condition part || (isEmptyOnly part && somePartStartsWith condition rest)

/-- Whether each of several forms starts with an assertion. -/
def allStartWith (condition : Assertion) : List NormalForm → Bool
  | [] => true
  | branch :: rest => startsWith condition branch && allStartWith condition rest

end

/-! ## Section 3: Reversal -/

mutual

/-- A form read from its end. -/
def reversed : NormalForm → NormalForm
  | .empty => .empty
  | .literal text => .literal text.reverse
  | .chars ranges => .chars ranges
  | .assertion condition => .assertion condition
  | .repetition bounds isLazy body => .repetition bounds isLazy (reversed body)
  | .capture body => .capture (reversed body)
  | .concat parts => .concat (reversedList parts).reverse
  | .alternation branches => .alternation (reversedList branches)

/-- Each of several forms read from its end. -/
def reversedList : List NormalForm → List NormalForm
  | [] => []
  | form :: rest => reversed form :: reversedList rest

end

/-! ## Section 4: Classes and repetitions -/

/-- The form of a class. -/
def ofRanges : List CodeRange → NormalForm
  | [(low, high)] => if low = high then .literal [Char.ofNat low] else .chars [(low, high)]
  | ranges => .chars ranges

/-- The form of a repetition.  Where only the empty text is spanned, more than one time adds
nothing. -/
def repeated (bounds : Bounds) (isLazy : Bool) (body : NormalForm) : NormalForm :=
  let bounds : Bounds :=
    if body.isEmptyOnly then ⟨min bounds.least 1, some ((bounds.most?.map (min · 1)).getD 1)⟩
    else bounds
  if bounds = ⟨0, some 0⟩ then .empty
  else if bounds = ⟨1, some 1⟩ then body
  else .repetition bounds isLazy body

/-! ## Section 5: Concatenations -/

/-- The forms that a form stands for in a concatenation. -/
def toParts : NormalForm → List NormalForm
  | .empty => []
  | .concat parts => parts
  | form => [form]

/-- Several forms with adjacent literals joined. -/
def joinLiterals : List NormalForm → List NormalForm
  | .literal text :: rest =>
      match joinLiterals rest with
      | .literal text' :: rest' => .literal (text ++ text') :: rest'
      | joined => .literal text :: joined
  | form :: rest => form :: joinLiterals rest
  | [] => []

/-- The form of several forms one after the other. -/
def ofParts (parts : List NormalForm) : NormalForm :=
  match joinLiterals (parts.flatMap toParts) with
  | [] => .empty
  | [part] => part
  | parts => .concat parts

/-! ## Section 6: Alternations -/

/-- The forms that a form stands for in an alternation. -/
def toBranches : NormalForm → List NormalForm
  | .alternation branches => branches
  | form => [form]

/-- The ranges of several forms that are all literals of one character. -/
def singletons? : List NormalForm → Option (List CodeRange)
  | [] => some []
  | .literal [c] :: rest =>
      (singletons? rest).map fun ranges => CodeRange.union [(c.toNat, c.toNat)] ranges
  | _ => none

/-- The ranges of several forms that are all classes. -/
def classes? : List NormalForm → Option (List CodeRange)
  | [] => some []
  | .chars ranges :: rest => (classes? rest).map (CodeRange.union ranges)
  | _ => none

/-- The parts of several forms that are all concatenations. -/
def concatenations? : List NormalForm → Option (List (List NormalForm))
  | [] => some []
  | .concat parts :: rest => (concatenations? rest).map (parts :: ·)
  | _ => none

/-- The common beginning of two lists of forms. -/
def commonPrefix : List NormalForm → List NormalForm → List NormalForm
  | form :: rest, form' :: rest' =>
      if form.same form' then form :: commonPrefix rest rest' else []
  | _, _ => []

/-- The common beginning of several forms that are all concatenations, and what is left of each. -/
def sharedPrefix? (branches : List NormalForm) :
    Option (List NormalForm × List (List NormalForm)) :=
  match concatenations? branches with
  | some (first :: rest) =>
      let shared := rest.foldl commonPrefix first
      if shared.isEmpty then none
      else some (shared, (first :: rest).map (List.drop shared.length))
  | _ => none

mutual

/-- The number of forms that a form is built of. -/
def size : NormalForm → Nat
  | .repetition _ _ body => 1 + size body
  | .capture body => 1 + size body
  | .concat parts => 1 + sizeList parts
  | .alternation branches => 1 + sizeList branches
  | _ => 1

/-- The number of forms that several forms are built of. -/
def sizeList : List NormalForm → Nat
  | [] => 0
  | form :: rest => size form + sizeList rest

end

/-- The form of several branches.  Characters and classes become one class; a beginning that all
branches share is taken out, at most as often as the fuel allows. -/
def ofBranchesWithin : Nat → List NormalForm → NormalForm
  | fuel, branches =>
      let branches := branches.flatMap toBranches
      match branches with
      | [] => .chars []
      | [branch] => branch
      | _ =>
          match singletons? branches with
          | some ranges => ofRanges ranges
          | none =>
              match classes? branches with
              | some ranges => ofRanges ranges
              | none =>
                  match fuel, sharedPrefix? branches with
                  | fuel + 1, some (shared, rests) =>
                      ofParts (shared ++ [ofBranchesWithin fuel (rests.map ofParts)])
                  | _, _ => .alternation branches

/-- The form of several branches.  What is left of the branches after a shared beginning is smaller
than the branches, so their size is enough fuel. -/
def ofBranches (branches : List NormalForm) : NormalForm :=
  ofBranchesWithin (sizeList branches) branches

end NormalForm

/-! ## Section 7: The form of a pattern -/

/-- The form of an atom under the given flags. -/
def Atom.normalForm (flags : Flags) (part : Atom) : NormalForm :=
  match part.meaning flags with
  | .inl chars => .ofRanges chars.ranges
  | .inr condition => .assertion condition

namespace PatternTree

mutual

/-- The form of a pattern under the given flags, and the flags after it. -/
def toNormalForm (flags : Flags) : PatternTree → NormalForm × Flags
  | .empty => (.empty, flags)
  | .directive change => (.empty, flags.apply change)
  | .atom part => (part.normalForm flags, flags)
  | .repetition bounds isLazy body =>
      (.repeated bounds isLazy (toNormalForm flags body).1, flags)
  | .group captures change body =>
      let form := (toNormalForm (flags.apply change) body).1
      (if captures then .capture form else form, flags)
  | .concat parts =>
      let (forms, after) := toNormalForms flags parts
      (.ofParts forms, after)
  | .alternation branches =>
      let (forms, after) := toNormalForms flags branches
      (.ofBranches forms, after)

/-- The forms of patterns one after the other, and the flags after them. -/
def toNormalForms (flags : Flags) : List PatternTree → List NormalForm × Flags
  | [] => ([], flags)
  | part :: rest =>
      let (form, between) := toNormalForm flags part
      let (forms, after) := toNormalForms between rest
      (form :: forms, after)

end

/-- The normal form of a pattern. -/
def normalForm (tree : PatternTree) : NormalForm :=
  (tree.toNormalForm .none).1

end PatternTree

end SexpContract
