import SexpContract.Pattern.Escape

/-!
# Bracket Classes

A character class in brackets: literals, ranges, escapes, named classes and nested brackets, joined
by the set operations.  Operations group to the left and bind weaker than juxtaposition.
-/

namespace SexpContract

open Text

/-! ## Section 1: Items -/

/-- The literal or escape at the front of a text inside brackets, and the rest. -/
def classItem : List Char → Option (ClassExpr × List Char)
  | [] => none
  | '\\' :: rest =>
      match Escape.first rest with
      | some (.literal c, after) => some (.literal c, after)
      | some (.set expr, after) => some (expr, after)
      | _ => none
  | c :: rest => some (.literal c, rest)

/-- The range or single item at the front of a text inside brackets, and the rest.  A dash before a
closing bracket or another dash makes no range. -/
def classRange (text : List Char) : Option (ClassExpr × List Char) :=
  match classItem text with
  | some (low, '-' :: rest) =>
      match rest with
      | ']' :: _ => some (low, '-' :: rest)
      | '-' :: _ => some (low, '-' :: rest)
      | _ =>
          match low, classItem rest with
          | .literal first, some (.literal last, after) =>
              if first ≤ last then some (.range first last, after) else none
          | _, _ => none
  | item => item

/-- The complement sign at the front of a class, and the rest. -/
def complementSign : List Char → Bool × List Char
  | '^' :: rest => (true, rest)
  | text => (false, text)

/-- A class named between colons, given the text after its opening bracket, and the rest. -/
def asciiClass : List Char → Option (ClassExpr × List Char)
  | ':' :: rest =>
      let (negated, body) := complementSign rest
      match upTo ':' body with
      | some (name, ']' :: after) =>
          (CharSet.ofAsciiName? (String.ofList name)).map fun set => (.named negated set, after)
      | _ => none
  | _ => none

/-! ## Section 2: Open classes -/

/-- A class whose closing bracket is still to come: the operation that waits for its second class,
and the items read so far, the last one first. -/
structure OpenClass where
  negated : Bool
  pending : Option (SetOperation × ClassExpr)
  items : List ClassExpr

namespace OpenClass

/-- The class with one more item. -/
def add (current : OpenClass) (item : ClassExpr) : OpenClass :=
  { current with items := item :: current.items }

/-- What stands in the class so far. -/
def content (current : OpenClass) : ClassExpr :=
  let items := ClassExpr.ofItems current.items.reverse
  match current.pending with
  | none => items
  | some (operation, first) => .combined operation first items

/-- The class with an operation after what stands in it so far. -/
def join (current : OpenClass) (operation : SetOperation) : OpenClass :=
  { current with pending := some (operation, current.content), items := [] }

/-- The class once its closing bracket is read. -/
def close (current : OpenClass) : ClassExpr :=
  .bracket current.negated current.content

/-- The class opened by a bracket, given the text after it, and the rest.  Dashes in front are
literal, and so is a closing bracket in front. -/
def opening (text : List Char) : OpenClass × List Char :=
  let (negated, body) := complementSign text
  let dashes := body.takeWhile (· = '-')
  match dashes, body.dropWhile (· = '-') with
  | [], ']' :: after => (⟨negated, none, [.literal ']']⟩, after)
  | _, after => (⟨negated, none, dashes.map .literal⟩, after)

end OpenClass

/-! ## Section 3: What is left -/

theorem length_classItem {text after : List Char} {item : ClassExpr}
    (h : classItem text = some (item, after)) : after.length < text.length := by
  have hescape := @Escape.length_first
  unfold classItem at h
  split at h <;> grind

theorem length_classRange {text after : List Char} {item : ClassExpr}
    (h : classRange text = some (item, after)) : after.length < text.length := by
  have hitem := @length_classItem
  unfold classRange at h
  split at h <;> grind

theorem length_complementSign (text : List Char) :
    (complementSign text).2.length ≤ text.length := by
  unfold complementSign
  split
  · exact Nat.le_succ _
  · exact Nat.le_refl _

theorem length_asciiClass {text after : List Char} {item : ClassExpr}
    (h : asciiClass text = some (item, after)) : after.length < text.length := by
  have hsign := length_complementSign
  have hname := @length_upTo ':'
  unfold asciiClass at h
  split at h <;> grind [Option.map_eq_some_iff]

theorem length_opening (text : List Char) :
    (OpenClass.opening text).2.length ≤ text.length := by
  have hsign := length_complementSign text
  have hdashes := (List.dropWhile_sublist (l := (complementSign text).2) (· = '-')).length_le
  unfold OpenClass.opening
  grind

/-! ## Section 4: Whole classes -/

/-- The rest of a class, up to and including its closing bracket, and the text after it.  The
classes around it are listed from the inside out. -/
def classRest (current : OpenClass) (outer : List OpenClass) :
    List Char → Option (ClassExpr × List Char)
  | [] => none
  -- A nested bracket becomes an item of the class around it.
  | ']' :: rest =>
      match outer with
      | [] => some (current.close, rest)
      | parent :: outer => classRest (parent.add current.close) outer rest
  | '[' :: rest =>
      match h : asciiClass rest with
      | some (item, after) =>
          have := length_asciiClass h
          classRest (current.add item) outer after
      -- What does not spell a class name opens a nested bracket.
      | none =>
          have := length_opening rest
          classRest (OpenClass.opening rest).1 (current :: outer) (OpenClass.opening rest).2
  | '&' :: '&' :: rest => classRest (current.join .intersection) outer rest
  | '-' :: '-' :: rest => classRest (current.join .difference) outer rest
  | '~' :: '~' :: rest => classRest (current.join .symmetricDifference) outer rest
  | c :: rest =>
      match h : classRange (c :: rest) with
      | some (item, after) =>
          have := length_classRange h
          classRest (current.add item) outer after
      | none => none
termination_by text => text.length
decreasing_by all_goals simp only [List.length_cons] at *; omega

/-- The class whose text after the opening bracket is at the front of a text, and the rest. -/
def bracketClass (text : List Char) : Option (ClassExpr × List Char) :=
  let (current, after) := OpenClass.opening text
  classRest current [] after

theorem length_classRest {current : OpenClass} {outer : List OpenClass}
    {text after : List Char} {expr : ClassExpr}
    (h : classRest current outer text = some (expr, after)) : after.length < text.length := by
  have hascii := @length_asciiClass
  have hopening := length_opening
  have hrange := @length_classRange
  fun_induction classRest current outer text <;> grind

theorem length_bracketClass {text after : List Char} {expr : ClassExpr}
    (h : bracketClass text = some (expr, after)) : after.length < text.length :=
  Nat.lt_of_lt_of_le (length_classRest h) (length_opening text)

end SexpContract
