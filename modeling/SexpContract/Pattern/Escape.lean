import SexpContract.Pattern.ClassExpr
import SexpContract.Pattern.Regex
import SexpContract.Text.Delimited

/-!
# Escapes

What may follow a backslash in a pattern: an escaped punctuation mark, a control character, a code
point in hexadecimal, a named class or an assertion.
-/

namespace SexpContract

open Text

/-- The parts of a pattern that stand for themselves.  The meaning of the two line anchors and of
the dot depends on the flags in force. -/
inductive Atom where
  | literal (c : Char)
  | dot
  | lineStart
  | lineEnd
  | assertion (assertion : Assertion)
  | set (expr : ClassExpr)
  deriving Repr

namespace Escape

/-! ## Section 1: Code points -/

/-- The value of a hexadecimal digit. -/
def hexDigit? (c : Char) : Option Nat :=
  if c.isDigit then some (c.toNat - '0'.toNat)
  else if 'a' ≤ c ∧ c ≤ 'f' then some (c.toNat - 'a'.toNat + 10)
  else if 'A' ≤ c ∧ c ≤ 'F' then some (c.toNat - 'A'.toNat + 10)
  else none

/-- The value of a run of hexadecimal digits, added behind the digits already read. -/
def hexValue? (value : Nat) : List Char → Option Nat
  | [] => some value
  | c :: rest => (hexDigit? c).bind fun digit => hexValue? (16 * value + digit) rest

/-- The character whose code point a run of hexadecimal digits gives. -/
def charOfHex? (digits : List Char) : Option Char :=
  if digits.isEmpty then none
  else (hexValue? 0 digits).bind fun value =>
    if value.isValidChar then some (Char.ofNat value) else none

/-- A code point at the front of a text, in braces or of a fixed number of digits, and the rest. -/
def codePoint (width : Nat) : List Char → Option (Char × List Char)
  | '{' :: rest =>
      (upTo '}' rest).bind fun (digits, after) => (charOfHex? digits).map (·, after)
  | text =>
      if text.length < width then none
      else (charOfHex? (text.take width)).map (·, text.drop width)

/-! ## Section 2: Properties -/

/-- Whether a character counts in the name of a property. -/
def isNameChar (c : Char) : Bool :=
  c.toNat < 128 && c ≠ ' ' && c ≠ '_' && c ≠ '-'

/-- The name of a property in lower case and without separators and the word "is" at its front.
The name "isc" keeps that word. -/
def looseName (name : List Char) : String :=
  let plain (text : List Char) : List Char := (text.filter isNameChar).map Char.toLower
  if ['i', 's'].isPrefixOf ((name.take 2).map Char.toLower) then
    let rest := plain (name.drop 2)
    String.ofList (if rest = ['c'] then ['i', 's', 'c'] else rest)
  else String.ofList (plain name)

/-- The parts of a property before and after the first occurrence of a separator. -/
def splitAt? (separator : List Char) : List Char → Option (List Char × List Char)
  | [] => none
  | c :: rest =>
      if separator.isPrefixOf (c :: rest) then some ([], (c :: rest).drop separator.length)
      else (splitAt? separator rest).map fun (name, value) => (c :: name, value)

/-- The set of a property that is given as a name and a value. -/
def categorySet? (name value : List Char) : Option CharSet :=
  if looseName name = "gc" ∨ looseName name = "generalcategory" then
    CharSet.ofCategoryName? (looseName value)
  else none

/-- The class of a property as it is written between braces. -/
def propertyClass? (negated : Bool) (body : List Char) : Option ClassExpr :=
  match splitAt? ['!', '='] body with
  | some (name, value) => (categorySet? name value).map (.named (!negated))
  | none =>
      match splitAt? [':'] body with
      | some (name, value) => (categorySet? name value).map (.named negated)
      | none =>
          match splitAt? ['='] body with
          | some (name, value) => (categorySet? name value).map (.named negated)
          | none => (CharSet.ofPropertyName? (looseName body)).map (.named negated)

/-- A property at the front of a text, in braces or of one letter, and the rest. -/
def property (negated : Bool) : List Char → Option (Atom × List Char)
  | [] => none
  | '{' :: rest =>
      (upTo '}' rest).bind fun (body, after) =>
        (propertyClass? negated body).map fun expr => (.set expr, after)
  | c :: rest =>
      (CharSet.ofPropertyName? (looseName [c])).map fun set => (.set (.named negated set), rest)

/-! ## Section 3: Word boundaries -/

/-- Whether a character occurs in the names of word boundaries. -/
def isBoundaryNameChar (c : Char) : Bool :=
  c.isAlpha || c = '-'

/-- The word boundary with the given name. -/
def boundary? (name : String) : Option Assertion :=
  match name with
  | "start" => some .wordStart
  | "end" => some .wordEnd
  | "start-half" => some .wordStartHalf
  | "end-half" => some .wordEndHalf
  | _ => none

/-- A word boundary, given the text after its letter, and the rest.  Braces that no name follows
belong to a repetition. -/
def wordBoundary : List Char → Option (Atom × List Char)
  | '{' :: c :: rest =>
      if isBoundaryNameChar c then
        match (c :: rest).dropWhile isBoundaryNameChar with
        | '}' :: after =>
            (boundary? (String.ofList ((c :: rest).takeWhile isBoundaryNameChar))).map
              fun assertion => (.assertion assertion, after)
        | _ => none
      else some (.assertion .wordBoundary, '{' :: c :: rest)
  | text => some (.assertion .wordBoundary, text)

/-! ## Section 4: Escapes -/

/-- What a single character after a backslash stands for. -/
def single? (c : Char) : Option Atom :=
  match c with
  | 'd' => some (.set (.fixed .digits))
  | 'D' => some (.set (.fixed (.complement .digits)))
  | 's' => some (.set (.fixed .spaces))
  | 'S' => some (.set (.fixed (.complement .spaces)))
  | 'w' => some (.set (.fixed .wordChars))
  | 'W' => some (.set (.fixed (.complement .wordChars)))
  | 'a' => some (.literal '\x07')
  | 'f' => some (.literal '\x0C')
  | 't' => some (.literal '\t')
  | 'n' => some (.literal '\n')
  | 'r' => some (.literal '\r')
  | 'v' => some (.literal '\x0B')
  | 'A' => some (.assertion .textStart)
  | 'z' => some (.assertion .textEnd)
  | 'B' => some (.assertion .notWordBoundary)
  | '<' => some (.assertion .wordStart)
  | '>' => some (.assertion .wordEnd)
  | _ => if c.toNat < 128 ∧ c.isAlphanum = false then some (.literal c) else none

/-- The escape whose text after the backslash is at the front of a text, and the rest. -/
def first : List Char → Option (Atom × List Char)
  | [] => none
  | 'x' :: rest => (codePoint 2 rest).map fun (c, after) => (.literal c, after)
  | 'u' :: rest => (codePoint 4 rest).map fun (c, after) => (.literal c, after)
  | 'U' :: rest => (codePoint 8 rest).map fun (c, after) => (.literal c, after)
  | 'p' :: rest => property false rest
  | 'P' :: rest => property true rest
  | 'b' :: rest => wordBoundary rest
  | c :: rest => (single? c).map (·, rest)

/-! ## Section 5: What is left -/

theorem length_codePoint {width : Nat} {text after : List Char} {c : Char}
    (h : codePoint width text = some (c, after)) : after.length ≤ text.length := by
  have hbraces := @length_upTo '}'
  unfold codePoint at h
  split at h <;> grind [Option.map_eq_some_iff, Option.bind_eq_some_iff]

theorem length_property {negated : Bool} {text after : List Char} {atom : Atom}
    (h : property negated text = some (atom, after)) : after.length ≤ text.length := by
  have hbraces := @length_upTo '}'
  unfold property at h
  split at h <;> grind [Option.map_eq_some_iff, Option.bind_eq_some_iff]

theorem length_wordBoundary {text after : List Char} {atom : Atom}
    (h : wordBoundary text = some (atom, after)) : after.length ≤ text.length := by
  unfold wordBoundary at h
  split at h
  · rename_i c rest
    have hname := (List.dropWhile_sublist (l := c :: rest) isBoundaryNameChar).length_le
    grind [Option.map_eq_some_iff]
  · grind

theorem length_first {text after : List Char} {atom : Atom}
    (h : first text = some (atom, after)) : after.length ≤ text.length := by
  have hcode := @length_codePoint
  have hproperty := @length_property
  have hboundary := @length_wordBoundary
  unfold first at h
  split at h <;> grind [Option.map_eq_some_iff, Option.bind_eq_some_iff]

end Escape

end SexpContract
