import SexpContract.Fault
import SexpContract.Text.Alphabetic
import SexpContract.Text.Quoted
import SexpContract.Token.Basic

/-!
# Lexemes

A lexeme is the stretch of source behind a token, as written.  `Lexeme.first` takes the longest
lexeme off the front of a source: nothing is lost (`first_source`) and what is left is shorter
(`length_first`).
-/

namespace SexpContract

open Text

/-! ## Section 1: Character classes -/

/-- Whether a character only separates lexemes. -/
def isBlank (c : Char) : Bool :=
  c = ' ' || c = '\t' || c = '\n' || c = '\r'

/-- Whether an identifier may start with a character. -/
def isIdentifierStart (c : Char) : Bool :=
  isAlphabetic c || c = '_'

/-- Whether an identifier may go on with a character. -/
def isIdentifierChar (c : Char) : Bool :=
  isAlphanumeric c || c = '_' || c = '.' || c = '-'

/-! ## Section 2: Lexemes -/

/-- A lexeme as written in the source. -/
inductive Lexeme where
  | leftParen
  | rightParen
  | comma
  | identifier (name : List Char)
  | number (digits : List Char)
  | string (body : List Char)
  deriving DecidableEq, Repr

namespace Lexeme

/-- The characters that a lexeme covers. -/
def source : Lexeme → List Char
  | .leftParen => ['(']
  | .rightParen => [')']
  | .comma => [',']
  | .identifier name => name
  | .number digits => digits
  | .string body => '\'' :: body ++ ['\'']

/-- The kind of token that a lexeme becomes. -/
def kind : Lexeme → TokenKind
  | .leftParen => .leftParen
  | .rightParen => .rightParen
  | .comma => .comma
  | .identifier _ => .identifier
  | .number _ => .number
  | .string _ => .string

/-- The text of the token that a lexeme becomes. -/
def text : Lexeme → List Char
  | .string body => Quoted.decode body
  | lexeme => lexeme.source

/-! ## Section 3: The first lexeme -/

/-- The fractional part at the front of a text, and the rest.  A point that no digit follows is
no part of a number. -/
def splitFraction : List Char → List Char × List Char
  | '.' :: d :: rest =>
      if d.isDigit then
        ('.' :: (d :: rest).takeWhile Char.isDigit, (d :: rest).dropWhile Char.isDigit)
      else ([], '.' :: d :: rest)
  | rest => ([], rest)

/-- The unsigned number at the front of a text that starts with a digit, and the rest. -/
def splitNumber (text : List Char) : List Char × List Char :=
  let (fraction, rest) := splitFraction (text.dropWhile Char.isDigit)
  (text.takeWhile Char.isDigit ++ fraction, rest)

/-- Whether a number starts at a character with the given rest after it. -/
def startsNumber (c : Char) (rest : List Char) : Bool :=
  c.isDigit || (c = '-' && rest.head?.any Char.isDigit)

/-- The longest lexeme at the front of a text that starts with `c`, and the rest. -/
def first (c : Char) (rest : List Char) : Except LexicalFault (Lexeme × List Char) :=
  if c = '(' then .ok (.leftParen, rest)
  else if c = ')' then .ok (.rightParen, rest)
  else if c = ',' then .ok (.comma, rest)
  else if c = '\'' then
    match Quoted.split rest with
    | some (body, after) => .ok (.string body, after)
    | none => .error .unterminatedString
  -- A dash starts a number only right before a digit; no identifier starts with one.
  else if startsNumber c rest then
    if c = '-' then
      let (digits, after) := splitNumber rest
      .ok (.number ('-' :: digits), after)
    else
      let (digits, after) := splitNumber (c :: rest)
      .ok (.number digits, after)
  else if isIdentifierStart c then
    .ok (.identifier (c :: rest.takeWhile isIdentifierChar), rest.dropWhile isIdentifierChar)
  else .error (.unexpectedCharacter c)

/-! ## Section 4: Nothing is lost -/

theorem splitFraction_append (text : List Char) :
    (splitFraction text).1 ++ (splitFraction text).2 = text := by
  unfold splitFraction
  split
  · split <;> simp
  · simp

theorem splitNumber_append (text : List Char) :
    (splitNumber text).1 ++ (splitNumber text).2 = text := by
  have h := splitFraction_append (text.dropWhile Char.isDigit)
  simp [splitNumber, h]

theorem first_source {c : Char} {rest after : List Char} {lexeme : Lexeme}
    (h : first c rest = .ok (lexeme, after)) : lexeme.source ++ after = c :: rest := by
  have hrest := splitNumber_append rest
  have htext := splitNumber_append (c :: rest)
  have hsplit := @Quoted.append_split rest
  have hname := List.takeWhile_append_dropWhile (p := isIdentifierChar) (l := rest)
  grind [first, source]

theorem splitNumber_ne_nil {c : Char} {rest : List Char} (h : c.isDigit = true) :
    (splitNumber (c :: rest)).1 ≠ [] := by
  simp [splitNumber, h]

theorem source_ne_nil {c : Char} {rest after : List Char} {lexeme : Lexeme}
    (h : first c rest = .ok (lexeme, after)) : lexeme.source ≠ [] := by
  have hnumber := @splitNumber_ne_nil c rest
  grind [first, source, startsNumber]

theorem length_first {c : Char} {rest after : List Char} {lexeme : Lexeme}
    (h : first c rest = .ok (lexeme, after)) : after.length < (c :: rest).length := by
  have hlength := congrArg List.length (first_source h)
  have hpos := List.length_pos_iff.2 (source_ne_nil h)
  simp only [List.length_append] at hlength
  omega

end Lexeme

end SexpContract
