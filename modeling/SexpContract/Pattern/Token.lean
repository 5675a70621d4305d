import SexpContract.Pattern.Bracket

/-!
# Pattern Tokens

The written form of a pattern as a flat sequence: atoms, repetitions, bars and the two ends of
groups.  What a token means never depends on the tokens around it.
-/

namespace SexpContract

open Text

/-! ## Section 1: Tokens -/

/-- The flags that a directive turns on or off; the others keep their state. -/
structure FlagChange where
  ignoreCase : Option Bool
  multiLine : Option Bool
  dotAll : Option Bool
  deriving DecidableEq, Repr

/-- The directive that changes nothing. -/
def FlagChange.keep : FlagChange := ⟨none, none, none⟩

/-- How often the expression before a repetition is repeated. -/
structure Bounds where
  least : Nat
  most? : Option Nat
  deriving DecidableEq, Repr

/-- How a group is written: as a mere bracket, with a number of its own, or with a name. -/
inductive GroupKind where
  | bracket
  | numbered
  | named (name : List Char)
  deriving DecidableEq, Repr

/-- Whether what a group spans is recorded. -/
def GroupKind.captures : GroupKind → Bool
  | .bracket => false
  | .numbered => true
  | .named _ => true

/-- One part of the written form of a pattern. -/
inductive PatternToken where
  | atom (atom : Atom)
  | repetition (bounds : Bounds) (isLazy : Bool)
  | bar
  | groupStart (kind : GroupKind) (change : FlagChange)
  | groupEnd
  | directive (change : FlagChange)
  deriving Repr

namespace PatternToken

/-! ## Section 2: Repetitions -/

/-- Whether the mark of a lazy repetition stands in front of a text, and the rest. -/
def lazyMark : List Char → Bool × List Char
  | '?' :: rest => (true, rest)
  | text => (false, text)

/-- A repetition, given the text after its bounds, and the rest. -/
def repeating (bounds : Bounds) (text : List Char) : PatternToken × List Char :=
  (.repetition bounds (lazyMark text).1, (lazyMark text).2)

/-- The largest bound of a repetition. -/
def countLimit : Nat := 4294967296

/-- A decimal number at the front of a text, white space around it aside, and the rest. -/
def decimal (text : List Char) : Option Nat × List Char :=
  let body := text.dropWhile isWhiteSpace
  let digits := body.takeWhile Char.isDigit
  let value := digits.foldl (fun value c => 10 * value + (c.toNat - '0'.toNat)) 0
  (if digits.isEmpty ∨ countLimit ≤ value then none else some value,
    (body.dropWhile Char.isDigit).dropWhile isWhiteSpace)

/-- The bounds at the front of a text that follows an opening brace, and the rest. -/
def counted (text : List Char) : Option (Bounds × List Char) :=
  match decimal text with
  | (some least, '}' :: after) => some (⟨least, some least⟩, after)
  | (some least, ',' :: '}' :: after) => some (⟨least, none⟩, after)
  | (some least, ',' :: rest) =>
      match decimal rest with
      | (some most, '}' :: after) =>
          if least ≤ most then some (⟨least, some most⟩, after) else none
      | _ => none
  | _ => none

/-! ## Section 3: Groups -/

/-- Whether a character may start the name of a group. -/
def isGroupNameStart (c : Char) : Bool :=
  c = '_' || isAlphabetic c

/-- Whether the name of a group may go on with a character. -/
def isGroupNameChar (c : Char) : Bool :=
  c = '_' || c = '.' || c = '[' || c = ']' || isAlphanumeric c

/-- Whether a text is the name of a group. -/
def isGroupName : List Char → Bool
  | [] => false
  | c :: rest => isGroupNameStart c && rest.all isGroupNameChar

/-- The group whose name is at the front of a text, and the rest. -/
def namedGroup (text : List Char) : Option (PatternToken × List Char) :=
  match upTo '>' text with
  | some (name, after) =>
      if isGroupName name then some (.groupStart (.named name) .keep, after) else none
  | none => none

/-- Whether a text lists flags: none twice, and no minus sign twice or at the end. -/
def isFlagList (text : List Char) : Bool :=
  text.all (['i', 'm', 's', 'U', 'u', '-'].contains ·) && decide text.Nodup &&
    text.getLast? ≠ some '-' && !(text.dropWhile (· ≠ '-')).contains 'u'

/-- The state that a list of flags gives to one of them. -/
def flagState (text : List Char) (flag : Char) : Option Bool :=
  if (text.takeWhile (· ≠ '-')).contains flag then some true
  else if text.contains flag then some false
  else none

/-- The directive that a list of flags makes. -/
def flagChange (text : List Char) : FlagChange where
  ignoreCase := flagState text 'i'
  multiLine := flagState text 'm'
  dotAll := flagState text 's'

/-- Whether a character may stand in a list of flags. -/
def isFlagChar (c : Char) : Bool :=
  c ≠ ':' && c ≠ ')'

/-- The group or directive whose flags are at the front of a text, and the rest. -/
def flagGroup (text : List Char) : Option (PatternToken × List Char) :=
  let flags := text.takeWhile isFlagChar
  if isFlagList flags then
    match text.dropWhile isFlagChar with
    | ':' :: after => some (.groupStart .bracket (flagChange flags), after)
    | ')' :: after =>
        if flags.isEmpty then none else some (.directive (flagChange flags), after)
    | _ => none
  else none

/-- What an opening parenthesis starts, given the text after it, and the rest. -/
def group : List Char → Option (PatternToken × List Char)
  | '?' :: 'P' :: '<' :: rest => namedGroup rest
  | '?' :: '<' :: rest => namedGroup rest
  | '?' :: rest => flagGroup rest
  | rest => some (.groupStart .numbered .keep, rest)

/-! ## Section 4: The first token -/

/-- The token at the front of a text that starts with `c`, and the rest. -/
def first (c : Char) (rest : List Char) : Option (PatternToken × List Char) :=
  match c with
  | '(' => group rest
  | ')' => some (.groupEnd, rest)
  | '|' => some (.bar, rest)
  | '[' => (bracketClass rest).map fun (expr, after) => (.atom (.set expr), after)
  | '?' => some (repeating ⟨0, some 1⟩ rest)
  | '*' => some (repeating ⟨0, none⟩ rest)
  | '+' => some (repeating ⟨1, none⟩ rest)
  | '{' => (counted rest).map fun (bounds, after) => repeating bounds after
  | '\\' => (Escape.first rest).map fun (part, after) => (.atom part, after)
  | '.' => some (.atom .dot, rest)
  | '^' => some (.atom .lineStart, rest)
  | '$' => some (.atom .lineEnd, rest)
  | _ => some (.atom (.literal c), rest)

/-! ## Section 5: What is left -/

theorem length_repeating (bounds : Bounds) (text : List Char) :
    (repeating bounds text).2.length ≤ text.length := by
  unfold repeating lazyMark
  split <;> simp

theorem length_decimal (text : List Char) : (decimal text).2.length ≤ text.length := by
  have hspace := (List.dropWhile_sublist (l := text) isWhiteSpace).length_le
  have hdigits :=
    (List.dropWhile_sublist (l := text.dropWhile isWhiteSpace) Char.isDigit).length_le
  have htail := (List.dropWhile_sublist
    (l := (text.dropWhile isWhiteSpace).dropWhile Char.isDigit) isWhiteSpace).length_le
  unfold decimal
  grind

theorem length_counted {text after : List Char} {bounds : Bounds}
    (h : counted text = some (bounds, after)) : after.length ≤ text.length := by
  have hdecimal := length_decimal
  unfold counted at h
  split at h <;> grind

theorem length_namedGroup {text after : List Char} {token : PatternToken}
    (h : namedGroup text = some (token, after)) : after.length ≤ text.length := by
  have hname := @length_upTo '>'
  unfold namedGroup at h
  split at h <;> grind

theorem length_flagGroup {text after : List Char} {token : PatternToken}
    (h : flagGroup text = some (token, after)) : after.length ≤ text.length := by
  have hflags := (List.dropWhile_sublist (l := text) isFlagChar).length_le
  unfold flagGroup at h
  grind

theorem length_group {text after : List Char} {token : PatternToken}
    (h : group text = some (token, after)) : after.length ≤ text.length := by
  have hnamed := @length_namedGroup
  have hflag := @length_flagGroup
  unfold group at h
  split at h <;> grind

theorem length_first {c : Char} {rest after : List Char} {token : PatternToken}
    (h : first c rest = some (token, after)) : after.length ≤ rest.length := by
  have hgroup := @length_group
  have hbracket := @length_bracketClass
  have hcounted := @length_counted
  have hescape := @Escape.length_first
  have hrepeating := length_repeating
  unfold first at h
  split at h <;> grind [Option.map_eq_some_iff]

/-! ## Section 6: All tokens -/

/-- The tokens of a pattern. -/
def all : List Char → Option (List PatternToken)
  | [] => some []
  | c :: rest =>
      match h : first c rest with
      | some (token, after) =>
          have := length_first h
          (all after).map (token :: ·)
      | none => none
termination_by text => text.length
decreasing_by simp only [List.length_cons]; omega

/-- The names of the groups that a sequence of tokens starts. -/
def groupNames (tokens : List PatternToken) : List (List Char) :=
  tokens.filterMap fun
    | .groupStart (.named name) _ => some name
    | _ => none

end PatternToken

end SexpContract
