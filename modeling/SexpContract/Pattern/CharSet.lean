import SexpContract.Text.Alphabetic
import SexpContract.Text.CaseFolding
import SexpContract.Text.Category.Letter
import SexpContract.Text.Category.Mark
import SexpContract.Text.Category.Number
import SexpContract.Text.Category.Other
import SexpContract.Text.Category.Punctuation
import SexpContract.Text.Category.Separator
import SexpContract.Text.Category.Symbol
import SexpContract.Text.WhiteSpace

/-!
# Character Sets

The sets of characters that patterns are built from: ranges and tables, closed under the set
operations and under case.  Membership is read off the way in which a set is built; the ranges of a
set are computed where its size matters.
-/

namespace SexpContract

open Text

/-! ## Section 1: Sets and membership -/

/-- A set of characters. -/
inductive CharSet where
  | empty
  | range (low high : Char)
  | table (ranges : List CodeRange)
  | union (first second : CharSet)
  | inter (first second : CharSet)
  | diff (first second : CharSet)
  | symmDiff (first second : CharSet)
  | complement (set : CharSet)
  | closeCase (set : CharSet)
  deriving DecidableEq, Repr

namespace CharSet

/-- Whether a character is in a set.  The closure under case also holds the characters with a case
variant in the set. -/
def contains : CharSet → Char → Bool
  | .empty, _ => false
  | .range low high, c => low ≤ c && c ≤ high
  | .table ranges, c => inRanges c.toNat ranges
  | .union first second, c => first.contains c || second.contains c
  | .inter first second, c => first.contains c && second.contains c
  | .diff first second, c => first.contains c && !second.contains c
  | .symmDiff first second, c => first.contains c != second.contains c
  | .complement set, c => !set.contains c
  | .closeCase set, c => set.contains c || (caseVariants c).any set.contains

/-- The union of a list of sets. -/
def unions (sets : List CharSet) : CharSet :=
  sets.foldr .union .empty

/-- The set of one character. -/
def single (c : Char) : CharSet :=
  .range c c

/-- The set of all characters. -/
def all : CharSet :=
  .complement .empty

/-- The set, closed under case when that is asked for. -/
def closeCaseIf (ignoreCase : Bool) (set : CharSet) : CharSet :=
  if ignoreCase then .closeCase set else set

/-- The set, complemented when that is asked for. -/
def complementIf (negated : Bool) (set : CharSet) : CharSet :=
  if negated then .complement set else set

/-- The code points of a set, as ascending ranges that do not touch. -/
def ranges : CharSet → List CodeRange
  | .empty => []
  | .range low high => [(low.toNat, high.toNat)]
  | .table ranges => ranges
  | .union first second => CodeRange.union first.ranges second.ranges
  | .inter first second => CodeRange.inter first.ranges second.ranges
  | .diff first second => CodeRange.diff first.ranges second.ranges
  | .symmDiff first second => CodeRange.symmDiff first.ranges second.ranges
  | .complement set => CodeRange.complement set.ranges
  | .closeCase set => CodeRange.union set.ranges (caseVariantRanges set.ranges)

theorem contains_unions (sets : List CharSet) (c : Char) :
    (unions sets).contains c = sets.any fun set => set.contains c := by
  induction sets with
  | nil => rfl
  | cons set rest ih => simpa [unions, contains] using congrArg (set.contains c || ·) ih

/-! ## Section 2: Named classes -/

/-- Decimal digits of all scripts. -/
def digits : CharSet :=
  .table decimalNumberRanges

/-- White space. -/
def spaces : CharSet :=
  .table whiteSpaceRanges

/-- Letters and digits of ASCII and the underscore. -/
def asciiWord : CharSet :=
  unions [.range '0' '9', .range 'A' 'Z', .range 'a' 'z', single '_']

/-- The characters of words: alphabetic ones, marks, digits, connectors and the two joiners. -/
def wordChars : CharSet :=
  unions [asciiWord, .table alphabeticRanges, .table nonspacingMarkRanges,
    .table spacingMarkRanges, .table enclosingMarkRanges, .table decimalNumberRanges,
    .table connectorPunctuationRanges, .range '\u200C' '\u200D']

/-- The classes of ASCII characters that a bracket expression can name. -/
def ofAsciiName? (name : String) : Option CharSet :=
  match name with
  | "alnum" => some (unions [.range '0' '9', .range 'A' 'Z', .range 'a' 'z'])
  | "alpha" => some (unions [.range 'A' 'Z', .range 'a' 'z'])
  | "ascii" => some (.range '\x00' '\x7F')
  | "blank" => some (unions [single '\t', single ' '])
  | "cntrl" => some (unions [.range '\x00' '\x1F', single '\x7F'])
  | "digit" => some (.range '0' '9')
  | "graph" => some (.range '!' '~')
  | "lower" => some (.range 'a' 'z')
  | "print" => some (.range ' ' '~')
  | "punct" =>
      some (unions [.range '!' '/', .range ':' '@', .range '[' '\x60', .range '\x7B' '~'])
  | "space" => some (unions [.range '\t' '\r', single ' '])
  | "upper" => some (.range 'A' 'Z')
  | "word" => some asciiWord
  | "xdigit" => some (unions [.range '0' '9', .range 'A' 'F', .range 'a' 'f'])
  | _ => none

/-! ## Section 3: Properties -/

/-- Letters. -/
def letters : CharSet :=
  unions [.table uppercaseLetterRanges, .table lowercaseLetterRanges,
    .table titlecaseLetterRanges, .table modifierLetterRanges, .table otherLetterRanges]

/-- Letters with case. -/
def casedLetters : CharSet :=
  unions [.table uppercaseLetterRanges, .table lowercaseLetterRanges,
    .table titlecaseLetterRanges]

/-- Combining marks. -/
def marks : CharSet :=
  unions [.table nonspacingMarkRanges, .table spacingMarkRanges, .table enclosingMarkRanges]

/-- Numbers. -/
def numbers : CharSet :=
  unions [.table decimalNumberRanges, .table letterNumberRanges, .table otherNumberRanges]

/-- Punctuation. -/
def punctuation : CharSet :=
  unions [.table connectorPunctuationRanges, .table dashPunctuationRanges,
    .table openPunctuationRanges, .table closePunctuationRanges,
    .table initialPunctuationRanges, .table finalPunctuationRanges,
    .table otherPunctuationRanges]

/-- Symbols. -/
def symbols : CharSet :=
  unions [.table mathSymbolRanges, .table currencySymbolRanges, .table modifierSymbolRanges,
    .table otherSymbolRanges]

/-- Separators. -/
def separators : CharSet :=
  unions [.table spaceSeparatorRanges, .table lineSeparatorRanges,
    .table paragraphSeparatorRanges]

/-- Characters that stand in some other table. -/
def assigned : CharSet :=
  unions [letters, marks, numbers, punctuation, symbols, separators, .table controlRanges,
    .table formatRanges, .table privateUseRanges]

/-- The set that the name of a general category stands for, the name in lower case and without
separators. -/
def ofCategoryName? (name : String) : Option CharSet :=
  match name with
  | "any" => some all
  | "ascii" => some (.range '\x00' '\x7F')
  | "assigned" => some assigned
  | "l" | "letter" => some letters
  | "lc" | "casedletter" => some casedLetters
  | "lu" | "uppercaseletter" => some (.table uppercaseLetterRanges)
  | "ll" | "lowercaseletter" => some (.table lowercaseLetterRanges)
  | "lt" | "titlecaseletter" => some (.table titlecaseLetterRanges)
  | "lm" | "modifierletter" => some (.table modifierLetterRanges)
  | "lo" | "otherletter" => some (.table otherLetterRanges)
  | "m" | "mark" | "combiningmark" => some marks
  | "mn" | "nonspacingmark" => some (.table nonspacingMarkRanges)
  | "mc" | "spacingmark" => some (.table spacingMarkRanges)
  | "me" | "enclosingmark" => some (.table enclosingMarkRanges)
  | "n" | "number" => some numbers
  | "nd" | "decimalnumber" | "digit" => some digits
  | "nl" | "letternumber" => some (.table letterNumberRanges)
  | "no" | "othernumber" => some (.table otherNumberRanges)
  | "p" | "punctuation" | "punct" => some punctuation
  | "pc" | "connectorpunctuation" => some (.table connectorPunctuationRanges)
  | "pd" | "dashpunctuation" => some (.table dashPunctuationRanges)
  | "ps" | "openpunctuation" => some (.table openPunctuationRanges)
  | "pe" | "closepunctuation" => some (.table closePunctuationRanges)
  | "pi" | "initialpunctuation" => some (.table initialPunctuationRanges)
  | "pf" | "finalpunctuation" => some (.table finalPunctuationRanges)
  | "po" | "otherpunctuation" => some (.table otherPunctuationRanges)
  | "s" | "symbol" => some symbols
  | "sm" | "mathsymbol" => some (.table mathSymbolRanges)
  | "sc" | "currencysymbol" => some (.table currencySymbolRanges)
  | "sk" | "modifiersymbol" => some (.table modifierSymbolRanges)
  | "so" | "othersymbol" => some (.table otherSymbolRanges)
  | "z" | "separator" => some separators
  | "zs" | "spaceseparator" => some (.table spaceSeparatorRanges)
  | "zl" | "lineseparator" => some (.table lineSeparatorRanges)
  | "zp" | "paragraphseparator" => some (.table paragraphSeparatorRanges)
  | "c" | "other" =>
      some (unions [.table controlRanges, .table formatRanges, .table privateUseRanges,
        .complement assigned])
  | "cc" | "control" | "cntrl" => some (.table controlRanges)
  | "cf" | "format" => some (.table formatRanges)
  | "cn" | "unassigned" => some (.complement assigned)
  | "co" | "privateuse" => some (.table privateUseRanges)
  | "cs" | "surrogate" => some .empty
  | _ => none

/-- The set that a property name stands for, the name in lower case and without separators. -/
def ofPropertyName? (name : String) : Option CharSet :=
  match name with
  | "alphabetic" | "alpha" =>
      some (unions [.range 'A' 'Z', .range 'a' 'z', .table alphabeticRanges])
  | "whitespace" | "wspace" | "space" => some spaces
  | _ => ofCategoryName? name

end CharSet

end SexpContract
