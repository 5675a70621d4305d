import SexpContract.Diagnostic.Span
import SexpContract.Error

/-!
# Diagnostics

What an editor shows for an error: a message, where it belongs and, for an unknown symbol with a
similar known one, a fix.
-/

namespace SexpContract

/-! ## Section 1: Parts -/

/-- How serious a diagnostic is. -/
inductive Severity where
  | error
  | warning
  deriving DecidableEq, Repr

/-- What a diagnostic is about. -/
inductive DiagnosticCode where
  | unterminatedString
  | unexpectedCharacter
  | emptyExpression
  | expectedSymbol
  | unbalancedParens
  | nestingTooDeep
  | unknownSymbol
  | missingParameter
  | tooManyArguments
  | typeMismatch
  | disallowedSymbol
  | constraintViolation
  | invalidGrammar
  deriving DecidableEq, Repr

/-- A text to put in the place of a span. -/
structure SuggestedFix where
  description : String
  replacement : String
  span : SourceSpan
  deriving DecidableEq, Repr

/-- A message about a source. -/
structure Diagnostic where
  severity : Severity
  code : DiagnosticCode
  category : String
  message : String
  span : Option SourceSpan
  fix : Option SuggestedFix
  deriving DecidableEq, Repr

/-! ## Section 2: Codes -/

/-- What an error is about. -/
def Error.code : Error → DiagnosticCode
  | .lexical .unterminatedString _ => .unterminatedString
  | .lexical (.unexpectedCharacter _) _ => .unexpectedCharacter
  | .structural .emptyExpression _ => .emptyExpression
  | .structural (.expectedSymbol _) _ => .expectedSymbol
  | .structural .unmatchedOpenParen _ => .unbalancedParens
  | .structural .unexpectedCloseParen _ => .unbalancedParens
  | .structural (.maxDepthExceeded _) _ => .nestingTooDeep
  | .contract (.unknownSymbol _ _) _ => .unknownSymbol
  | .contract (.missingParameter _ _) _ => .missingParameter
  | .contract (.missingRepeatedParameter _ _) _ => .missingParameter
  | .contract (.tooManyArguments _ _ _) _ => .tooManyArguments
  | .contract (.expectedIdentifier _ _ _) _ => .typeMismatch
  | .contract (.expectedNode _ _ _) _ => .typeMismatch
  | .contract (.disallowedSymbol _ _ _ _) _ => .disallowedSymbol
  | .contract (.expectedLiteral _ _ _ _) _ => .typeMismatch
  | .missingRoot _ _ => .constraintViolation
  | .grammar _ => .invalidGrammar

/-! ## Section 3: Diagnostics of errors -/

/-- The character that starts at a byte offset of a text. -/
def charAt? (offset : Nat) : List Char → Option Char
  | [] => none
  | c :: rest =>
      if offset = 0 then some c
      else if offset < c.utf8Size then none
      else charAt? (offset - c.utf8Size) rest

/-- The number of byte offsets; a sum of offsets wraps around at it. -/
def offsetModulus : Nat := 18446744073709551616

/-- The span of the character at a byte offset, empty when no character starts there. -/
def SourceSpan.ofCharAt (source : String) (position : Nat) : SourceSpan :=
  let width := ((charAt? position source.toList).map Char.utf8Size).getD 0
  .ofOffsets source position (position + width)

namespace Diagnostic

/-- The diagnostic of an error without its place. -/
def unplaced (error : Error) : Diagnostic where
  severity := .error
  code := error.code
  category := error.category.name
  message := error.message
  span := none
  fix := none

/-- The span of a symbol at a byte offset. -/
def symbolSpan (source symbol : String) (position : Nat) : SourceSpan :=
  .ofOffsets source position ((position + Text.byteLength symbol.toList) % offsetModulus)

/-- The fix that replaces a symbol. -/
def replacement (symbol name : String) (span : SourceSpan) : SuggestedFix where
  description := s!"replace '{symbol}' with '{name}'"
  replacement := name
  span := span

/-- The diagnostic of an error in a source. -/
def ofError (source : String) (error : Error) : Diagnostic :=
  match error with
  | .contract (.unknownSymbol symbol (some name)) position =>
      let span := symbolSpan source symbol position
      { unplaced error with span := some span, fix := some (replacement symbol name span) }
  | _ => { unplaced error with span := error.position?.map (SourceSpan.ofCharAt source) }

/-- Whether a diagnostic reports an error. -/
def isError (diagnostic : Diagnostic) : Bool :=
  diagnostic.severity = .error

end Diagnostic

end SexpContract
