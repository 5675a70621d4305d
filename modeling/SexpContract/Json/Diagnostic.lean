import SexpContract.Diagnostic.Basic
import SexpContract.Json.Value

/-!
# Diagnostics as JSON

A diagnostic without a span or without a fix is written with null in that place, and read back from
null or from a missing field.
-/

namespace SexpContract

open JsonValue

/-! ## Section 1: Names -/

namespace Severity

/-- The written name of a severity. -/
def name : Severity → String
  | .error => "Error"
  | .warning => "Warning"

/-- The severity with the given written name. -/
def ofName? (text : String) : Option Severity :=
  [error, warning].find? fun severity => severity.name = text

end Severity

namespace DiagnosticCode

/-- All codes. -/
def all : List DiagnosticCode :=
  [unterminatedString, unexpectedCharacter, emptyExpression, expectedSymbol, unbalancedParens,
    nestingTooDeep, unknownSymbol, missingParameter, tooManyArguments, typeMismatch,
    disallowedSymbol, constraintViolation, invalidGrammar]

/-- The written name of a code. -/
def name : DiagnosticCode → String
  | .unterminatedString => "UnterminatedString"
  | .unexpectedCharacter => "UnexpectedCharacter"
  | .emptyExpression => "EmptyExpression"
  | .expectedSymbol => "ExpectedSymbol"
  | .unbalancedParens => "UnbalancedParens"
  | .nestingTooDeep => "NestingTooDeep"
  | .unknownSymbol => "UnknownSymbol"
  | .missingParameter => "MissingParameter"
  | .tooManyArguments => "TooManyArguments"
  | .typeMismatch => "TypeMismatch"
  | .disallowedSymbol => "DisallowedSymbol"
  | .constraintViolation => "ConstraintViolation"
  | .invalidGrammar => "InvalidGrammar"

/-- The code with the given written name. -/
def ofName? (text : String) : Option DiagnosticCode :=
  all.find? fun code => code.name = text

end DiagnosticCode

/-! ## Section 2: Spans and fixes -/

namespace SourceSpan

/-- The JSON form of a span. -/
def toJson (span : SourceSpan) : JsonValue :=
  .object [("endCol", .nat span.endColumn.toNat), ("endLine", .nat span.endLine.toNat),
    ("startCol", .nat span.startColumn.toNat), ("startLine", .nat span.startLine.toNat)]

/-- The reading of a field that holds a word of 32 bits. -/
def counter (fields : List (String × JsonValue)) (name : String) : Option UInt32 :=
  (required fields name (word? 32)).map UInt32.ofNat

/-- The span that a JSON value stands for. -/
def ofJson? (value : JsonValue) : Option SourceSpan := do
  let fields ← value.fields?
  let startLine ← counter fields "startLine"
  let startColumn ← counter fields "startCol"
  let endLine ← counter fields "endLine"
  let endColumn ← counter fields "endCol"
  return { startLine, startColumn, endLine, endColumn }

end SourceSpan

namespace SuggestedFix

/-- The JSON form of a fix. -/
def toJson (fix : SuggestedFix) : JsonValue :=
  .object [("description", .string fix.description), ("replacement", .string fix.replacement),
    ("span", fix.span.toJson)]

/-- The fix that a JSON value stands for. -/
def ofJson? (value : JsonValue) : Option SuggestedFix := do
  let fields ← value.fields?
  let description ← required fields "description" string?
  let replacement ← required fields "replacement" string?
  let span ← required fields "span" SourceSpan.ofJson?
  return { description, replacement, span }

end SuggestedFix

/-! ## Section 3: Diagnostics -/

namespace Diagnostic

/-- The JSON form of a diagnostic. -/
def toJson (diagnostic : Diagnostic) : JsonValue :=
  .object [("category", .string diagnostic.category), ("code", .string diagnostic.code.name),
    ("message", .string diagnostic.message), ("severity", .string diagnostic.severity.name),
    ("span", orNull SourceSpan.toJson diagnostic.span),
    ("suggestedFix", orNull SuggestedFix.toJson diagnostic.fix)]

/-- The diagnostic that a JSON value stands for. -/
def ofJson? (value : JsonValue) : Option Diagnostic := do
  let fields ← value.fields?
  let severity ← required fields "severity" fun name => name.string?.bind Severity.ofName?
  let code ← required fields "code" fun name => name.string?.bind DiagnosticCode.ofName?
  let category ← required fields "category" string?
  let message ← required fields "message" string?
  let span ← optional fields "span" SourceSpan.ofJson?
  let fix ← optional fields "suggestedFix" SuggestedFix.ofJson?
  return { severity, code, category, message, span, fix }

end Diagnostic

end SexpContract
