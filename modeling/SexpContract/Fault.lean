import SexpContract.Grammar.LiteralType

/-!
# Faults

What can be wrong with a program or a grammar, sorted by the stage that notices it.  A fault does
not know where it was noticed; `Error` adds the position.
-/

namespace SexpContract

/-! ## Section 1: The kinds of fault -/

/-- What can be wrong with the characters of a source. -/
inductive LexicalFault where
  | unterminatedString
  | unexpectedCharacter (character : Char)
  deriving DecidableEq, Repr

/-- What can be wrong with the nesting of a token sequence. -/
inductive StructuralFault where
  | emptyExpression
  | expectedSymbol (found : String)
  | unmatchedOpenParen
  | unexpectedCloseParen
  | maxDepthExceeded (limit : Nat)
  deriving DecidableEq, Repr

/-- How an expression can break the contract of its symbol. -/
inductive ContractFault where
  | unknownSymbol (symbol : String) (suggestion : Option String)
  | missingParameter (symbol parameter : String)
  | missingRepeatedParameter (symbol parameter : String)
  | tooManyArguments (symbol : String) (expected found : Nat)
  | expectedIdentifier (symbol parameter found : String)
  | expectedNode (symbol parameter found : String)
  | disallowedSymbol (symbol parameter : String) (allowed : List String) (found : String)
  | expectedLiteral (symbol parameter : String) (expected : LiteralType) (found : String)
  deriving DecidableEq, Repr

/-- What can be wrong with a grammar definition. -/
inductive GrammarFault where
  | invalidPattern (rule pattern reason : String)
  | variadicNotLast (symbol parameter cardinality : String)
  | reservedSymbol (symbol : String)
  deriving DecidableEq, Repr

/-! ## Section 2: Their wording -/

/-- The wording of a lexical fault noticed at a byte offset. -/
def LexicalFault.message (position : Nat) : LexicalFault → String
  | .unterminatedString => s!"unterminated string starting at position {position}"
  | .unexpectedCharacter c => s!"unexpected character '{c}' at position {position}"

/-- The wording of a structural fault noticed at a byte offset. -/
def StructuralFault.message (position : Nat) : StructuralFault → String
  | .emptyExpression =>
      s!"empty expression at position {position}: '(' must be followed by a symbol"
  | .expectedSymbol found =>
      s!"expected symbol name after '(' at position {position}, found {found}"
  | .unmatchedOpenParen => s!"unmatched '(' at position {position}"
  | .unexpectedCloseParen => s!"unexpected ')' at position {position}"
  | .maxDepthExceeded limit =>
      s!"nesting depth exceeds maximum of {limit} at position {position}"

/-- The question that offers a suggestion, empty without one. -/
def suggestionQuestion : Option String → String
  | none => ""
  | some name => s!" (did you mean '{name}'?)"

/-- The wording of a broken contract noticed at a byte offset. -/
def ContractFault.message (position : Nat) : ContractFault → String
  | .unknownSymbol symbol suggestion =>
      s!"unknown symbol '{symbol}' at position {position}" ++ suggestionQuestion suggestion
  | .missingParameter symbol parameter =>
      s!"symbol '{symbol}' requires parameter '{parameter}' (position {position})"
  | .missingRepeatedParameter symbol parameter =>
      s!"symbol '{symbol}' requires at least one occurrence of parameter '{parameter}' " ++
        s!"(position {position})"
  | .tooManyArguments symbol expected found =>
      s!"too many arguments for symbol '{symbol}': expected at most {expected}, got {found} " ++
        s!"(position {position})"
  | .expectedIdentifier symbol parameter found =>
      s!"parameter '{parameter}' of '{symbol}' expects an identifier but got {found} " ++
        s!"(position {position})"
  | .expectedNode symbol parameter found =>
      s!"parameter '{parameter}' of '{symbol}' expects a symbolic node but got {found} " ++
        s!"(position {position})"
  | .disallowedSymbol symbol parameter allowed found =>
      let names := ", ".intercalate allowed
      s!"parameter '{parameter}' of '{symbol}' expects one of [{names}] but got '{found}' " ++
        s!"(position {position})"
  | .expectedLiteral symbol parameter expected found =>
      let type := expected.name
      s!"parameter '{parameter}' of '{symbol}' expects literal type '{type}' but got {found} " ++
        s!"(position {position})"

/-- The wording of a fault in a grammar definition. -/
def GrammarFault.message : GrammarFault → String
  | .invalidPattern rule pattern reason => s!"invalid {rule} pattern '{pattern}': {reason}"
  | .variadicNotLast symbol parameter cardinality =>
      s!"parameter '{parameter}' of symbol '{symbol}' is {cardinality} but is not the last parameter"
  | .reservedSymbol symbol => s!"symbol '{symbol}' is reserved and may not be redefined"

end SexpContract
