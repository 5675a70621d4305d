import SexpContract.Grammar.Basic

/-!
# Summaries

How much a grammar defines, in numbers.
-/

namespace SexpContract

/-- The numbers of a grammar's symbols, parameters and constraints. -/
structure GrammarSummary where
  name : String
  symbolCount : Nat
  parameterCount : Nat
  requiredCount : Nat
  optionalCount : Nat
  repetitionCount : Nat
  constraintCount : Nat
  requiredRoot : Option String
  deriving DecidableEq, Repr

namespace Schema

/-- All parameters of all symbols. -/
def parameters (schema : Schema) : List Parameter :=
  schema.symbols.values.flatMap SymbolContract.parameters

/-- The number of parameters whose cardinality passes a test. -/
def countParameters (schema : Schema) (test : Cardinality → Bool) : Nat :=
  schema.parameters.countP fun parameter => test parameter.cardinality

end Schema

/-- The summary of a grammar. -/
def Grammar.summary (grammar : Grammar) : GrammarSummary where
  name := grammar.schema.metadata.name
  symbolCount := grammar.schema.symbols.size
  parameterCount := grammar.schema.parameters.length
  requiredCount := grammar.schema.countParameters (· = .required)
  optionalCount := grammar.schema.countParameters (· = .optional)
  repetitionCount := grammar.schema.countParameters Cardinality.isVariadic
  constraintCount := grammar.schema.constraints.length
  requiredRoot := grammar.schema.requiredRoot?

end SexpContract
