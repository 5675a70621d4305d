import SexpContract.Error
import SexpContract.Grammar.Schema
import SexpContract.Grammar.Suggestion
import SexpContract.Node.Basic
import SexpContract.Pattern.Rule

/-!
# Grammars

A grammar is a schema that was found sound, together with its compiled rules.  `Schema.compile`
looks for faults in a fixed order: symbols in ascending order of their names, then the identifier
pattern, then the literal patterns.
-/

namespace SexpContract

/-- A schema with its compiled rules. -/
structure Grammar where
  schema : Schema
  identifier : Rule
  literals : LiteralRules Rule

/-! ## Section 1: Compilation -/

/-- The first parameter that takes every argument left although others follow it. -/
def SymbolContract.misplacedVariadic? (contract : SymbolContract) : Option Parameter :=
  contract.parameters.dropLast.find? fun parameter => parameter.cardinality.isVariadic

namespace Schema

/-- What is wrong with the definition of a symbol. -/
def symbolFault? (schema : Schema) (name : String) (contract : SymbolContract) :
    Option GrammarFault :=
  if schema.reserved.contains name then some (.reservedSymbol name)
  else contract.misplacedVariadic?.map fun parameter =>
    .variadicNotLast name parameter.name parameter.cardinality.name

/-- The first fault among the symbols in ascending order of their names. -/
def firstSymbolFault? (schema : Schema) : Option GrammarFault :=
  schema.symbols.entries.findSome? fun (name, contract) => schema.symbolFault? name contract

/-- The rule of a pattern; the name of the rule goes into the fault. -/
def compileRule (name pattern : String) : Except GrammarFault Rule :=
  match Rule.compile? pattern with
  | some rule => .ok rule
  | none => .error (.invalidPattern name pattern "not a regular expression")

/-- The rule for a literal type, if the schema has a pattern for it. -/
def compileLiteral (schema : Schema) (type : LiteralType) : Except GrammarFault (Option Rule) :=
  match schema.literals.get? type with
  | some pattern => (compileRule (type.name ++ " literal") pattern).map some
  | none => .ok none

/-- The grammar of a sound schema. -/
def compile (schema : Schema) : Except GrammarFault Grammar :=
  match schema.firstSymbolFault? with
  | some fault => .error fault
  | none => do
      let identifier ← compileRule "identifier" schema.identifierPattern
      let string ← schema.compileLiteral .string
      let number ← schema.compileLiteral .number
      let boolean ← schema.compileLiteral .boolean
      let null ← schema.compileLiteral .null
      .ok ⟨schema, identifier, ⟨string, number, boolean, null⟩⟩

end Schema

/-! ## Section 2: Queries -/

namespace Grammar

/-- The contract of a symbol. -/
def symbol? (grammar : Grammar) (name : String) : Option SymbolContract :=
  grammar.schema.symbols.find? name

/-- Whether a name is defined as a symbol. -/
def hasSymbol (grammar : Grammar) (name : String) : Bool :=
  grammar.schema.symbols.contains name

/-- Whether a name may not be defined. -/
def isReserved (grammar : Grammar) (name : String) : Bool :=
  grammar.schema.reserved.contains name

/-- Whether a text obeys the identifier rule. -/
def matchesIdentifier (grammar : Grammar) (text : String) : Bool :=
  grammar.identifier.accepts text

/-- Whether a literal belongs to a literal type.  A rule for the type sees the decoded text alone;
without one, strings and numbers go by how they were written and the others by their text. -/
def acceptsLiteral (grammar : Grammar) (type : LiteralType) (kind : LiteralKind)
    (value : String) : Bool :=
  match grammar.literals.get? type with
  | some rule => rule.accepts value
  | none =>
      match type with
      | .string => kind = .string
      | .number => kind = .number
      | .boolean => value = "true" || value = "false"
      | .null => value = "null"

/-- The defined symbol that is most similar to a name. -/
def suggest? (grammar : Grammar) (name : String) : Option String :=
  closest? (similarityRank name) suggestionThreshold grammar.schema.symbols.names

end Grammar

end SexpContract
