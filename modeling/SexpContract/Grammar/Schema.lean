import SexpContract.Grammar.Cardinality
import SexpContract.Grammar.ParameterType
import SexpContract.Json.Value
import SexpContract.NameMap

/-!
# Schemas

A schema describes a language of expressions as plain data: the symbols with their positional
parameters, the rules for identifiers and literals, and the demands on a whole program.  Compiling
it makes a grammar.
-/

namespace SexpContract

/-! ## Section 1: The parts -/

/-- One positional parameter.  The allowed symbols restrict a parameter of type node; without any,
every symbol is allowed. -/
structure Parameter where
  name : String
  description : String
  type : ParameterType
  allowedSymbols : List String
  cardinality : Cardinality
  deriving DecidableEq, Repr

/-- What a symbol stands for and which arguments it takes. -/
structure SymbolContract where
  description : String
  kind : String
  parameters : List Parameter
  deriving DecidableEq, Repr

/-- One optional rule for each literal type. -/
structure LiteralRules (α : Type) where
  string : Option α
  number : Option α
  boolean : Option α
  null : Option α
  deriving DecidableEq, Repr

/-- The demand that the first top-level expression has a certain symbol. -/
structure RootConstraint where
  root : String
  scope : Option String
  data : Option JsonValue
  deriving Repr

/-- What a schema says about itself. -/
structure Metadata where
  name : String
  description : String
  version : String
  deriving DecidableEq, Repr

/-- A language of expressions as plain data.  The embedding is carried along and not consulted. -/
structure Schema where
  formatVersion : String
  metadata : Metadata
  symbols : NameMap SymbolContract
  literals : LiteralRules String
  identifierPattern : String
  reserved : NameSet
  embedding : Option JsonValue
  constraints : List RootConstraint

/-! ## Section 2: Literal rules -/

namespace LiteralRules

variable {α β : Type}

/-- No rules at all. -/
def none : LiteralRules α := ⟨.none, .none, .none, .none⟩

/-- The rule for a literal type. -/
def get? (rules : LiteralRules α) : LiteralType → Option α
  | .string => rules.string
  | .number => rules.number
  | .boolean => rules.boolean
  | .null => rules.null

/-- The rules with the one for a literal type replaced. -/
def set (rules : LiteralRules α) (type : LiteralType) (rule : α) : LiteralRules α :=
  match type with
  | .string => { rules with string := some rule }
  | .number => { rules with number := some rule }
  | .boolean => { rules with boolean := some rule }
  | .null => { rules with null := some rule }

theorem get?_set (rules : LiteralRules α) (type other : LiteralType) (rule : α) :
    (rules.set type rule).get? other = if other = type then some rule else rules.get? other := by
  cases type <;> cases other <;> rfl

end LiteralRules

/-! ## Section 3: Building -/

namespace Parameter

/-- A required parameter of the given type. -/
def ofType (name : String) (type : ParameterType) : Parameter where
  name := name
  description := ""
  type := type
  allowedSymbols := []
  cardinality := .required

/-- The parameter with more symbols allowed. -/
def allow (parameter : Parameter) (symbols : List String) : Parameter :=
  { parameter with allowedSymbols := parameter.allowedSymbols ++ symbols }

end Parameter

namespace Schema

/-- The identifier pattern of a schema that gives none. -/
def defaultIdentifierPattern : String := "[A-Za-z_][A-Za-z0-9_.\\-]*"

/-- The format version of a schema that gives none. -/
def defaultFormatVersion : String := "1.0"

/-- A schema with a name and nothing else. -/
def named (name : String) : Schema where
  formatVersion := defaultFormatVersion
  metadata := ⟨name, "", ""⟩
  symbols := .empty
  literals := .none
  identifierPattern := defaultIdentifierPattern
  reserved := .empty
  embedding := none
  constraints := []

/-- The schema with a symbol defined or redefined. -/
def withSymbol (schema : Schema) (name : String) (contract : SymbolContract) : Schema :=
  { schema with symbols := schema.symbols.insert name contract }

/-- The schema with its literal rules replaced. -/
def withLiterals (schema : Schema) (literals : LiteralRules String) : Schema :=
  { schema with literals }

/-- The schema with its identifier pattern replaced. -/
def withIdentifierPattern (schema : Schema) (identifierPattern : String) : Schema :=
  { schema with identifierPattern }

/-- The schema with one more reserved name. -/
def withReserved (schema : Schema) (name : String) : Schema :=
  { schema with reserved := schema.reserved.insert name () }

/-- The schema with one more demanded root. -/
def withRoot (schema : Schema) (root : String) : Schema :=
  { schema with constraints := schema.constraints ++ [⟨root, none, none⟩] }

/-- The schema with a value to carry along. -/
def withEmbedding (schema : Schema) (value : JsonValue) : Schema :=
  { schema with embedding := some value }

/-- The root that the first constraint demands. -/
def requiredRoot? (schema : Schema) : Option String :=
  schema.constraints.head?.map RootConstraint.root

end Schema

end SexpContract
