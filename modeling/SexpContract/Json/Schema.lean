import SexpContract.Grammar.Schema

/-!
# Schemas as JSON

The object form of a schema and of its parts.  Writing leaves out what is absent and an empty list
of allowed symbols, and lists names in ascending order.  Reading fills in defaults for absent
fields and passes over unknown ones.
-/

namespace SexpContract

open JsonValue

/-! ## Section 1: Parameters -/

/-- The strings of an array of strings. -/
def stringsOfJson? (value : JsonValue) : Option (List String) :=
  value.array?.bind fun items => items.mapM string?

namespace Parameter

/-- The field of the allowed symbols, left out when there are none. -/
def allowedField (symbols : List String) : List (String × JsonValue) :=
  if symbols.isEmpty then [] else [("allowedSymbols", .strings symbols)]

/-- The JSON form of a parameter. -/
def toJson (parameter : Parameter) : JsonValue :=
  .object (allowedField parameter.allowedSymbols ++
    [("cardinality", .string parameter.cardinality.name),
      ("description", .string parameter.description), ("name", .string parameter.name),
      ("type", .string parameter.type.name)])

/-- The type of a parameter from its name. -/
def typeOfJson? (value : JsonValue) : Option ParameterType :=
  value.string?.bind fun text => (ParameterType.parse text).toOption

/-- The cardinality of a parameter from its name. -/
def cardinalityOfJson? (value : JsonValue) : Option Cardinality :=
  value.string?.bind Cardinality.ofName?

/-- The parameter that a JSON value stands for. -/
def ofJson? (value : JsonValue) : Option Parameter := do
  let fields ← value.fields?
  let name ← required fields "name" string?
  let description ← withDefault fields "description" "" string?
  let type ← required fields "type" typeOfJson?
  let allowedSymbols ← withDefault fields "allowedSymbols" [] stringsOfJson?
  let cardinality ← withDefault fields "cardinality" .required cardinalityOfJson?
  return { name, description, type, allowedSymbols, cardinality }

end Parameter

/-! ## Section 2: Symbols -/

namespace SymbolContract

/-- The JSON form of a symbol's contract. -/
def toJson (contract : SymbolContract) : JsonValue :=
  .object [("description", .string contract.description), ("kind", .string contract.kind),
    ("parameters", .array (contract.parameters.map Parameter.toJson))]

/-- The parameters of an array of parameters. -/
def parametersOfJson? (value : JsonValue) : Option (List Parameter) :=
  value.array?.bind fun items => items.mapM Parameter.ofJson?

/-- The contract that a JSON value stands for. -/
def ofJson? (value : JsonValue) : Option SymbolContract := do
  let fields ← value.fields?
  let description ← withDefault fields "description" "" string?
  let kind ← withDefault fields "kind" "" string?
  let parameters ← withDefault fields "parameters" [] parametersOfJson?
  return { description, kind, parameters }

end SymbolContract

/-! ## Section 3: Rules, constraints and metadata -/

namespace LiteralRules

/-- The JSON form of the patterns for literals. -/
def toJson (rules : LiteralRules String) : JsonValue :=
  .object (unlessNone "boolean" .string rules.boolean ++ unlessNone "null" .string rules.null ++
    unlessNone "number" .string rules.number ++ unlessNone "string" .string rules.string)

/-- The patterns for literals that a JSON value stands for. -/
def ofJson? (value : JsonValue) : Option (LiteralRules String) := do
  let fields ← value.fields?
  let string ← optional fields "string" string?
  let number ← optional fields "number" string?
  let boolean ← optional fields "boolean" string?
  let null ← optional fields "null" string?
  return { string, number, boolean, null }

end LiteralRules

namespace RootConstraint

/-- The written name of the demand for a root. -/
def kindName : String := "mustHaveRoot"

/-- The JSON form of a constraint. -/
def toJson (constraint : RootConstraint) : JsonValue :=
  .object (unlessNone "data" id constraint.data ++ [("kind", .string kindName)] ++
    unlessNone "scope" .string constraint.scope ++ [("value", .string constraint.root)])

/-- The constraint that a JSON value stands for. -/
def ofJson? (value : JsonValue) : Option RootConstraint := do
  let fields ← value.fields?
  let kind ← required fields "kind" string?
  guard (kind = kindName)
  let scope ← optional fields "scope" string?
  let root ← required fields "value" string?
  let data ← optional fields "data" some
  return { root, scope, data }

end RootConstraint

namespace Metadata

/-- The metadata that says nothing. -/
def blank : Metadata := ⟨"", "", ""⟩

/-- The JSON form of metadata. -/
def toJson (metadata : Metadata) : JsonValue :=
  .object [("description", .string metadata.description), ("name", .string metadata.name),
    ("version", .string metadata.version)]

/-- The metadata that a JSON value stands for. -/
def ofJson? (value : JsonValue) : Option Metadata := do
  let fields ← value.fields?
  let name ← withDefault fields "name" "" string?
  let description ← withDefault fields "description" "" string?
  let version ← withDefault fields "version" "" string?
  return { name, description, version }

end Metadata

/-! ## Section 4: Schemas -/

namespace Schema

/-- The JSON form of the symbols of a schema. -/
def symbolsToJson (symbols : NameMap SymbolContract) : JsonValue :=
  .object (symbols.entries.map fun (name, contract) => (name, contract.toJson))

/-- The JSON form of a schema. -/
def toJson (schema : Schema) : JsonValue :=
  .object ([("constraints", .array (schema.constraints.map RootConstraint.toJson)),
      ("dsl", schema.metadata.toJson)] ++
    unlessNone "embedding" id schema.embedding ++
    [("formatVersion", .string schema.formatVersion),
      ("identifier", .object [("pattern", .string schema.identifierPattern)]),
      ("literals", schema.literals.toJson),
      ("reservedSymbols", .strings schema.reserved.names),
      ("symbols", symbolsToJson schema.symbols)])

/-- The symbols that a JSON value stands for. -/
def symbolsOfJson? (value : JsonValue) : Option (NameMap SymbolContract) := do
  let fields ← value.fields?
  let entries ← fields.mapM fun (name, contract) =>
    (SymbolContract.ofJson? contract).map (name, ·)
  return .ofList entries

/-- The identifier pattern that a JSON value stands for. -/
def identifierOfJson? (value : JsonValue) : Option String := do
  let fields ← value.fields?
  required fields "pattern" string?

/-- The reserved names that a JSON value stands for. -/
def reservedOfJson? (value : JsonValue) : Option NameSet := do
  let names ← stringsOfJson? value
  return .ofList (names.map (·, ()))

/-- The constraints that a JSON value stands for. -/
def constraintsOfJson? (value : JsonValue) : Option (List RootConstraint) :=
  value.array?.bind fun items => items.mapM RootConstraint.ofJson?

/-- The schema that a JSON value stands for. -/
def ofJson? (value : JsonValue) : Option Schema := do
  let fields ← value.fields?
  let formatVersion ← withDefault fields "formatVersion" defaultFormatVersion string?
  let metadata ← withDefault fields "dsl" .blank Metadata.ofJson?
  let symbols ← withDefault fields "symbols" .empty symbolsOfJson?
  let literals ← withDefault fields "literals" .none LiteralRules.ofJson?
  let identifierPattern ←
    withDefault fields "identifier" defaultIdentifierPattern identifierOfJson?
  let reserved ← withDefault fields "reservedSymbols" .empty reservedOfJson?
  let embedding ← optional fields "embedding" some
  let constraints ← withDefault fields "constraints" [] constraintsOfJson?
  return { formatVersion, metadata, symbols, literals, identifierPattern, reserved, embedding,
           constraints }

end Schema

end SexpContract
