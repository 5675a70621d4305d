import SexpContract.Grammar.Basic
import SexpContract.Grammar.Invocation

/-!
# What Compiling Guarantees

A compiled grammar keeps its schema as it was written (`Schema.schema_of_compile`), none of its
symbols is reserved (`Grammar.isReserved_of_compile`), and in every contract at most the last
parameter takes all the arguments that are left (`Grammar.variadicLast_of_compile`).
-/

namespace SexpContract

/-! ## Section 1: The schema of a compiled grammar -/

namespace Schema

variable {schema : Schema} {grammar : Grammar}

/-- A compiled grammar has a schema without faults, and the rules of its patterns. -/
theorem compile_eq_ok (h : schema.compile = .ok grammar) :
    schema.firstSymbolFault? = none ∧ grammar.schema = schema ∧
      compileRule "identifier" schema.identifierPattern = .ok grammar.identifier ∧
      ∀ type, schema.compileLiteral type = .ok (grammar.literals.get? type) := by
  unfold compile at h
  split at h
  · cases h
  rename_i hfault
  -- Each rule in turn either fails the compilation or is stored beside the schema.
  simp only [bind, Except.bind] at h
  split at h
  · cases h
  rename_i identifier hidentifier
  split at h
  · cases h
  rename_i string hstring
  split at h
  · cases h
  rename_i number hnumber
  split at h
  · cases h
  rename_i boolean hboolean
  split at h
  · cases h
  rename_i null hnull
  cases h
  refine ⟨hfault, rfl, hidentifier, ?_⟩
  intro type
  cases type with
  | string => exact hstring
  | number => exact hnumber
  | boolean => exact hboolean
  | null => exact hnull

theorem schema_of_compile (h : schema.compile = .ok grammar) : grammar.schema = schema :=
  (compile_eq_ok h).2.1

theorem symbolFault?_of_compile (h : schema.compile = .ok grammar) {name : String}
    {contract : SymbolContract} (hname : grammar.symbol? name = some contract) :
    schema.symbolFault? name contract = none := by
  obtain ⟨hfault, hschema, _⟩ := compile_eq_ok h
  rw [Grammar.symbol?, hschema] at hname
  exact List.findSome?_eq_none_iff.1 hfault _ (NameMap.mem_of_valueOf? hname)

theorem compile?_of_compileRule {name pattern : String} {rule : Rule}
    (h : compileRule name pattern = .ok rule) : Rule.compile? pattern = some rule := by
  unfold compileRule at h
  split at h
  · cases h
    assumption
  · cases h

end Schema

/-! ## Section 2: Sound contracts -/

/-- No parameter but the last takes every argument that is left. -/
def Parameter.VariadicLast (parameters : List Parameter) : Prop :=
  ∀ parameter ∈ parameters.dropLast, parameter.cardinality.isVariadic = false

namespace Grammar

variable {schema : Schema} {grammar : Grammar} {name : String} {contract : SymbolContract}

theorem isReserved_of_compile (h : schema.compile = .ok grammar)
    (hname : grammar.symbol? name = some contract) : grammar.isReserved name = false := by
  have hfault := Schema.symbolFault?_of_compile h hname
  rw [Schema.symbolFault?] at hfault
  split at hfault
  · cases hfault
  · rename_i hreserved
    rw [isReserved, Schema.schema_of_compile h]
    exact Bool.eq_false_iff.2 hreserved

theorem variadicLast_of_compile (h : schema.compile = .ok grammar)
    (hname : grammar.symbol? name = some contract) :
    Parameter.VariadicLast contract.parameters := by
  have hfault := Schema.symbolFault?_of_compile h hname
  rw [Schema.symbolFault?] at hfault
  split at hfault
  · cases hfault
  · intro parameter hparameter
    have hnone := List.find?_eq_none.1 (Option.map_eq_none_iff.1 hfault) parameter hparameter
    exact Bool.eq_false_iff.2 hnone

end Grammar

/-! ## Section 3: A schema of queries -/

/-- A query reads from a source and then takes steps, such as a count. -/
def querySchema : Schema :=
  Schema.named "query"
    |>.withSymbol "Q" ⟨"Query", "Operation",
      [⟨"source", "", .node, ["F"], .required⟩, ⟨"steps", "", .node, [], .zeroOrMore⟩]⟩
    |>.withSymbol "F" ⟨"From", "Operation",
      [⟨"table", "", .identifier, [], .required⟩, ⟨"alias", "", .identifier, [], .optional⟩]⟩
    |>.withSymbol "S" ⟨"Select", "Operation", [⟨"columns", "", .identifier, [], .oneOrMore⟩]⟩
    |>.withSymbol "C" ⟨"Count", "Operation", []⟩
    |>.withReserved "WHERE"
    |>.withRoot "Q"

/-- What a test by evaluation says of the compiled grammar. -/
theorem Schema.exists_compile_of_any {schema : Schema} {test : Grammar → Bool}
    (h : schema.compile.toOption.any test = true) :
    ∃ grammar, schema.compile = .ok grammar ∧ test grammar = true := by
  cases hcompile : schema.compile with
  | error fault =>
      rw [hcompile] at h
      cases h
  | ok grammar =>
      rw [hcompile] at h
      exact ⟨grammar, rfl, h⟩

theorem querySchema_compiles : ∃ grammar, querySchema.compile = .ok grammar := by
  have h : querySchema.compile.toOption.any (fun _ => true) = true := by decide +kernel
  obtain ⟨grammar, hcompile, _⟩ := Schema.exists_compile_of_any h
  exact ⟨grammar, hcompile⟩

end SexpContract
