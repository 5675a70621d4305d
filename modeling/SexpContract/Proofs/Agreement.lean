import SexpContract.Proofs.Sources

/-!
# Grammars that Agree

What a parse consults of a grammar: its rules, the roots that it demands, and of each symbol the
parameters as far as a check reads them (`Parameter.bare`).  Grammars that have these in common
check every invocation alike (`Grammar.SameDemands.checkInvocation_eq`), and so give the same parse
of every source (`Grammar.SameDemands.parse_eq`).
-/

namespace SexpContract

/-! ## Section 1: What is consulted -/

/-- A parameter with what no check reads left blank.  The allowed symbols are read where a node is
expected. -/
def Parameter.bare (parameter : Parameter) : Parameter where
  name := parameter.name
  description := ""
  type := parameter.type
  allowedSymbols := if parameter.type = .node then parameter.allowedSymbols else []
  cardinality := parameter.cardinality

/-- The symbols of a schema in ascending order, each with its parameters as far as checks read
them. -/
def Schema.contracts (schema : Schema) : List (String × List Parameter) :=
  schema.symbols.entries.map fun (name, contract) =>
    (name, contract.parameters.map Parameter.bare)

theorem Schema.map_fst_contracts (schema : Schema) :
    schema.contracts.map Prod.fst = schema.symbols.names := by
  rw [contracts, List.map_map, NameMap.names]
  rfl

theorem Schema.valueOf?_contracts (schema : Schema) (name : String) :
    valueOf? name schema.contracts =
      (schema.symbols.find? name).map fun contract => contract.parameters.map Parameter.bare :=
  NameMap.valueOf?_map (fun contract : SymbolContract => contract.parameters.map Parameter.bare)
    name schema.symbols.entries

namespace Grammar

/-- Two grammars have the same rules for identifiers and literals. -/
structure SameRules (grammar other : Grammar) : Prop where
  identifier : ∀ text, grammar.matchesIdentifier text = other.matchesIdentifier text
  literal : ∀ type kind value,
    grammar.acceptsLiteral type kind value = other.acceptsLiteral type kind value

/-- Two grammars demand the same of every program. -/
structure SameDemands (grammar other : Grammar) : Prop extends grammar.SameRules other where
  contracts : grammar.schema.contracts = other.schema.contracts
  roots : grammar.schema.constraints.map RootConstraint.root =
    other.schema.constraints.map RootConstraint.root

/-- Two grammars agree on all that a parse consults. -/
structure Agrees (grammar other : Grammar) : Prop extends grammar.SameRules other where
  symbols : grammar.schema.symbols = other.schema.symbols
  roots : grammar.schema.constraints.map RootConstraint.root =
    other.schema.constraints.map RootConstraint.root

/-! ## Section 2: Checks against one grammar -/

variable {grammar other : Grammar}

theorem argumentFault?_bare (grammar : Grammar) (symbol : String) (parameter : Parameter)
    (arg : Node) :
    grammar.argumentFault? symbol parameter.bare arg =
      grammar.argumentFault? symbol parameter arg := by
  cases htype : parameter.type with
  | identifier => simp only [argumentFault?, identifierFault?, Parameter.bare, htype]
  | node => simp only [argumentFault?, nodeFault?, Parameter.bare, htype, if_true]
  | literal type => simp only [argumentFault?, literalFault?, Parameter.bare, htype]

theorem checkArguments_bare (grammar : Grammar) (symbol : String) (parameter : Parameter)
    (site : Site) (index : Nat) (args : List Node) :
    grammar.checkArguments symbol parameter.bare site index args =
      grammar.checkArguments symbol parameter site index args := by
  induction args generalizing index with
  | nil => rfl
  | cons arg rest ih => simp only [checkArguments, argumentFault?_bare, ih]

theorem missingFault_bare (symbol : String) (parameter : Parameter) :
    missingFault symbol parameter.bare = missingFault symbol parameter := rfl

/-- A check reads nothing of a parameter that is left blank. -/
theorem checkParameters_bare (grammar : Grammar) (symbol : String) (args : List Node) (site : Site)
    (index : Nat) (parameters : List Parameter) :
    grammar.checkParameters symbol args site index (parameters.map Parameter.bare) =
      grammar.checkParameters symbol args site index parameters := by
  induction parameters generalizing index with
  | nil => rfl
  | cons parameter rest ih =>
      have hcardinality : parameter.bare.cardinality = parameter.cardinality := rfl
      simp only [List.map_cons, checkParameters, hcardinality, missingFault_bare,
        checkArguments_bare, ih]

/-! ## Section 3: Checks against two grammars -/

theorem SameRules.argumentFault?_eq (h : grammar.SameRules other) (symbol : String)
    (parameter : Parameter) (arg : Node) :
    grammar.argumentFault? symbol parameter arg = other.argumentFault? symbol parameter arg := by
  simp only [argumentFault?, identifierFault?, literalFault?, h.identifier, h.literal]

theorem SameRules.checkArguments_eq (h : grammar.SameRules other) (symbol : String)
    (parameter : Parameter) (site : Site) (index : Nat) (args : List Node) :
    grammar.checkArguments symbol parameter site index args =
      other.checkArguments symbol parameter site index args := by
  induction args generalizing index with
  | nil => rfl
  | cons arg rest ih => simp only [checkArguments, h.argumentFault?_eq, ih]

theorem SameRules.checkParameters_eq (h : grammar.SameRules other) (symbol : String)
    (args : List Node) (site : Site) (index : Nat) (parameters : List Parameter) :
    grammar.checkParameters symbol args site index parameters =
      other.checkParameters symbol args site index parameters := by
  induction parameters generalizing index with
  | nil => rfl
  | cons parameter rest ih => simp only [checkParameters, h.checkArguments_eq, ih]

namespace SameDemands

theorem suggest?_eq (h : grammar.SameDemands other) (name : String) :
    grammar.suggest? name = other.suggest? name := by
  rw [suggest?, suggest?, ← Schema.map_fst_contracts, h.contracts, Schema.map_fst_contracts]

/-- A symbol is undefined in both grammars, or its contracts differ in what no check reads. -/
theorem symbol?_cases (h : grammar.SameDemands other) (name : String) :
    (grammar.symbol? name = none ∧ other.symbol? name = none) ∨
      ∃ contract contract', grammar.symbol? name = some contract ∧
        other.symbol? name = some contract' ∧
        contract.parameters.map Parameter.bare = contract'.parameters.map Parameter.bare := by
  have hfind := grammar.schema.valueOf?_contracts name
  rw [h.contracts, other.schema.valueOf?_contracts] at hfind
  unfold symbol?
  cases hother : other.schema.symbols.find? name with
  | none =>
      rw [hother, Option.map_none, eq_comm, Option.map_eq_none_iff] at hfind
      exact .inl ⟨hfind, rfl⟩
  | some contract' =>
      rw [hother, Option.map_some, eq_comm, Option.map_eq_some_iff] at hfind
      obtain ⟨contract, hcontract, hbare⟩ := hfind
      exact .inr ⟨contract, contract', hcontract, rfl, hbare⟩

theorem checkInvocation_eq (h : grammar.SameDemands other) (symbol : String) (args : List Node)
    (site : Site) :
    grammar.checkInvocation symbol args site = other.checkInvocation symbol args site := by
  rcases h.symbol?_cases symbol with ⟨hnone, hnone'⟩ | ⟨contract, contract', hsome, hsome', hbare⟩
  · simp only [checkInvocation, hnone, hnone', h.suggest?_eq]
  · have hparameters : grammar.checkParameters symbol args site 0 contract.parameters =
        other.checkParameters symbol args site 0 contract'.parameters := by
      rw [← checkParameters_bare, hbare, checkParameters_bare, h.toSameRules.checkParameters_eq]
    simp only [checkInvocation, hsome, hsome', hparameters]

theorem run_eq (h : grammar.SameDemands other) (check : Check) :
    check.run grammar = check.run other := by
  cases check with
  | invocation symbol args site => exact h.checkInvocation_eq symbol args site
  | topLevel node position =>
      simp only [Check.run, checkTopLevel, h.checkInvocation_eq]

theorem runAll_eq (h : grammar.SameDemands other) (checks : List Check) :
    Check.runAll grammar checks = Check.runAll other checks := by
  induction checks with
  | nil => rfl
  | cons check rest ih => simp only [Check.runAll, h.run_eq, ih]

end SameDemands

/-! ## Section 4: Programs -/

/-- Of a constraint, only the root that it demands is looked at. -/
theorem checkRoots_eq_of_roots (nodes : List Node) {constraints others : List RootConstraint}
    (h : constraints.map RootConstraint.root = others.map RootConstraint.root) :
    checkRoots nodes constraints = checkRoots nodes others := by
  induction constraints generalizing others with
  | nil =>
      obtain rfl := List.map_eq_nil_iff.1 h.symm
      rfl
  | cons constraint rest ih =>
      cases others with
      | nil => cases h
      | cons constraint' rest' =>
          obtain ⟨hroot, hrest⟩ := List.cons.inj h
          simp only [checkRoots, hroot, ih hrest]

theorem SameDemands.validate_eq (h : grammar.SameDemands other) (program : List Expression) :
    grammar.validate program = other.validate program := by
  simp only [validate, checkConstraints, h.runAll_eq, checkRoots_eq_of_roots _ h.roots]

/-- Grammars that demand the same give the same parse of every source. -/
theorem SameDemands.parse_eq (h : grammar.SameDemands other) (maxDepth : Nat) (source : String) :
    parse (some grammar) maxDepth source = parse (some other) maxDepth source := by
  rw [parse_eq_validateWith, parse_eq_validateWith]
  cases readSource maxDepth source with
  | error error => rfl
  | ok program => exact h.validate_eq program

namespace Agrees

theorem sameDemands (h : grammar.Agrees other) : grammar.SameDemands other where
  toSameRules := h.toSameRules
  contracts := by rw [Schema.contracts, h.symbols, ← Schema.contracts]
  roots := h.roots

theorem suggest?_eq (h : grammar.Agrees other) (name : String) :
    grammar.suggest? name = other.suggest? name :=
  h.sameDemands.suggest?_eq name

theorem parse_eq (h : grammar.Agrees other) (maxDepth : Nat) (source : String) :
    parse (some grammar) maxDepth source = parse (some other) maxDepth source :=
  h.sameDemands.parse_eq maxDepth source

end Agrees

/-! ## Section 5: Compiled grammars -/

theorem sameRules_of_compile {schema schema' : Schema} {grammar grammar' : Grammar}
    (hpattern : schema'.identifierPattern = schema.identifierPattern)
    (hliterals : schema'.literals = schema.literals) (hcompile : schema.compile = .ok grammar)
    (hcompile' : schema'.compile = .ok grammar') : grammar'.SameRules grammar := by
  obtain ⟨_, _, hidentifier, hrules⟩ := Schema.compile_eq_ok hcompile
  obtain ⟨_, _, hidentifier', hrules'⟩ := Schema.compile_eq_ok hcompile'
  rw [hpattern, hidentifier, Except.ok.injEq] at hidentifier'
  refine ⟨?_, ?_⟩
  · intro text
    rw [matchesIdentifier, matchesIdentifier, hidentifier']
  · intro type kind value
    have hrule : grammar'.literals.get? type = grammar.literals.get? type := by
      have hrule := hrules' type
      rw [Schema.compileLiteral, hliterals, ← Schema.compileLiteral, hrules type] at hrule
      exact (Except.ok.inj hrule).symm
    simp only [acceptsLiteral, hrule]

end Grammar

end SexpContract
