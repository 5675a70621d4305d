import Mathlib.Data.List.Basic
import Mathlib.Tactic.MkIffOfInductiveProp
import SexpContract.Proofs.Acceptance
import SexpContract.Proofs.Agreement
import SexpContract.Proofs.Positional

/-!
# Relaxed Grammars

A schema that asks for less accepts more.  An argument belongs to a parameter by its index alone, as
only the last parameter takes a varying number of arguments, so no argument goes to another
parameter when a contract is relaxed (`SymbolContract.Relaxes.at?`).  What a grammar admits, a
relaxed one admits (`Grammar.Admits.relax`), and so it accepts every program that the grammar
accepts (`parse_relaxed`).
-/

namespace SexpContract

/-! ## Section 1: Asking for less -/

/-- A parameter asks for less than another one: for arguments of the same type, no more of them, and
with no symbol forbidden that was allowed. -/
@[mk_iff]
structure Parameter.Relaxes (relaxed parameter : Parameter) : Prop where
  type_eq : relaxed.type = parameter.type
  minCount_le : relaxed.cardinality.minCount ≤ parameter.cardinality.minCount
  le_maxCount : ∀ most ∈ relaxed.cardinality.maxCount?,
    ∃ most' ∈ parameter.cardinality.maxCount?, most' ≤ most
  allows : parameter.type = .node → relaxed.allowedSymbols = [] ∨
    parameter.allowedSymbols ≠ [] ∧ relaxed.allowedSymbols ≠ [] ∧
      parameter.allowedSymbols ⊆ relaxed.allowedSymbols

/-- A contract asks for less than another one: parameter by parameter, and for nothing beyond. -/
structure SymbolContract.Relaxes (relaxed contract : SymbolContract) : Prop where
  parameters : ∀ (index : Nat) (parameter : Parameter),
    contract.parameters[index]? = some parameter →
      ∃ parameter' : Parameter, relaxed.parameters[index]? = some parameter' ∧
        parameter'.Relaxes parameter
  further : ∀ (index : Nat) (parameter : Parameter), contract.parameters.length ≤ index →
    relaxed.parameters[index]? = some parameter → parameter.cardinality.minCount = 0

/-- A schema asks for less than another one: with the same rules, for no other roots, and at each
symbol for less. -/
@[mk_iff]
structure Schema.Relaxes (relaxed schema : Schema) : Prop where
  identifierPattern_eq : relaxed.identifierPattern = schema.identifierPattern
  literals_eq : relaxed.literals = schema.literals
  roots : ∀ constraint ∈ relaxed.constraints, ∃ constraint' ∈ schema.constraints,
    constraint'.root = constraint.root
  symbols : ∀ (name : String) (contract : SymbolContract),
    schema.symbols.find? name = some contract →
      ∃ contract' : SymbolContract, relaxed.symbols.find? name = some contract' ∧
        contract'.Relaxes contract

instance (relaxed parameter : Parameter) : Decidable (relaxed.Relaxes parameter) :=
  decidable_of_iff' _ (Parameter.relaxes_iff relaxed parameter)

/-- Whether a contract asks for less shows when its parameters are gone through once. -/
theorem SymbolContract.relaxes_iff {relaxed contract : SymbolContract} :
    relaxed.Relaxes contract ↔
      contract.parameters.length ≤ relaxed.parameters.length ∧
      (∀ pair ∈ contract.parameters.zip relaxed.parameters, pair.2.Relaxes pair.1) ∧
      ∀ parameter ∈ relaxed.parameters.drop contract.parameters.length,
        parameter.cardinality.minCount = 0 := by
  constructor
  · rintro ⟨hparameters, hfurther⟩
    refine ⟨?_, ?_, ?_⟩
    · rw [← Nat.not_lt]
      intro hlt
      obtain ⟨parameter', hparameter', _⟩ := hparameters _ _ (List.getElem?_eq_getElem hlt)
      rw [List.getElem?_eq_none (Nat.le_refl _)] at hparameter'
      cases hparameter'
    · rintro ⟨parameter, other⟩ hpair
      obtain ⟨index, hindex⟩ := List.mem_iff_getElem?.1 hpair
      obtain ⟨hparameter, hother⟩ := List.getElem?_zip_eq_some.1 hindex
      obtain ⟨parameter', hparameter', hrelaxes⟩ := hparameters index parameter hparameter
      obtain rfl := Option.some.inj (hother.symm.trans hparameter')
      exact hrelaxes
    · intro parameter hmem
      obtain ⟨offset, hoffset⟩ := List.mem_iff_getElem?.1 hmem
      rw [List.getElem?_drop] at hoffset
      exact hfurther _ parameter (Nat.le_add_right _ _) hoffset
  · rintro ⟨hlength, hpairs, hfurther⟩
    refine ⟨?_, ?_⟩
    · intro index parameter hparameter
      have hlt := (List.getElem?_eq_some_iff.1 hparameter).1
      have hother := List.getElem?_eq_getElem (Nat.lt_of_lt_of_le hlt hlength)
      have hpair := List.getElem?_zip_eq_some (z := (parameter, _)).2 ⟨hparameter, hother⟩
      exact ⟨_, hother, hpairs _ (List.mem_of_getElem? hpair)⟩
    · intro index parameter hindex hparameter
      obtain ⟨offset, rfl⟩ := Nat.exists_eq_add_of_le hindex
      rw [← List.getElem?_drop] at hparameter
      exact hfurther parameter (List.mem_of_getElem? hparameter)

instance (relaxed contract : SymbolContract) : Decidable (relaxed.Relaxes contract) :=
  decidable_of_iff' _ SymbolContract.relaxes_iff

theorem Schema.forall_symbols_iff {relaxed schema : Schema} :
    (∀ (name : String) (contract : SymbolContract), schema.symbols.find? name = some contract →
      ∃ contract' : SymbolContract, relaxed.symbols.find? name = some contract' ∧
        contract'.Relaxes contract) ↔
      ∀ entry ∈ schema.symbols.entries, ∃ contract' ∈ relaxed.symbols.find? entry.1,
        contract'.Relaxes entry.2 := by
  constructor
  · rintro h ⟨name, contract⟩ hentry
    exact h name contract (NameMap.valueOf?_of_mem schema.symbols.ascending hentry)
  · intro h name contract hfind
    exact h (name, contract) (NameMap.mem_of_valueOf? hfind)

instance (relaxed schema : Schema) : Decidable (relaxed.Relaxes schema) :=
  decidable_of_iff' _ ((Schema.relaxes_iff relaxed schema).trans
    (and_congr_right' (and_congr_right' (and_congr_right' Schema.forall_symbols_iff))))

/-! ## Section 2: The parameter of an argument -/

namespace Parameter

variable {parameters : List Parameter}

/-- A parameter that takes every argument left still does when it is relaxed. -/
theorem Relaxes.isVariadic {relaxed parameter : Parameter} (h : relaxed.Relaxes parameter)
    (hvariadic : parameter.cardinality.isVariadic = true) :
    relaxed.cardinality.isVariadic = true := by
  rw [Cardinality.isVariadic, Option.isNone_iff_eq_none] at hvariadic ⊢
  apply Option.eq_none_iff_forall_ne_some.2
  intro most hmost
  obtain ⟨most', hmost', _⟩ := h.le_maxCount most hmost
  rw [hvariadic] at hmost'
  cases hmost'

theorem takesRest_iff : takesRest parameters = true ↔
    ∃ parameter, parameters[parameters.length - 1]? = some parameter ∧
      parameter.cardinality.isVariadic = true := by
  rw [takesRest, List.getLast?_eq_getElem?, Option.any_eq_true]

theorem VariadicLast.index_eq (h : VariadicLast parameters) {index : Nat} {parameter : Parameter}
    (hparameter : parameters[index]? = some parameter)
    (hvariadic : parameter.cardinality.isVariadic = true) : index = parameters.length - 1 := by
  obtain ⟨hlt, _⟩ := List.getElem?_eq_some_iff.1 hparameter
  rcases Nat.lt_or_ge index (parameters.length - 1) with hinner | hend
  · have hdropped : parameters.dropLast[index]? = some parameter := by
      rw [List.getElem?_dropLast, if_pos hinner, hparameter]
    rw [h parameter (List.mem_of_getElem? hdropped)] at hvariadic
    cases hvariadic
  · omega

theorem at?_of_lt {index : Nat} (h : index < parameters.length) :
    at? parameters index = parameters[index]? := by
  rw [at?, if_pos (.inl h), Nat.min_eq_left (by omega)]

theorem at?_of_takesRest {index : Nat} (htakes : takesRest parameters = true)
    (h : parameters.length ≤ index) : at? parameters index = parameters[parameters.length - 1]? := by
  rw [at?, if_pos (.inr htakes), Nat.min_eq_right (by omega)]

end Parameter

namespace SymbolContract

variable {relaxed contract : SymbolContract}

theorem Relaxes.length_le (h : relaxed.Relaxes contract) :
    contract.parameters.length ≤ relaxed.parameters.length :=
  (relaxes_iff.1 h).1

/-- Behind a parameter that takes every argument left, no further ones may follow when it is
relaxed. -/
theorem Relaxes.takesRest (h : relaxed.Relaxes contract)
    (hlast : Parameter.VariadicLast relaxed.parameters)
    (htakes : Parameter.takesRest contract.parameters = true) :
    Parameter.takesRest relaxed.parameters = true ∧
      relaxed.parameters.length - 1 = contract.parameters.length - 1 := by
  obtain ⟨parameter, hparameter, hvariadic⟩ := Parameter.takesRest_iff.1 htakes
  obtain ⟨parameter', hparameter', hrelaxes⟩ := h.parameters _ _ hparameter
  have hindex := hlast.index_eq hparameter' (hrelaxes.isVariadic hvariadic)
  rw [hindex] at hparameter'
  exact ⟨Parameter.takesRest_iff.2 ⟨parameter', hparameter', hrelaxes.isVariadic hvariadic⟩,
    hindex.symm⟩

/-- An argument belongs to the same parameter as before, relaxed. -/
theorem Relaxes.at? (h : relaxed.Relaxes contract)
    (hlast : Parameter.VariadicLast relaxed.parameters) {index : Nat}
    (hindex : index < contract.parameters.length ∨
      Parameter.takesRest contract.parameters = true) :
    ∃ parameter parameter', Parameter.at? contract.parameters index = some parameter ∧
      Parameter.at? relaxed.parameters index = some parameter' ∧ parameter'.Relaxes parameter := by
  have hlength := h.length_le
  rcases Nat.lt_or_ge index contract.parameters.length with hlt | hge
  · have hparameter := List.getElem?_eq_getElem hlt
    obtain ⟨parameter', hparameter', hrelaxes⟩ := h.parameters _ _ hparameter
    rw [Parameter.at?_of_lt hlt, Parameter.at?_of_lt (Nat.lt_of_lt_of_le hlt hlength)]
    exact ⟨_, parameter', hparameter, hparameter', hrelaxes⟩
  · have htakes := hindex.resolve_left (Nat.not_lt.2 hge)
    obtain ⟨htakes', heq⟩ := h.takesRest hlast htakes
    obtain ⟨parameter, hparameter, _⟩ := Parameter.takesRest_iff.1 htakes
    obtain ⟨parameter', hparameter', hrelaxes⟩ := h.parameters _ _ hparameter
    -- Both contracts end with the parameter that takes every argument left.
    have hpos := (List.getElem?_eq_some_iff.1 hparameter).1
    have hge' : relaxed.parameters.length ≤ index := by omega
    rw [Parameter.at?_of_takesRest htakes hge, Parameter.at?_of_takesRest htakes' hge', heq]
    exact ⟨parameter, parameter', hparameter, hparameter', hrelaxes⟩

end SymbolContract

/-! ## Section 3: Admitted arguments -/

namespace Grammar

variable {grammar relaxed : Grammar} {symbol : String} {contract contract' : SymbolContract}
  {args : List Node}

/-- What a parameter does not fault, it does not fault when it is relaxed. -/
theorem argumentFault?_relaxed (hrules : relaxed.SameRules grammar)
    {parameter parameter' : Parameter} (hrelaxes : parameter'.Relaxes parameter) {arg : Node}
    (h : grammar.argumentFault? symbol parameter arg = none) :
    relaxed.argumentFault? symbol parameter' arg = none := by
  rw [argumentFault?] at h ⊢
  rw [hrelaxes.type_eq]
  cases htype : parameter.type with
  | identifier =>
      simp only [htype, identifierFault?, hrules.identifier] at h ⊢
      grind
  | node =>
      have hallows := hrelaxes.allows htype
      simp only [htype, nodeFault?] at h ⊢
      grind
  | literal type =>
      simp only [htype, literalFault?, hrules.literal] at h ⊢
      grind

/-- What a contract admits, a relaxed contract admits. -/
theorem Admits.relax (h : grammar.Admits symbol args) (hrules : relaxed.SameRules grammar)
    (hsymbol : grammar.symbol? symbol = some contract)
    (hlast : Parameter.VariadicLast contract.parameters)
    (hsymbol' : relaxed.symbol? symbol = some contract')
    (hlast' : Parameter.VariadicLast contract'.parameters)
    (hrelaxes : contract'.Relaxes contract) : relaxed.Admits symbol args := by
  obtain ⟨hfits, hsupplied, henough⟩ := h.fits hsymbol hlast
  have hlength := hrelaxes.length_le
  refine Fits.admits ?_ hsymbol' hlast' ?_ ?_
  · intro index arg harg
    have hindex : index < contract.parameters.length ∨
        Parameter.takesRest contract.parameters = true := by
      have hlt := (List.getElem?_eq_some_iff.1 harg).1
      rcases Bool.eq_false_or_eq_true (Parameter.takesRest contract.parameters) with htakes | hnot
      · exact .inr htakes
      · exact .inl (Nat.lt_of_not_le fun hle => henough ⟨by omega, hnot⟩)
    obtain ⟨parameter, parameter', hat, hat', hparameter⟩ := hrelaxes.at? hlast' hindex
    have hfault := hfits index arg harg
    rw [faultAt?, hat, Option.bind_some] at hfault
    rw [faultAt?, hat', Option.bind_some]
    exact argumentFault?_relaxed hrules hparameter hfault
  · -- A parameter asks for nothing that the parameter before its relaxation did not ask for.
    intro index parameter' hindex hparameter' hmin
    rcases Nat.lt_or_ge index contract.parameters.length with hlt | hge
    · have hparameter := List.getElem?_eq_getElem hlt
      obtain ⟨other, hother, hless⟩ := hrelaxes.parameters _ _ hparameter
      obtain rfl := Option.some.inj (hother.symm.trans hparameter')
      have hone := contract.parameters[index].cardinality.minCount_le_one
      have hle := hless.minCount_le
      exact hsupplied index _ hindex hparameter (by omega)
    · have hzero := hrelaxes.further index parameter' hge hparameter'
      omega
  · rintro ⟨hmany, hnot⟩
    refine henough ⟨by omega, ?_⟩
    rw [Bool.eq_false_iff] at hnot ⊢
    intro htakes
    exact hnot (hrelaxes.takesRest hlast' htakes).1

/-! ## Section 4: Accepted programs -/

/-- A program is accepted where more is admitted and the demanded roots are the same or fewer. -/
theorem validate_of_admits {program : List Expression} {nodes : List Node}
    (hadmits : ∀ symbol args, grammar.Admits symbol args → relaxed.Admits symbol args)
    (hroots : grammar.checkConstraints nodes = .ok () → relaxed.checkConstraints nodes = .ok ())
    (h : grammar.validate program = .ok nodes) : relaxed.validate program = .ok nodes := by
  obtain ⟨hchecks, hconstraints, hnodes⟩ := validate_eq_ok_iff.1 h
  refine validate_eq_ok_iff.2 ⟨?_, hroots hconstraints, hnodes⟩
  intro check hcheck
  have hpassed := hchecks check hcheck
  cases check with
  | invocation symbol args site =>
      exact hadmits symbol args (admits_of_checkInvocation hpassed) site
  | topLevel node position =>
      refine checkTopLevel_eq_ok_iff.2 ?_
      intro symbol hnode
      exact hadmits symbol [] (checkTopLevel_eq_ok_iff.1 hpassed symbol hnode)

end Grammar

/-- A program that a grammar accepts is accepted, as the same nodes, by every grammar that asks for
less. -/
theorem parse_relaxed {schema schema' : Schema} (hrelaxes : schema'.Relaxes schema)
    {grammar relaxed : Grammar} (hcompile : schema.compile = .ok grammar)
    (hcompile' : schema'.compile = .ok relaxed) {maxDepth : Nat} {source : String}
    {nodes : List Node} (h : parse (some grammar) maxDepth source = .ok nodes) :
    parse (some relaxed) maxDepth source = .ok nodes := by
  have hschema := Schema.schema_of_compile hcompile
  have hschema' := Schema.schema_of_compile hcompile'
  have hrules := Grammar.sameRules_of_compile hrelaxes.identifierPattern_eq
    hrelaxes.literals_eq hcompile hcompile'
  have hadmits : ∀ symbol args, grammar.Admits symbol args → relaxed.Admits symbol args := by
    intro symbol args hadmits
    obtain ⟨contract, hsymbol⟩ := hadmits.exists_contract
    have hfind := hsymbol
    rw [Grammar.symbol?, hschema] at hfind
    obtain ⟨contract', hfind', hcontract⟩ := hrelaxes.symbols symbol contract hfind
    have hsymbol' : relaxed.symbol? symbol = some contract' := by
      rw [Grammar.symbol?, hschema', hfind']
    exact hadmits.relax hrules hsymbol (Grammar.variadicLast_of_compile hcompile hsymbol) hsymbol'
      (Grammar.variadicLast_of_compile hcompile' hsymbol') hcontract
  have hroots : grammar.checkConstraints nodes = .ok () →
      relaxed.checkConstraints nodes = .ok () := by
    intro hconstraints
    rw [Grammar.checkConstraints, hschema] at hconstraints
    rw [Grammar.checkConstraints, hschema']
    refine Grammar.checkRoots_of_root ?_
    intro constraint hconstraint
    obtain ⟨constraint', hmem, heq⟩ := hrelaxes.roots constraint hconstraint
    exact heq ▸ Grammar.root_of_checkRoots hconstraints constraint' hmem
  rw [parse_eq_validateWith] at h ⊢
  cases hread : readSource maxDepth source with
  | error error =>
      rw [hread] at h
      cases h
  | ok program =>
      rw [hread] at h
      exact Grammar.validate_of_admits hadmits hroots h

/-- Queries without a demanded root, which may start with a count, and with a limit for counts. -/
def looseQuerySchema : Schema :=
  { querySchema with constraints := [] }
    |>.withSymbol "Q" ⟨"Query", "Operation",
      [⟨"source", "", .node, ["C", "F"], .optional⟩, ⟨"steps", "", .node, [], .zeroOrMore⟩]⟩
    |>.withSymbol "F" ⟨"From", "Operation",
      [⟨"table", "", .identifier, [], .required⟩, ⟨"aliases", "", .identifier, [], .zeroOrMore⟩]⟩
    |>.withSymbol "C" ⟨"Count", "Operation", [⟨"limit", "", .literal .number, [], .optional⟩]⟩

/-- The alias of a table goes to a parameter that was for one argument and now is for any number. -/
theorem parse_relaxed_query : ∃ grammar relaxed,
    querySchema.compile = .ok grammar ∧ looseQuerySchema.compile = .ok relaxed ∧
    looseQuerySchema.Relaxes querySchema ∧
    parse (some grammar) 8 "(Q (F sales, s) (S a, b) C)" =
      .ok [.symbolic "Q" [.symbolic "F" [.ident "sales", .ident "s"],
        .symbolic "S" [.ident "a", .ident "b"], .ident "C"]] ∧
    parse (some relaxed) 8 "(Q (F sales, s) (S a, b) C)" =
      .ok [.symbolic "Q" [.symbolic "F" [.ident "sales", .ident "s"],
        .symbolic "S" [.ident "a", .ident "b"], .ident "C"]] := by
  have h : querySchema.compile.toOption.any (fun grammar =>
      parse (some grammar) 8 "(Q (F sales, s) (S a, b) C)" =
        .ok [.symbolic "Q" [.symbolic "F" [.ident "sales", .ident "s"],
          .symbolic "S" [.ident "a", .ident "b"], .ident "C"]]) = true := by
    decide +kernel
  have h' : looseQuerySchema.compile.toOption.any (fun _ => true) = true := by decide +kernel
  have hrelaxes : looseQuerySchema.Relaxes querySchema := by decide +kernel
  obtain ⟨grammar, hcompile, hresult⟩ := Schema.exists_compile_of_any h
  obtain ⟨relaxed, hcompile', _⟩ := Schema.exists_compile_of_any h'
  have hparse := of_decide_eq_true hresult
  exact ⟨grammar, relaxed, hcompile, hcompile', hrelaxes, hparse,
    parse_relaxed hrelaxes hcompile hcompile' hparse⟩

end SexpContract
