import SexpContract.Proofs.Invoked
import SexpContract.Proofs.Occurrences

/-!
# Unknown Symbols

Where an unknown symbol is reported.  Only the check of an invocation looks a symbol up, so what
validation reports as unknown is invoked at the reported offset and is not defined
(`Grammar.misses_of_validate`), and what it suggests instead is defined
(`Grammar.hasSymbol_of_suggest?`).
-/

namespace SexpContract

/-! ## Section 1: Suggestions -/

section Scores

variable {α : Type} [LE α] [DecidableLE α] {threshold : α}

theorem fst_mem_of_foldl_betterName {best : Option (String × α)} {scored : List (String × α)}
    {name : String × α}
    (h : scored.foldl (betterName threshold) best = some name) :
    best = some name ∨ name ∈ scored := by
  induction scored generalizing best with
  | nil => exact Or.inl h
  | cons next rest ih =>
      rw [List.foldl_cons] at h
      -- The better of two names is one of them.
      have hbetter : betterName threshold best next = best ∨
          betterName threshold best next = some next := by
        unfold betterName
        grind
      rcases ih h with hbest | hmem
      · rcases hbetter with heq | heq
        · exact Or.inl (heq ▸ hbest)
        · obtain rfl := Option.some.inj (heq.symm.trans hbest)
          exact Or.inr List.mem_cons_self
      · exact Or.inr (List.mem_cons_of_mem _ hmem)

/-- The closest name is one of the names. -/
theorem mem_of_closest? {score : String → α} {names : List String} {name : String}
    (h : closest? score threshold names = some name) : name ∈ names := by
  obtain ⟨scored, hscored, rfl⟩ := Option.map_eq_some_iff.1 h
  rcases fst_mem_of_foldl_betterName hscored with hnone | hmem
  · cases hnone
  · obtain ⟨name, hname, rfl⟩ := List.mem_map.1 hmem
    exact hname

end Scores

namespace Grammar

variable {grammar : Grammar} {symbol unknown : String} {suggestion : Option String}
  {args : List Node} {position : Nat}

theorem hasSymbol_of_mem_names {name : String} (h : name ∈ grammar.schema.symbols.names) :
    grammar.hasSymbol name = true := by
  obtain ⟨entry, hentry, rfl⟩ := List.mem_map.1 h
  have hvalue := NameMap.valueOf?_of_mem grammar.schema.symbols.ascending hentry
  rw [hasSymbol, NameMap.contains, NameMap.find?, hvalue]
  rfl

/-- A suggested symbol is defined. -/
theorem hasSymbol_of_suggest? {name : String} (h : grammar.suggest? symbol = some name) :
    grammar.hasSymbol name = true :=
  hasSymbol_of_mem_names (mem_of_closest? h)

/-! ## Section 2: One check -/

theorem checkArguments_ne_unknown {parameter : Parameter} {site : Site} {index : Nat} :
    grammar.checkArguments symbol parameter site index args ≠
      .error (.contract (.unknownSymbol unknown suggestion) position) := by
  induction args generalizing index with
  | nil => simp [checkArguments]
  | cons arg rest ih =>
      rw [checkArguments]
      split
      · rename_i hfault
        rintro ⟨⟩
        exact isOfArgument_of_argumentFault? hfault
      · exact ih

theorem checkParameters_ne_unknown {site : Site} {index : Nat} {parameters : List Parameter} :
    grammar.checkParameters symbol args site index parameters ≠
      .error (.contract (.unknownSymbol unknown suggestion) position) := by
  induction parameters generalizing index with
  | nil => simp [checkParameters]
  | cons parameter rest ih =>
      simp only [checkParameters]
      split
      · -- A missing argument has a fault of its own.
        unfold missingFault
        split <;> simp
      split
      · rename_i harguments
        rintro ⟨⟩
        exact checkArguments_ne_unknown harguments
      · exact ih

/-- An invocation is unknown only for want of a contract for its symbol. -/
theorem unknown_of_checkInvocation {site : Site}
    (h : grammar.checkInvocation symbol args site =
      .error (.contract (.unknownSymbol unknown suggestion) position)) :
    unknown = symbol ∧ position = site.symbolAt ∧ grammar.hasSymbol symbol = false ∧
      suggestion = grammar.suggest? symbol := by
  unfold checkInvocation at h
  split at h
  · rename_i hnone
    cases h
    refine ⟨rfl, rfl, ?_, rfl⟩
    rw [hasSymbol, NameMap.contains]
    exact Option.isSome_eq_false_iff.2 (Option.isNone_iff_eq_none.2 hnone)
  split at h
  · rename_i hparameters
    cases h
    exact absurd hparameters checkParameters_ne_unknown
  split at h <;> cases h

end Grammar

/-! ## Section 3: All checks -/

namespace Expression

theorem mem_calls_of_mem_parts {expression : Expression} {openAt symbolAt : Nat} {symbol : String}
    {args : List Expression} (h : .call openAt symbolAt symbol args ∈ expression.parts) :
    ⟨symbol, symbolAt⟩ ∈ expression.calls := by
  induction expression using inductionOn with
  | hliteral => cases List.mem_singleton.1 h
  | hname => cases List.mem_singleton.1 h
  | hcall openAt' symbolAt' symbol' inner ih =>
      rw [parts, partsAll_eq_flatMap, List.mem_cons, List.mem_flatMap] at h
      rw [calls, callsAll_eq_flatMap]
      rcases h with heq | ⟨arg, harg, hpart⟩
      · cases heq
        exact List.mem_cons_self
      · exact List.mem_cons_of_mem _ (List.mem_flatMap.2 ⟨arg, harg, ih arg harg hpart⟩)

/-- The symbols of invoked expressions are the invocations of a program. -/
theorem Invoked.mem_invocationsAll {program : List Expression} {invocation : Expression}
    {symbol : String} (h : Invoked program invocation) (hsymbol : invocation.symbol? = some symbol) :
    ⟨symbol, invocation.site.symbolAt⟩ ∈ invocationsAll program := by
  cases h with
  | call hpart =>
      cases hsymbol
      rw [partsAll_eq_flatMap, List.mem_flatMap] at hpart
      obtain ⟨expression, hexpression, hpart⟩ := hpart
      exact List.mem_flatMap.2 ⟨expression, hexpression,
        expression.calls_subset_invocations (mem_calls_of_mem_parts hpart)⟩
  | name hexpression =>
      cases hsymbol
      exact List.mem_flatMap.2 ⟨_, hexpression, List.mem_singleton_self _⟩

end Expression

namespace Grammar

variable {grammar : Grammar} {symbol : String} {suggestion : Option String} {position : Nat}

/-- A symbol that is invoked at an offset is not defined, and the defined symbol closest to it is
what is suggested. -/
structure Misses (grammar : Grammar) (invocations : List Occurrence) (symbol : String)
    (suggestion : Option String) (position : Nat) : Prop where
  mem_invocations : ⟨symbol, position⟩ ∈ invocations
  hasSymbol_eq_false : grammar.hasSymbol symbol = false
  suggestion_eq : suggestion = grammar.suggest? symbol

/-- What validation reports as unknown is invoked there, and is not defined. -/
theorem misses_of_validate {program : List Expression}
    (h : grammar.validate program =
      .error (.contract (.unknownSymbol symbol suggestion) position)) :
    grammar.Misses (Expression.invocationsAll program) symbol suggestion position := by
  obtain ⟨invocation, hinvoked, symbol', hsymbol, hcheck⟩ := breaks_of_validate h
  obtain ⟨rfl, rfl, hmissing, hsuggestion⟩ := unknown_of_checkInvocation hcheck
  exact ⟨hinvoked.mem_invocationsAll hsymbol, hmissing, hsuggestion⟩

end Grammar

end SexpContract
