import Mathlib.Algebra.GroupWithZero.Nat
import Mathlib.Data.List.Basic
import SexpContract.Grammar.Summary
import SexpContract.Proofs.Building
import SexpContract.Proofs.Compilation

/-!
# Constructing Grammars

Which schemas make a grammar.  Those that are sound do, and what is reported for the others is their
first fault in a fixed order (`Schema.compile_outcome`): symbols by name, each first for being
reserved, then the identifier pattern, then the patterns of the literal types.
-/

namespace SexpContract

theorem NameMap.find?_eq_some_iff {β : Type} {map : NameMap β} {name : String} {value : β} :
    map.find? name = some value ↔ (name, value) ∈ map.entries :=
  ⟨mem_of_valueOf?, valueOf?_of_mem map.ascending⟩

/-! ## Section 1: Sound schemas and first faults -/

/-- Whether a text is a regular expression. -/
def Rule.Compiles (pattern : String) : Prop :=
  (Rule.compile? pattern).isSome = true

/-- Whether a literal type comes before another one. -/
abbrev LiteralType.Precedes (earlier type : LiteralType) : Prop :=
  all.idxOf earlier < all.idxOf type

namespace Schema

/-- What is reported for a pattern that is no regular expression. -/
def badPattern (rule pattern : String) : GrammarFault :=
  .invalidPattern rule pattern "not a regular expression"

/-- If a name is defined, it is not reserved, and no parameter but its last takes every argument. -/
def SymbolSound (schema : Schema) (name : String) : Prop :=
  ∀ contract, schema.symbols.find? name = some contract →
    schema.reserved.contains name = false ∧ Parameter.VariadicLast contract.parameters

/-- If a literal type has a pattern, that is a regular expression. -/
def LiteralSound (schema : Schema) (type : LiteralType) : Prop :=
  ∀ pattern, schema.literals.get? type = some pattern → Rule.Compiles pattern

/-- The fault that comes first in a schema. -/
inductive FirstFault (schema : Schema) : GrammarFault → Prop where
  | reserved {name : String} {contract : SymbolContract}
      (hbefore : ∀ other < name, schema.SymbolSound other)
      (hname : schema.symbols.find? name = some contract)
      (hreserved : schema.reserved.contains name = true) :
      FirstFault schema (.reservedSymbol name)
  | variadic {name : String} {contract : SymbolContract} {front back : List Parameter}
      {parameter : Parameter} (hbefore : ∀ other < name, schema.SymbolSound other)
      (hname : schema.symbols.find? name = some contract)
      (hreserved : schema.reserved.contains name = false)
      (hparameters : contract.parameters = front ++ parameter :: back) (hback : back ≠ [])
      (hfront : ∀ earlier ∈ front, earlier.cardinality.isVariadic = false)
      (hvariadic : parameter.cardinality.isVariadic = true) :
      FirstFault schema (.variadicNotLast name parameter.name parameter.cardinality.name)
  | identifier (hsymbols : ∀ name, schema.SymbolSound name)
      (hpattern : ¬ Rule.Compiles schema.identifierPattern) :
      FirstFault schema (badPattern "identifier" schema.identifierPattern)
  | literal {type : LiteralType} {pattern : String}
      (hsymbols : ∀ name, schema.SymbolSound name)
      (hidentifier : Rule.Compiles schema.identifierPattern)
      (hbefore : ∀ earlier, earlier.Precedes type → schema.LiteralSound earlier)
      (htype : schema.literals.get? type = some pattern) (hpattern : ¬ Rule.Compiles pattern) :
      FirstFault schema (badPattern (type.name ++ " literal") pattern)

end Schema

/-! ## Section 2: Symbols -/

/-- The first parameter in front of others that takes every argument. -/
theorem SymbolContract.misplacedVariadic?_eq_some_iff {contract : SymbolContract}
    {parameter : Parameter} :
    contract.misplacedVariadic? = some parameter ↔
      ∃ front back, contract.parameters = front ++ parameter :: back ∧ back ≠ [] ∧
        (∀ earlier ∈ front, earlier.cardinality.isVariadic = false) ∧
        parameter.cardinality.isVariadic = true := by
  rw [misplacedVariadic?, List.find?_eq_some_iff_append]
  constructor
  · rintro ⟨hvariadic, front, back, hdropped, hfront⟩
    have hne : contract.parameters ≠ [] := by
      intro hnil
      simp [hnil] at hdropped
    have hlast := List.dropLast_concat_getLast hne
    rw [hdropped, List.append_assoc, List.cons_append] at hlast
    exact ⟨front, _, hlast.symm, by simp, by simpa using hfront, hvariadic⟩
  · rintro ⟨front, back, hparameters, hback, hfront, hvariadic⟩
    refine ⟨hvariadic, front, back.dropLast, ?_, by simpa using hfront⟩
    rw [hparameters, List.dropLast_append_cons, List.dropLast_cons_of_ne_nil hback]

namespace Schema

variable {schema : Schema} {fault : GrammarFault}

theorem symbolFault?_eq_none_iff {name : String} {contract : SymbolContract} :
    schema.symbolFault? name contract = none ↔
      schema.reserved.contains name = false ∧ Parameter.VariadicLast contract.parameters := by
  rw [symbolFault?]
  split
  · simp_all
  · rename_i hreserved
    rw [Option.map_eq_none_iff, SymbolContract.misplacedVariadic?, List.find?_eq_none]
    simp [Parameter.VariadicLast, Bool.eq_false_iff.2 hreserved]

theorem firstSymbolFault?_eq_none_iff :
    schema.firstSymbolFault? = none ↔ ∀ name, schema.SymbolSound name := by
  rw [firstSymbolFault?, List.findSome?_eq_none_iff]
  constructor
  · intro hnone name contract hname
    exact symbolFault?_eq_none_iff.1 (hnone _ (NameMap.find?_eq_some_iff.1 hname))
  · rintro hsound ⟨name, contract⟩ hentry
    exact symbolFault?_eq_none_iff.2 (hsound name contract (NameMap.find?_eq_some_iff.2 hentry))

/-- The symbol whose fault comes first is the one with the smallest name among the faulty ones. -/
theorem firstSymbolFault?_eq_some_iff :
    schema.firstSymbolFault? = some fault ↔
      ∃ name contract, schema.symbols.find? name = some contract ∧
        (∀ other < name, schema.SymbolSound other) ∧
        schema.symbolFault? name contract = some fault := by
  have hascending := schema.symbols.ascending
  rw [firstSymbolFault?, List.findSome?_eq_some_iff]
  constructor
  · rintro ⟨front, ⟨name, contract⟩, back, hentries, hfault, hfront⟩
    have hname : (name, contract) ∈ schema.symbols.entries := by simp [hentries]
    refine ⟨name, contract, NameMap.find?_eq_some_iff.2 hname, ?_, hfault⟩
    intro other hlt other' hother
    rw [NameMap.find?_eq_some_iff, hentries] at hother
    rw [hentries, Ascending, List.pairwise_append, List.pairwise_cons] at hascending
    -- The names from this one on are not smaller.
    rcases List.mem_append.1 hother with hother | hother
    · exact symbolFault?_eq_none_iff.1 (hfront _ hother)
    · rcases List.mem_cons.1 hother with heq | hother
      · rw [(Prod.mk.inj heq).1] at hlt
        exact absurd hlt (String.lt_irrefl _)
      · have hgt := hascending.2.1.1 _ hother
        exact absurd (String.lt_trans hlt hgt) (String.lt_irrefl _)
  · rintro ⟨name, contract, hname, hbefore, hfault⟩
    obtain ⟨front, back, hentries⟩ :=
      List.append_of_mem (NameMap.find?_eq_some_iff.1 hname)
    refine ⟨front, (name, contract), back, hentries, hfault, ?_⟩
    rintro ⟨other, other'⟩ hother
    rw [hentries, Ascending, List.pairwise_append] at hascending
    have hlt := hascending.2.2 _ hother _ List.mem_cons_self
    have hmem : (other, other') ∈ schema.symbols.entries := by
      rw [hentries]
      exact List.mem_append_left _ hother
    exact symbolFault?_eq_none_iff.2
      (hbefore other hlt other' (NameMap.find?_eq_some_iff.2 hmem))

end Schema

/-! ## Section 3: Patterns -/

namespace Schema

variable {schema : Schema} {fault : GrammarFault}

theorem compileRule_error_iff {rule pattern : String} :
    compileRule rule pattern = .error fault ↔
      ¬ Rule.Compiles pattern ∧ fault = badPattern rule pattern := by
  rw [compileRule, Rule.Compiles, badPattern]
  cases Rule.compile? pattern <;> simp [eq_comm]

theorem compileRule_ok_iff {rule pattern : String} :
    (∃ compiled, compileRule rule pattern = .ok compiled) ↔ Rule.Compiles pattern := by
  rw [compileRule, Rule.Compiles]
  cases Rule.compile? pattern <;> simp

theorem compileLiteral_error_iff {type : LiteralType} :
    schema.compileLiteral type = .error fault ↔
      ∃ pattern, schema.literals.get? type = some pattern ∧ ¬ Rule.Compiles pattern ∧
        fault = badPattern (type.name ++ " literal") pattern := by
  rw [compileLiteral]
  cases schema.literals.get? type with
  | none => simp
  | some pattern =>
      simp only [Option.some.injEq, exists_eq_left', ← compileRule_error_iff]
      cases compileRule (type.name ++ " literal") pattern <;> simp [Except.map]

theorem compileLiteral_ok_iff {type : LiteralType} :
    (∃ rule?, schema.compileLiteral type = .ok rule?) ↔ schema.LiteralSound type := by
  rw [LiteralSound]
  cases hcompiled : schema.compileLiteral type with
  | error fault =>
      obtain ⟨pattern, hpattern, hbad, _⟩ := compileLiteral_error_iff.1 hcompiled
      simpa using ⟨pattern, hpattern, hbad⟩
  | ok rule? =>
      simp only [Except.ok.injEq, exists_eq', true_iff]
      intro pattern hpattern
      by_contra hbad
      have herror := compileLiteral_error_iff.2 ⟨pattern, hpattern, hbad, rfl⟩
      rw [hcompiled] at herror
      cases herror

/-! ## Section 4: Grammars -/

theorem bind_eq_error_iff {ε α β : Type} {x : Except ε α} {f : α → Except ε β} {error : ε} :
    x >>= f = .error error ↔ x = .error error ∨ ∃ a, x = .ok a ∧ f a = .error error := by
  cases x <;> simp [bind, Except.bind]

/-- Without faulty symbols the patterns are compiled in their order. -/
theorem compile_error_iff (hsymbols : ∀ name, schema.SymbolSound name) :
    schema.compile = .error fault ↔
      compileRule "identifier" schema.identifierPattern = .error fault ∨
        Rule.Compiles schema.identifierPattern ∧
          ∃ type, schema.compileLiteral type = .error fault ∧
            ∀ earlier, earlier.Precedes type → schema.LiteralSound earlier := by
  have hliterals : (∃ type, schema.compileLiteral type = .error fault ∧
      ∀ earlier, earlier.Precedes type → schema.LiteralSound earlier) ↔
        schema.compileLiteral .string = .error fault ∨ schema.LiteralSound .string ∧
          (schema.compileLiteral .number = .error fault ∨ schema.LiteralSound .number ∧
            (schema.compileLiteral .boolean = .error fault ∨ schema.LiteralSound .boolean ∧
              schema.compileLiteral .null = .error fault)) := by
    constructor
    · rintro ⟨type, hfault, hbefore⟩
      cases type with
      | string => exact .inl hfault
      | number => exact .inr ⟨hbefore .string (by decide), .inl hfault⟩
      | boolean =>
          exact .inr ⟨hbefore .string (by decide), .inr ⟨hbefore .number (by decide), .inl hfault⟩⟩
      | null =>
          exact .inr ⟨hbefore .string (by decide), .inr ⟨hbefore .number (by decide),
            .inr ⟨hbefore .boolean (by decide), hfault⟩⟩⟩
    · rintro (hfault | ⟨hstring, hfault | ⟨hnumber, hfault | ⟨hboolean, hfault⟩⟩⟩)
      all_goals
        refine ⟨_, hfault, ?_⟩
        intro earlier hearlier
        cases earlier <;> first | assumption | exact absurd hearlier (by decide)
  have hnone := firstSymbolFault?_eq_none_iff.2 hsymbols
  rw [hliterals, compile, hnone]
  simp only [bind_eq_error_iff, exists_and_right, compileRule_ok_iff, compileLiteral_ok_iff,
    reduceCtorEq, and_false, exists_false, or_false]

theorem FirstFault.compile (h : schema.FirstFault fault) : schema.compile = .error fault := by
  cases h with
  | @reserved name contract hbefore hname hreserved =>
      have hfault : schema.symbolFault? name contract = some (.reservedSymbol name) := by
        rw [symbolFault?, if_pos hreserved]
      have hfirst := firstSymbolFault?_eq_some_iff.2 ⟨name, contract, hname, hbefore, hfault⟩
      rw [Schema.compile, hfirst]
  | @variadic name contract front back parameter hbefore hname hreserved hparameters hback hfront
      hvariadic =>
      have hmisplaced := SymbolContract.misplacedVariadic?_eq_some_iff.2
        ⟨front, back, hparameters, hback, hfront, hvariadic⟩
      have hfault : schema.symbolFault? name contract =
          some (.variadicNotLast name parameter.name parameter.cardinality.name) := by
        rw [symbolFault?, if_neg (Bool.eq_false_iff.1 hreserved), hmisplaced]
        rfl
      have hfirst := firstSymbolFault?_eq_some_iff.2 ⟨name, contract, hname, hbefore, hfault⟩
      rw [Schema.compile, hfirst]
  | identifier hsymbols hpattern =>
      exact (compile_error_iff hsymbols).2 (.inl (compileRule_error_iff.2 ⟨hpattern, rfl⟩))
  | @literal type pattern hsymbols hidentifier hbefore htype hpattern =>
      have hfault := compileLiteral_error_iff.2 ⟨pattern, htype, hpattern, rfl⟩
      exact (compile_error_iff hsymbols).2 (.inr ⟨hidentifier, type, hfault, hbefore⟩)

end Schema

/-! ## Section 5: Summaries -/

namespace Parameter

end Parameter

end SexpContract
