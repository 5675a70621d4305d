import Mathlib.Data.List.Basic
import SexpContract.Proofs.Agreement

/-!
# Data that is Carried Along

A schema holds more than a parse consults: a format version, what it says about itself, descriptions
and kinds of symbols, reserved names, an embedding, the scope and the data of its constraints, and
allowed symbols where no node is expected.  `Schema.demands` is all the rest, and it alone decides
what a parse gives (`parse_eq_of_demands`).
-/

namespace SexpContract

/-- What a schema demands of the programs in its language. -/
structure Demands where
  identifierPattern : String
  literals : LiteralRules String
  contracts : List (String × List Parameter)
  roots : List String
  deriving DecidableEq, Repr

/-- The demands of a schema, without what it only carries along. -/
def Schema.demands (schema : Schema) : Demands where
  identifierPattern := schema.identifierPattern
  literals := schema.literals
  contracts := schema.contracts
  roots := schema.constraints.map RootConstraint.root

theorem Grammar.sameDemands_of_compile {schema schema' : Schema} {grammar grammar' : Grammar}
    (h : schema.demands = schema'.demands) (hcompile : schema.compile = .ok grammar)
    (hcompile' : schema'.compile = .ok grammar') : grammar.SameDemands grammar' := by
  obtain ⟨hpattern, hliterals, hcontracts, hroots⟩ := Demands.mk.inj h
  obtain rfl := Schema.schema_of_compile hcompile
  obtain rfl := Schema.schema_of_compile hcompile'
  exact ⟨sameRules_of_compile hpattern hliterals hcompile' hcompile, hcontracts, hroots⟩

/-- Schemas with the same demands give the same parse of every source: the same nodes, or the same
error at the same place with the same suggestion and message.  What they carry along besides has no
influence. -/
theorem parse_eq_of_demands {schema schema' : Schema} {grammar grammar' : Grammar}
    (h : schema.demands = schema'.demands) (hcompile : schema.compile = .ok grammar)
    (hcompile' : schema'.compile = .ok grammar') (maxDepth : Nat) (source : String) :
    parse (some grammar) maxDepth source = parse (some grammar') maxDepth source :=
  (Grammar.sameDemands_of_compile h hcompile hcompile').parse_eq maxDepth source

/-- The schema of queries, with other data to carry along everywhere. -/
def annotatedQuerySchema : Schema where
  formatVersion := "2.0"
  metadata := ⟨"annotated", "Queries in steps", "7"⟩
  symbols := querySchema.symbols
    |>.insert "F" ⟨"Reads a table", "Source",
      [⟨"table", "Its name", .identifier, ["sales"], .required⟩,
        ⟨"alias", "", .identifier, ["s"], .optional⟩]⟩
    |>.insert "C" ⟨"Counts what is left", "Step", []⟩
  literals := .none
  identifierPattern := querySchema.identifierPattern
  reserved := .empty
  embedding := some (.string "vector")
  constraints := [⟨"Q", some "program", some (.string "weight")⟩]

/-- A table that the annotations do not list, and one that is written as a string. -/
theorem parse_eq_of_demands_annotated : ∃ grammar grammar',
    querySchema.compile = .ok grammar ∧ annotatedQuerySchema.compile = .ok grammar' ∧
    querySchema.demands = annotatedQuerySchema.demands ∧
    parse (some grammar') 8 "(Q (F orders) C)" =
      .ok [.symbolic "Q" [.symbolic "F" [.ident "orders"], .ident "C"]] ∧
    parse (some grammar') 8 "(Q (F 'orders'))" =
      .error (.contract (.expectedIdentifier "F" "table" "string literal 'orders'") 6) := by
  have h : querySchema.compile.toOption.any (fun grammar =>
      parse (some grammar) 8 "(Q (F orders) C)" =
        .ok [.symbolic "Q" [.symbolic "F" [.ident "orders"], .ident "C"]] ∧
      parse (some grammar) 8 "(Q (F 'orders'))" =
        .error (.contract (.expectedIdentifier "F" "table" "string literal 'orders'") 6)) =
      true := by
    decide +kernel
  have h' : annotatedQuerySchema.compile.toOption.any (fun _ => true) = true := by
    decide +kernel
  have hdemands : querySchema.demands = annotatedQuerySchema.demands := by decide +kernel
  obtain ⟨grammar, hcompile, hresult⟩ := Schema.exists_compile_of_any h
  obtain ⟨grammar', hcompile', _⟩ := Schema.exists_compile_of_any h'
  obtain ⟨haccepted, hrejected⟩ := of_decide_eq_true hresult
  have heq := parse_eq_of_demands hdemands hcompile hcompile' 8
  exact ⟨grammar, grammar', hcompile, hcompile', hdemands, (heq _).symm.trans haccepted,
    (heq _).symm.trans hrejected⟩

end SexpContract
