import Mathlib.Data.List.Flatten
import SexpContract.Proofs.Spelling

/-!
# Occurrences of Symbols

The symbols of a program with their byte offsets.  They are the identifier tokens that the program
is spelled with, in the same order (`Spells.symbolsAll_eq`), and some of them are invoked: those
right behind a parenthesis, and those that are a top-level expression on their own.
-/

namespace SexpContract

/-! ## Section 1: Symbols and invocations -/

/-- A symbol at its byte offset. -/
structure Occurrence where
  symbol : String
  position : Nat
  deriving DecidableEq, Repr

namespace Expression

mutual

/-- The symbols of an expression in the order of the source. -/
def symbols : Expression → List Occurrence
  | .literal _ _ _ => []
  | .name symbol position => [⟨symbol, position⟩]
  | .call _ symbolAt symbol args => ⟨symbol, symbolAt⟩ :: symbolsAll args

/-- The symbols of a list of expressions. -/
def symbolsAll : List Expression → List Occurrence
  | [] => []
  | expression :: rest => symbols expression ++ symbolsAll rest

end

mutual

/-- The symbols of the parenthesised expressions in an expression. -/
def calls : Expression → List Occurrence
  | .literal _ _ _ => []
  | .name _ _ => []
  | .call _ symbolAt symbol args => ⟨symbol, symbolAt⟩ :: callsAll args

/-- The symbols of the parenthesised expressions in a list of expressions. -/
def callsAll : List Expression → List Occurrence
  | [] => []
  | expression :: rest => calls expression ++ callsAll rest

end

/-- The symbols of a program at a byte offset. -/
def symbolsAt (position : Nat) (program : List Expression) : List Occurrence :=
  (symbolsAll program).filter fun occurrence => occurrence.position = position

/-- The invocations in a top-level expression.  There a bare symbol counts as one. -/
def invocations : Expression → List Occurrence
  | .name symbol position => [⟨symbol, position⟩]
  | expression => expression.calls

/-- The invocations of a program. -/
def invocationsAll (program : List Expression) : List Occurrence :=
  program.flatMap invocations

@[simp]
theorem symbolsAll_eq_flatMap (program : List Expression) :
    symbolsAll program = program.flatMap symbols := by
  induction program with
  | nil => rfl
  | cons expression rest ih => rw [symbolsAll, ih, List.flatMap_cons]

@[simp]
theorem callsAll_eq_flatMap (program : List Expression) :
    callsAll program = program.flatMap calls := by
  induction program with
  | nil => rfl
  | cons expression rest ih => rw [callsAll, ih, List.flatMap_cons]

theorem calls_sublist_symbols (expression : Expression) :
    expression.calls.Sublist expression.symbols := by
  induction expression using inductionOn with
  | hliteral => exact List.nil_sublist _
  | hname => exact List.nil_sublist _
  | hcall openAt symbolAt symbol args ih =>
      rw [calls, symbols, callsAll_eq_flatMap, symbolsAll_eq_flatMap]
      exact (List.Sublist.flatMap_right args ih).cons_cons _

theorem calls_subset_invocations (expression : Expression) :
    expression.calls ⊆ expression.invocations := by
  cases expression with
  | name => exact List.nil_subset _
  | literal => exact List.Subset.refl _
  | call => exact List.Subset.refl _

/-- What is invoked is a symbol of the program, each one time at most. -/
theorem invocationsAll_sublist_symbolsAll (program : List Expression) :
    (invocationsAll program).Sublist (symbolsAll program) := by
  rw [invocationsAll, symbolsAll_eq_flatMap]
  apply List.Sublist.flatMap_right
  intro expression _
  cases expression with
  | name symbol position => exact List.Sublist.refl _
  | literal => exact calls_sublist_symbols _
  | call => exact calls_sublist_symbols _

end Expression

/-! ## Section 2: Symbols and tokens -/

/-- The symbol that an identifier token stands for. -/
def Token.occurrence (token : Token) : Occurrence :=
  ⟨token.text, token.start⟩

/-- The identifiers among some tokens. -/
def identifiers (tokens : List Token) : List Token :=
  tokens.filter fun token => token.kind = .identifier

theorem Token.symbols_of_atom? {token : Token} {expression : Expression}
    (h : token.atom? = some expression) :
    expression.symbols = (identifiers [token]).map Token.occurrence := by
  unfold Token.atom? at h
  split at h
  case h_4 => cases h
  all_goals
    rename_i hkind
    cases h
    simp [identifiers, hkind, Expression.symbols, Token.occurrence]

/-- The symbols of a program are the identifiers that it is spelled with. -/
theorem Spells.symbolsAll_eq {tokens : List Token} {program : List Expression}
    (h : Spells tokens program) :
    Expression.symbolsAll program = (identifiers tokens).map Token.occurrence := by
  -- On the spelling: a symbol in front of its arguments comes before theirs, as its token does.
  induction h with
  | nil => rfl
  | comma hkind _ ih => simpa [identifiers, hkind] using ih
  | @atom token tokens _ _ hatom _ ih =>
      have hsplit : identifiers (token :: tokens) = identifiers [token] ++ identifiers tokens :=
        List.filter_append [token] tokens
      rw [Expression.symbolsAll, ih, Token.symbols_of_atom? hatom, hsplit, List.map_append]
  | call hopening hname hclosing _ _ ihinner ih =>
      rw [Expression.symbolsAll, Expression.symbols, ihinner, ih]
      simp [identifiers, hopening, hname, hclosing, Token.occurrence]

end SexpContract
