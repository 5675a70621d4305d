import Mathlib.Data.List.Basic
import SexpContract.Proofs.Occurrences

/-!
# Relabelling

A program with its offsets moved and its symbols renamed, place by place.  The relabelled tokens
spell the relabelled program (`Spells.relabel`), so nothing about the shape of a program depends on
where its parts are written or on what its symbols are called.
-/

namespace SexpContract

/-- Where each offset goes, and what the symbol at an offset is called. -/
structure Relabelling where
  place : Nat → Nat
  label : Nat → String → String

namespace Relabelling

variable (relabelling : Relabelling)

/-! ## Section 1: Programs -/

/-- The relabelled occurrence. -/
def occurrence (occurrence : Occurrence) : Occurrence :=
  ⟨relabelling.label occurrence.position occurrence.symbol, relabelling.place occurrence.position⟩

mutual

/-- The relabelled expression.  The texts of literals stay. -/
def expression : Expression → Expression
  | .literal kind value position => .literal kind value (relabelling.place position)
  | .name symbol position => .name (relabelling.label position symbol) (relabelling.place position)
  | .call openAt symbolAt symbol args =>
      .call (relabelling.place openAt) (relabelling.place symbolAt)
        (relabelling.label symbolAt symbol) (program args)

/-- The relabelled list of expressions. -/
def program : List Expression → List Expression
  | [] => []
  | first :: rest => expression first :: program rest

end

@[simp]
theorem program_eq_map (expressions : List Expression) :
    relabelling.program expressions = expressions.map relabelling.expression := by
  induction expressions with
  | nil => rfl
  | cons first rest ih => rw [program, ih, List.map_cons]

/-- The parentheses stay where they are. -/
theorem nesting_expression (target : Expression) :
    (relabelling.expression target).nesting = target.nesting := by
  apply expression.induct (fun target => (relabelling.expression target).nesting = target.nesting)
    (fun targets =>
      Expression.nestingAll (relabelling.program targets) = Expression.nestingAll targets)
  · intro kind value position
    rfl
  · intro symbol position
    rfl
  · intro openAt symbolAt symbol args ih
    rw [expression, Expression.nesting, Expression.nesting, ih]
  · rfl
  · intro first rest ih ihrest
    rw [program, Expression.nestingAll, Expression.nestingAll, ih, ihrest]

theorem nestingAll_program (targets : List Expression) :
    Expression.nestingAll (relabelling.program targets) = Expression.nestingAll targets := by
  induction targets with
  | nil => rfl
  | cons first rest ih =>
      rw [program, Expression.nestingAll, Expression.nestingAll, ih, nesting_expression]

theorem calls_expression (target : Expression) :
    (relabelling.expression target).calls = target.calls.map relabelling.occurrence := by
  apply expression.induct
    (fun target => (relabelling.expression target).calls = target.calls.map relabelling.occurrence)
    (fun targets => Expression.callsAll (relabelling.program targets) =
      (Expression.callsAll targets).map relabelling.occurrence)
  · intro kind value position
    rfl
  · intro symbol position
    rfl
  · intro openAt symbolAt symbol args ih
    rw [expression, Expression.calls, Expression.calls, ih, List.map_cons]
    rfl
  · rfl
  · intro first rest ih ihrest
    rw [program, Expression.callsAll, Expression.callsAll, ih, ihrest, List.map_append]

/-- What is invoked in a relabelled program is what was invoked, relabelled. -/
theorem invocationsAll_program (targets : List Expression) :
    Expression.invocationsAll (relabelling.program targets) =
      (Expression.invocationsAll targets).map relabelling.occurrence := by
  rw [program_eq_map, Expression.invocationsAll, Expression.invocationsAll, List.flatMap_map,
    List.map_flatMap]
  apply List.flatMap_congr
  intro target _
  cases target with
  | name symbol position => rfl
  | literal => exact relabelling.calls_expression _
  | call => exact relabelling.calls_expression _

/-! ## Section 2: Tokens -/

/-- The relabelled token.  Only an identifier has a symbol to rename. -/
def token (token : Token) : Token where
  kind := token.kind
  text := if token.kind = .identifier then relabelling.label token.start token.text else token.text
  start := relabelling.place token.start
  stop := relabelling.place token.stop

theorem atom?_token {target : Token} {expression : Expression}
    (h : target.atom? = some expression) :
    (relabelling.token target).atom? = some (relabelling.expression expression) := by
  unfold Token.atom? at h
  split at h
  case h_4 => cases h
  all_goals
    rename_i hkind
    cases h
    simp [Token.atom?, token, hkind, Relabelling.expression]

end Relabelling

/-- Relabelled tokens spell the relabelled program. -/
theorem Spells.relabel {tokens : List Token} {program : List Expression}
    (h : Spells tokens program) (relabelling : Relabelling) :
    Spells (tokens.map relabelling.token) (relabelling.program program) := by
  induction h with
  | nil => exact .nil
  | comma hkind _ ih => exact .comma hkind ih
  | atom hatom _ ih => exact .atom (relabelling.atom?_token hatom) ih
  | @call _ name _ _ _ _ _ hopening hname hclosing _ _ ihinner ih =>
      have hlabel : (relabelling.token name).text = relabelling.label name.start name.text := by
        simp [Relabelling.token, hname]
      rw [Relabelling.program, Relabelling.expression, ← hlabel]
      simp only [List.map_cons, List.map_append]
      exact .call hopening hname hclosing ihinner ih

end SexpContract
