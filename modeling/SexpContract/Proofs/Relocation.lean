import SexpContract.Proofs.Nesting
import SexpContract.Proofs.Relabelling
import SexpContract.Proofs.Sources
import SexpContract.Proofs.TokenPlaces

/-!
# Moving a Program

Offsets are carried along and never looked at.  When the tokens of a program move, the program that
is read from them moves with them (`readProgram_relocate`), and so does the place of whatever is
reported, in the nesting or by a grammar (`Grammar.validate_relocate`).  A text behind another one
has the tokens, or the lexical fault, that it has on its own, moved as the text is
(`tokensFrom_relocate`).
-/

namespace SexpContract

open Text

/-! ## Section 1: Errors -/

/-- The error with its offset moved. -/
def Error.relocate (place : Nat → Nat) : Error → Error
  | .lexical fault position => .lexical fault (place position)
  | .structural fault position => .structural fault (place position)
  | .contract fault position => .contract fault (place position)
  | .missingRoot expected found => .missingRoot expected found
  | .grammar fault => .grammar fault

/-! ## Section 2: Checks -/

/-- The site with its offsets moved. -/
def Site.relocate (place : Nat → Nat) (site : Site) : Site :=
  ⟨place site.openAt, place site.symbolAt, site.argsAt.map place⟩

theorem Site.argAt_relocate (place : Nat → Nat) (site : Site) (index : Nat) :
    (site.relocate place).argAt index = place (site.argAt index) := by
  simp only [argAt, relocate, List.getElem?_map]
  cases site.argsAt[index]? <;> rfl

/-- The check with its offsets moved. -/
def Check.relocate (place : Nat → Nat) : Check → Check
  | .invocation symbol args site => .invocation symbol args (site.relocate place)
  | .topLevel node position => .topLevel node (place position)

namespace Grammar

variable {grammar : Grammar} {symbol : String} {args : List Node} (place : Nat → Nat)

theorem checkArguments_relocate (parameter : Parameter) (site : Site) (index : Nat) :
    grammar.checkArguments symbol parameter (site.relocate place) index args =
      (grammar.checkArguments symbol parameter site index args).mapError
        (Error.relocate place) := by
  induction args generalizing index with
  | nil => rfl
  | cons arg rest ih =>
      rw [checkArguments, checkArguments]
      cases grammar.argumentFault? symbol parameter arg with
      | some fault =>
          rw [Site.argAt_relocate]
          rfl
      | none => exact ih (index + 1)

theorem checkParameters_relocate (site : Site) (index : Nat) (parameters : List Parameter) :
    grammar.checkParameters symbol args (site.relocate place) index parameters =
      (grammar.checkParameters symbol args site index parameters).mapError
        (Error.relocate place) := by
  -- On the parameters: how many arguments each takes goes by their number and not by offsets.
  induction parameters generalizing index with
  | nil => rfl
  | cons parameter rest ih =>
      simp only [checkParameters, checkArguments_relocate]
      split
      · rfl
      cases grammar.checkArguments symbol parameter site index
          ((args.drop index).take (parameter.cardinality.take (args.length - index))) with
      | error error => rfl
      | ok passed => exact ih _

/-- Where an invocation stands decides where its fault is reported, and nothing else. -/
theorem checkInvocation_relocate (site : Site) :
    grammar.checkInvocation symbol args (site.relocate place) =
      (grammar.checkInvocation symbol args site).mapError (Error.relocate place) := by
  unfold checkInvocation
  cases grammar.symbol? symbol with
  | none => rfl
  | some contract =>
      simp only [checkParameters_relocate]
      cases grammar.checkParameters symbol args site 0 contract.parameters with
      | error error => rfl
      | ok index =>
          simp only [Except.mapError, Site.argAt_relocate]
          split <;> rfl

theorem checkTopLevel_relocate (node : Node) (position : Nat) :
    grammar.checkTopLevel node (place position) =
      (grammar.checkTopLevel node position).mapError (Error.relocate place) := by
  unfold checkTopLevel
  split
  · exact checkInvocation_relocate place (.everywhere position)
  · rfl

end Grammar

theorem Check.run_relocate (grammar : Grammar) (place : Nat → Nat) (check : Check) :
    (check.relocate place).run grammar = (check.run grammar).mapError (Error.relocate place) := by
  cases check with
  | invocation symbol args site => exact Grammar.checkInvocation_relocate place site
  | topLevel node position => exact Grammar.checkTopLevel_relocate place node position

theorem Check.runAll_relocate (grammar : Grammar) (place : Nat → Nat) (checks : List Check) :
    Check.runAll grammar (checks.map (Check.relocate place)) =
      (Check.runAll grammar checks).mapError (Error.relocate place) := by
  induction checks with
  | nil => rfl
  | cons check rest ih =>
      rw [List.map_cons, Check.runAll, Check.runAll, Check.run_relocate]
      cases check.run grammar with
      | error error => rfl
      | ok passed => exact ih

/-! ## Section 3: Programs -/

/-- The relabelling that moves offsets and keeps every symbol. -/
def Relabelling.moving (place : Nat → Nat) : Relabelling where
  place := place
  label _ symbol := symbol

/-- The program with its offsets moved. -/
def Expression.relocate (place : Nat → Nat) (program : List Expression) : List Expression :=
  (Relabelling.moving place).program program

theorem Relabelling.token_moving (place : Nat → Nat) :
    (moving place).token = Token.relocate place := by
  funext token
  simp [Relabelling.token, moving, Token.relocate]

namespace Relabelling

theorem position_expression (relabelling : Relabelling) (target : Expression) :
    (relabelling.expression target).position = relabelling.place target.position := by
  cases target <;> simp [expression, Expression.position]

theorem node_moving (place : Nat → Nat) (target : Expression) :
    ((moving place).expression target).node = target.node := by
  induction target using Expression.inductionOn with
  | hliteral kind value position => simp [expression, Expression.node]
  | hname symbol position => simp [expression, Expression.node, moving]
  | hcall openAt symbolAt symbol args ih =>
      simp only [expression, Expression.node, Expression.nodes_eq_map, program_eq_map,
        List.map_map, moving]
      exact congrArg (Node.symbolic symbol) (List.map_congr_left ih)

theorem checks_moving (place : Nat → Nat) (target : Expression) :
    ((moving place).expression target).checks = target.checks.map (Check.relocate place) := by
  induction target using Expression.inductionOn with
  | hliteral kind value position => simp [expression, Expression.checks]
  | hname symbol position => simp [expression, Expression.checks]
  | hcall openAt symbolAt symbol args ih =>
      have hnodes : args.map (Expression.node ∘ (moving place).expression) =
          args.map Expression.node :=
        List.map_congr_left fun arg _ => node_moving place arg
      have hpositions : args.map (Expression.position ∘ (moving place).expression) =
          args.map (place ∘ Expression.position) :=
        List.map_congr_left fun arg _ => (moving place).position_expression arg
      -- The checks of the arguments move with them, and the call itself closes last.
      simp only [expression, Expression.checks, Expression.checksAll_eq_flatMap,
        Expression.nodes_eq_map, program_eq_map, List.map_map, List.flatMap_map, List.map_append,
        List.map_flatMap, hnodes, hpositions, List.flatMap_congr ih]
      simp [Check.relocate, Site.relocate, moving]

end Relabelling

namespace Expression

variable (place : Nat → Nat) (program : List Expression)

theorem nodes_relocate : nodes (relocate place program) = nodes program := by
  rw [nodes_eq_map, nodes_eq_map, relocate, Relabelling.program_eq_map, List.map_map]
  exact List.map_congr_left fun expression _ => Relabelling.node_moving place expression

theorem programChecks_relocate :
    programChecks (relocate place program) =
      (programChecks program).map (Check.relocate place) := by
  rw [programChecks, programChecks, relocate, Relabelling.program_eq_map, List.flatMap_map,
    List.map_flatMap]
  apply List.flatMap_congr
  intro expression _
  rw [Relabelling.checks_moving, Relabelling.node_moving, Relabelling.position_expression,
    List.map_append]
  rfl

end Expression

/-- A program that moves is validated as before, and what is reported moves with it. -/
theorem Grammar.validate_relocate (grammar : Grammar) (place : Nat → Nat)
    (program : List Expression) :
    grammar.validate (Expression.relocate place program) =
      (grammar.validate program).mapError (Error.relocate place) := by
  rw [validate, validate, Expression.programChecks_relocate, Check.runAll_relocate,
    Expression.nodes_relocate]
  cases Check.runAll grammar (Expression.programChecks program) with
  | error error => rfl
  | ok passed =>
      cases hroots : grammar.checkConstraints (Expression.nodes program) with
      | error error =>
          -- A missing root has no offset to move.
          obtain ⟨expected, found, rfl⟩ := checkRoots_error hroots
          rfl
      | ok passed => rfl

/-! ## Section 4: Tokens -/

theorem beforeEnd_relocate (place : Nat → Nat) (tokens : List Token) :
    beforeEnd (tokens.map (Token.relocate place)) =
      (beforeEnd tokens).map (Token.relocate place) := by
  rw [beforeEnd, beforeEnd, List.takeWhile_map]
  rfl

/-- The scan for faults meets the same fault, at the place where it has moved. -/
theorem nestingScan_relocate (maxDepth : Nat) (place : Nat → Nat) (stack : List Nat)
    (tokens : List Token) :
    nestingScan maxDepth (stack.map place) (tokens.map (Token.relocate place)) =
      (nestingScan maxDepth stack tokens).mapError (Error.relocate place) := by
  -- On the tokens: a fault goes by their kinds and by how many parentheses are open.
  induction tokens generalizing stack with
  | nil => cases stack <;> rfl
  | cons token rest ih =>
      have hfault : nestingFault? maxDepth (stack.map place) (token.relocate place)
          (rest.map (Token.relocate place)).head? =
            nestingFault? maxDepth stack token rest.head? := by
        cases rest <;>
          simp [nestingFault?, Token.relocate, openingFault?, Token.describe]
      have hopen : openAfter (stack.map place) (token.relocate place) =
          (openAfter stack token).map place := by
        simp only [openAfter, Token.relocate]
        split <;> simp
      rw [List.map_cons, nestingScan, nestingScan, hfault, hopen]
      cases nestingFault? maxDepth stack token rest.head? with
      | some fault => rfl
      | none => exact ih _

/-- Tokens that move are read as the program that moves with them. -/
theorem readProgram_relocate (maxDepth : Nat) (place : Nat → Nat) (tokens : List Token) :
    readProgram maxDepth (tokens.map (Token.relocate place)) =
      ((readProgram maxDepth tokens).map (Expression.relocate place)).mapError
        (Error.relocate place) := by
  cases hread : readProgram maxDepth tokens with
  | error error =>
      have hscan := nestingScan_relocate maxDepth place [] (beforeEnd tokens)
      rw [readProgram_error_iff.1 hread, ← beforeEnd_relocate] at hscan
      exact readProgram_error_iff.2 hscan
  | ok program =>
      obtain ⟨hspells, hnesting⟩ := readProgram_eq_ok_iff.1 hread
      have hmoved := hspells.relabel (.moving place)
      rw [Relabelling.token_moving, ← beforeEnd_relocate] at hmoved
      rw [← Relabelling.nestingAll_program (.moving place)] at hnesting
      exact readProgram_eq_ok_iff.2 ⟨hmoved, hnesting⟩

/-! ## Section 5: Texts -/

/-- The same text at another offset has the same tokens or the same fault, moved as the text is. -/
theorem tokensFrom_relocate (place : Nat → Nat) {position : Nat} (text : List Char)
    (hplace : ∀ n, place (position + n) = place position + n) :
    tokensFrom (place position) text =
      ((tokensFrom position text).map (List.map (Token.relocate place))).mapError
        (Error.relocate place) := by
  rcases scans_or_fault position text with ⟨tokens, stop, hscans⟩ |
    ⟨tokens, offset, c, rest, fault, hscans, hblank, hfirst⟩
  · rw [(hscans.relocate hplace).tokensFrom_end, hscans.tokensFrom_end]
    simp [Except.map, Except.mapError, Token.relocate, Token.endMark]
  · rw [(hscans.relocate hplace).tokensFrom_fault hblank hfirst,
      hscans.tokensFrom_fault hblank hfirst]
    rfl

end SexpContract
