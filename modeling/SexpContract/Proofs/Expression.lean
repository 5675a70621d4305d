import SexpContract.Program.State

/-!
# Written Expressions

An expression as it stands in a source.  A node forgets where its parts were written, and whether
a symbol without arguments stood in parentheses; a written expression keeps both.  From it the
checks of a program can be listed in the order in which the expressions close, and
`Grammar.validate` runs them after the fact, on a program that has already been read.
-/

namespace SexpContract

/-! ## Section 1: Expressions -/

/-- An expression with the byte offsets where its parts start.  A bare symbol and the same symbol
in parentheses are different expressions of one node. -/
inductive Expression where
  | literal (kind : LiteralKind) (value : String) (position : Nat)
  | name (symbol : String) (position : Nat)
  | call (openAt symbolAt : Nat) (symbol : String) (args : List Expression)
  deriving Repr

namespace Expression

/-- Induction where the arguments of a call satisfy the statement already. -/
@[elab_as_elim]
theorem inductionOn {motive : Expression → Prop} (expression : Expression)
    (hliteral : ∀ kind value position, motive (.literal kind value position))
    (hname : ∀ symbol position, motive (.name symbol position))
    (hcall : ∀ openAt symbolAt symbol args, (∀ arg ∈ args, motive arg) →
      motive (.call openAt symbolAt symbol args)) : motive expression :=
  match expression with
  | .literal kind value position => hliteral kind value position
  | .name symbol position => hname symbol position
  | .call openAt symbolAt symbol args =>
      hcall openAt symbolAt symbol args fun arg _ => inductionOn arg hliteral hname hcall

/-- The byte offset where an expression starts. -/
def position : Expression → Nat
  | .literal _ _ position => position
  | .name _ position => position
  | .call openAt _ _ _ => openAt

mutual

/-- The node that an expression denotes. -/
def node : Expression → Node
  | .literal kind value _ => .literal kind value
  | .name symbol _ => .symbolic symbol []
  | .call _ _ symbol args => .symbolic symbol (nodes args)

/-- The nodes that a list of expressions denotes. -/
def nodes : List Expression → List Node
  | [] => []
  | expression :: rest => node expression :: nodes rest

end

mutual

/-- How deep the parentheses of an expression are nested. -/
def nesting : Expression → Nat
  | .literal _ _ _ => 0
  | .name _ _ => 0
  | .call _ _ _ args => 1 + nestingAll args

/-- How deep the parentheses of a list of expressions are nested. -/
def nestingAll : List Expression → Nat
  | [] => 0
  | expression :: rest => max (nesting expression) (nestingAll rest)

end

@[simp]
theorem nodes_eq_map (program : List Expression) : nodes program = program.map node := by
  induction program with
  | nil => rfl
  | cons expression rest ih => rw [nodes, ih, List.map_cons]

theorem mem_nodes {program : List Expression} {target : Node} :
    target ∈ nodes program ↔ ∃ expression ∈ program, expression.node = target := by
  rw [nodes_eq_map, List.mem_map]

theorem nestingAll_le_iff {program : List Expression} {limit : Nat} :
    nestingAll program ≤ limit ↔ ∀ expression ∈ program, expression.nesting ≤ limit := by
  induction program with
  | nil => simp [nestingAll]
  | cons expression rest ih => rw [nestingAll, Nat.max_le, List.forall_mem_cons, ih]

theorem nestingAll_append (first second : List Expression) :
    nestingAll (first ++ second) = max (nestingAll first) (nestingAll second) := by
  induction first with
  | nil => simp [nestingAll]
  | cons expression rest ih => simp only [List.cons_append, nestingAll, ih, Nat.max_assoc]

end Expression

/-! ## Section 2: Checks in closing order -/

/-- One check against a grammar, with all that it looks at. -/
inductive Check where
  | invocation (symbol : String) (args : List Node) (site : Site)
  | topLevel (node : Node) (position : Nat)
  deriving Repr

/-- The outcome of a check. -/
def Check.run (grammar : Grammar) : Check → Except Error Unit
  | .invocation symbol args site => grammar.checkInvocation symbol args site
  | .topLevel node position => grammar.checkTopLevel node position

/-- The outcome of checks in a row: the first failure, if there is one. -/
def Check.runAll (grammar : Grammar) : List Check → Except Error Unit
  | [] => .ok ()
  | check :: rest =>
      match check.run grammar with
      | .error error => .error error
      | .ok () => runAll grammar rest

theorem Check.runAll_eq_ok_iff {grammar : Grammar} {checks : List Check} :
    Check.runAll grammar checks = .ok () ↔ ∀ check ∈ checks, check.run grammar = .ok () := by
  induction checks with
  | nil => simp [Check.runAll]
  | cons check rest ih =>
      rw [Check.runAll, List.forall_mem_cons]
      cases hcheck : check.run grammar with
      | error error => simp
      | ok passed => simp [ih]

theorem Check.exists_of_runAll {grammar : Grammar} {checks : List Check} {error : Error}
    (h : Check.runAll grammar checks = .error error) :
    ∃ check ∈ checks, check.run grammar = .error error := by
  induction checks with
  | nil => cases h
  | cons check rest ih =>
      rw [Check.runAll] at h
      split at h
      · rename_i hcheck
        cases h
        exact ⟨check, List.mem_cons_self, hcheck⟩
      · obtain ⟨other, hmem, hother⟩ := ih h
        exact ⟨other, List.mem_cons_of_mem _ hmem, hother⟩

theorem Check.runAll_append (grammar : Grammar) (first second : List Check) :
    Check.runAll grammar (first ++ second) =
      (Check.runAll grammar first).bind fun _ => Check.runAll grammar second := by
  induction first with
  | nil => rfl
  | cons check rest ih =>
      rw [List.cons_append, Check.runAll, Check.runAll]
      cases check.run grammar with
      | error error => rfl
      | ok passed => exact ih

namespace Expression

mutual

/-- The checks of the parenthesised expressions in an expression.  What is written inside closes
first, from left to right, and the expression itself closes last. -/
def checks : Expression → List Check
  | .literal _ _ _ => []
  | .name _ _ => []
  | .call openAt symbolAt symbol args =>
      checksAll args ++
        [.invocation symbol (nodes args) ⟨openAt, symbolAt, args.map position⟩]

/-- The checks of the parenthesised expressions in a list of expressions. -/
def checksAll : List Expression → List Check
  | [] => []
  | expression :: rest => checks expression ++ checksAll rest

end

/-- The checks of a whole program: after those inside a top-level expression stands the check of
that expression at top level. -/
def programChecks (program : List Expression) : List Check :=
  program.flatMap fun expression =>
    expression.checks ++ [.topLevel expression.node expression.position]

@[simp]
theorem checksAll_eq_flatMap (program : List Expression) :
    checksAll program = program.flatMap checks := by
  induction program with
  | nil => rfl
  | cons expression rest ih => rw [checksAll, ih, List.flatMap_cons]

end Expression

/-- Validation as a phase of its own: the checks of a program in closing order, and when all of
them pass, the constraints on the program as a whole. -/
def Grammar.validate (grammar : Grammar) (program : List Expression) :
    Except Error (List Node) := do
  Check.runAll grammar (Expression.programChecks program)
  grammar.checkConstraints (Expression.nodes program)
  .ok (Expression.nodes program)

/-- Validation fails with the first check to fail, or else with a constraint. -/
theorem Grammar.validate_error {grammar : Grammar} {program : List Expression} {error : Error}
    (h : grammar.validate program = .error error) :
    Check.runAll grammar (Expression.programChecks program) = .error error ∨
      grammar.checkConstraints (Expression.nodes program) = .error error := by
  rw [validate] at h
  cases hrun : Check.runAll grammar (Expression.programChecks program) with
  | error error' =>
      rw [hrun] at h
      cases h
      exact .inl rfl
  | ok passed =>
      cases hroots : grammar.checkConstraints (Expression.nodes program) with
      | error error' =>
          simp only [hrun, hroots, bind, Except.bind] at h
          cases h
          exact .inr rfl
      | ok passed =>
          simp only [hrun, hroots, bind, Except.bind] at h
          cases h

end SexpContract
