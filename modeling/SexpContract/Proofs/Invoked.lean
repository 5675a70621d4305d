import SexpContract.Proofs.Expression
import SexpContract.Proofs.Invocation

/-!
# Invoked Expressions

The expressions of a program whose symbols are held to their contracts: those in parentheses, however
deep, and the bare symbols at top level.  A program breaks a contract only in one of them
(`Grammar.breaks_of_validate`).
-/

namespace SexpContract

namespace Expression

/-! ## Section 1: Parts of expressions -/

/-- The symbol of an expression. -/
def symbol? : Expression → Option String
  | .literal _ _ _ => none
  | .name symbol _ => some symbol
  | .call _ _ symbol _ => some symbol

/-- The arguments of an expression. -/
def args : Expression → List Expression
  | .call _ _ _ args => args
  | _ => []

/-- Where the check of an expression looks for it. -/
def site : Expression → Site
  | .call openAt symbolAt _ args => ⟨openAt, symbolAt, args.map position⟩
  | expression => .everywhere expression.position

mutual

/-- An expression and all expressions inside it. -/
def parts : Expression → List Expression
  | .literal kind value position => [.literal kind value position]
  | .name symbol position => [.name symbol position]
  | .call openAt symbolAt symbol args => .call openAt symbolAt symbol args :: partsAll args

/-- The expressions of a list and all expressions inside them. -/
def partsAll : List Expression → List Expression
  | [] => []
  | expression :: rest => parts expression ++ partsAll rest

end

@[simp]
theorem partsAll_eq_flatMap (program : List Expression) :
    partsAll program = program.flatMap parts := by
  induction program with
  | nil => rfl
  | cons expression rest ih => rw [partsAll, ih, List.flatMap_cons]

theorem self_mem_parts (expression : Expression) : expression ∈ expression.parts := by
  cases expression <;> exact List.mem_cons_self

theorem mem_partsAll_of_mem {program : List Expression} {expression : Expression}
    (h : expression ∈ program) : expression ∈ partsAll program := by
  rw [partsAll_eq_flatMap]
  exact List.mem_flatMap.2 ⟨expression, h, expression.self_mem_parts⟩

/-- The arguments of a part are parts. -/
theorem args_subset_parts {expression part : Expression} (h : part ∈ expression.parts) :
    part.args ⊆ expression.parts := by
  induction expression using inductionOn with
  | hliteral =>
      obtain rfl := List.mem_singleton.1 h
      exact List.nil_subset _
  | hname =>
      obtain rfl := List.mem_singleton.1 h
      exact List.nil_subset _
  | hcall openAt symbolAt symbol args ih =>
      rw [parts, List.mem_cons, partsAll_eq_flatMap, List.mem_flatMap] at h
      intro inner hinner
      rw [parts, partsAll_eq_flatMap]
      rcases h with rfl | ⟨arg, harg, hpart⟩
      · exact List.mem_cons_of_mem _ (List.mem_flatMap.2 ⟨inner, hinner, inner.self_mem_parts⟩)
      · exact List.mem_cons_of_mem _ (List.mem_flatMap.2 ⟨arg, harg, ih arg harg hpart hinner⟩)

theorem args_subset_partsAll {program : List Expression} {part : Expression}
    (h : part ∈ partsAll program) : part.args ⊆ partsAll program := by
  rw [partsAll_eq_flatMap, List.mem_flatMap] at h
  obtain ⟨expression, hexpression, hpart⟩ := h
  intro arg harg
  rw [partsAll_eq_flatMap]
  exact List.mem_flatMap.2 ⟨expression, hexpression, args_subset_parts hpart harg⟩

/-- The checks inside an expression are those of its parts in parentheses. -/
theorem exists_part_of_check {expression : Expression} {check : Check}
    (h : check ∈ expression.checks) :
    ∃ openAt symbolAt symbol args, .call openAt symbolAt symbol args ∈ expression.parts ∧
      check = .invocation symbol (nodes args) ⟨openAt, symbolAt, args.map position⟩ := by
  induction expression using inductionOn with
  | hliteral => cases h
  | hname => cases h
  | hcall openAt symbolAt symbol args ih =>
      rw [checks, checksAll_eq_flatMap, List.mem_append, List.mem_flatMap, List.mem_singleton] at h
      rcases h with ⟨arg, harg, hcheck⟩ | hself
      · obtain ⟨openAt', symbolAt', symbol', args', hpart, rfl⟩ := ih arg harg hcheck
        refine ⟨openAt', symbolAt', symbol', args', ?_, rfl⟩
        rw [parts, partsAll_eq_flatMap]
        exact List.mem_cons_of_mem _ (List.mem_flatMap.2 ⟨arg, harg, hpart⟩)
      · exact ⟨openAt, symbolAt, symbol, args, List.mem_cons_self, hself⟩

/-! ## Section 2: Invoked expressions -/

/-- An expression of a program is held to the contract of its symbol: in parentheses at any depth,
and at top level also without. -/
inductive Invoked (program : List Expression) : Expression → Prop where
  | call {openAt symbolAt : Nat} {symbol : String} {args : List Expression}
      (h : .call openAt symbolAt symbol args ∈ partsAll program) :
      Invoked program (.call openAt symbolAt symbol args)
  | name {symbol : String} {position : Nat} (h : .name symbol position ∈ program) :
      Invoked program (.name symbol position)

theorem Invoked.mem_partsAll {program : List Expression} {expression : Expression}
    (h : Invoked program expression) : expression ∈ partsAll program := by
  cases h with
  | call h => exact h
  | name h => exact mem_partsAll_of_mem h

theorem Invoked.mono {program program' : List Expression} {expression : Expression}
    (h : Invoked program expression) (hsubset : program ⊆ program') :
    Invoked program' expression := by
  cases h with
  | call h =>
      refine .call ?_
      rw [partsAll_eq_flatMap, List.mem_flatMap] at h ⊢
      obtain ⟨outer, houter, hpart⟩ := h
      exact ⟨outer, hsubset houter, hpart⟩
  | name h => exact .name (hsubset h)

end Expression

/-! ## Section 3: Broken contracts -/

namespace Grammar

variable {grammar : Grammar} {error : Error}

/-- The check of an expression against the contract of its symbol fails with an error. -/
def Rejects (grammar : Grammar) (invocation : Expression) (error : Error) : Prop :=
  ∃ symbol, invocation.symbol? = some symbol ∧
    grammar.checkInvocation symbol (Expression.nodes invocation.args) invocation.site =
      .error error

/-- An invoked expression of a program breaks the contract of its symbol, with an error. -/
def Breaks (grammar : Grammar) (program : List Expression) (error : Error) : Prop :=
  ∃ invocation, Expression.Invoked program invocation ∧ grammar.Rejects invocation error

theorem breaks_of_checks {program : List Expression} {expression : Expression}
    (hexpression : expression ∈ program)
    (h : Check.runAll grammar expression.checks = .error error) : grammar.Breaks program error := by
  obtain ⟨check, hcheck, hrun⟩ := Check.exists_of_runAll h
  obtain ⟨openAt, symbolAt, symbol, args, hpart, rfl⟩ := Expression.exists_part_of_check hcheck
  refine ⟨.call openAt symbolAt symbol args, .call ?_, symbol, rfl, hrun⟩
  rw [Expression.partsAll_eq_flatMap]
  exact List.mem_flatMap.2 ⟨expression, hexpression, hpart⟩

/-- Where the checks inside a top-level expression pass, only a bare symbol can still fail. -/
theorem breaks_of_checkTopLevel {program : List Expression} {expression : Expression}
    (hexpression : expression ∈ program)
    (hchecks : Check.runAll grammar expression.checks = .ok ())
    (h : grammar.checkTopLevel expression.node expression.position = .error error) :
    grammar.Breaks program error := by
  cases expression with
  | literal => cases h
  | name symbol position => exact ⟨.name symbol position, .name hexpression, symbol, rfl, h⟩
  | call openAt symbolAt symbol args =>
      -- The call was admitted when its parenthesis closed, wherever it stands.
      have hcheck := Check.runAll_eq_ok_iff.1 hchecks
        (.invocation symbol (Expression.nodes args)
          ⟨openAt, symbolAt, args.map Expression.position⟩)
        (List.mem_append_right _ (List.mem_singleton_self _))
      have hadmits := admits_of_checkInvocation hcheck
      have htop : grammar.checkTopLevel (.symbolic symbol (Expression.nodes args)) openAt =
          .ok () := by
        rw [checkTopLevel_eq_ok_iff]
        rintro _ heq
        obtain ⟨rfl, hnil⟩ := Node.symbolic.inj heq
        exact hnil ▸ hadmits
      cases h.symm.trans htop

theorem breaks_of_programChecks {program : List Expression}
    (h : Check.runAll grammar (Expression.programChecks program) = .error error) :
    grammar.Breaks program error := by
  -- The first check to fail stands inside the first expression, is that of this expression at top
  -- level, or stands in the rest of the program.
  induction program with
  | nil => cases h
  | cons expression rest ih =>
      have hsplit : Expression.programChecks (expression :: rest) =
          expression.checks ++ ([.topLevel expression.node expression.position] ++
            Expression.programChecks rest) := by
        simp [Expression.programChecks]
      rw [hsplit, Check.runAll_append] at h
      cases hchecks : Check.runAll grammar expression.checks with
      | error error' =>
          rw [hchecks] at h
          cases h
          exact breaks_of_checks List.mem_cons_self hchecks
      | ok passed =>
          rw [hchecks, Except.bind, Check.runAll_append] at h
          cases htop : Check.run grammar (.topLevel expression.node expression.position) with
          | error error' =>
              simp only [Check.runAll, htop] at h
              cases h
              exact breaks_of_checkTopLevel List.mem_cons_self hchecks htop
          | ok passed =>
              simp only [Check.runAll, htop] at h
              obtain ⟨invocation, hinvoked, hrejects⟩ := ih h
              exact ⟨invocation, hinvoked.mono (List.subset_cons_self _ _), hrejects⟩

/-- Validation reports a broken contract for an invoked expression. -/
theorem breaks_of_validate {program : List Expression} {fault : ContractFault} {position : Nat}
    (h : grammar.validate program = .error (.contract fault position)) :
    grammar.Breaks program (.contract fault position) := by
  rcases validate_error h with hchecks | hroots
  · exact breaks_of_programChecks hchecks
  · -- The constraints look for roots only.
    obtain ⟨expected, found, hmissing⟩ := checkRoots_error hroots
    cases hmissing

end Grammar

end SexpContract
