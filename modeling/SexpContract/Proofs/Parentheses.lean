import SexpContract.Proofs.Layout
import SexpContract.Proofs.Limits
import SexpContract.Proofs.Positional
import SexpContract.Proofs.Unwrapping

/-!
# Symbols in Parentheses

A symbol without arguments may stand in parentheses or not, and both are the same node.  What is
accepted with the parentheses is accepted without them.  At top level, where a bare symbol is checked
as well, the two differ in one offset at most: that of an argument which the symbol lacks
(`parseTokens_parenthesised`).
-/

namespace SexpContract

/-! ## Section 1: Checks without arguments -/

namespace Grammar

variable {grammar : Grammar} {symbol : String}

/-- A symbol is defined, and a parameter is the first in its contract that asks for an argument. -/
def Lacks (grammar : Grammar) (symbol : String) (parameter : Parameter) : Prop :=
  ∃ contract, grammar.symbol? symbol = some contract ∧
    missing? contract.parameters 0 = some parameter

theorem checkParameters_nil (grammar : Grammar) (symbol : String) (site : Site)
    (parameters : List Parameter) :
    grammar.checkParameters symbol [] site 0 parameters =
      match missing? parameters 0 with
      | some parameter => .error (.contract (missingFault symbol parameter) site.openAt)
      | none => .ok 0 := by
  induction parameters with
  | nil => rfl
  | cons parameter rest ih =>
      have htaken : parameter.cardinality.take 0 = 0 := by
        cases parameter.cardinality <;> rfl
      have hone := parameter.cardinality.minCount_le_one
      simp only [checkParameters, List.length_nil, Nat.zero_sub, htaken, missing?_cons_zero]
      by_cases hmin : parameter.cardinality.minCount = 1
      · simp [hmin]
      · have hzero : parameter.cardinality.minCount = 0 := by omega
        simp [hzero, checkArguments, ih]

/-- Without arguments an invocation passes everywhere, is unknown where the symbol stands, or lacks
an argument where its parenthesis stands. -/
theorem checkInvocation_nil_cases (grammar : Grammar) (symbol : String) :
    grammar.Admits symbol [] ∨
      (∃ suggestion, ∀ site, grammar.checkInvocation symbol [] site =
        .error (.contract (.unknownSymbol symbol suggestion) site.symbolAt)) ∨
      ∃ parameter, grammar.Lacks symbol parameter ∧
        ∀ site, grammar.checkInvocation symbol [] site =
          .error (.contract (missingFault symbol parameter) site.openAt) := by
  unfold Admits Lacks checkInvocation
  cases grammar.symbol? symbol with
  | none => exact .inr (.inl ⟨_, fun site => rfl⟩)
  | some contract =>
      simp only [checkParameters_nil]
      cases hmissing : missing? contract.parameters 0 with
      | none => exact .inl fun site => rfl
      | some parameter => exact .inr (.inr ⟨parameter, ⟨contract, rfl, hmissing⟩, fun site => rfl⟩)

/-- Where a symbol without arguments stands is of no account for what its check says of it. -/
theorem checkInvocation_nil_site (grammar : Grammar) (symbol : String) (site other : Site) :
    (grammar.checkInvocation symbol [] site).mapError (Error.relocate fun _ => 0) =
      (grammar.checkInvocation symbol [] other).mapError (Error.relocate fun _ => 0) := by
  rcases grammar.checkInvocation_nil_cases symbol with hadmits | ⟨suggestion, h⟩ | ⟨_, _, h⟩
  · rw [hadmits site, hadmits other]
  · rw [h site, h other]
    rfl
  · rw [h site, h other]
    rfl

end Grammar

/-! ## Section 2: One top-level expression -/

section Validation

open Expression

/-- The checks of a bare symbol at top level fail as those of the same symbol in parentheses do,
but for the offset of a missing argument. -/
theorem runAll_parenthesised (grammar : Grammar) (symbol : String) :
    (∀ openAt symbolAt, Check.runAll grammar (programChecks [.call openAt symbolAt symbol []]) =
      Check.runAll grammar (programChecks [.name symbol symbolAt])) ∨
    ∃ parameter, grammar.Lacks symbol parameter ∧ ∀ openAt symbolAt,
      Check.runAll grammar (programChecks [.call openAt symbolAt symbol []]) =
        .error (.contract (Grammar.missingFault symbol parameter) openAt) ∧
      Check.runAll grammar (programChecks [.name symbol symbolAt]) =
        .error (.contract (Grammar.missingFault symbol parameter) symbolAt) := by
  have hcall : ∀ openAt symbolAt,
      programChecks [.call openAt symbolAt symbol []] =
        [.invocation symbol [] ⟨openAt, symbolAt, []⟩,
          .topLevel (.symbolic symbol []) openAt] := by
    intro openAt symbolAt
    simp [programChecks, checks, node, nodes, position]
  have hname : ∀ symbolAt, programChecks [.name symbol symbolAt] =
      [.topLevel (.symbolic symbol []) symbolAt] := by
    intro symbolAt
    simp [programChecks, checks, node, position]
  simp only [hcall, hname, Check.runAll, Check.run, Grammar.checkTopLevel]
  rcases grammar.checkInvocation_nil_cases symbol with
    hadmits | ⟨suggestion, hunknown⟩ | ⟨parameter, hlacks, hmissing⟩
  · refine .inl ?_
    intro openAt symbolAt
    rw [hadmits, hadmits, hadmits]
  · refine .inl ?_
    intro openAt symbolAt
    rw [hunknown, hunknown, hunknown]
    rfl
  · refine .inr ⟨parameter, hlacks, ?_⟩
    intro openAt symbolAt
    rw [hmissing, hmissing, hmissing]
    exact ⟨rfl, rfl⟩

/-- A program is validated expression by expression, and as a whole in the end. -/
theorem Grammar.validate_append (grammar : Grammar) (front : List Expression)
    (expression : Expression) (back : List Expression) :
    grammar.validate (front ++ expression :: back) =
      (Check.runAll grammar (programChecks front)).bind fun _ =>
        (Check.runAll grammar (programChecks [expression])).bind fun _ =>
          (Check.runAll grammar (programChecks back)).bind fun _ =>
            (grammar.checkConstraints (nodes (front ++ expression :: back))).bind fun _ =>
              .ok (nodes (front ++ expression :: back)) := by
  have hchecks : programChecks (front ++ expression :: back) =
      programChecks front ++ (programChecks [expression] ++ programChecks back) := by
    simp [programChecks]
  rw [validate, hchecks, Check.runAll_append, Check.runAll_append]
  cases Check.runAll grammar (programChecks front) with
  | error error => rfl
  | ok passed =>
      cases Check.runAll grammar (programChecks [expression]) with
      | error error => rfl
      | ok passed => rfl

/-- Around a symbol in parentheses, the rest of the program is validated as around the bare symbol. -/
theorem Grammar.validate_parenthesised (grammar : Grammar) (symbol : String)
    (front back : List Expression) :
    (∀ openAt symbolAt, grammar.validate (front ++ .call openAt symbolAt symbol [] :: back) =
      grammar.validate (front ++ .name symbol symbolAt :: back)) ∨
    ∃ parameter, grammar.Lacks symbol parameter ∧ ∀ openAt symbolAt,
      grammar.validate (front ++ .call openAt symbolAt symbol [] :: back) =
        .error (.contract (missingFault symbol parameter) openAt) ∧
      grammar.validate (front ++ .name symbol symbolAt :: back) =
        .error (.contract (missingFault symbol parameter) symbolAt) := by
  have hnodes : ∀ openAt symbolAt, nodes (front ++ .call openAt symbolAt symbol [] :: back) =
      nodes (front ++ .name symbol symbolAt :: back) := by
    intro openAt symbolAt
    simp [node, nodes]
  simp only [validate_append, hnodes]
  cases Check.runAll grammar (programChecks front) with
  | error error => exact .inl fun openAt symbolAt => rfl
  | ok passed =>
      rcases runAll_parenthesised grammar symbol with hsame | ⟨parameter, hlacks, hmissing⟩
      · refine .inl ?_
        intro openAt symbolAt
        rw [hsame]
      · refine .inr ⟨parameter, hlacks, ?_⟩
        intro openAt symbolAt
        obtain ⟨hcall, hname⟩ := hmissing openAt symbolAt
        rw [hcall, hname]
        exact ⟨rfl, rfl⟩

end Validation

/-! ## Section 3: Reading with and without the parentheses -/

/-- Three tokens are a symbol in parentheses. -/
structure Parenthesised (symbol : String) (opening name closing : Token) : Prop where
  opening_kind : opening.kind = .leftParen
  name_kind : name.kind = .identifier
  name_text : name.text = symbol
  closing_kind : closing.kind = .rightParen

section Reading

variable {symbol : String} {opening name closing : Token} {before after : List Token}
  {maxDepth : Nat}

theorem Parenthesised.beforeEnd_eq (h : Parenthesised symbol opening name closing)
    (after : List Token) :
    beforeEnd (opening :: name :: closing :: after) =
        opening :: name :: closing :: beforeEnd after ∧
      beforeEnd (name :: after) = name :: beforeEnd after := by
  have hname := @beforeEnd_cons name after (by simp [h.name_kind])
  refine ⟨?_, hname⟩
  rw [beforeEnd_cons _ (by simp [h.opening_kind]), beforeEnd_cons _ (by simp [h.name_kind]),
    beforeEnd_cons _ (by simp [h.closing_kind])]

/-- Behind an end mark nothing counts. -/
theorem parseTokens_behind_end (grammar? : Option Grammar)
    (hend : (beforeEnd before).length ≠ before.length) (first second : List Token) :
    parseTokens grammar? maxDepth (before ++ first) =
      parseTokens grammar? maxDepth (before ++ second) := by
  rw [← parseTokens_beforeEnd, ← parseTokens_beforeEnd grammar? maxDepth (before ++ second),
    beforeEnd_append_eq_ite, beforeEnd_append_eq_ite, if_neg hend, if_neg hend]

/-- What is accepted with the parentheses is accepted without them. -/
theorem Parenthesised.parseTokens_of_ok (h : Parenthesised symbol opening name closing)
    {grammar : Grammar} {nodes : List Node}
    (hparse : parseTokens (some grammar) maxDepth (before ++ opening :: name :: closing :: after) =
      .ok nodes) :
    parseTokens (some grammar) maxDepth (before ++ name :: after) = .ok nodes := by
  by_cases hend : (beforeEnd before).length = before.length
  · obtain ⟨program, hspells, hdepth, hvalidate⟩ := parseTokens_some_eq_ok_iff.1 hparse
    obtain ⟨hwrapped, hbare⟩ := h.beforeEnd_eq after
    rw [beforeEnd_append_eq_ite, if_pos hend, hwrapped] at hspells
    obtain ⟨program', hunwraps, hspells'⟩ :=
      hspells.exists_unwraps h.opening_kind h.name_kind h.closing_kind
    refine parseTokens_some_eq_ok_iff.2 ⟨program', ?_, ?_, ?_⟩
    · rw [beforeEnd_append_eq_ite, if_pos hend, hbare]
      exact hspells'
    · exact Nat.le_trans hunwraps.nestingAll_le hdepth
    · exact Grammar.validate_of_unwraps hunwraps hvalidate
  · rw [← hparse]
    exact parseTokens_behind_end _ hend _ _

/-- At top level the parentheses cause no fault of the nesting, and hide none. -/
theorem Parenthesised.nestingScan_eq (h : Parenthesised symbol opening name closing)
    (hdepth : 1 ≤ maxDepth) (hlevel : openings before ≤ closings before) :
    nestingScan maxDepth [] (before ++ opening :: name :: closing :: after) =
      nestingScan maxDepth [] (before ++ name :: after) := by
  apply nestingScan_behind
  · intro token _ _
    simpa using hlevel
  · intro stack hstack
    simp only [List.length_nil] at hstack
    obtain rfl : stack = [] := List.length_eq_zero_iff.1 (by omega)
    rw [nestingScan_enter h.opening_kind h.name_kind hdepth, nestingScan_closing h.closing_kind,
      nestingScan_other (by simp [h.name_kind]) (by simp [h.name_kind])]

/-- A program with a bare symbol at top level consists of what is in front of it and behind it. -/
theorem exists_around_of_spells (hname : name.kind = .identifier)
    (hlevel : openings before ≤ closings before) {program : List Expression}
    (h : Spells (before ++ name :: after) program) :
    ∃ front back, Spells before front ∧ Spells after back ∧
      program = front ++ .name name.text name.start :: back := by
  rcases h.split_or_open with ⟨front, rest, rfl, hfront, hrest⟩ | hopen
  · cases hrest with
    | comma hkind _ => cases hname.symm.trans hkind
    | atom hatom hback =>
        rw [Token.atom?, hname] at hatom
        cases hatom
        exact ⟨front, _, hfront, hback, rfl⟩
    | call hopening _ _ _ _ => cases hname.symm.trans hopening
  · omega

/-- Between two programs, the symbol is validated as an expression of its own. -/
theorem Parenthesised.parseTokens_between (h : Parenthesised symbol opening name closing)
    (hdepth : 1 ≤ maxDepth) {front back : List Expression} (hfront : Spells before front)
    (hback : Spells (beforeEnd after) back)
    (hnesting : Expression.nestingAll (front ++ back) ≤ maxDepth) (grammar : Grammar) :
    parseTokens (some grammar) maxDepth (before ++ opening :: name :: closing :: after) =
        grammar.validate (front ++ .call opening.start name.start symbol [] :: back) ∧
      parseTokens (some grammar) maxDepth (before ++ name :: after) =
        grammar.validate (front ++ .name symbol name.start :: back) := by
  obtain ⟨hwrapped, hbare⟩ := h.beforeEnd_eq after
  obtain rfl := h.name_text
  have hatom : name.atom? = some (.name name.text name.start) := by
    rw [Token.atom?, h.name_kind]
  rw [Expression.nestingAll_append] at hnesting
  constructor
  · apply parseTokens_eq_validate
    · rw [hfront.beforeEnd_append, hwrapped]
      exact hfront.append (.call h.opening_kind h.name_kind h.closing_kind .nil hback)
    · simp only [Expression.nestingAll_append, Expression.nestingAll, Expression.nesting]
      omega
  · apply parseTokens_eq_validate
    · rw [hfront.beforeEnd_append, hbare]
      exact hfront.append (.atom hatom hback)
    · simp only [Expression.nestingAll_append, Expression.nestingAll, Expression.nesting]
      omega

/-- Where the tokens around the symbol are no two programs, there is a fault of the nesting, and the
parentheses have no part in it. -/
theorem Parenthesised.readProgram_eq (h : Parenthesised symbol opening name closing)
    (hdepth : 1 ≤ maxDepth) (hlevel : openings before ≤ closings before)
    (hend : (beforeEnd before).length = before.length)
    (hnone : ¬ ∃ front back, Spells before front ∧ Spells (beforeEnd after) back ∧
      Expression.nestingAll (front ++ back) ≤ maxDepth) :
    readProgram maxDepth (before ++ opening :: name :: closing :: after) =
      readProgram maxDepth (before ++ name :: after) := by
  obtain ⟨hwrapped, hbare⟩ := h.beforeEnd_eq after
  have hbeforeEnd : ∀ tokens, beforeEnd (before ++ tokens) = before ++ beforeEnd tokens := by
    intro tokens
    rw [beforeEnd_append_eq_ite, if_pos hend]
  cases hread : readProgram maxDepth (before ++ name :: after) with
  | ok program =>
      obtain ⟨hspells, hnesting⟩ := readProgram_eq_ok_iff.1 hread
      rw [hbeforeEnd, hbare] at hspells
      obtain ⟨front, back, hfront, hback, rfl⟩ :=
        exists_around_of_spells h.name_kind hlevel hspells
      refine absurd ⟨front, back, hfront, hback, ?_⟩ hnone
      simp only [Expression.nestingAll_append, Expression.nestingAll] at hnesting ⊢
      omega
  | error error =>
      rw [readProgram_error_iff, hbeforeEnd, hbare] at hread
      rw [readProgram_error_iff, hbeforeEnd, hwrapped, h.nestingScan_eq hdepth hlevel, hread]

/-- At top level a symbol is parsed in parentheses as it is without them, up to the offset of a
missing argument. -/
theorem parseTokens_parenthesised_cases (grammar : Grammar) (symbol : String)
    (hdepth : 1 ≤ maxDepth) (hlevel : openings before ≤ closings before) :
    (∀ opening name closing, Parenthesised symbol opening name closing →
      parseTokens (some grammar) maxDepth (before ++ opening :: name :: closing :: after) =
        parseTokens (some grammar) maxDepth (before ++ name :: after)) ∨
    ∃ parameter, grammar.Lacks symbol parameter ∧
      ∀ opening name closing, Parenthesised symbol opening name closing →
        parseTokens (some grammar) maxDepth (before ++ opening :: name :: closing :: after) =
          .error (.contract (Grammar.missingFault symbol parameter) opening.start) ∧
        parseTokens (some grammar) maxDepth (before ++ name :: after) =
          .error (.contract (Grammar.missingFault symbol parameter) name.start) := by
  by_cases hprogram : ∃ front back, Spells before front ∧ Spells (beforeEnd after) back ∧
      Expression.nestingAll (front ++ back) ≤ maxDepth
  · obtain ⟨front, back, hfront, hback, hnesting⟩ := hprogram
    rcases grammar.validate_parenthesised symbol front back with hsame | ⟨parameter, hlacks, hboth⟩
    · refine .inl ?_
      intro opening name closing h
      obtain ⟨hwrapped, hbare⟩ := h.parseTokens_between hdepth hfront hback hnesting grammar
      rw [hwrapped, hbare, hsame]
    · refine .inr ⟨parameter, hlacks, ?_⟩
      intro opening name closing h
      obtain ⟨hwrapped, hbare⟩ := h.parseTokens_between hdepth hfront hback hnesting grammar
      rw [hwrapped, hbare]
      exact hboth opening.start name.start
  · refine .inl ?_
    intro opening name closing h
    by_cases hend : (beforeEnd before).length = before.length
    · rw [parseTokens_eq_validateWith, parseTokens_eq_validateWith,
        h.readProgram_eq hdepth hlevel hend hprogram]
    · exact parseTokens_behind_end _ hend _ _

end Reading

/-- Parentheses around a symbol without arguments can be left out.  What is accepted with them is
accepted without them, as the same nodes, wherever they stand.  At top level, where a bare symbol
is an invocation too, the result is the same in all cases, whatever the tokens around the symbol
are, unless the symbol lacks an argument: that is reported at the parenthesis or else at the symbol.
So the check of a closing parenthesis and the check at top level agree but for the offset. -/
theorem parseTokens_parenthesised (grammar : Grammar) :
    (∀ maxDepth before after symbol opening name closing nodes,
      Parenthesised symbol opening name closing →
      parseTokens (some grammar) maxDepth (before ++ opening :: name :: closing :: after) =
        .ok nodes →
      parseTokens (some grammar) maxDepth (before ++ name :: after) = .ok nodes) ∧
    (∀ maxDepth before after symbol, 1 ≤ maxDepth → openings before ≤ closings before →
      (∀ opening name closing, Parenthesised symbol opening name closing →
        parseTokens (some grammar) maxDepth (before ++ opening :: name :: closing :: after) =
          parseTokens (some grammar) maxDepth (before ++ name :: after)) ∨
      ∃ parameter, grammar.Lacks symbol parameter ∧
        ∀ opening name closing, Parenthesised symbol opening name closing →
          parseTokens (some grammar) maxDepth (before ++ opening :: name :: closing :: after) =
            .error (.contract (Grammar.missingFault symbol parameter) opening.start) ∧
          parseTokens (some grammar) maxDepth (before ++ name :: after) =
            .error (.contract (Grammar.missingFault symbol parameter) name.start)) ∧
    ∀ symbol openAt symbolAt position,
      (grammar.checkInvocation symbol [] ⟨openAt, symbolAt, []⟩).mapError
          (Error.relocate fun _ => 0) =
        (grammar.checkTopLevel (.symbolic symbol []) position).mapError
          (Error.relocate fun _ => 0) := by
  refine ⟨?_, ?_, ?_⟩
  · intro maxDepth before after symbol opening name closing nodes h hparse
    exact h.parseTokens_of_ok hparse
  · intro maxDepth before after symbol hdepth hlevel
    exact parseTokens_parenthesised_cases grammar symbol hdepth hlevel
  · intro symbol openAt symbolAt position
    exact grammar.checkInvocation_nil_site symbol _ _

/-- A count that may lose its parentheses inside a query, and behind the query an operation that
lacks its table in parentheses as well as without them. -/
theorem parseTokens_parenthesised_query :
    let source : List Token :=
      [⟨.leftParen, "(", 0, 1⟩, ⟨.identifier, "Q", 1, 2⟩, ⟨.leftParen, "(", 3, 4⟩,
        ⟨.identifier, "F", 4, 5⟩, ⟨.identifier, "t", 6, 7⟩, ⟨.rightParen, ")", 7, 8⟩]
    let last : List Token := [⟨.rightParen, ")", 12, 13⟩]
    ∃ grammar, querySchema.compile = .ok grammar ∧
      parseTokens (some grammar) 2
          (source ++ ⟨.leftParen, "(", 9, 10⟩ :: ⟨.identifier, "C", 10, 11⟩ ::
            ⟨.rightParen, ")", 11, 12⟩ :: last) =
        .ok [.symbolic "Q" [.symbolic "F" [.ident "t"], .ident "C"]] ∧
      parseTokens (some grammar) 2 (source ++ ⟨.identifier, "C", 10, 11⟩ :: last) =
        .ok [.symbolic "Q" [.symbolic "F" [.ident "t"], .ident "C"]] ∧
      ∃ parameter, grammar.Lacks "F" parameter ∧
        parseTokens (some grammar) 2
            (source ++ last ++ ⟨.leftParen, "(", 14, 15⟩ :: ⟨.identifier, "F", 16, 17⟩ ::
              [⟨.rightParen, ")", 18, 19⟩]) =
          .error (.contract (Grammar.missingFault "F" parameter) 14) ∧
        parseTokens (some grammar) 2 (source ++ last ++ [⟨.identifier, "F", 16, 17⟩]) =
          .error (.contract (Grammar.missingFault "F" parameter) 16) := by
  intro source last
  have h : querySchema.compile.toOption.any (fun grammar =>
      parseTokens (some grammar) 2
          (source ++ ⟨.leftParen, "(", 9, 10⟩ :: ⟨.identifier, "C", 10, 11⟩ ::
            ⟨.rightParen, ")", 11, 12⟩ :: last) =
        .ok [.symbolic "Q" [.symbolic "F" [.ident "t"], .ident "C"]] ∧
      parseTokens (some grammar) 2
            (source ++ last ++ ⟨.leftParen, "(", 14, 15⟩ :: ⟨.identifier, "F", 16, 17⟩ ::
              [⟨.rightParen, ")", 18, 19⟩]) ≠
        parseTokens (some grammar) 2 (source ++ last ++ [⟨.identifier, "F", 16, 17⟩])) = true := by
    decide +kernel
  obtain ⟨grammar, hcompile, hresult⟩ := Schema.exists_compile_of_any h
  obtain ⟨hcount, hdiffer⟩ := of_decide_eq_true hresult
  obtain ⟨haccepted, htop, -⟩ := parseTokens_parenthesised grammar
  have hbare := haccepted 2 source last "C" _ ⟨.identifier, "C", 10, 11⟩ _ _
    ⟨rfl, rfl, rfl, rfl⟩ hcount
  refine ⟨grammar, hcompile, hcount, hbare, ?_⟩
  rcases htop 2 (source ++ last) [] "F" (by decide) (by decide) with
    hsame | ⟨parameter, hlacks, hboth⟩
  · exact absurd (hsame _ _ _ ⟨rfl, rfl, rfl, rfl⟩) hdiffer
  · exact ⟨parameter, hlacks, hboth _ _ _ ⟨rfl, rfl, rfl, rfl⟩⟩

/-- Among arguments the parentheses make a difference: a bare symbol lacks nothing there. -/
example : querySchema.compile.toOption.any (fun grammar =>
    parseTokens (some grammar) 2
        [⟨.leftParen, "(", 0, 1⟩, ⟨.identifier, "Q", 1, 2⟩, ⟨.identifier, "F", 3, 4⟩,
          ⟨.rightParen, ")", 4, 5⟩] =
      .ok [.symbolic "Q" [.ident "F"]] ∧
    parseTokens (some grammar) 2
        [⟨.leftParen, "(", 0, 1⟩, ⟨.identifier, "Q", 1, 2⟩, ⟨.leftParen, "(", 3, 4⟩,
          ⟨.identifier, "F", 4, 5⟩, ⟨.rightParen, ")", 5, 6⟩, ⟨.rightParen, ")", 6, 7⟩] =
      .error (.contract (.missingParameter "F" "table") 3)) = true := by
  decide +kernel

end SexpContract
