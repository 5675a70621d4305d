import SexpContract.Proofs.RoundTrip
import SexpContract.Proofs.TwoPhase

/-!
# Accepted Programs

What a grammar guarantees of the programs that it accepts, said of the nodes alone
(`Grammar.Meets`).  The checks of a program make up what is guaranteed (`meets_of_validate`), and
for canonical expressions nothing else is checked (`validate_of_meets`), so the guarantee decides
whether the written form of a program is accepted (`parse_renderProgram_iff_meets`).
-/

namespace SexpContract

/-! ## Section 1: The guarantee -/

/-- The nodes of a program keep the contracts of a grammar: each symbol with arguments, however
deep, each symbol at top level, and the program as a whole. -/
structure Grammar.Meets (grammar : Grammar) (nodes : List Node) : Prop where
  nested : ∀ node ∈ nodes, ∀ symbol args, .symbolic symbol args ∈ node.walk → args ≠ [] →
    grammar.Admits symbol args
  topLevel : ∀ symbol args, .symbolic symbol args ∈ nodes → grammar.Admits symbol args
  roots : grammar.checkConstraints nodes = .ok ()

theorem Node.self_mem_walk (node : Node) : node ∈ node.walk := by
  cases node with
  | literal kind value => exact List.mem_cons_self
  | symbolic symbol args => exact List.mem_cons_self

/-! ## Section 2: Checks and parts -/

namespace Expression

/-- Every part with arguments was in parentheses and so was checked. -/
theorem exists_check (expression : Expression) {symbol : String} {args : List Node}
    (hpart : .symbolic symbol args ∈ expression.node.walk) (hne : args ≠ []) :
    ∃ site, .invocation symbol args site ∈ expression.checks := by
  -- On the expression: a part of a call is the call itself or a part of one of its arguments.
  induction expression using Expression.inductionOn with
  | hliteral kind value position => simp [node, Node.walk] at hpart
  | hname name position =>
      -- A bare symbol has no arguments, so the node forgets only what is not asked for here.
      simp only [node, Node.walk, Node.walkList, List.mem_singleton, Node.symbolic.injEq] at hpart
      exact absurd hpart.2 hne
  | hcall openAt symbolAt name inner ih =>
      simp only [node, nodes_eq_map, Node.walk, Node.walkList_eq_flatMap, List.mem_cons,
        List.mem_flatMap, List.mem_map] at hpart
      rw [checks, checksAll_eq_flatMap, nodes_eq_map]
      rcases hpart with hself | ⟨_, ⟨arg, harg, rfl⟩, hpart⟩
      · obtain ⟨rfl, rfl⟩ := Node.symbolic.inj hself
        exact ⟨_, List.mem_append_right _ List.mem_cons_self⟩
      · obtain ⟨site, hsite⟩ := ih arg harg hpart
        exact ⟨site, List.mem_append_left _ (List.mem_flatMap.2 ⟨arg, harg, hsite⟩)⟩

/-- In a canonical expression only the parts with arguments are checked. -/
theorem IsCanonical.exists_part {expression : Expression} (h : expression.IsCanonical)
    {check : Check} (hcheck : check ∈ expression.checks) :
    ∃ symbol args site, check = .invocation symbol args site ∧
      .symbolic symbol args ∈ expression.node.walk ∧ args ≠ [] := by
  induction h with
  | literal kind value position => simp [checks] at hcheck
  | name symbol position => simp [checks] at hcheck
  | @call openAt symbolAt symbol inner hne _ ih =>
      rw [checks, checksAll_eq_flatMap, List.mem_append, List.mem_flatMap] at hcheck
      rcases hcheck with ⟨arg, harg, hcheck⟩ | hself
      · obtain ⟨symbol, args, site, rfl, hpart, hargs⟩ := ih arg harg hcheck
        refine ⟨symbol, args, site, rfl, ?_, hargs⟩
        rw [node, Node.walk, Node.walkList_eq_flatMap]
        refine List.mem_cons_of_mem _ (List.mem_flatMap.2 ⟨arg.node, ?_, hpart⟩)
        exact mem_nodes.2 ⟨arg, harg, rfl⟩
      · rw [List.mem_singleton] at hself
        refine ⟨_, _, _, hself, Node.self_mem_walk _, ?_⟩
        rw [nodes_eq_map]
        exact fun hnil => hne (List.map_eq_nil_iff.1 hnil)

end Expression

/-! ## Section 3: Validation and the guarantee -/

theorem validate_eq_ok_iff {grammar : Grammar} {program : List Expression} {nodes : List Node} :
    grammar.validate program = .ok nodes ↔
      (∀ check ∈ Expression.programChecks program, check.run grammar = .ok ()) ∧
        grammar.checkConstraints nodes = .ok () ∧ Expression.nodes program = nodes := by
  rw [← Check.runAll_eq_ok_iff, Grammar.validate]
  cases Check.runAll grammar (Expression.programChecks program) with
  | error error => simp [bind, Except.bind]
  | ok passed =>
      cases hroots : grammar.checkConstraints (Expression.nodes program) with
      | error error =>
          simp only [bind, Except.bind, reduceCtorEq, true_and, false_iff, not_and]
          rintro hnodes rfl
          cases hroots.symm.trans hnodes
      | ok passed =>
          simp only [bind, Except.bind, Except.ok.injEq, true_and]
          constructor
          · intro hnodes
            subst hnodes
            exact ⟨hroots, rfl⟩
          · intro h
            exact h.2

/-- A validated program keeps the contracts. -/
theorem meets_of_validate {grammar : Grammar} {program : List Expression} {nodes : List Node}
    (h : grammar.validate program = .ok nodes) : grammar.Meets nodes := by
  obtain ⟨hchecks, hroots, rfl⟩ := validate_eq_ok_iff.1 h
  -- Each part with arguments is among the checks, though at a site that the node has forgotten.
  have hnested : ∀ expression ∈ program, ∀ symbol args,
      .symbolic symbol args ∈ expression.node.walk → args ≠ [] → grammar.Admits symbol args := by
    intro expression hexpression symbol args hpart hne
    obtain ⟨site, hsite⟩ := expression.exists_check hpart hne
    have hpass : (Check.invocation symbol args site).run grammar = .ok () :=
      hchecks _ (List.mem_flatMap.2 ⟨expression, hexpression, List.mem_append_left _ hsite⟩)
    exact Grammar.admits_of_checkInvocation hpass
  refine ⟨?_, ?_, hroots⟩
  · intro node hnode
    obtain ⟨expression, hexpression, rfl⟩ := Expression.mem_nodes.1 hnode
    exact hnested expression hexpression
  · intro symbol args hnode
    obtain ⟨expression, hexpression, hnode⟩ := Expression.mem_nodes.1 hnode
    by_cases hne : args = []
    · -- A symbol on its own is checked once more at top level, in parentheses or not.
      subst hne
      have htop : (Check.topLevel expression.node expression.position).run grammar = .ok () :=
        hchecks _ (List.mem_flatMap.2 ⟨expression, hexpression, by simp⟩)
      exact Grammar.checkTopLevel_eq_ok_iff.1 htop symbol hnode
    · exact hnested expression hexpression symbol args (hnode ▸ Node.self_mem_walk _) hne

/-- Canonical expressions of nodes that keep the contracts are validated. -/
theorem validate_of_meets {grammar : Grammar} {program : List Expression}
    (hcanonical : ∀ expression ∈ program, expression.IsCanonical)
    (h : grammar.Meets (Expression.nodes program)) :
    grammar.validate program = .ok (Expression.nodes program) := by
  refine validate_eq_ok_iff.2 ⟨?_, h.roots, rfl⟩
  intro check hcheck
  obtain ⟨expression, hexpression, hcheck⟩ := List.mem_flatMap.1 hcheck
  have hnode : expression.node ∈ Expression.nodes program :=
    Expression.mem_nodes.2 ⟨expression, hexpression, rfl⟩
  -- A check belongs to a part inside the expression or to the expression at top level.
  rcases List.mem_append.1 hcheck with hinside | htop
  · obtain ⟨symbol, args, site, rfl, hpart, hne⟩ :=
      (hcanonical expression hexpression).exists_part hinside
    exact h.nested _ hnode symbol args hpart hne site
  · obtain rfl := List.mem_singleton.1 htop
    apply Grammar.checkTopLevel_eq_ok_iff.2
    intro symbol hsymbol
    exact h.topLevel symbol [] (hsymbol ▸ hnode)

/-! ## Section 4: Accepted sources -/

theorem meets_of_parse {grammar : Grammar} {maxDepth : Nat} {source : String} {nodes : List Node}
    (h : parse (some grammar) maxDepth source = .ok nodes) : grammar.Meets nodes := by
  obtain ⟨tokens, _, hparse⟩ := parse_eq_ok_iff.1 h
  obtain ⟨program, _, _, hvalidate⟩ := parseTokens_some_eq_ok_iff.1 hparse
  exact meets_of_validate hvalidate

/-- With or without a grammar, the nodes that are returned are spelled by the tokens. -/
theorem exists_spells_of_parseTokens {grammar? : Option Grammar} {maxDepth : Nat}
    {tokens : List Token} {nodes : List Node}
    (h : parseTokens grammar? maxDepth tokens = .ok nodes) :
    ∃ program, Spells (beforeEnd tokens) program ∧ Expression.nestingAll program ≤ maxDepth ∧
      Expression.nodes program = nodes := by
  cases grammar? with
  | none =>
      obtain ⟨program, hspells, hdepth, rfl⟩ := parseTokens_none_eq_ok_iff.1 h
      exact ⟨program, hspells, hdepth, rfl⟩
  | some grammar =>
      obtain ⟨program, hspells, hdepth, hvalidate⟩ := parseTokens_some_eq_ok_iff.1 h
      exact ⟨program, hspells, hdepth, (validate_eq_ok_iff.1 hvalidate).2.2⟩

/-- What a grammar accepts is read without it just the same. -/
theorem parse_none_of_parse_some {grammar : Grammar} {maxDepth : Nat} {source : String}
    {nodes : List Node} (h : parse (some grammar) maxDepth source = .ok nodes) :
    parse none maxDepth source = .ok nodes := by
  obtain ⟨tokens, htokens, hparse⟩ := parse_eq_ok_iff.1 h
  obtain ⟨program, hspells, hdepth, rfl⟩ := exists_spells_of_parseTokens hparse
  refine parse_eq_ok_iff.2 ⟨tokens, htokens, ?_⟩
  exact parseTokens_none_eq_ok_iff.2 ⟨program, hspells, hdepth, rfl⟩

/-- A program that can be written and is not too deep is accepted in its written form exactly when
it keeps the contracts. -/
theorem parse_renderProgram_iff_meets {grammar : Grammar} {maxDepth : Nat} {nodes : List Node}
    (h : ∀ node ∈ nodes, node.IsLexical ∧ node.depth ≤ maxDepth + 1) :
    parse (some grammar) maxDepth (renderProgram nodes) = .ok nodes ↔ grammar.Meets nodes := by
  constructor
  · exact meets_of_parse
  intro hmeets
  obtain ⟨tokens, program, htokens, hspells, rfl, hcanonical⟩ :=
    tokenize_renderProgram fun node hnode => (h node hnode).1
  refine parse_eq_ok_iff.2 ⟨tokens, htokens, ?_⟩
  refine parseTokens_some_eq_ok_iff.2 ⟨program, hspells, ?_, validate_of_meets hcanonical hmeets⟩
  rw [Expression.nestingAll_le_iff_depth hcanonical]
  exact fun node hnode => (h node hnode).2

/-- The programs that a compiled grammar accepts are those that keep its contracts.  An accepted
program keeps them, its checked symbols are defined and not reserved, and its first node has every
demanded root; a program that can be written and is not too deep is accepted in its written form
exactly when it keeps them; and so what is accepted is accepted again when it is written anew. -/
theorem parse_meets {schema : Schema} {grammar : Grammar}
    (hcompile : schema.compile = .ok grammar) (maxDepth : Nat) :
    (∀ source nodes, parse (some grammar) maxDepth source = .ok nodes →
      grammar.Meets nodes ∧
      (∀ node ∈ nodes, ∀ symbol args, .symbolic symbol args ∈ node.walk →
        args ≠ [] ∨ .symbolic symbol args ∈ nodes →
        grammar.hasSymbol symbol = true ∧ grammar.isReserved symbol = false) ∧
      ∀ constraint ∈ grammar.schema.constraints,
        nodes.head?.bind Node.symbol? = some constraint.root) ∧
    (∀ nodes, (∀ node ∈ nodes, node.IsLexical ∧ node.depth ≤ maxDepth + 1) →
      (parse (some grammar) maxDepth (renderProgram nodes) = .ok nodes ↔
        grammar.Meets nodes)) ∧
    (∀ source nodes, parse (some grammar) maxDepth source = .ok nodes →
      parse (some grammar) maxDepth (renderProgram nodes) = .ok nodes) := by
  refine ⟨?_, fun nodes h => parse_renderProgram_iff_meets h, ?_⟩
  · intro source nodes h
    have hmeets := meets_of_parse h
    refine ⟨hmeets, ?_, Grammar.root_of_checkRoots hmeets.roots⟩
    intro node hnode symbol args hpart hchecked
    have hadmits : grammar.Admits symbol args := by
      rcases hchecked with hne | htop
      · exact hmeets.nested node hnode symbol args hpart hne
      · exact hmeets.topLevel symbol args htop
    -- An admitted symbol has a contract, and compiling refuses contracts of reserved names.
    obtain ⟨contract, hcontract⟩ := hadmits.exists_contract
    refine ⟨?_, Grammar.isReserved_of_compile hcompile hcontract⟩
    exact Option.isSome_of_mem hcontract
  · intro source nodes h
    -- What is accepted is read without the grammar, and what is read can be written.
    have hnodes := isLexical_of_parse (parse_none_of_parse_some h)
    exact (parse_renderProgram_iff_meets hnodes).2 (meets_of_parse h)

/-- A query with a count in parentheses that its written form does without. -/
theorem parse_meets_query : ∃ grammar, querySchema.compile = .ok grammar ∧
    parse (some grammar) 8 "(Q (F sales, s) (C))" =
      .ok [.symbolic "Q" [.symbolic "F" [.ident "sales", .ident "s"], .ident "C"]] ∧
    grammar.Meets [.symbolic "Q" [.symbolic "F" [.ident "sales", .ident "s"], .ident "C"]] ∧
    parse (some grammar) 8 (renderProgram
        [.symbolic "Q" [.symbolic "F" [.ident "sales", .ident "s"], .ident "C"]]) =
      .ok [.symbolic "Q" [.symbolic "F" [.ident "sales", .ident "s"], .ident "C"]] := by
  have h : querySchema.compile.toOption.any (fun grammar =>
      (parse (some grammar) 8 "(Q (F sales, s) (C))").toOption =
        some [.symbolic "Q" [.symbolic "F" [.ident "sales", .ident "s"], .ident "C"]]) = true := by
    decide +kernel
  obtain ⟨grammar, hcompile, hresult⟩ := Schema.exists_compile_of_any h
  have hparse := parse_eq_ok_of_toOption (of_decide_eq_true hresult)
  obtain ⟨haccepted, hwritten, -⟩ := parse_meets hcompile 8
  have hmeets := (haccepted _ _ hparse).1
  have hnodes := isLexical_of_parse (parse_none_of_parse_some hparse)
  exact ⟨grammar, hcompile, hparse, hmeets, (hwritten _ hnodes).2 hmeets⟩

end SexpContract
