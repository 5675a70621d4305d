import SexpContract.Proofs.Compilation
import SexpContract.Proofs.Invocation
import SexpContract.Proofs.Reading
import SexpContract.Proofs.Scanning

/-!
# Two Phases

Reading with a grammar checks each expression as it closes and holds the first failure back.  That
is the same as reading without a grammar and validating afterwards: a broken nesting is reported
whatever the grammar says (`parseFrom_structural`), and a sound program is exactly validated
(`parseTokens_eq_validate`).  So each stage of reading has the say before the next one.
-/

namespace SexpContract

/-! ## Section 1: The stack does not depend on the grammar -/

namespace State

theorem frames_add (state : State) (grammar? : Option Grammar) (node : Node) (position : Nat) :
    (state.add grammar? node position).frames =
      state.frames.modifyHead fun frame => frame.add node position := by
  obtain ⟨frames, nodes, rejection⟩ := state
  cases frames with
  | nil =>
      rw [add_nil]
      rfl
  | cons frame outer => rfl

/-- States with the same open expressions close the same one. -/
theorem exists_close? {state other closed : State} {grammar? : Option Grammar}
    (hframes : other.frames = state.frames) (hclose : state.close? grammar? = some closed)
    (grammar?' : Option Grammar) :
    ∃ closed', other.close? grammar?' = some closed' ∧ closed'.frames = closed.frames := by
  obtain ⟨frames, nodes, rejection⟩ := state
  obtain ⟨frames', nodes', rejection'⟩ := other
  cases hframes
  cases frames with
  | nil => simp [close?] at hclose
  | cons frame outer =>
      rw [close?_cons] at hclose
      obtain rfl := Option.some.inj hclose
      exact ⟨_, close?_cons .., by rw [frames_add, frames_add]⟩

theorem rejection_add_none (state : State) (node : Node) (position : Nat) :
    (state.add none node position).rejection = state.rejection := by
  obtain ⟨frames, nodes, rejection⟩ := state
  cases frames with
  | nil =>
      rw [add_nil]
      exact heldAll_none rejection [.topLevel node position]
  | cons frame outer => rfl

theorem rejection_read_none (state : State) (expression : Expression) :
    (state.read none expression).rejection = state.rejection := by
  rw [read, rejection_add_none]
  exact heldAll_none state.rejection expression.checks

theorem rejection_close?_none {state closed : State} (h : state.close? none = some closed) :
    closed.rejection = state.rejection := by
  obtain ⟨frames, nodes, rejection⟩ := state
  cases frames with
  | nil => simp [close?] at h
  | cons frame outer =>
      rw [close?_cons] at h
      obtain rfl := Option.some.inj h
      rw [rejection_add_none]
      exact heldAll_none rejection [_]

end State

/-! ## Section 2: A broken nesting comes first -/

/-- What fails without a grammar fails in its nesting, and fails in the same way with any grammar
and whatever was held back. -/
theorem parseFrom_structural {maxDepth : Nat} {state : State} {tokens : List Token}
    {error : Error} (hrejection : state.rejection = none)
    (h : parseFrom none maxDepth state tokens = .error error) :
    (∃ fault position, error = .structural fault position) ∧
      ∀ grammar? (other : State), other.frames = state.frames →
        parseFrom grammar? maxDepth other tokens = .error error := by
  -- In lockstep: the two states keep the same open expressions, and only these decide the steps.
  -- Without a grammar nothing is held back, so that the one error left is that of the nesting.
  induction state, tokens using parseFrom_induction none maxDepth with
  | ended state tokens hend =>
      rw [parseFrom_ended _ _ _ hend] at h
      obtain ⟨frames, nodes, rejection⟩ := state
      cases hrejection
      cases frames with
      | nil => cases h
      | cons frame outer =>
          obtain rfl := Except.error.inj h
          refine ⟨⟨_, _, rfl⟩, ?_⟩
          intro grammar? other hframes
          rw [parseFrom_ended _ _ _ hend, State.finish, hframes]
  | comma state token rest hkind ih =>
      rw [parseFrom_comma _ _ _ hkind] at h
      obtain ⟨hfault, hother⟩ := ih hrejection h
      refine ⟨hfault, ?_⟩
      intro grammar? other hframes
      rw [parseFrom_comma _ _ _ hkind, hother grammar? other hframes]
  | atom state token rest expression hatom ih =>
      rw [parseFrom_atom _ _ _ hatom] at h
      obtain ⟨hfault, hother⟩ := ih (by rw [State.rejection_read_none, hrejection]) h
      refine ⟨hfault, ?_⟩
      intro grammar? other hframes
      rw [parseFrom_atom _ _ _ hatom]
      apply hother grammar? _
      rw [State.read, State.read, State.frames_add, State.frames_add, hframes]
  | close state token rest closed hkind hclose ih =>
      rw [parseFrom_close _ _ _ hkind hclose] at h
      obtain ⟨hfault, hother⟩ := ih (by rw [State.rejection_close?_none hclose, hrejection]) h
      refine ⟨hfault, ?_⟩
      intro grammar? other hframes
      obtain ⟨closed', hclose', hclosed⟩ := State.exists_close? hframes hclose grammar?
      rw [parseFrom_close _ _ _ hkind hclose', hother grammar? closed' hclosed]
  | enter state token name rest hkind hname hdepth ih =>
      rw [parseFrom_enter _ _ _ hkind hname hdepth] at h
      obtain ⟨hfault, hother⟩ := ih hrejection h
      refine ⟨hfault, ?_⟩
      intro grammar? other hframes
      rw [parseFrom_enter _ _ _ hkind hname (by rw [hframes]; exact hdepth)]
      exact hother grammar? _ (by rw [State.enter, State.enter, hframes])
  | fails state tokens fault position hfails =>
      rw [hfails _ _ rfl] at h
      obtain rfl := Except.error.inj h
      exact ⟨⟨_, _, rfl⟩, fun grammar? other hframes => hfails _ _ (by rw [hframes])⟩

/-! ## Section 3: A sound nesting is validated -/

theorem finish_eq_validate (grammar : Grammar) (program : List Expression) :
    State.finish ⟨[], (program.map Expression.node).reverse,
        heldAll (some grammar) none (Expression.programChecks program)⟩ (some grammar) =
      grammar.validate program := by
  -- The first failure held back on the way is the first failure of the checks in a row.
  rw [Grammar.validate, runAll_eq_heldAll, Expression.nodes_eq_map]
  cases hheld : heldAll (some grammar) none (Expression.programChecks program) with
  | some error => rfl
  | none =>
      cases hroot : grammar.checkConstraints (program.map Expression.node) with
      | error error => simp [State.finish, State.check, hroot, bind, Except.bind]
      | ok done => simp [State.finish, State.check, hroot, bind, Except.bind]

/-- Reading a spelled program with a grammar validates it. -/
theorem parseTokens_eq_validate {tokens : List Token} {program : List Expression}
    (h : Spells (beforeEnd tokens) program) (grammar : Grammar) {maxDepth : Nat}
    (hdepth : Expression.nestingAll program ≤ maxDepth) :
    parseTokens (some grammar) maxDepth tokens = grammar.validate program := by
  rw [parseTokens_spells h _ hdepth, finish_eq_validate]

/-- With a grammar, exactly the validated programs are read. -/
theorem parseTokens_some_eq_ok_iff {grammar : Grammar} {tokens : List Token} {maxDepth : Nat}
    {nodes : List Node} :
    parseTokens (some grammar) maxDepth tokens = .ok nodes ↔
      ∃ program, Spells (beforeEnd tokens) program ∧ Expression.nestingAll program ≤ maxDepth ∧
        grammar.validate program = .ok nodes := by
  constructor
  · intro h
    -- A broken nesting would have been reported with the grammar as well.
    cases hstructure : parseTokens none maxDepth tokens with
    | error error =>
        obtain ⟨_, hother⟩ := parseFrom_structural rfl hstructure
        cases h.symm.trans (hother (some grammar) .start rfl)
    | ok nodes' =>
        obtain ⟨program, hspells, hdepth, _⟩ := parseTokens_none_eq_ok_iff.1 hstructure
        rw [parseTokens_eq_validate hspells grammar hdepth] at h
        exact ⟨program, hspells, hdepth, h⟩
  · rintro ⟨program, hspells, hdepth, h⟩
    rw [parseTokens_eq_validate hspells grammar hdepth, h]

/-! ## Section 4: One stage after the other -/

theorem runAll_error {grammar : Grammar} {checks : List Check} {error : Error}
    (h : Check.runAll grammar checks = .error error) :
    ∃ fault position, error = .contract fault position := by
  obtain ⟨check, _, hcheck⟩ := Check.exists_of_runAll h
  cases check with
  | invocation symbol args site => exact Grammar.checkInvocation_error hcheck
  | topLevel node position => exact Grammar.checkTopLevel_error hcheck

/-- Validation keeps the program as it is or fails with a semantic error. -/
theorem validate_cases (grammar : Grammar) (program : List Expression) :
    grammar.validate program = .ok (Expression.nodes program) ∨
      ∃ error, grammar.validate program = .error error ∧ error.category = .semantic := by
  rw [Grammar.validate]
  -- The checks come first, the constraints on the whole program after them.
  cases hrun : Check.runAll grammar (Expression.programChecks program) with
  | error error =>
      obtain ⟨fault, position, rfl⟩ := runAll_error hrun
      exact Or.inr ⟨_, rfl, rfl⟩
  | ok passed =>
      -- All checks have passed, so that the constraints decide.
      cases hroots : grammar.checkConstraints (Expression.nodes program) with
      | error error =>
          obtain ⟨expected, found, rfl⟩ := Grammar.checkRoots_error hroots
          exact Or.inr ⟨_, rfl, rfl⟩
      | ok passed => exact Or.inl rfl

/-- Reading with a grammar is reading without one, then validating in closing order.  So a lexical
error comes before any other, an error in the nesting before any broken contract, and validation
never changes the program that is read. -/
theorem parse_two_phase (grammar : Grammar) (maxDepth : Nat) :
    (∀ tokens,
      (∀ error, parseTokens none maxDepth tokens = .error error →
        error.category = .syntactic ∧
          parseTokens (some grammar) maxDepth tokens = .error error) ∧
      (∀ nodes, parseTokens none maxDepth tokens = .ok nodes →
        ∃ program, (∀ other, Spells (beforeEnd tokens) other ↔ other = program) ∧
          Expression.nodes program = nodes ∧
          parseTokens (some grammar) maxDepth tokens = grammar.validate program)) ∧
    (∀ source,
      (∀ error, tokenize source = .error error →
        error.category = .lexical ∧
          ∀ grammar?, parse grammar? maxDepth source = .error error) ∧
      (∀ tokens error, tokenize source = .ok tokens →
        parseTokens none maxDepth tokens = .error error →
        error.category = .syntactic ∧ parse (some grammar) maxDepth source = .error error) ∧
      (∀ nodes, parse none maxDepth source = .ok nodes →
        parse (some grammar) maxDepth source = .ok nodes ∨
          ∃ error, parse (some grammar) maxDepth source = .error error ∧
            error.category = .semantic)) := by
  -- The tokens of a source and any others are treated alike.
  have hsyntactic : ∀ tokens error, parseTokens none maxDepth tokens = .error error →
      error.category = .syntactic ∧
        parseTokens (some grammar) maxDepth tokens = .error error := by
    intro tokens error h
    obtain ⟨⟨fault, position, rfl⟩, hother⟩ := parseFrom_structural rfl h
    exact ⟨rfl, hother (some grammar) .start rfl⟩
  refine ⟨fun tokens => ⟨hsyntactic tokens, ?_⟩, fun source => ⟨?_, ?_, ?_⟩⟩
  · intro nodes h
    -- What is read without a grammar is spelled, and there is one program only that it spells.
    obtain ⟨program, hspells, hdepth, rfl⟩ := parseTokens_none_eq_ok_iff.1 h
    refine ⟨program, fun other => ⟨fun hother => hother.unique hspells, ?_⟩, rfl,
      parseTokens_eq_validate hspells grammar hdepth⟩
    rintro rfl
    exact hspells
  · intro error h
    -- Without tokens there is nothing that a grammar could look at.
    obtain ⟨fault, position, rfl⟩ := tokenize_error h
    refine ⟨rfl, ?_⟩
    intro grammar?
    rw [parse, h]
    rfl
  · intro tokens error htokens h
    refine ⟨(hsyntactic tokens error h).1, ?_⟩
    rw [parse, htokens]
    exact (hsyntactic tokens error h).2
  · intro nodes h
    obtain ⟨tokens, htokens, hparse⟩ := parse_eq_ok_iff.1 h
    obtain ⟨program, hspells, hdepth, rfl⟩ := parseTokens_none_eq_ok_iff.1 hparse
    have hvalidate : parse (some grammar) maxDepth source = grammar.validate program := by
      rw [parse, htokens]
      exact parseTokens_eq_validate hspells grammar hdepth
    rw [hvalidate]
    exact validate_cases grammar program

/-- A parenthesis left open comes before an unknown symbol, which is reported once the parenthesis
is closed. -/
theorem parse_two_phase_query : ∃ grammar, querySchema.compile = .ok grammar ∧
    parseTokens (some grammar) 8
        [⟨.leftParen, "(", 0, 1⟩, ⟨.identifier, "X", 1, 2⟩, ⟨.identifier, "a", 3, 4⟩] =
      .error (.structural .unmatchedOpenParen 0) ∧
    parseTokens (some grammar) 8
        [⟨.leftParen, "(", 0, 1⟩, ⟨.identifier, "X", 1, 2⟩, ⟨.identifier, "a", 3, 4⟩,
          ⟨.rightParen, ")", 4, 5⟩] =
      .error (.contract (.unknownSymbol "X" (grammar.suggest? "X")) 1) := by
  obtain ⟨grammar, hcompile⟩ := querySchema_compiles
  have htokens := (parse_two_phase grammar 8).1
  refine ⟨grammar, hcompile, ((htokens _).1 _ rfl).2, ?_⟩
  obtain ⟨program, hspells, -, hvalidate⟩ :=
    (htokens [⟨.leftParen, "(", 0, 1⟩, ⟨.identifier, "X", 1, 2⟩, ⟨.identifier, "a", 3, 4⟩,
      ⟨.rightParen, ")", 4, 5⟩]).2 _ rfl
  have hprogram : [Expression.call 0 1 "X" [.name "a" 3]] = program :=
    (hspells _).1 (.call rfl rfl rfl (.atom rfl .nil) .nil)
  have hsymbol : grammar.symbol? "X" = none := by
    rw [Grammar.symbol?, Schema.schema_of_compile hcompile]
    rfl
  rw [hvalidate, ← hprogram]
  simp [Grammar.validate, Expression.programChecks, Expression.checks, Check.runAll, Check.run,
    Grammar.checkInvocation, hsymbol, bind, Except.bind]

end SexpContract
