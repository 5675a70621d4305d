import SexpContract.Program.Parse
import SexpContract.Proofs.Spelling

/-!
# Reading What Is Spelled

Reading steps through the tokens one by one, with the open expressions on a stack; spelling follows
the nesting.  Here the two are brought together.  Reading over a spelling adds its program to the
state (`parseFrom_spells`), unless its parentheses go too deep (`parseFrom_tooDeep`), and whatever
is read to the end was spelled (`parseTokens_none_eq_ok_iff`).
-/

namespace SexpContract

/-! ## Section 1: Held-back errors -/

/-- The error held back after one more check: the one held back before, if there is one. -/
def held (grammar? : Option Grammar) (rejection : Option Error) (check : Check) : Option Error :=
  match rejection, grammar? with
  | none, some grammar =>
      match check.run grammar with
      | .error error => some error
      | .ok () => none
  | rejection, _ => rejection

/-- The error held back after a list of checks. -/
def heldAll (grammar? : Option Grammar) (rejection : Option Error) (checks : List Check) :
    Option Error :=
  checks.foldl (held grammar?) rejection

theorem heldAll_cons (grammar? : Option Grammar) (rejection : Option Error) (check : Check)
    (rest : List Check) :
    heldAll grammar? rejection (check :: rest) =
      heldAll grammar? (held grammar? rejection check) rest := rfl

theorem heldAll_append (grammar? : Option Grammar) (rejection : Option Error)
    (first second : List Check) :
    heldAll grammar? rejection (first ++ second) =
      heldAll grammar? (heldAll grammar? rejection first) second :=
  List.foldl_append

theorem heldAll_concat (grammar? : Option Grammar) (rejection : Option Error)
    (checks : List Check) (check : Check) :
    heldAll grammar? rejection (checks ++ [check]) =
      held grammar? (heldAll grammar? rejection checks) check :=
  heldAll_append grammar? rejection checks [check]

/-- Without a grammar nothing is ever held back. -/
theorem heldAll_none (rejection : Option Error) (checks : List Check) :
    heldAll none rejection checks = rejection := by
  induction checks with
  | nil => rfl
  | cons check rest ih => cases rejection <;> exact ih

/-- The error that is held back first stays. -/
theorem heldAll_some (grammar? : Option Grammar) (error : Error) (checks : List Check) :
    heldAll grammar? (some error) checks = some error := by
  induction checks with
  | nil => rfl
  | cons check rest ih => exact ih

/-- Holding back and failing at once agree on the first failure. -/
theorem runAll_eq_heldAll (grammar : Grammar) (checks : List Check) :
    Check.runAll grammar checks =
      match heldAll (some grammar) none checks with
      | some error => .error error
      | none => .ok () := by
  induction checks with
  | nil => rfl
  | cons check rest ih =>
      rw [heldAll_cons, Check.runAll]
      cases hrun : check.run grammar with
      | error error => simp [held, hrun, heldAll_some]
      | ok done => simpa [held, hrun] using ih

namespace State

theorem check_run (state : State) (grammar? : Option Grammar) (check : Check) :
    (state.check grammar? fun grammar => check.run grammar) =
      { state with rejection := held grammar? state.rejection check } := by
  obtain ⟨frames, nodes, rejection⟩ := state
  -- Once an error is held back, and without a grammar, neither side looks at the check.
  cases rejection with
  | some error => rfl
  | none =>
      cases grammar? with
      | none => rfl
      | some grammar => cases hrun : check.run grammar <;> simp [State.check, held, hrun]

/-! ## Section 2: Adding an expression -/

/-- The state after one more complete expression: its checks come first, then its node. -/
def read (grammar? : Option Grammar) (state : State) (expression : Expression) : State :=
  State.add { state with rejection := heldAll grammar? state.rejection expression.checks }
    grammar? expression.node expression.position

theorem add_nil (grammar? : Option Grammar) (nodes : List Node) (rejection : Option Error)
    (node : Node) (position : Nat) :
    State.add ⟨[], nodes, rejection⟩ grammar? node position =
      ⟨[], node :: nodes, held grammar? rejection (.topLevel node position)⟩ := by
  have hcheck := check_run ⟨[], nodes, rejection⟩ grammar? (.topLevel node position)
  simp only [Check.run] at hcheck
  simp only [State.add, hcheck]

theorem length_frames_add (state : State) (grammar? : Option Grammar) (node : Node)
    (position : Nat) : (state.add grammar? node position).frames.length = state.frames.length := by
  obtain ⟨frames, nodes, rejection⟩ := state
  cases frames with
  | nil => rw [add_nil]
  | cons frame outer => simp [State.add]

theorem length_frames_read (grammar? : Option Grammar) (state : State) (expression : Expression) :
    (state.read grammar? expression).frames.length = state.frames.length :=
  length_frames_add ..

/-- What expressions do inside an open expression: they become its arguments. -/
theorem foldl_read_frame (grammar? : Option Grammar) (program : List Expression) (frame : Frame)
    (outer : List Frame) (nodes : List Node) (rejection : Option Error) :
    program.foldl (read grammar?) ⟨frame :: outer, nodes, rejection⟩ =
      ⟨{ frame with
          args := (program.map Expression.node).reverse ++ frame.args
          argsAt := (program.map Expression.position).reverse ++ frame.argsAt } :: outer,
        nodes, heldAll grammar? rejection (Expression.checksAll program)⟩ := by
  induction program generalizing frame rejection with
  | nil => rfl
  | cons expression rest ih =>
      rw [List.foldl_cons, read, State.add, ih, Expression.checksAll, heldAll_append]
      simp [Frame.add]

/-- What expressions do at top level: they become part of the program. -/
theorem foldl_read_nil (grammar? : Option Grammar) (program : List Expression)
    (nodes : List Node) (rejection : Option Error) :
    program.foldl (read grammar?) ⟨[], nodes, rejection⟩ =
      ⟨[], (program.map Expression.node).reverse ++ nodes,
        heldAll grammar? rejection (Expression.programChecks program)⟩ := by
  induction program generalizing nodes rejection with
  | nil => rfl
  | cons expression rest ih =>
      rw [List.foldl_cons, read, add_nil, ih, ← heldAll_concat, ← heldAll_append]
      simp [Expression.programChecks]

theorem close?_cons (grammar? : Option Grammar) (frame : Frame) (outer : List Frame)
    (nodes : List Node) (rejection : Option Error) :
    State.close? ⟨frame :: outer, nodes, rejection⟩ grammar? =
      some (State.add ⟨outer, nodes, held grammar? rejection
          (.invocation frame.symbol frame.args.reverse frame.site)⟩
        grammar? frame.node frame.openAt) := by
  have hcheck := check_run ⟨outer, nodes, rejection⟩ grammar?
    (.invocation frame.symbol frame.args.reverse frame.site)
  simp only [Check.run] at hcheck
  simp only [close?, hcheck]

/-- Reading the arguments of an expression and closing it adds the expression. -/
theorem close?_foldl_read (grammar? : Option Grammar) (state : State) (openAt : Nat)
    (name : Token) (args : List Expression) :
    (args.foldl (read grammar?) (state.enter openAt name)).close? grammar? =
      some (state.read grammar? (.call openAt name.start name.text args)) := by
  obtain ⟨frames, nodes, rejection⟩ := state
  rw [enter, foldl_read_frame, close?_cons, read, Expression.checks, heldAll_concat]
  simp [Frame.site, Frame.node, Expression.node, Expression.position]

theorem close?_eq_none_iff (state : State) (grammar? : Option Grammar) :
    state.close? grammar? = none ↔ state.frames = [] := by
  obtain ⟨frames, nodes, rejection⟩ := state
  cases frames with
  | nil => simp [close?]
  | cons frame outer => simp [close?]

theorem length_frames_close? {state closed : State} {grammar? : Option Grammar}
    (h : state.close? grammar? = some closed) :
    state.frames.length = closed.frames.length + 1 := by
  obtain ⟨frames, nodes, rejection⟩ := state
  cases frames with
  | nil => simp [close?] at h
  | cons frame outer =>
      rw [close?_cons] at h
      obtain rfl := Option.some.inj h
      rw [length_frames_add, List.length_cons]

end State

/-! ## Section 3: One step of reading -/

section Steps

variable (grammar? : Option Grammar) {maxDepth : Nat} (state : State) {token : Token}
  (rest : List Token)

theorem parseFrom_comma (h : token.kind = .comma) :
    parseFrom grammar? maxDepth state (token :: rest) = parseFrom grammar? maxDepth state rest := by
  rw [parseFrom.eq_def]
  simp only [h]

theorem parseFrom_atom {expression : Expression} (h : token.atom? = some expression) :
    parseFrom grammar? maxDepth state (token :: rest) =
      parseFrom grammar? maxDepth (state.read grammar? expression) rest := by
  unfold Token.atom? at h
  rw [parseFrom.eq_def]
  split at h
  case h_4 => cases h
  all_goals
    rename_i hkind
    cases h
    simp only [hkind]
    rfl

theorem parseFrom_close (h : token.kind = .rightParen) {closed : State}
    (hclose : state.close? grammar? = some closed) :
    parseFrom grammar? maxDepth state (token :: rest) =
      parseFrom grammar? maxDepth closed rest := by
  rw [parseFrom.eq_def]
  simp only [h, hclose]

theorem parseFrom_deep (h : token.kind = .leftParen) (hdepth : maxDepth ≤ state.frames.length) :
    parseFrom grammar? maxDepth state (token :: rest) =
      .error (.structural (.maxDepthExceeded maxDepth) token.start) := by
  rw [parseFrom.eq_def]
  simp only [h, hdepth, if_true]

theorem parseFrom_enter {name : Token} (h : token.kind = .leftParen)
    (hname : name.kind = .identifier) (hdepth : state.frames.length < maxDepth) :
    parseFrom grammar? maxDepth state (token :: name :: rest) =
      parseFrom grammar? maxDepth (state.enter token.start name) rest := by
  rw [parseFrom.eq_def]
  simp only [h, hname, Nat.not_le.2 hdepth, if_false]

/-- Nothing is read past the first end mark. -/
theorem parseFrom_ended (h : beforeEnd rest = []) :
    parseFrom grammar? maxDepth state rest = state.finish grammar? := by
  cases rest with
  | nil => rw [parseFrom]
  | cons token rest =>
      by_cases hend : token.kind = .endOfInput
      · rw [parseFrom.eq_def]
        simp only [hend]
      · simp [beforeEnd_cons rest hend] at h

/-- Reading fails at the first of these tokens, whatever was held back and whatever grammar is in
force. -/
def FailsAt (maxDepth openCount : Nat) (tokens : List Token) (error : Error) : Prop :=
  ∀ (grammar? : Option Grammar) (state : State), state.frames.length = openCount →
    parseFrom grammar? maxDepth state tokens = .error error

variable (maxDepth) in
/-- Induction along the steps of reading.  Either the input has ended, or a token is read over, or
the nesting is broken there. -/
@[elab_as_elim]
theorem parseFrom_induction {motive : State → List Token → Prop} (tokens : List Token)
    (ended : ∀ state tokens, beforeEnd tokens = [] → motive state tokens)
    (comma : ∀ state token rest, token.kind = .comma → motive state rest →
      motive state (token :: rest))
    (atom : ∀ state token rest expression, token.atom? = some expression →
      motive (state.read grammar? expression) rest → motive state (token :: rest))
    (close : ∀ state token rest closed, token.kind = .rightParen →
      state.close? grammar? = some closed → motive closed rest → motive state (token :: rest))
    (enter : ∀ state token name rest, token.kind = .leftParen → name.kind = .identifier →
      state.frames.length < maxDepth → motive (state.enter token.start name) rest →
      motive state (token :: name :: rest))
    (fails : ∀ state tokens fault position,
      FailsAt maxDepth state.frames.length tokens (.structural fault position) →
      motive state tokens) : motive state tokens := by
  induction state, tokens using parseFrom.induct grammar? maxDepth with
  | case1 state => exact ended state [] rfl
  | case2 state token rest hkind => exact ended state _ (beforeEnd_end rest hkind)
  | case3 state token rest hkind ih => exact comma state token rest hkind ih
  | case4 state token rest hkind ih =>
      exact atom state token rest (.name token.text token.start) (by rw [Token.atom?, hkind]) ih
  | case5 state token rest hkind ih =>
      exact atom state token rest (.literal .string token.text token.start)
        (by rw [Token.atom?, hkind]) ih
  | case6 state token rest hkind ih =>
      exact atom state token rest (.literal .number token.text token.start)
        (by rw [Token.atom?, hkind]) ih
  | case7 state token rest hkind closed hclose ih =>
      exact close state token rest closed hkind hclose ih
  | case11 state token hkind hdepth name rest hname ih =>
      exact enter state token name rest hkind hname (Nat.lt_of_not_le hdepth) ih
  -- The other steps fail, and how they fail depends on the number of open expressions alone.
  | case8 state token rest hkind hclose =>
      apply fails state _ .unexpectedCloseParen token.start
      intro grammar? other hlength
      rw [(state.close?_eq_none_iff _).1 hclose] at hlength
      have hother := (other.close?_eq_none_iff grammar?).2 (List.length_eq_zero_iff.1 hlength)
      rw [parseFrom.eq_def]
      simp only [hkind, hother]
  | case9 state token rest hkind hdepth =>
      apply fails state _ (.maxDepthExceeded maxDepth) token.start
      intro grammar? other hlength
      exact parseFrom_deep _ _ _ hkind (by omega)
  | case10 state token hkind hdepth =>
      apply fails state _ .unmatchedOpenParen token.start
      intro grammar? other hlength
      rw [parseFrom.eq_def]
      simp [hkind, hlength, hdepth]
  | case12 state token hkind hdepth name rest hname =>
      apply fails state _ .emptyExpression token.start
      intro grammar? other hlength
      rw [parseFrom.eq_def]
      simp only [hkind, hname, hlength, hdepth, if_false]
  | case13 state token hkind hdepth name rest hname =>
      apply fails state _ .unmatchedOpenParen token.start
      intro grammar? other hlength
      rw [parseFrom.eq_def]
      simp only [hkind, hname, hlength, hdepth, if_false]
  | case14 state token hkind hdepth name rest hname hclose hend =>
      apply fails state _ (.expectedSymbol name.describe) token.start
      intro grammar? other hlength
      rw [parseFrom.eq_def]
      simp only [hkind, hlength, hdepth, if_false]

end Steps

/-! ## Section 4: Reading over a spelling -/

/-- Reading over a spelling adds its program, as long as the parentheses are not too deep. -/
theorem parseFrom_spells {tokens : List Token} {program : List Expression}
    (h : Spells tokens program) (grammar? : Option Grammar) {maxDepth : Nat} (state : State)
    (rest : List Token)
    (hdepth : state.frames.length + Expression.nestingAll program ≤ maxDepth) :
    parseFrom grammar? maxDepth state (tokens ++ rest) =
      parseFrom grammar? maxDepth (program.foldl (State.read grammar?) state) rest := by
  -- Reading an expression leaves the stack as high as it was, so the bound on the depth carries
  -- over from each part of the spelling to the next.
  induction h generalizing state rest with
  | nil => rfl
  | comma hkind _ ih =>
      rw [List.cons_append, parseFrom_comma _ _ _ hkind]
      exact ih state rest hdepth
  | @atom _ _ expression _ hatom _ ih =>
      have hlength := State.length_frames_read grammar? state expression
      simp only [Expression.nestingAll] at hdepth
      rw [List.cons_append, parseFrom_atom _ _ _ hatom]
      exact ih _ rest (by omega)
  | @call opening name closing inner tokens args program hopening hname hclosing _ _ ihinner ih =>
      simp only [Expression.nestingAll, Expression.nesting] at hdepth
      -- The arguments are read with one more expression open.
      have hinside : (state.enter opening.start name).frames.length +
          Expression.nestingAll args ≤ maxDepth := by
        simp only [State.enter, List.length_cons]
        omega
      -- Once it closes, the call as a whole has been added where it was opened.
      have hclose := State.close?_foldl_read grammar? state opening.start name args
      have houtside : (state.read grammar?
          (.call opening.start name.start name.text args)).frames.length +
            Expression.nestingAll program ≤ maxDepth := by
        rw [State.length_frames_read]
        omega
      rw [List.cons_append, List.cons_append, List.append_assoc, List.cons_append,
        parseFrom_enter _ _ _ hopening hname (by omega), ihinner _ _ hinside,
        parseFrom_close _ _ _ hclosing hclose, ih _ rest houtside, List.foldl_cons]

/-- Reading over a spelling whose parentheses go too deep fails at one of them. -/
theorem parseFrom_tooDeep {tokens : List Token} {program : List Expression}
    (h : Spells tokens program) (grammar? : Option Grammar) {maxDepth : Nat} (state : State)
    (rest : List Token) (hstate : state.frames.length ≤ maxDepth)
    (hdepth : maxDepth < state.frames.length + Expression.nestingAll program) :
    ∃ position, parseFrom grammar? maxDepth state (tokens ++ rest) =
      .error (.structural (.maxDepthExceeded maxDepth) position) := by
  induction h generalizing state rest with
  | nil =>
      simp only [Expression.nestingAll] at hdepth
      omega
  | comma hkind _ ih =>
      rw [List.cons_append, parseFrom_comma _ _ _ hkind]
      exact ih state rest hstate hdepth
  | @atom _ _ expression _ hatom _ ih =>
      have hlength := State.length_frames_read grammar? state expression
      obtain ⟨_, _, _, _, hflat, _⟩ := Token.atom?_eq_some hatom
      simp only [Expression.nestingAll, hflat] at hdepth
      rw [List.cons_append, parseFrom_atom _ _ _ hatom]
      exact ih _ rest (by omega) (by omega)
  | @call opening name closing inner tokens args program hopening hname hclosing hinner _
      ihinner ih =>
      simp only [Expression.nestingAll, Expression.nesting] at hdepth
      rw [List.cons_append, List.cons_append, List.append_assoc, List.cons_append]
      by_cases hfull : maxDepth ≤ state.frames.length
      · exact ⟨opening.start, parseFrom_deep _ _ _ hopening hfull⟩
      rw [parseFrom_enter _ _ _ hopening hname (by omega)]
      have hframes : (state.enter opening.start name).frames.length = state.frames.length + 1 := rfl
      -- Either the arguments already go too deep, or they are read and what follows does.
      by_cases hinside : maxDepth < state.frames.length + 1 + Expression.nestingAll args
      · exact ihinner _ _ (by omega) (by omega)
      · have hclose := State.close?_foldl_read grammar? state opening.start name args
        have houtside := State.length_frames_read grammar? state
          (.call opening.start name.start name.text args)
        rw [parseFrom_spells hinner _ _ _ (by omega), parseFrom_close _ _ _ hclosing hclose]
        exact ih _ rest (by omega) (by omega)

/-! ## Section 5: What is read was spelled -/

/-- What a token sequence has to be so that it completes a number of open expressions and the
program around them: the rest of the arguments of the innermost one, its closing parenthesis, and
so on outwards. -/
def Closes (maxDepth : Nat) : Nat → List Token → Prop
  | 0, tokens => ∃ program, Spells tokens program ∧ Expression.nestingAll program ≤ maxDepth
  | openCount + 1, tokens =>
      ∃ inner args closing rest, tokens = inner ++ closing :: rest ∧ Spells inner args ∧
        closing.kind = .rightParen ∧ openCount + 1 + Expression.nestingAll args ≤ maxDepth ∧
        Closes maxDepth openCount rest

/-- Expressions in front go to the innermost open expression. -/
theorem Closes.prepend {maxDepth openCount : Nat} {first tokens : List Token}
    {program : List Expression} (h : Closes maxDepth openCount tokens)
    (hfirst : Spells first program)
    (hdepth : openCount + Expression.nestingAll program ≤ maxDepth) :
    Closes maxDepth openCount (first ++ tokens) := by
  cases openCount with
  | zero =>
      obtain ⟨rest, hrest, hle⟩ := h
      refine ⟨program ++ rest, hfirst.append hrest, ?_⟩
      rw [Expression.nestingAll_append]
      omega
  | succ openCount =>
      obtain ⟨inner, args, closing, rest, rfl, hinner, hclosing, hle, hrest⟩ := h
      refine ⟨first ++ inner, program ++ args, closing, rest, ?_, hfirst.append hinner, hclosing,
        ?_, hrest⟩
      · rw [List.append_assoc]
      · rw [Expression.nestingAll_append]
        omega

/-- What completes one more open expression completes, with its opening in front, the others. -/
theorem Closes.enter {maxDepth openCount : Nat} {opening name : Token} {tokens : List Token}
    (h : Closes maxDepth (openCount + 1) tokens) (hopening : opening.kind = .leftParen)
    (hname : name.kind = .identifier) : Closes maxDepth openCount (opening :: name :: tokens) := by
  obtain ⟨inner, args, closing, rest, rfl, hinner, hclosing, hle, hrest⟩ := h
  have hcall := Spells.call hopening hname hclosing hinner .nil
  have hnesting : openCount + Expression.nestingAll
      [.call opening.start name.start name.text args] ≤ maxDepth := by
    simp only [Expression.nestingAll, Expression.nesting]
    omega
  simpa using hrest.prepend hcall hnesting

/-- Whatever is read to the end completes the expressions that were open. -/
theorem closes_of_parseFrom {grammar? : Option Grammar} {maxDepth : Nat} {state : State}
    {tokens : List Token} {nodes : List Node} (hstate : state.frames.length ≤ maxDepth)
    (h : parseFrom grammar? maxDepth state tokens = .ok nodes) :
    Closes maxDepth state.frames.length (beforeEnd tokens) := by
  -- Along the steps: the tokens behind a step complete the expressions that are open after it.
  induction state, tokens using parseFrom_induction grammar? maxDepth with
  | ended state tokens hend =>
      rw [parseFrom_ended _ _ _ hend] at h
      rw [hend]
      obtain ⟨frames, done, rejection⟩ := state
      cases frames with
      | nil => exact ⟨[], .nil, Nat.zero_le _⟩
      | cons frame outer => cases h
  | comma state token rest hkind ih =>
      rw [parseFrom_comma _ _ _ hkind] at h
      rw [beforeEnd_cons rest (by simp [hkind])]
      exact (ih hstate h).prepend (.comma hkind .nil) hstate
  | atom state token rest expression hatom ih =>
      obtain ⟨_, _, _, hend, hflat, _⟩ := Token.atom?_eq_some hatom
      rw [parseFrom_atom _ _ _ hatom] at h
      rw [beforeEnd_cons rest hend]
      rw [State.length_frames_read] at ih
      refine (ih hstate h).prepend (.atom hatom .nil) ?_
      simpa [Expression.nestingAll, hflat] using hstate
  | close state token rest closed hkind hclose ih =>
      have hlength := State.length_frames_close? hclose
      rw [parseFrom_close _ _ _ hkind hclose] at h
      rw [beforeEnd_cons rest (by simp [hkind]), hlength]
      rw [hlength] at hstate
      -- Nothing is left of the innermost arguments but the parenthesis itself.
      exact ⟨[], [], token, beforeEnd rest, rfl, .nil, hkind, hstate, ih (by omega) h⟩
  | enter state token name rest hkind hname hdepth ih =>
      rw [parseFrom_enter _ _ _ hkind hname hdepth] at h
      rw [beforeEnd_cons _ (by simp [hkind]), beforeEnd_cons _ (by simp [hname])]
      exact (ih hdepth h).enter hkind hname
  | fails state tokens fault position hfails =>
      rw [hfails _ _ rfl] at h
      cases h

/-! ## Section 6: Whole token sequences -/

/-- What reading a spelled program comes down to. -/
theorem parseTokens_spells {tokens : List Token} {program : List Expression}
    (h : Spells (beforeEnd tokens) program) (grammar? : Option Grammar) {maxDepth : Nat}
    (hdepth : Expression.nestingAll program ≤ maxDepth) :
    parseTokens grammar? maxDepth tokens =
      State.finish ⟨[], (program.map Expression.node).reverse,
        heldAll grammar? none (Expression.programChecks program)⟩ grammar? := by
  obtain ⟨rest, hrest, htokens⟩ := beforeEnd_append_rest tokens
  rw [parseTokens, ← htokens, parseFrom_spells h _ _ _ (by simpa [State.start] using hdepth)]
  rw [State.start, State.foldl_read_nil, List.append_nil, parseFrom_ended _ _ _ hrest]

/-- Without a grammar, the program is what is spelled. -/
theorem parseTokens_none_eq_ok_iff {tokens : List Token} {maxDepth : Nat} {nodes : List Node} :
    parseTokens none maxDepth tokens = .ok nodes ↔
      ∃ program, Spells (beforeEnd tokens) program ∧ Expression.nestingAll program ≤ maxDepth ∧
        nodes = Expression.nodes program := by
  constructor
  · intro h
    obtain ⟨program, hspells, hdepth⟩ := closes_of_parseFrom (Nat.zero_le maxDepth) h
    refine ⟨program, hspells, hdepth, ?_⟩
    rw [parseTokens_spells hspells none hdepth, heldAll_none] at h
    simpa [State.finish, State.check] using h.symm
  · rintro ⟨program, hspells, hdepth, rfl⟩
    rw [parseTokens_spells hspells none hdepth, heldAll_none]
    simp [State.finish, State.check]

theorem parse_eq_ok_iff {grammar? : Option Grammar} {maxDepth : Nat} {source : String}
    {nodes : List Node} :
    parse grammar? maxDepth source = .ok nodes ↔
      ∃ tokens, tokenize source = .ok tokens ∧ parseTokens grammar? maxDepth tokens = .ok nodes := by
  rw [parse]
  cases tokenize source with
  | error error => simp [Except.bind]
  | ok tokens => simp [Except.bind]

/-- Results of reading are compared by evaluation when they are sound. -/
theorem parse_eq_ok_of_toOption {grammar? : Option Grammar} {maxDepth : Nat} {source : String}
    {nodes : List Node} (h : (parse grammar? maxDepth source).toOption = some nodes) :
    parse grammar? maxDepth source = .ok nodes := by
  cases hsource : parse grammar? maxDepth source with
  | error error => simp [hsource, Except.toOption] at h
  | ok nodes => simpa [hsource, Except.toOption] using h

end SexpContract
