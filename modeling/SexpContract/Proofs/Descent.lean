import SexpContract.Proofs.TwoPhase

/-!
# Recursive Descent

Reading keeps the open expressions on a stack of its own.  `readItems` keeps them on the stack of
its calls: it calls itself for the arguments of each expression in parentheses, one level deeper.
The two go through the same tokens and fail at the same places (`parseFrom_eq_readItems`), so a
program is what recursive descent finds, and with a grammar what validation makes of that
(`parseTokens_eq_readProgram`).  What it finds is what the tokens spell (`readProgram_eq_ok_iff`).
-/

namespace SexpContract

/-! ## Section 1: Reading by recursion -/

/-- What was read off the front of a token sequence, and what is left of it. -/
structure Reading (tokens : List Token) where
  program : List Expression
  rest : List Token
  length_rest_le : rest.length ≤ tokens.length

namespace Reading

/-- The reading in which nothing was found. -/
def nothing (tokens : List Token) : Reading tokens :=
  ⟨[], tokens, Nat.le_refl _⟩

/-- The reading with some expressions and the tokens behind them in front of it. -/
def behind {after tokens : List Token} (reading : Reading after) (first : List Expression)
    (h : after.length ≤ tokens.length) : Reading tokens :=
  ⟨first ++ reading.program, reading.rest, Nat.le_trans reading.length_rest_le h⟩

/-- The tokens behind the closing parenthesis at which the reading stopped, if it did. -/
def closed? {tokens : List Token} (reading : Reading tokens) :
    Option { after : List Token // after.length < tokens.length } :=
  match h : reading.rest with
  | [] => none
  | closing :: after =>
      if closing.kind = .rightParen then
        have hle := reading.length_rest_le
        some ⟨after, by rw [h, List.length_cons] at hle; exact hle⟩
      else none

end Reading

/-- The fault of an opening parenthesis, by the token that stands where its symbol should. -/
def symbolFault : List Token → StructuralFault
  | [] => .unmatchedOpenParen
  | token :: _ =>
      match token.kind with
      | .endOfInput => .unmatchedOpenParen
      | .rightParen => .emptyExpression
      | _ => .expectedSymbol token.describe

/-- Reads expressions up to a closing parenthesis, which is left to the caller, or up to the end.
The depth is the number of expressions that are open around them. -/
def readItems (maxDepth depth : Nat) (tokens : List Token) : Except Error (Reading tokens) :=
  match tokens with
  | [] => .ok (.nothing [])
  | token :: rest =>
      match token.atom? with
      | some expression =>
          (readItems maxDepth depth rest).map fun reading =>
            reading.behind [expression] (Nat.le_succ _)
      | none =>
          match token.kind with
          | .comma =>
              (readItems maxDepth depth rest).map fun reading => reading.behind [] (Nat.le_succ _)
          | .leftParen =>
              if maxDepth ≤ depth then
                .error (.structural (.maxDepthExceeded maxDepth) token.start)
              else
                match rest with
                | [] => .error (.structural (symbolFault []) token.start)
                | name :: rest =>
                    if name.kind = .identifier then
                      match readItems maxDepth (depth + 1) rest with
                      | .error error => .error error
                      | .ok inner =>
                          match inner.closed? with
                          | none => .error (.structural .unmatchedOpenParen token.start)
                          | some ⟨after, hafter⟩ =>
                              (readItems maxDepth depth after).map fun reading =>
                                reading.behind
                                  [.call token.start name.start name.text inner.program]
                                  (Nat.le_trans (Nat.le_of_lt hafter) (Nat.le_add_right _ 2))
                    else .error (.structural (symbolFault (name :: rest)) token.start)
          | _ => .ok (.nothing (token :: rest))
termination_by tokens.length
decreasing_by all_goals simp only [List.length_cons]; omega

/-- Reads a program, in which no parenthesis closes more than was opened. -/
def readProgram (maxDepth : Nat) (tokens : List Token) : Except Error (List Expression) :=
  match readItems maxDepth 0 tokens with
  | .error error => .error error
  | .ok reading =>
      match reading.rest with
      | [] => .ok reading.program
      | token :: _ =>
          if token.kind = .rightParen then
            .error (.structural .unexpectedCloseParen token.start)
          else .ok reading.program

/-! ## Section 2: One step of recursion -/

theorem Except.bind_map {ε α β γ : Type} (x : Except ε α) (f : α → β) (g : β → Except ε γ) :
    (x.map f).bind g = x.bind fun a => g (f a) := by
  cases x <;> rfl

theorem Except.map_eq_ok {ε α β : Type} {x : Except ε α} {f : α → β} {b : β}
    (h : x.map f = .ok b) : ∃ a, x = .ok a ∧ f a = b := by
  cases x with
  | error error => cases h
  | ok a => exact ⟨a, rfl, Except.ok.inj h⟩

namespace Reading

theorem rest_of_closed? {tokens : List Token} {reading : Reading tokens}
    {after : { after : List Token // after.length < tokens.length }}
    (h : reading.closed? = some after) :
    ∃ closing, closing.kind = .rightParen ∧ reading.rest = closing :: after.1 := by
  unfold closed? at h
  split at h
  · cases h
  · rename_i closing after' hrest
    split at h
    · rename_i hclosing
      cases h
      exact ⟨closing, hclosing, hrest⟩
    · cases h

end Reading

/-- Nothing can be read in front of these tokens. -/
def AtStop (tokens : List Token) : Prop :=
  ∀ token ∈ tokens.head?, token.kind = .rightParen ∨ token.kind = .endOfInput

section Steps

variable {maxDepth depth : Nat} {token : Token} {rest : List Token}

theorem readItems_stop (h : AtStop rest) :
    readItems maxDepth depth rest = .ok (.nothing rest) := by
  rw [readItems.eq_def]
  cases rest with
  | nil => rfl
  | cons token rest =>
      rcases h token rfl with hkind | hkind <;> simp [Token.atom?, hkind]

theorem readItems_atom {expression : Expression} (hatom : token.atom? = some expression) :
    readItems maxDepth depth (token :: rest) =
      (readItems maxDepth depth rest).map fun reading =>
        reading.behind [expression] (Nat.le_succ _) := by
  rw [readItems.eq_def]
  simp only [hatom]

theorem readItems_comma (hkind : token.kind = .comma) :
    readItems maxDepth depth (token :: rest) =
      (readItems maxDepth depth rest).map fun reading => reading.behind [] (Nat.le_succ _) := by
  rw [readItems.eq_def]
  simp [Token.atom?, hkind]

theorem readItems_deep (hkind : token.kind = .leftParen) (hdepth : maxDepth ≤ depth) :
    readItems maxDepth depth (token :: rest) =
      .error (.structural (.maxDepthExceeded maxDepth) token.start) := by
  rw [readItems.eq_def]
  simp [Token.atom?, hkind, hdepth]

theorem readItems_unnamed (hkind : token.kind = .leftParen) (hdepth : depth < maxDepth)
    (hname : ∀ name ∈ rest.head?, name.kind ≠ .identifier) :
    readItems maxDepth depth (token :: rest) =
      .error (.structural (symbolFault rest) token.start) := by
  rw [readItems.eq_def]
  cases rest with
  | nil => simp [Token.atom?, hkind, Nat.not_le.2 hdepth]
  | cons name rest => simp [Token.atom?, hkind, Nat.not_le.2 hdepth, hname name rfl]

/-- The arguments are read one level deeper, up to the parenthesis that closes the expression. -/
theorem readItems_call {name : Token} (hkind : token.kind = .leftParen)
    (hname : name.kind = .identifier) (hdepth : depth < maxDepth) :
    readItems maxDepth depth (token :: name :: rest) =
      (readItems maxDepth (depth + 1) rest).bind fun inner =>
        match inner.closed? with
        | none => .error (.structural .unmatchedOpenParen token.start)
        | some after =>
            (readItems maxDepth depth after.1).map fun reading =>
              reading.behind [.call token.start name.start name.text inner.program]
                (Nat.le_trans (Nat.le_of_lt after.2) (Nat.le_add_right _ 2)) := by
  rw [readItems.eq_def]
  simp only [Token.atom?, hkind, Nat.not_le.2 hdepth, hname, if_false, if_true]
  cases readItems maxDepth (depth + 1) rest with
  | error error => rfl
  | ok inner =>
      simp only [Except.bind]
      cases inner.closed? <;> rfl

variable (maxDepth) in
/-- Induction along the calls of recursive descent.  Behind an expression in parentheses the
statement may be used for whatever is left. -/
@[elab_as_elim]
theorem readItems_induction {motive : Nat → List Token → Prop} (depth : Nat) (tokens : List Token)
    (stop : ∀ depth tokens, AtStop tokens → motive depth tokens)
    (comma : ∀ depth token rest, token.kind = .comma → motive depth rest →
      motive depth (token :: rest))
    (atom : ∀ depth token rest expression, token.atom? = some expression → motive depth rest →
      motive depth (token :: rest))
    (deep : ∀ depth token rest, token.kind = .leftParen → maxDepth ≤ depth →
      motive depth (token :: rest))
    (unnamed : ∀ depth token rest, token.kind = .leftParen → depth < maxDepth →
      (∀ name ∈ rest.head?, name.kind ≠ .identifier) → motive depth (token :: rest))
    (call : ∀ depth token name rest, token.kind = .leftParen → name.kind = .identifier →
      depth < maxDepth → motive (depth + 1) rest →
      (∀ after, after.length < rest.length → motive depth after) →
      motive depth (token :: name :: rest)) : motive depth tokens := by
  -- On the number of tokens left, as the tokens behind an expression are no part of the first one.
  induction hlength : tokens.length using Nat.strongRecOn generalizing depth tokens with
  | ind length ih =>
      subst hlength
      have hshorter : ∀ depth rest, rest.length < tokens.length → motive depth rest :=
        fun depth rest hlt => ih _ hlt depth rest rfl
      clear ih
      cases tokens with
      | nil => exact stop depth [] (by simp [AtStop])
      | cons token rest =>
          have hrest := hshorter depth rest (by simp)
          cases hkind : token.kind with
          | comma => exact comma depth token rest hkind hrest
          | identifier =>
              exact atom depth token rest (.name token.text token.start)
                (by rw [Token.atom?, hkind]) hrest
          | string =>
              exact atom depth token rest (.literal .string token.text token.start)
                (by rw [Token.atom?, hkind]) hrest
          | number =>
              exact atom depth token rest (.literal .number token.text token.start)
                (by rw [Token.atom?, hkind]) hrest
          | rightParen => exact stop depth _ (by simp [AtStop, hkind])
          | endOfInput => exact stop depth _ (by simp [AtStop, hkind])
          | leftParen =>
              by_cases hdepth : maxDepth ≤ depth
              · exact deep depth token rest hkind hdepth
              have hlt := Nat.lt_of_not_le hdepth
              cases rest with
              | nil => exact unnamed depth token [] hkind hlt (by simp)
              | cons name rest =>
                  by_cases hname : name.kind = .identifier
                  · refine call depth token name rest hkind hname hlt ?_ ?_
                    · exact hshorter _ _ (by simp only [List.length_cons]; omega)
                    · intro after hafter
                      exact hshorter _ _ (by simp only [List.length_cons]; omega)
                  · exact unnamed depth token (name :: rest) hkind hlt (by simpa using hname)

end Steps

/-! ## Section 3: The stack of calls and the stack of open expressions -/

/-- What a reading leaves stands where nothing can be read. -/
theorem atStop_of_readItems {maxDepth depth : Nat} {tokens : List Token} {reading : Reading tokens}
    (h : readItems maxDepth depth tokens = .ok reading) : AtStop reading.rest := by
  induction depth, tokens using readItems_induction maxDepth with
  | stop depth tokens hstop =>
      rw [readItems_stop hstop] at h
      cases h
      exact hstop
  | comma depth token rest hkind ih =>
      rw [readItems_comma hkind] at h
      obtain ⟨inner, hinner, rfl⟩ := Except.map_eq_ok h
      exact ih hinner
  | atom depth token rest expression hatom ih =>
      rw [readItems_atom hatom] at h
      obtain ⟨inner, hinner, rfl⟩ := Except.map_eq_ok h
      exact ih hinner
  | deep depth token rest hkind hdepth =>
      rw [readItems_deep hkind hdepth] at h
      cases h
  | unnamed depth token rest hkind hdepth hname =>
      rw [readItems_unnamed hkind hdepth hname] at h
      cases h
  | call depth token name rest hkind hname hdepth ihinner ih =>
      rw [readItems_call hkind hname hdepth] at h
      cases hinner : readItems maxDepth (depth + 1) rest with
      | error error => simp [hinner, Except.bind] at h
      | ok inner =>
          simp only [hinner, Except.bind] at h
          cases hclosed : inner.closed? with
          | none => simp [hclosed] at h
          | some after =>
              simp only [hclosed] at h
              obtain ⟨outer, houter, rfl⟩ := Except.map_eq_ok h
              exact ih after.1 after.2 houter

/-- A reading that stopped at no closing parenthesis has come to the end. -/
theorem beforeEnd_of_closed? {tokens : List Token} {reading : Reading tokens}
    (h : AtStop reading.rest) (hclosed : reading.closed? = none) :
    beforeEnd reading.rest = [] := by
  unfold Reading.closed? at hclosed
  split at hclosed
  · rename_i hrest
    rw [hrest]
    rfl
  · rename_i closing after hrest
    split at hclosed
    · cases hclosed
    · rename_i hclosing
      rw [hrest] at h ⊢
      exact beforeEnd_end after ((h closing rfl).resolve_left hclosing)

theorem parseFrom_unnamed (grammar? : Option Grammar) {maxDepth : Nat} (state : State)
    {token : Token} {rest : List Token} (hkind : token.kind = .leftParen)
    (hdepth : state.frames.length < maxDepth)
    (hname : ∀ name ∈ rest.head?, name.kind ≠ .identifier) :
    parseFrom grammar? maxDepth state (token :: rest) =
      .error (.structural (symbolFault rest) token.start) := by
  rw [parseFrom.eq_def]
  simp only [hkind, Nat.not_le.2 hdepth, if_false]
  cases rest with
  | nil => rfl
  | cons name rest =>
      have hother := hname name rfl
      cases hname' : name.kind <;> simp_all [symbolFault]

/-- Reading goes on where recursive descent has stopped, with what was found added to the state. -/
theorem parseFrom_eq_readItems (grammar? : Option Grammar) {maxDepth depth : Nat}
    {tokens : List Token} (state : State) (hlength : state.frames.length = depth) :
    parseFrom grammar? maxDepth state tokens =
      (readItems maxDepth depth tokens).bind fun reading =>
        parseFrom grammar? maxDepth (reading.program.foldl (State.read grammar?) state)
          reading.rest := by
  induction depth, tokens using readItems_induction maxDepth generalizing state with
  | stop depth tokens hstop => rw [readItems_stop hstop]; rfl
  | comma depth token rest hkind ih =>
      rw [parseFrom_comma _ _ _ hkind, readItems_comma hkind, Except.bind_map, ih state hlength]
      rfl
  | atom depth token rest expression hatom ih =>
      have hread := State.length_frames_read grammar? state expression
      rw [parseFrom_atom _ _ _ hatom, readItems_atom hatom, Except.bind_map,
        ih _ (hread.trans hlength)]
      rfl
  | deep depth token rest hkind hdepth =>
      rw [readItems_deep hkind hdepth, parseFrom_deep _ _ _ hkind (hlength ▸ hdepth)]
      rfl
  | unnamed depth token rest hkind hdepth hname =>
      rw [readItems_unnamed hkind hdepth hname,
        parseFrom_unnamed grammar? state hkind (hlength ▸ hdepth) hname]
      rfl
  | call depth token name rest hkind hname hdepth ihinner ih =>
      have hinside : (state.enter token.start name).frames.length = depth + 1 :=
        congrArg Nat.succ hlength
      rw [parseFrom_enter _ _ _ hkind hname (hlength ▸ hdepth), readItems_call hkind hname hdepth,
        ihinner _ hinside]
      cases hinner : readItems maxDepth (depth + 1) rest with
      | error error => rfl
      | ok inner =>
          have hstop := atStop_of_readItems hinner
          simp only [Except.bind]
          cases hclosed : inner.closed? with
          | none =>
              -- The expression is still open when the tokens end.
              rw [parseFrom_ended _ _ _ (beforeEnd_of_closed? hstop hclosed), State.enter,
                State.foldl_read_frame]
              rfl
          | some after =>
              obtain ⟨closing, hclosing, hrest⟩ := Reading.rest_of_closed? hclosed
              have hclose := State.close?_foldl_read grammar? state token.start name inner.program
              have hread := State.length_frames_read grammar? state
                (.call token.start name.start name.text inner.program)
              rw [hrest, parseFrom_close _ _ _ hclosing hclose,
                ih after.1 after.2 _ (hread.trans hlength)]
              show _ = ((readItems maxDepth depth after.1).map _).bind _
              rw [Except.bind_map]
              rfl

/-- What is read by recursive descent is what reading finishes with. -/
theorem parseTokens_eq_finish (grammar? : Option Grammar) (maxDepth : Nat) (tokens : List Token) :
    parseTokens grammar? maxDepth tokens =
      (readProgram maxDepth tokens).bind fun program =>
        State.finish ⟨[], (program.map Expression.node).reverse,
          heldAll grammar? none (Expression.programChecks program)⟩ grammar? := by
  have hdescent := @parseFrom_eq_readItems grammar? maxDepth 0 tokens State.start rfl
  rw [parseTokens, hdescent, readProgram, State.start]
  cases hread : readItems maxDepth 0 tokens with
  | error error => simp [Except.bind]
  | ok reading =>
      have hstop := atStop_of_readItems hread
      simp only [Except.bind, State.foldl_read_nil, List.append_nil]
      -- At top level nothing is open, so a closing parenthesis is one too many.
      cases hrest : reading.rest with
      | nil => simp [parseFrom]
      | cons token rest =>
          rw [hrest] at hstop
          rcases hstop token rfl with hkind | hkind
          · rw [parseFrom.eq_def]
            simp [hkind, State.close?]
          · rw [parseFrom_ended _ _ _ (beforeEnd_end rest hkind)]
            simp [hkind]

/-- Without a grammar a program is read by recursive descent, and with one it is validated then. -/
theorem parseTokens_eq_readProgram (maxDepth : Nat) (tokens : List Token) :
    parseTokens none maxDepth tokens =
        (readProgram maxDepth tokens).map Expression.nodes ∧
      ∀ grammar, parseTokens (some grammar) maxDepth tokens =
        (readProgram maxDepth tokens).bind grammar.validate := by
  refine ⟨?_, ?_⟩
  · rw [parseTokens_eq_finish]
    cases readProgram maxDepth tokens with
    | error error => rfl
    | ok program =>
        simp [Except.bind, Except.map, heldAll_none, State.finish, State.check]
  · intro grammar
    rw [parseTokens_eq_finish]
    simp only [finish_eq_validate]

/-! ## Section 4: What is read is spelled -/

theorem spells_of_readItems {maxDepth depth : Nat} {tokens : List Token} {reading : Reading tokens}
    (hdepth : depth ≤ maxDepth) (h : readItems maxDepth depth tokens = .ok reading) :
    ∃ front, tokens = front ++ reading.rest ∧ Spells front reading.program ∧
      depth + Expression.nestingAll reading.program ≤ maxDepth := by
  induction depth, tokens using readItems_induction maxDepth with
  | stop depth tokens hstop =>
      rw [readItems_stop hstop] at h
      cases h
      exact ⟨[], rfl, .nil, hdepth⟩
  | comma depth token rest hkind ih =>
      rw [readItems_comma hkind] at h
      obtain ⟨inner, hinner, rfl⟩ := Except.map_eq_ok h
      obtain ⟨front, hrest, hspells, hnesting⟩ := ih hdepth hinner
      exact ⟨token :: front, congrArg (token :: ·) hrest, .comma hkind hspells, hnesting⟩
  | atom depth token rest expression hatom ih =>
      rw [readItems_atom hatom] at h
      obtain ⟨inner, hinner, rfl⟩ := Except.map_eq_ok h
      obtain ⟨front, hrest, hspells, hnesting⟩ := ih hdepth hinner
      obtain ⟨_, _, _, _, hleaf, _⟩ := Token.atom?_eq_some hatom
      refine ⟨token :: front, congrArg (token :: ·) hrest, .atom hatom hspells, ?_⟩
      simpa [Reading.behind, Expression.nestingAll, hleaf] using hnesting
  | deep depth token rest hkind hdeep =>
      rw [readItems_deep hkind hdeep] at h
      cases h
  | unnamed depth token rest hkind hlt hname =>
      rw [readItems_unnamed hkind hlt hname] at h
      cases h
  | call depth token name rest hkind hname hlt ihinner ih =>
      rw [readItems_call hkind hname hlt] at h
      cases hinner : readItems maxDepth (depth + 1) rest with
      | error error => simp [hinner, Except.bind] at h
      | ok inner =>
          simp only [hinner, Except.bind] at h
          cases hclosed : inner.closed? with
          | none => simp [hclosed] at h
          | some after =>
              simp only [hclosed] at h
              obtain ⟨outer, houter, rfl⟩ := Except.map_eq_ok h
              obtain ⟨closing, hclosing, hrest⟩ := Reading.rest_of_closed? hclosed
              -- The arguments end at the closing parenthesis, and the reading goes on behind it.
              obtain ⟨args, hargs, hspells, hnesting⟩ := ihinner hlt hinner
              obtain ⟨front, hafter, hspells', hnesting'⟩ := ih after.1 after.2 hdepth houter
              have htokens : rest = args ++ closing :: (front ++ outer.rest) := by
                rw [← hafter, ← hrest]
                exact hargs
              refine ⟨token :: name :: (args ++ closing :: front), ?_,
                .call hkind hname hclosing hspells hspells', ?_⟩
              · refine congrArg (fun tokens => token :: name :: tokens) (htokens.trans ?_)
                simp [Reading.behind]
              · simp only [Reading.behind, List.singleton_append, Expression.nestingAll,
                  Expression.nesting]
                omega

/-- A program is read from the tokens that spell it, if it is not nested too deep. -/
theorem readProgram_eq_ok_iff {maxDepth : Nat} {tokens : List Token} {program : List Expression} :
    readProgram maxDepth tokens = .ok program ↔
      Spells (beforeEnd tokens) program ∧ Expression.nestingAll program ≤ maxDepth := by
  have hsound : ∀ other, readProgram maxDepth tokens = .ok other →
      Spells (beforeEnd tokens) other ∧ Expression.nestingAll other ≤ maxDepth := by
    intro other h
    unfold readProgram at h
    split at h
    · cases h
    rename_i reading hread
    obtain ⟨front, htokens, hspells, hnesting⟩ := spells_of_readItems (Nat.zero_le maxDepth) hread
    -- Nothing is left but what no reading goes on with.
    have hend : beforeEnd reading.rest = [] ∧ reading.program = other := by
      have hstop := atStop_of_readItems hread
      split at h
      · rename_i hrest
        rw [hrest]
        exact ⟨rfl, Except.ok.inj h⟩
      · rename_i token rest hrest
        split at h
        · cases h
        · rename_i hother
          rw [hrest] at hstop ⊢
          exact ⟨beforeEnd_end rest ((hstop token rfl).resolve_left hother), Except.ok.inj h⟩
    obtain ⟨hend, rfl⟩ := hend
    have hfront : beforeEnd tokens = front := by
      refine (congrArg beforeEnd htokens).trans ?_
      rw [hspells.beforeEnd_append, hend, List.append_nil]
    rw [hfront]
    exact ⟨hspells, by omega⟩
  refine ⟨hsound program, ?_⟩
  rintro ⟨hspells, hnesting⟩
  -- Reading on a stack succeeds, so descent does, and there is one program only to be found.
  have hparse := parseTokens_none_eq_ok_iff.2 ⟨program, hspells, hnesting, rfl⟩
  rw [(parseTokens_eq_readProgram maxDepth tokens).1] at hparse
  obtain ⟨other, hother, _⟩ := Except.map_eq_ok hparse
  rw [hother, (hsound other hother).1.unique hspells]

end SexpContract
