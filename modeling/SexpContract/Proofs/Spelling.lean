import SexpContract.Proofs.Expression

/-!
# Spelling

Which token sequences spell which programs, as a relation: any number of expressions with commas
anywhere between them, where an expression in parentheses starts with its symbol right after the
opening parenthesis.  Each token sequence spells at most one program (`Spells.unique`).
-/

namespace SexpContract

/-! ## Section 1: The relation -/

/-- The expression that a token makes on its own. -/
def Token.atom? (token : Token) : Option Expression :=
  match token.kind with
  | .string => some (.literal .string token.text token.start)
  | .number => some (.literal .number token.text token.start)
  | .identifier => some (.name token.text token.start)
  | _ => none

/-- A token sequence spells a list of expressions. -/
inductive Spells : List Token → List Expression → Prop where
  | nil :
      Spells [] []
  | comma {token : Token} {tokens : List Token} {program : List Expression}
      (hkind : token.kind = .comma) :
      Spells tokens program →
      Spells (token :: tokens) program
  | atom {token : Token} {tokens : List Token} {expression : Expression}
      {program : List Expression} (hatom : token.atom? = some expression) :
      Spells tokens program →
      Spells (token :: tokens) (expression :: program)
  | call {opening name closing : Token} {inner tokens : List Token}
      {args program : List Expression} (hopening : opening.kind = .leftParen)
      (hname : name.kind = .identifier) (hclosing : closing.kind = .rightParen) :
      Spells inner args →
      Spells tokens program →
      Spells (opening :: name :: (inner ++ closing :: tokens))
        (.call opening.start name.start name.text args :: program)

/-- The tokens that make an expression on their own, and what these expressions have in common. -/
theorem Token.atom?_eq_some {token : Token} {expression : Expression}
    (h : token.atom? = some expression) :
    token.kind ≠ .comma ∧ token.kind ≠ .leftParen ∧ token.kind ≠ .rightParen ∧
      token.kind ≠ .endOfInput ∧ expression.nesting = 0 ∧ expression.checks = [] ∧
      expression.position = token.start := by
  unfold Token.atom? at h
  split at h
  case h_4 => cases h
  all_goals
    rename_i hkind
    cases h
    simp [hkind, Expression.nesting, Expression.checks, Expression.position]

namespace Spells

theorem append {first second : List Token} {program program' : List Expression}
    (h : Spells first program) (h' : Spells second program') :
    Spells (first ++ second) (program ++ program') := by
  induction h with
  | nil => exact h'
  | comma hkind _ ih => exact .comma hkind ih
  | atom hatom _ ih => exact .atom hatom ih
  | call hopening hname hclosing hinner _ _ ih =>
      have hcall := Spells.call hopening hname hclosing hinner ih
      simpa using hcall

/-- The first token of a spelling closes nothing and does not end the input. -/
theorem head_kind {token : Token} {tokens : List Token} {program : List Expression}
    (h : Spells (token :: tokens) program) :
    token.kind ≠ .rightParen ∧ token.kind ≠ .endOfInput := by
  cases h with
  | comma hkind _ => simp [hkind]
  | atom hatom _ =>
      obtain ⟨_, _, hclose, hend, _⟩ := Token.atom?_eq_some hatom
      exact ⟨hclose, hend⟩
  | call hopening _ _ _ _ => simp [hopening]

/-! ## Section 2: One program at most -/

/-- What may follow a spelling so that the spelling cannot be read on. -/
def Stops (tail : List Token) : Prop :=
  ∀ token ∈ tail.head?, token.kind = .rightParen

theorem eq_nil_of_stops {tokens tail : List Token} {program : List Expression}
    (h : Spells tokens program) (hstops : Stops (tokens ++ tail)) : tokens = [] := by
  cases tokens with
  | nil => rfl
  | cons token tokens => exact absurd (hstops token rfl) h.head_kind.1

/-- Two spellings at the front of one token sequence are the same, when neither can be read on. -/
theorem unique_front {first second tail tail' : List Token} {program program' : List Expression}
    (h : Spells first program) (h' : Spells second program') (hstops : Stops tail)
    (hstops' : Stops tail') (heq : first ++ tail = second ++ tail') :
    program = program' ∧ tail = tail' := by
  -- On the first spelling: its first token says how the second one has to start.
  induction h generalizing second tail program' tail' with
  | nil =>
      rw [List.nil_append] at heq
      obtain rfl := h'.eq_nil_of_stops (heq ▸ hstops)
      cases h'
      exact ⟨rfl, heq⟩
  | comma hkind _ ih =>
      cases h' with
      | comma _ h' =>
          obtain ⟨rfl, htail⟩ := List.cons.inj heq
          exact ih h' hstops hstops' htail
      | _ => grind [Stops, Token.atom?]
  | atom hatom _ ih =>
      cases h' with
      | atom hatom' h' =>
          obtain ⟨rfl, htail⟩ := List.cons.inj heq
          obtain rfl := Option.some.inj (hatom.symm.trans hatom')
          obtain ⟨rfl, rfl⟩ := ih h' hstops hstops' htail
          exact ⟨rfl, rfl⟩
      | _ => grind [Stops, Token.atom?]
  | call hopening hname hclosing _ _ ihinner ih =>
      cases h' with
      | call _ _ hclosing' hinner' h' =>
          simp only [List.cons_append, List.append_assoc, List.cons.injEq] at heq
          obtain ⟨rfl, rfl, hinside⟩ := heq
          -- The two closing parentheses stop the two spellings of the arguments.
          obtain ⟨rfl, houtside⟩ := ihinner hinner' (by simp [Stops, hclosing])
            (by simp [Stops, hclosing']) hinside
          obtain ⟨rfl, htail⟩ := List.cons.inj houtside
          obtain ⟨rfl, rfl⟩ := ih h' hstops hstops' htail
          exact ⟨rfl, rfl⟩
      | _ => grind [Stops, Token.atom?]

/-- A token sequence spells at most one program. -/
theorem unique {tokens : List Token} {program program' : List Expression}
    (h : Spells tokens program) (h' : Spells tokens program') : program = program' := by
  have hstops : Stops [] := by simp [Stops]
  exact (h.unique_front h' hstops hstops rfl).1

end Spells

/-! ## Section 3: The end of the input -/

/-- The tokens before the first end mark. -/
def beforeEnd (tokens : List Token) : List Token :=
  tokens.takeWhile fun token => !token.isEnd

theorem beforeEnd_end {token : Token} (rest : List Token) (h : token.kind = .endOfInput) :
    beforeEnd (token :: rest) = [] := by
  simp [beforeEnd, Token.isEnd, h]

theorem beforeEnd_cons {token : Token} (rest : List Token) (h : token.kind ≠ .endOfInput) :
    beforeEnd (token :: rest) = token :: beforeEnd rest := by
  simp [beforeEnd, Token.isEnd, h]

/-- After the tokens before the first end mark, nothing more is before it. -/
theorem beforeEnd_append_rest (tokens : List Token) :
    ∃ rest, beforeEnd rest = [] ∧ beforeEnd tokens ++ rest = tokens := by
  induction tokens with
  | nil => exact ⟨[], rfl, rfl⟩
  | cons token tokens ih =>
      by_cases hend : token.kind = .endOfInput
      · exact ⟨token :: tokens, beforeEnd_end tokens hend, by rw [beforeEnd_end tokens hend]; rfl⟩
      · obtain ⟨rest, hrest, happend⟩ := ih
        exact ⟨rest, hrest, by rw [beforeEnd_cons tokens hend, List.cons_append, happend]⟩

/-- No end mark is part of a spelling. -/
theorem Spells.kind_ne_end {tokens : List Token} {program : List Expression}
    (h : Spells tokens program) : ∀ token ∈ tokens, token.kind ≠ .endOfInput := by
  induction h with
  | nil => simp
  | comma hkind _ ih => simpa [hkind] using ih
  | atom hatom _ ih =>
      obtain ⟨_, _, _, hend, _⟩ := Token.atom?_eq_some hatom
      simpa [hend] using ih
  | call hopening hname hclosing _ _ ihinner ih =>
      intro token hmem
      simp only [List.mem_cons, List.mem_append] at hmem
      rcases hmem with rfl | rfl | hmem | rfl | hmem
      · simp [hopening]
      · simp [hname]
      · exact ihinner token hmem
      · simp [hclosing]
      · exact ih token hmem

theorem Spells.beforeEnd_append {tokens : List Token} {program : List Expression}
    (h : Spells tokens program) (rest : List Token) :
    beforeEnd (tokens ++ rest) = tokens ++ beforeEnd rest := by
  apply List.takeWhile_append_of_pos
  intro token hmem
  simp [Token.isEnd, h.kind_ne_end token hmem]

end SexpContract
