import SexpContract.Proofs.Reading

/-!
# Derivations

The grammar of programs over token sequences, rule by rule:

    program    := comma* sequence
    sequence   := (expression comma*)*
    expression := string | number | identifier | '(' identifier program ')'

`Derives` yields the nodes that a derivation denotes.  Without a grammar, reading accepts what can
be derived and is not nested too deep, and nothing else (`parseTokens_eq_ok_iff_derives`).
-/

namespace SexpContract

/-! ## Section 1: The grammar of programs -/

/-- What a token sequence may be derived as. -/
inductive Phrase where
  | program
  | sequence
  | expression
  deriving DecidableEq, Repr

/-- Any number of commas and nothing else. -/
def OnlyCommas (tokens : List Token) : Prop :=
  ∀ token ∈ tokens, token.kind = .comma

/-- A token sequence is derived as a phrase that denotes some nodes; an expression denotes one. -/
inductive Derives : Phrase → List Token → List Node → Prop where
  | program {commas tokens : List Token} {nodes : List Node} (hcommas : OnlyCommas commas) :
      Derives .sequence tokens nodes →
      Derives .program (commas ++ tokens) nodes
  | nil :
      Derives .sequence [] []
  | cons {tokens commas rest : List Token} {nodes nodes' : List Node}
      (hcommas : OnlyCommas commas) :
      Derives .expression tokens nodes →
      Derives .sequence rest nodes' →
      Derives .sequence (tokens ++ (commas ++ rest)) (nodes ++ nodes')
  | string {token : Token} (hkind : token.kind = .string) :
      Derives .expression [token] [.literal .string token.text]
  | number {token : Token} (hkind : token.kind = .number) :
      Derives .expression [token] [.literal .number token.text]
  | identifier {token : Token} (hkind : token.kind = .identifier) :
      Derives .expression [token] [.symbolic token.text []]
  | call {opening name closing : Token} {inner : List Token} {args : List Node}
      (hopening : opening.kind = .leftParen) (hname : name.kind = .identifier)
      (hclosing : closing.kind = .rightParen) :
      Derives .program inner args →
      Derives .expression (opening :: name :: (inner ++ [closing])) [.symbolic name.text args]

/-- The number of opening parentheses among some tokens. -/
def openings (tokens : List Token) : Nat :=
  tokens.countP fun token => token.kind = .leftParen

/-- The number of closing parentheses among some tokens. -/
def closings (tokens : List Token) : Nat :=
  tokens.countP fun token => token.kind = .rightParen

/-- No opening parenthesis is nested deeper than a limit: before each of them, fewer than that many
are still open. -/
def NestedWithin (limit : Nat) (tokens : List Token) : Prop :=
  ∀ before opening after, tokens = before ++ opening :: after → opening.kind = .leftParen →
    openings before < limit + closings before

/-! ## Section 2: Derived is spelled -/

theorem Spells.commas {commas tokens : List Token} {program : List Expression}
    (hcommas : OnlyCommas commas) (h : Spells tokens program) :
    Spells (commas ++ tokens) program := by
  induction commas with
  | nil => exact h
  | cons token rest ih =>
      obtain ⟨htoken, hrest⟩ := List.forall_mem_cons.1 hcommas
      exact .comma htoken (ih hrest)

theorem Derives.exists_spells {phrase : Phrase} {tokens : List Token} {nodes : List Node}
    (h : Derives phrase tokens nodes) :
    ∃ program, Spells tokens program ∧ Expression.nodes program = nodes := by
  induction h with
  | program hcommas _ ih =>
      obtain ⟨program, hspells, hnodes⟩ := ih
      exact ⟨program, hspells.commas hcommas, hnodes⟩
  | nil => exact ⟨[], .nil, rfl⟩
  | cons hcommas _ _ ihfirst ihrest =>
      obtain ⟨first, hfirst, rfl⟩ := ihfirst
      obtain ⟨rest, hrest, rfl⟩ := ihrest
      refine ⟨first ++ rest, hfirst.append (hrest.commas hcommas), ?_⟩
      simp
  | @string token hkind =>
      have hatom : token.atom? = some (.literal .string token.text token.start) := by
        rw [Token.atom?, hkind]
      exact ⟨_, .atom hatom .nil, rfl⟩
  | @number token hkind =>
      have hatom : token.atom? = some (.literal .number token.text token.start) := by
        rw [Token.atom?, hkind]
      exact ⟨_, .atom hatom .nil, rfl⟩
  | @identifier token hkind =>
      have hatom : token.atom? = some (.name token.text token.start) := by
        rw [Token.atom?, hkind]
      exact ⟨_, .atom hatom .nil, rfl⟩
  | call hopening hname hclosing _ ih =>
      obtain ⟨args, hargs, rfl⟩ := ih
      exact ⟨_, .call hopening hname hclosing hargs .nil, rfl⟩

/-! ## Section 3: Spelled is derived -/

namespace Derives

/-- A comma in front of a program belongs to the commas that the program starts with. -/
theorem comma {token : Token} {tokens : List Token} {nodes : List Node}
    (hkind : token.kind = .comma) (h : Derives .program tokens nodes) :
    Derives .program (token :: tokens) nodes := by
  cases h with
  | program hcommas h =>
      have hall : OnlyCommas (token :: _) := List.forall_mem_cons.2 ⟨hkind, hcommas⟩
      exact .program hall h

/-- An expression in front of a program takes over the commas that the program starts with. -/
theorem prepend {first rest : List Token} {nodes nodes' : List Node}
    (h : Derives .expression first nodes) (h' : Derives .program rest nodes') :
    Derives .program (first ++ rest) (nodes ++ nodes') := by
  cases h' with
  | program hcommas h' =>
      have hnone : OnlyCommas [] := by simp [OnlyCommas]
      have hall := Derives.program hnone (.cons hcommas h h')
      simpa using hall

end Derives

theorem Token.derives_of_atom {token : Token} {expression : Expression}
    (h : token.atom? = some expression) : Derives .expression [token] [expression.node] := by
  unfold Token.atom? at h
  split at h <;> cases h
  · rename_i hkind
    exact .string hkind
  · rename_i hkind
    exact .number hkind
  · rename_i hkind
    exact .identifier hkind

theorem Spells.derives {tokens : List Token} {program : List Expression}
    (h : Spells tokens program) : Derives .program tokens (Expression.nodes program) := by
  -- On the spelling: each step puts a comma or one expression in front of a derived program.
  induction h with
  | nil =>
      have hnone : OnlyCommas [] := by simp [OnlyCommas]
      exact .program hnone .nil
  | comma hkind _ ih => exact ih.comma hkind
  | atom hatom _ ih => exact (Token.derives_of_atom hatom).prepend ih
  | call hopening hname hclosing _ _ ihinner ih =>
      have hcall := (Derives.call hopening hname hclosing ihinner).prepend ih
      simpa [Expression.nodes, Expression.node] using hcall

theorem derives_program_iff {tokens : List Token} {nodes : List Node} :
    Derives .program tokens nodes ↔
      ∃ program, Spells tokens program ∧ Expression.nodes program = nodes := by
  constructor
  · exact Derives.exists_spells
  · rintro ⟨program, hspells, rfl⟩
    exact hspells.derives

/-! ## Section 4: Nesting, counted in tokens -/

/-- As many opening as closing parentheses. -/
def Balanced (tokens : List Token) : Prop :=
  openings tokens = closings tokens

@[simp]
theorem openings_nil : openings [] = 0 := rfl

@[simp]
theorem closings_nil : closings [] = 0 := rfl

theorem openings_append (first second : List Token) :
    openings (first ++ second) = openings first + openings second :=
  List.countP_append

theorem closings_append (first second : List Token) :
    closings (first ++ second) = closings first + closings second :=
  List.countP_append

theorem counts_enter {opening name : Token} (hopening : opening.kind = .leftParen)
    (hname : name.kind = .identifier) (rest : List Token) :
    openings (opening :: name :: rest) = openings rest + 1 ∧
      closings (opening :: name :: rest) = closings rest := by
  simp [openings, closings, hopening, hname]

theorem counts_close {closing : Token} (hclosing : closing.kind = .rightParen)
    (rest : List Token) :
    openings (closing :: rest) = openings rest ∧
      closings (closing :: rest) = closings rest + 1 := by
  simp [openings, closings, hclosing]

theorem nestedWithin_nil (limit : Nat) : NestedWithin limit [] := by
  intro before opening after heq
  simp at heq

/-- What is balanced leaves the nesting behind it as it was. -/
theorem nestedWithin_append_iff {limit : Nat} {first second : List Token}
    (hbalanced : Balanced first) :
    NestedWithin limit (first ++ second) ↔
      NestedWithin limit first ∧ NestedWithin limit second := by
  unfold Balanced at hbalanced
  constructor
  · intro h
    refine ⟨?_, ?_⟩
    · rintro before opening after rfl hkind
      exact h before opening (after ++ second) (by simp) hkind
    · rintro before opening after rfl hkind
      have hlt := h (first ++ before) opening after (by simp) hkind
      rw [openings_append, closings_append] at hlt
      omega
  · rintro ⟨hfirst, hsecond⟩ before opening after heq hkind
    -- The opening parenthesis stands in one of the two parts.
    rcases List.append_eq_append_iff.1 heq with ⟨middle, rfl, hmiddle⟩ | ⟨middle, rfl, hmiddle⟩
    · have hlt := hsecond middle opening after hmiddle hkind
      rw [openings_append, closings_append]
      omega
    · cases middle with
      | nil =>
          have hlt := hsecond [] opening after hmiddle.symm hkind
          simp only [List.append_nil] at hbalanced
          simp only [openings_nil, closings_nil] at hlt
          omega
      | cons token middle =>
          obtain ⟨rfl, _⟩ := List.cons.inj hmiddle
          exact hfirst before opening middle rfl hkind

/-- A token that is no parenthesis does not count. -/
theorem nestedWithin_cons_iff {limit : Nat} {token : Token} {tokens : List Token}
    (hopening : token.kind ≠ .leftParen) (hclosing : token.kind ≠ .rightParen) :
    NestedWithin limit (token :: tokens) ↔ NestedWithin limit tokens := by
  have hbalanced : Balanced [token] := by simp [Balanced, openings, closings, hopening, hclosing]
  have hsingle : NestedWithin limit [token] := by
    intro before opening after heq hkind
    cases before with
    | nil =>
        obtain ⟨rfl, _⟩ := List.cons.inj heq
        exact absurd hkind hopening
    | cons head before => simp at heq
  have hsplit := @nestedWithin_append_iff limit [token] tokens hbalanced
  rw [List.singleton_append] at hsplit
  rw [hsplit]
  exact and_iff_right hsingle

/-- Behind an opening parenthesis one level less is left. -/
theorem nestedWithin_opening_iff {limit : Nat} {opening : Token} {tokens : List Token}
    (hopening : opening.kind = .leftParen) :
    NestedWithin (limit + 1) (opening :: tokens) ↔ NestedWithin limit tokens := by
  constructor
  · rintro h before inner after rfl hkind
    have hlt := h (opening :: before) inner after rfl hkind
    simp only [openings, closings, List.countP_cons, hopening] at hlt ⊢
    simp at hlt
    omega
  · rintro h before inner after heq hkind
    cases before with
    | nil => simp
    | cons head before =>
        obtain ⟨rfl, htail⟩ := List.cons.inj heq
        have hlt := h before inner after htail hkind
        simp only [openings, closings, List.countP_cons, hopening] at hlt ⊢
        simp
        omega

theorem not_nestedWithin_zero {opening : Token} {tokens : List Token}
    (hopening : opening.kind = .leftParen) : ¬ NestedWithin 0 (opening :: tokens) := by
  intro h
  have hlt := h [] opening tokens rfl hopening
  simp at hlt

theorem nestedWithin_closing {limit : Nat} {closing : Token}
    (hclosing : closing.kind = .rightParen) : NestedWithin limit [closing] := by
  intro before opening after heq hkind
  cases before with
  | nil =>
      obtain ⟨rfl, _⟩ := List.cons.inj heq
      rw [hclosing] at hkind
      cases hkind
  | cons head before => simp at heq

theorem Spells.balanced {tokens : List Token} {program : List Expression}
    (h : Spells tokens program) : Balanced tokens := by
  unfold Balanced
  induction h with
  | nil => rfl
  | comma hkind _ ih => simpa [openings, closings, hkind] using ih
  | atom hatom _ ih =>
      obtain ⟨_, hopening, hclosing, _⟩ := Token.atom?_eq_some hatom
      simpa [openings, closings, hopening, hclosing] using ih
  | call hopening hname hclosing _ _ ihinner ih =>
      simp only [openings, closings] at ihinner ih ⊢
      simp [hopening, hname, hclosing, ihinner, ih]
      omega

/-- The nesting of a spelled program shows in its tokens. -/
theorem Spells.nestedWithin_iff {tokens : List Token} {program : List Expression}
    (h : Spells tokens program) (limit : Nat) :
    NestedWithin limit tokens ↔ Expression.nestingAll program ≤ limit := by
  induction h generalizing limit with
  | nil => simp [nestedWithin_nil, Expression.nestingAll]
  | comma hkind _ ih =>
      rw [nestedWithin_cons_iff (by simp [hkind]) (by simp [hkind]), ih]
  | atom hatom _ ih =>
      obtain ⟨_, hopening, hclosing, _, hflat, _⟩ := Token.atom?_eq_some hatom
      rw [nestedWithin_cons_iff hopening hclosing, ih]
      simp [Expression.nestingAll, hflat]
  | @call opening name closing inner tokens args program hopening hname hclosing hinner _
      ihinner ih =>
      have hcall := (Spells.call hopening hname hclosing hinner .nil).balanced
      have hsplit : opening :: name :: (inner ++ closing :: tokens) =
          (opening :: name :: (inner ++ [closing])) ++ tokens := by simp
      rw [hsplit, nestedWithin_append_iff hcall, ih]
      -- What is left is the call itself; its arguments are one level further in.
      simp only [Expression.nestingAll, Expression.nesting, Nat.max_le]
      refine and_congr_left fun _ => ?_
      cases limit with
      | zero =>
          have hdeep := @not_nestedWithin_zero opening (name :: (inner ++ [closing])) hopening
          simp only [hdeep, false_iff]
          omega
      | succ limit =>
          rw [nestedWithin_opening_iff hopening,
            nestedWithin_cons_iff (by simp [hname]) (by simp [hname]),
            nestedWithin_append_iff hinner.balanced, ihinner]
          have hlast := @nestedWithin_closing limit closing hclosing
          simp only [hlast, and_true]
          omega

/-! ## Section 5: Reading -/

/-- Without a grammar, reading accepts the tokens before the first end mark exactly when they can be
derived as a program and are not nested too deep, and returns the nodes that they denote.  A token
sequence denotes at most one list of nodes. -/
theorem parseTokens_eq_ok_iff_derives (maxDepth : Nat) (tokens : List Token) :
    (∀ nodes, parseTokens none maxDepth tokens = .ok nodes ↔
      Derives .program (beforeEnd tokens) nodes ∧ NestedWithin maxDepth (beforeEnd tokens)) ∧
    ∀ nodes nodes', Derives .program tokens nodes → Derives .program tokens nodes' →
      nodes = nodes' := by
  refine ⟨?_, ?_⟩
  · intro nodes
    rw [parseTokens_none_eq_ok_iff, derives_program_iff]
    constructor
    · rintro ⟨program, hspells, hdepth, rfl⟩
      exact ⟨⟨program, hspells, rfl⟩, (hspells.nestedWithin_iff maxDepth).2 hdepth⟩
    · rintro ⟨⟨program, hspells, rfl⟩, hnested⟩
      exact ⟨program, hspells, (hspells.nestedWithin_iff maxDepth).1 hnested, rfl⟩
  · intro nodes nodes' h h'
    obtain ⟨program, hspells, rfl⟩ := h.exists_spells
    obtain ⟨program', hspells', rfl⟩ := h'.exists_spells
    rw [hspells.unique hspells']

/-- A call with an argument in parentheses, which takes two levels and commas where they may be. -/
theorem parseTokens_eq_ok_iff_derives_call :
    let tokens : List Token :=
      [⟨.comma, ",", 0, 1⟩, ⟨.leftParen, "(", 1, 2⟩, ⟨.identifier, "F", 2, 3⟩,
        ⟨.comma, ",", 3, 4⟩, ⟨.leftParen, "(", 4, 5⟩, ⟨.identifier, "G", 5, 6⟩,
        ⟨.rightParen, ")", 6, 7⟩, ⟨.string, "a", 7, 10⟩, ⟨.rightParen, ")", 10, 11⟩]
    let nodes : List Node := [.symbolic "F" [.symbolic "G" [], .literal .string "a"]]
    parseTokens none 2 tokens = .ok nodes ∧ NestedWithin 2 tokens ∧
      ∀ other, Derives .program tokens other → other = nodes := by
  intro tokens nodes
  have hparse : parseTokens none 2 tokens = .ok nodes := rfl
  obtain ⟨haccepts, hunique⟩ := parseTokens_eq_ok_iff_derives 2 tokens
  obtain ⟨hderives, hnested⟩ := (haccepts nodes).1 hparse
  exact ⟨hparse, hnested, fun other hother => hunique other nodes hother hderives⟩

end SexpContract
