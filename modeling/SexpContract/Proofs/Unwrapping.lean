import Mathlib.Logic.Basic
import SexpContract.Proofs.Acceptance
import SexpContract.Proofs.Derivation

/-!
# Unwrapping a Symbol

What becomes of a program when a symbol without arguments loses its parentheses.  As long as no
parenthesis is left open in front of it, a spelling can be cut in two (`Spells.split_or_open`), so
the tokens without the parentheses spell the program with that symbol bare
(`Spells.exists_unwraps`).  Nothing is checked then that was not checked before
(`Grammar.validate_of_unwraps`).
-/

namespace SexpContract

/-! ## Section 1: Where a spelling is cut -/

/-- The tokens in front of a cut through a spelling are a spelling of their own, or they leave a
parenthesis open. -/
theorem Spells.split_or_open {front back : List Token} {program : List Expression}
    (h : Spells (front ++ back) program) :
    (∃ first second, program = first ++ second ∧ Spells front first ∧ Spells back second) ∨
      closings front < openings front := by
  generalize htokens : front ++ back = tokens at h
  induction h generalizing front back with
  | nil =>
      obtain ⟨rfl, rfl⟩ := List.append_eq_nil_iff.1 htokens
      exact .inl ⟨[], [], rfl, .nil, .nil⟩
  | comma hkind h ih =>
      cases front with
      | nil =>
          obtain rfl : back = _ := htokens
          exact .inl ⟨[], _, rfl, .nil, .comma hkind h⟩
      | cons head front =>
          obtain ⟨rfl, rfl⟩ := List.cons.inj htokens
          rcases ih rfl with ⟨first, second, rfl, hfirst, hsecond⟩ | hopen
          · exact .inl ⟨first, second, rfl, .comma hkind hfirst, hsecond⟩
          · refine .inr ?_
            simpa [openings, closings, hkind] using hopen
  | @atom _ _ expression _ hatom h ih =>
      obtain ⟨_, hopening, hclosing, _⟩ := Token.atom?_eq_some hatom
      cases front with
      | nil =>
          obtain rfl : back = _ := htokens
          exact .inl ⟨[], _, rfl, .nil, .atom hatom h⟩
      | cons head front =>
          obtain ⟨rfl, rfl⟩ := List.cons.inj htokens
          rcases ih rfl with ⟨first, second, rfl, hfirst, hsecond⟩ | hopen
          · exact .inl ⟨expression :: first, second, rfl, .atom hatom hfirst, hsecond⟩
          · refine .inr ?_
            simpa [openings, closings, hopening, hclosing] using hopen
  | @call opening name closing inner tokens args program hopening hname hclosing hinner h
      ihinner ih =>
      have hbalanced : openings inner = closings inner := hinner.balanced
      rcases front with _ | ⟨first, _ | ⟨second, front⟩⟩
      · obtain rfl : back = _ := htokens
        exact .inl ⟨[], _, rfl, .nil, .call hopening hname hclosing hinner h⟩
      · obtain ⟨rfl, -⟩ := List.cons.inj htokens
        refine .inr ?_
        simp [openings, closings, hopening]
      -- Behind the symbol, the cut goes through the arguments or through what follows the call.
      simp only [List.cons_append, List.cons.injEq] at htokens
      obtain ⟨rfl, rfl, htokens⟩ := htokens
      obtain ⟨hopened, hclosed⟩ := counts_enter hopening hname front
      rcases List.append_eq_append_iff.1 htokens with ⟨middle, rfl, rfl⟩ | ⟨middle, rfl, htail⟩
      · refine .inr ?_
        rcases ihinner rfl with ⟨_, _, _, hfront, _⟩ | hopen
        · have hlevel : openings front = closings front := hfront.balanced
          omega
        · omega
      · rw [openings_append] at hopened
        rw [closings_append] at hclosed
        cases middle with
        | nil =>
            refine .inr ?_
            simp only [openings_nil, closings_nil] at hopened hclosed
            omega
        | cons head middle =>
            obtain ⟨rfl, rfl⟩ := List.cons.inj htail
            rcases ih rfl with ⟨first', second', rfl, hfirst, hsecond⟩ | hopen
            · exact .inl ⟨_ :: first', second', rfl,
                .call hopening hname hclosing hinner hfirst, hsecond⟩
            · refine .inr ?_
              obtain ⟨hopened', hclosed'⟩ := counts_close hclosing middle
              omega

/-- A spelling does not end right behind the symbol of an expression. -/
theorem Spells.not_opened {front : List Token} {opening name : Token} {program : List Expression}
    (hopening : opening.kind = .leftParen) (hname : name.kind = .identifier) :
    ¬ Spells (front ++ [opening, name]) program := by
  intro h
  obtain ⟨hopened, hclosed⟩ := counts_enter hopening hname []
  have hall : openings (front ++ [opening, name]) = closings (front ++ [opening, name]) :=
    h.balanced
  rw [openings_append, closings_append] at hall
  simp only [openings_nil, closings_nil] at hopened hclosed
  rcases h.split_or_open with ⟨_, _, _, _, hsecond⟩ | hopen
  · have hlevel : openings [opening, name] = closings [opening, name] := hsecond.balanced
    omega
  · omega

/-! ## Section 2: Without the parentheses -/

namespace Expression

/-- One symbol without arguments, somewhere in a program, loses its parentheses. -/
inductive Unwraps : List Expression → List Expression → Prop where
  | here {openAt symbolAt : Nat} {symbol : String} {rest : List Expression} :
      Unwraps (.call openAt symbolAt symbol [] :: rest) (.name symbol symbolAt :: rest)
  | inside {openAt symbolAt : Nat} {symbol : String} {args args' rest : List Expression} :
      Unwraps args args' →
      Unwraps (.call openAt symbolAt symbol args :: rest) (.call openAt symbolAt symbol args' :: rest)
  | behind {expression : Expression} {rest rest' : List Expression} :
      Unwraps rest rest' →
      Unwraps (expression :: rest) (expression :: rest')

variable {program program' : List Expression}

theorem Unwraps.nodes_eq (h : Unwraps program program') : nodes program' = nodes program := by
  induction h with
  | here => simp only [nodes, node]
  | inside _ ih => simp only [nodes, node, ih]
  | behind _ ih => simp only [nodes, ih]

theorem Unwraps.nestingAll_le (h : Unwraps program program') :
    nestingAll program' ≤ nestingAll program := by
  induction h with
  | here =>
      simp only [nestingAll, nesting]
      omega
  | inside _ ih =>
      simp only [nestingAll, nesting]
      omega
  | behind _ ih =>
      simp only [nestingAll]
      omega

/-- What is left of the checks of a program are checks that the program has passed already, though
some of the offsets are others. -/
theorem Unwraps.passes (h : Unwraps program program') {grammar : Grammar}
    (hpass : ∀ check ∈ checksAll program, check.run grammar = .ok ()) :
    ∀ check ∈ checksAll program', check.run grammar = .ok () := by
  induction h with
  | here =>
      simp only [checksAll, List.forall_mem_append] at hpass ⊢
      refine ⟨?_, hpass.2⟩
      intro check hcheck
      cases hcheck
  | inside h ih =>
      simp only [checksAll, checks, List.forall_mem_append, List.forall_mem_singleton] at hpass ⊢
      obtain ⟨⟨hargs, hself⟩, hrest⟩ := hpass
      refine ⟨⟨ih hargs, ?_⟩, hrest⟩
      rw [h.nodes_eq]
      exact Grammar.admits_of_checkInvocation hself _
  | behind _ ih =>
      simp only [checksAll, List.forall_mem_append] at hpass ⊢
      exact ⟨hpass.1, ih hpass.2⟩

/-- The checks of a program are those of its parenthesised expressions and, whether they have
parentheses or not, of the symbols without arguments at top level. -/
theorem forall_programChecks_iff {grammar : Grammar} :
    (∀ check ∈ programChecks program, check.run grammar = .ok ()) ↔
      (∀ check ∈ checksAll program, check.run grammar = .ok ()) ∧
        ∀ symbol, .symbolic symbol [] ∈ nodes program → grammar.Admits symbol [] := by
  have htop : ∀ expression : Expression,
      (Check.topLevel expression.node expression.position).run grammar = .ok () ↔
        ∀ symbol, expression.node = .symbolic symbol [] → grammar.Admits symbol [] :=
    fun expression => Grammar.checkTopLevel_eq_ok_iff
  rw [programChecks, List.forall_mem_flatMap, checksAll_eq_flatMap, List.forall_mem_flatMap]
  simp only [List.forall_mem_append, List.forall_mem_singleton, htop, forall₂_and]
  apply and_congr_right
  intro _
  constructor
  · intro h symbol hsymbol
    obtain ⟨expression, hexpression, hnode⟩ := mem_nodes.1 hsymbol
    exact h expression hexpression symbol hnode
  · intro h expression hexpression symbol hnode
    exact h symbol (mem_nodes.2 ⟨expression, hexpression, hnode⟩)

end Expression

/-- Without the parentheses a program is validated if it is with them, as the same nodes. -/
theorem Grammar.validate_of_unwraps {grammar : Grammar} {program program' : List Expression}
    (h : Expression.Unwraps program program') {nodes : List Node}
    (hvalidate : grammar.validate program = .ok nodes) : grammar.validate program' = .ok nodes := by
  obtain ⟨hchecks, hroots, hnodes⟩ := validate_eq_ok_iff.1 hvalidate
  obtain ⟨hinside, htop⟩ := Expression.forall_programChecks_iff.1 hchecks
  rw [← h.nodes_eq] at htop hnodes
  exact validate_eq_ok_iff.2
    ⟨Expression.forall_programChecks_iff.2 ⟨h.passes hinside, htop⟩, hroots, hnodes⟩

/-! ## Section 3: Tokens without the parentheses -/

/-- A symbol in parentheses stands among the arguments of a call, or behind the call. -/
theorem Spells.inside_or_behind {inner before after tokens : List Token}
    {opening name closing last : Token} {args : List Expression} (h : Spells inner args)
    (hopening : opening.kind = .leftParen) (hname : name.kind = .identifier)
    (hlast : last.kind = .rightParen)
    (heq : before ++ opening :: name :: closing :: after = inner ++ last :: tokens) :
    (∃ rest, inner = before ++ opening :: name :: closing :: rest ∧
      after = rest ++ last :: tokens) ∨
    ∃ front, before = inner ++ last :: front ∧
      tokens = front ++ opening :: name :: closing :: after := by
  rcases List.append_eq_append_iff.1 heq with ⟨middle, rfl, hmiddle⟩ | ⟨middle, rfl, hmiddle⟩
  · -- The arguments go on into the parentheses; they end in front of them or behind them.
    rcases middle with _ | ⟨first, _ | ⟨second, _ | ⟨third, rest⟩⟩⟩
    · obtain ⟨rfl, -⟩ := List.cons.inj hmiddle
      cases hopening.symm.trans hlast
    · simp only [List.cons_append, List.nil_append, List.cons.injEq] at hmiddle
      obtain ⟨-, rfl, -⟩ := hmiddle
      cases hname.symm.trans hlast
    · simp only [List.cons_append, List.nil_append, List.cons.injEq] at hmiddle
      obtain ⟨rfl, rfl, -⟩ := hmiddle
      exact absurd h (Spells.not_opened hopening hname)
    · simp only [List.cons_append, List.cons.injEq] at hmiddle
      obtain ⟨rfl, rfl, rfl, rfl⟩ := hmiddle
      exact .inl ⟨rest, rfl, rfl⟩
  · cases middle with
    | nil =>
        obtain ⟨rfl, -⟩ := List.cons.inj hmiddle
        cases hopening.symm.trans hlast
    | cons head front =>
        obtain ⟨rfl, rfl⟩ := List.cons.inj hmiddle
        exact .inr ⟨front, rfl, rfl⟩

/-- Without the parentheses the tokens spell the program with one symbol unwrapped. -/
theorem Spells.exists_unwraps {before after : List Token} {opening name closing : Token}
    {program : List Expression} (hopening : opening.kind = .leftParen)
    (hname : name.kind = .identifier) (hclosing : closing.kind = .rightParen)
    (h : Spells (before ++ opening :: name :: closing :: after) program) :
    ∃ program', Expression.Unwraps program program' ∧
      Spells (before ++ name :: after) program' := by
  have hatom : name.atom? = some (.name name.text name.start) := by
    rw [Token.atom?, hname]
  generalize htokens : before ++ opening :: name :: closing :: after = tokens at h
  -- On the spelling: the parentheses are the first expression, inside it, or behind it.
  induction h generalizing before after with
  | nil => simp at htokens
  | comma hkind h ih =>
      cases before with
      | nil =>
          obtain ⟨rfl, -⟩ := List.cons.inj htokens
          cases hopening.symm.trans hkind
      | cons head before =>
          obtain ⟨rfl, rfl⟩ := List.cons.inj htokens
          obtain ⟨program', hunwraps, hspells⟩ := ih rfl
          exact ⟨program', hunwraps, .comma hkind hspells⟩
  | atom hatom' h ih =>
      cases before with
      | nil =>
          obtain ⟨rfl, -⟩ := List.cons.inj htokens
          exact absurd hopening (Token.atom?_eq_some hatom').2.1
      | cons head before =>
          obtain ⟨rfl, rfl⟩ := List.cons.inj htokens
          obtain ⟨program', hunwraps, hspells⟩ := ih rfl
          exact ⟨_, .behind hunwraps, .atom hatom' hspells⟩
  | @call opening' name' closing' inner tokens args program hopening' hname' hclosing' hinner h
      ihinner ih =>
      rcases before with _ | ⟨first, _ | ⟨second, before⟩⟩
      · simp only [List.nil_append, List.cons.injEq] at htokens
        obtain ⟨rfl, rfl, htokens⟩ := htokens
        -- What follows the symbol closes the expression, so there are no arguments.
        cases inner with
        | nil =>
            cases hinner
            obtain ⟨rfl, rfl⟩ := List.cons.inj htokens
            exact ⟨_, .here, .atom hatom h⟩
        | cons head inner =>
            obtain ⟨rfl, -⟩ := List.cons.inj htokens
            exact absurd hclosing hinner.head_kind.1
      · simp only [List.cons_append, List.nil_append, List.cons.injEq] at htokens
        obtain ⟨-, rfl, -⟩ := htokens
        cases hopening.symm.trans hname'
      simp only [List.cons_append, List.cons.injEq] at htokens
      obtain ⟨rfl, rfl, htokens⟩ := htokens
      rcases hinner.inside_or_behind hopening hname hclosing' htokens with
        ⟨rest, rfl, rfl⟩ | ⟨front, rfl, rfl⟩
      · obtain ⟨args', hunwraps, hspells⟩ := ihinner rfl
        refine ⟨_, .inside hunwraps, ?_⟩
        have hcall := Spells.call hopening' hname' hclosing' hspells h
        simpa using hcall
      · obtain ⟨program', hunwraps, hspells⟩ := ih rfl
        refine ⟨_, .behind hunwraps, ?_⟩
        have hcall := Spells.call hopening' hname' hclosing' hinner hspells
        simpa using hcall

end SexpContract
