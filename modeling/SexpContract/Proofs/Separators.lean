import SexpContract.Proofs.Layout

/-!
# Separators and the End of the Input

Commas and the end mark carry no meaning.  A comma counts only where a symbol belongs, right behind
an opening parenthesis; without all the others the tokens spell the same program
(`Spells.withoutCommas`) and have the same fault (`nestingScan_withoutCommas`).  What stands behind
the first end mark is not read, nor is it read whether there is one (`parseTokens_separators`).
-/

namespace SexpContract

/-! ## Section 1: Commas -/

/-- The tokens behind a token of the given kind without their commas, except for a comma directly
behind an opening parenthesis. -/
def withoutCommas (previous? : Option TokenKind) : List Token → List Token
  | [] => []
  | token :: rest =>
      if token.kind = .comma ∧ previous? ≠ some .leftParen then withoutCommas (some token.kind) rest
      else token :: withoutCommas (some token.kind) rest

section Steps

variable (previous? : Option TokenKind) {token : Token} (rest : List Token)

theorem withoutCommas_kept (hkind : token.kind ≠ .comma) :
    withoutCommas previous? (token :: rest) = token :: withoutCommas (some token.kind) rest :=
  if_neg fun h => hkind h.1

theorem withoutCommas_cons (token : Token) :
    withoutCommas previous? (token :: rest) = withoutCommas (some token.kind) rest ∨
      withoutCommas previous? (token :: rest) = token :: withoutCommas (some token.kind) rest := by
  rw [withoutCommas]
  split
  · exact .inl rfl
  · exact .inr rfl

/-- Nothing is left out directly behind an opening parenthesis. -/
theorem head?_withoutCommas_opened :
    (withoutCommas (some .leftParen) rest).head? = rest.head? := by
  cases rest with
  | nil => rfl
  | cons token rest => simp [withoutCommas]

theorem withoutCommas_append (first : List Token) (hkind : token.kind ≠ .comma) :
    withoutCommas previous? (first ++ token :: rest) =
      withoutCommas previous? first ++ token :: withoutCommas (some token.kind) rest := by
  induction first generalizing previous? with
  | nil => exact withoutCommas_kept previous? rest hkind
  | cons other first ih =>
      rw [List.cons_append, withoutCommas, withoutCommas, ih]
      split <;> rfl

theorem beforeEnd_withoutCommas (tokens : List Token) :
    beforeEnd (withoutCommas previous? tokens) = withoutCommas previous? (beforeEnd tokens) := by
  induction tokens generalizing previous? with
  | nil => rfl
  | cons token rest ih =>
      by_cases hend : token.kind = .endOfInput
      · have hkind : token.kind ≠ .comma := by simp [hend]
        rw [withoutCommas_kept previous? rest hkind, beforeEnd_end _ hend, beforeEnd_end _ hend]
        rfl
      · rw [beforeEnd_cons rest hend, withoutCommas, withoutCommas]
        split
        · exact ih _
        · rw [beforeEnd_cons _ hend, ih]

end Steps

/-- Without commas the same program is spelled. -/
theorem Spells.withoutCommas {tokens : List Token} {program : List Expression}
    (h : Spells tokens program) (previous? : Option TokenKind) :
    Spells (withoutCommas previous? tokens) program := by
  induction h generalizing previous? with
  | nil => exact .nil
  | comma hkind _ ih =>
      rcases withoutCommas_cons previous? _ _ with hdropped | hkept
      · rw [hdropped]
        exact ih _
      · rw [hkept]
        exact .comma hkind (ih _)
  | atom hatom _ ih =>
      obtain ⟨hkind, _⟩ := Token.atom?_eq_some hatom
      rw [withoutCommas_kept previous? _ hkind]
      exact .atom hatom (ih _)
  | call hopening hname hclosing _ _ ihinner ih =>
      -- The symbol stands right behind the parenthesis, and no parenthesis is a comma.
      rw [withoutCommas_kept _ _ (by simp [hopening]), withoutCommas_kept _ _ (by simp [hname]),
        withoutCommas_append _ _ _ (by simp [hclosing])]
      exact .call hopening hname hclosing (ihinner _) (ih _)

/-- Without commas the same fault is met first. -/
theorem nestingScan_withoutCommas (maxDepth : Nat) (stack : List Nat) (tokens : List Token)
    (previous? : Option TokenKind) :
    nestingScan maxDepth stack (withoutCommas previous? tokens) =
      nestingScan maxDepth stack tokens := by
  induction tokens generalizing stack previous? with
  | nil => rfl
  | cons token rest ih =>
      by_cases hcomma : token.kind = .comma
      · have hpassed : ∀ others, nestingScan maxDepth stack (token :: others) =
            nestingScan maxDepth stack others := fun others =>
          nestingScan_other (by simp [hcomma]) (by simp [hcomma])
        rcases withoutCommas_cons previous? rest token with hdropped | hkept
        · rw [hdropped, hpassed, ih]
        · rw [hkept, hpassed, hpassed, ih]
      · -- Only the fault of an opening parenthesis depends on the next token, which stays there.
        have hfault : nestingFault? maxDepth stack token
            (withoutCommas (some token.kind) rest).head? =
              nestingFault? maxDepth stack token rest.head? := by
          by_cases hopening : token.kind = .leftParen
          · rw [hopening, head?_withoutCommas_opened]
          · unfold nestingFault?
            split <;> simp_all
        rw [withoutCommas_kept previous? rest hcomma, nestingScan, nestingScan, hfault, ih]

theorem parseTokens_withoutCommas (grammar? : Option Grammar) (maxDepth : Nat)
    (tokens : List Token) :
    parseTokens grammar? maxDepth (withoutCommas none tokens) =
      parseTokens grammar? maxDepth tokens := by
  apply parseTokens_congr
  · intro program hprogram
    rw [beforeEnd_withoutCommas]
    exact hprogram.withoutCommas none
  · rw [beforeEnd_withoutCommas, nestingScan_withoutCommas]

/-! ## Section 2: The end mark -/

theorem beforeEnd_append_mark (tokens : List Token) {mark : Token} (more : List Token)
    (hmark : mark.kind = .endOfInput) : beforeEnd (tokens ++ mark :: more) = beforeEnd tokens := by
  induction tokens with
  | nil => exact beforeEnd_end more hmark
  | cons token rest ih =>
      by_cases hend : token.kind = .endOfInput
      · rw [List.cons_append, beforeEnd_end _ hend, beforeEnd_end _ hend]
      · rw [List.cons_append, beforeEnd_cons _ hend, beforeEnd_cons _ hend, ih]

/-- Commas and the end mark carry no meaning.  A result stays the same without the commas, except
for those directly behind an opening parenthesis.  It is that of the tokens in front of the first end
mark, so an end mark at any offset may be added behind the tokens, with whatever behind it; and all
offsets that are reported are those of tokens in front of the end. -/
theorem parseTokens_separators (grammar? : Option Grammar) (maxDepth : Nat) (tokens : List Token) :
    parseTokens grammar? maxDepth (withoutCommas none tokens) =
        parseTokens grammar? maxDepth tokens ∧
    parseTokens grammar? maxDepth (beforeEnd tokens) = parseTokens grammar? maxDepth tokens ∧
    (∀ mark more, mark.kind = .endOfInput →
      parseTokens grammar? maxDepth (tokens ++ mark :: more) =
        parseTokens grammar? maxDepth tokens) ∧
    (∀ error position, parseTokens grammar? maxDepth tokens = .error error →
      error.position? = some position → ∃ token ∈ beforeEnd tokens, token.start = position) := by
  refine ⟨parseTokens_withoutCommas grammar? maxDepth tokens,
    parseTokens_beforeEnd grammar? maxDepth tokens, ?_, ?_⟩
  · intro mark more hmark
    rw [← parseTokens_beforeEnd, beforeEnd_append_mark tokens more hmark, parseTokens_beforeEnd]
  · intro error position h hposition
    exact exists_token_of_position h hposition

/-- A query with commas between its tokens whose calls are not closed.  The inner one is reported,
and closing both behind an end mark does not change that. -/
theorem parseTokens_separators_query :
    let tokens : List Token :=
      [⟨.comma, ",", 0, 1⟩, ⟨.leftParen, "(", 1, 2⟩, ⟨.identifier, "Q", 2, 3⟩, ⟨.comma, ",", 3, 4⟩,
        ⟨.leftParen, "(", 4, 5⟩, ⟨.identifier, "F", 5, 6⟩, ⟨.comma, ",", 6, 7⟩,
        ⟨.identifier, "a", 7, 8⟩, ⟨.comma, ",", 8, 9⟩]
    let plain : List Token :=
      [⟨.leftParen, "(", 1, 2⟩, ⟨.identifier, "Q", 2, 3⟩, ⟨.leftParen, "(", 4, 5⟩,
        ⟨.identifier, "F", 5, 6⟩, ⟨.identifier, "a", 7, 8⟩]
    let mark : Token := ⟨.endOfInput, "", 90, 90⟩
    let closings : List Token := [⟨.rightParen, ")", 91, 92⟩, ⟨.rightParen, ")", 92, 93⟩]
    let error : Error := .structural .unmatchedOpenParen 4
    withoutCommas none tokens = plain ∧
      ∃ grammar, querySchema.compile = .ok grammar ∧
        parseTokens (some grammar) 8 tokens = .error error ∧
        parseTokens (some grammar) 8 plain = .error error ∧
        parseTokens (some grammar) 8 (tokens ++ mark :: closings) = .error error ∧
        ∃ token ∈ tokens, token.start = 4 := by
  intro tokens plain mark closings error
  have hplain : withoutCommas none tokens = plain := by decide
  have h : querySchema.compile.toOption.any (fun grammar =>
      parseTokens (some grammar) 8 tokens = .error error) = true := by
    decide +kernel
  obtain ⟨grammar, hcompile, hresult⟩ := Schema.exists_compile_of_any h
  have herror := of_decide_eq_true hresult
  obtain ⟨hcommas, _, hmark, hplaces⟩ := parseTokens_separators (some grammar) 8 tokens
  refine ⟨hplain, grammar, hcompile, herror, ?_, ?_, ?_⟩
  · rw [← hplain, hcommas, herror]
  · rw [hmark mark closings rfl, herror]
  · exact hplaces error 4 herror rfl

end SexpContract
