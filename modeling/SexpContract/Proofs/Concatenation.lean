import SexpContract.Proofs.Relocation

/-!
# One Program after Another

Two sources with a separator between them.  Nothing of the first reaches into the second: the tokens
of the second are what they are on their own, no parenthesis is left open, and a contract that the
first breaks stays the first one broken.  So the programs are read one after the other
(`readSource_joined`), and without constraints on the whole they are validated one after the other
(`parse_joined`).
-/

namespace SexpContract

open Text

/-! ## Section 1: Separators -/

/-- A character that stands between expressions and means nothing there. -/
def IsSeparator (c : Char) : Prop :=
  c = ' ' ∨ c = '\t' ∨ c = '\n' ∨ c = '\r' ∨ c = ','

/-- Two sources with a character between them. -/
def joined (first : String) (separator : Char) (second : String) : String :=
  first.push separator ++ second

theorem toList_joined (first : String) (separator : Char) (second : String) :
    (joined first separator second).toList = first.toList ++ separator :: second.toList := by
  simp [joined, String.toList_push]

/-- A separator goes on with no lexeme, no more than the end of a source does. -/
theorem IsSeparator.goesOnLess {c : Char} (h : IsSeparator c) (text : List Char) :
    GoesOnLess (c :: text) [] := by
  have hclass : isIdentifierChar c = false ∧ c.isDigit = false ∧ c ≠ '.' := by
    rcases h with rfl | rfl | rfl | rfl | rfl <;> decide
  obtain ⟨hidentifier, hdigit, hpoint⟩ := hclass
  refine ⟨?_, ?_, ?_⟩
  · intro _ d hd
    cases hd
    exact hidentifier
  · intro _ d hd
    cases hd
    exact hdigit
  · intro _
    simp [startsFraction, hpoint]

/-- A separator has one byte, and its tokens spell nothing. -/
theorem IsSeparator.scans {c : Char} (h : IsSeparator c) (position : Nat) (text : List Char) :
    ∃ commas, Scans position (c :: text) commas (position + 1) text ∧ Spells commas [] := by
  have hblank : ∀ c : Char, isBlank c = true → c.utf8Size = 1 →
      ∃ commas, Scans position (c :: text) commas (position + 1) text ∧ Spells commas [] := by
    intro c hblank hsize
    refine ⟨[], .blank hblank ?_, .nil⟩
    rw [hsize]
    exact .done _ _
  have hcomma : Scans position (',' :: text) [Lexeme.comma.toToken position] (position + 1) text :=
    .lexeme (by decide) rfl (.done _ _)
  rcases h with rfl | rfl | rfl | rfl | rfl
  · exact hblank ' ' (by decide) (by decide)
  · exact hblank '\t' (by decide) (by decide)
  · exact hblank '\n' (by decide) (by decide)
  · exact hblank '\r' (by decide) (by decide)
  · exact ⟨_, hcomma, .comma rfl .nil⟩

/-! ## Section 2: Reading -/

/-- A spelling leaves the open parentheses as they were, if its own are not too deep. -/
theorem Spells.nestingScan_append {tokens : List Token} {program : List Expression}
    (h : Spells tokens program) {maxDepth : Nat} (stack : List Nat) (rest : List Token)
    (hdepth : stack.length + Expression.nestingAll program ≤ maxDepth) :
    nestingScan maxDepth stack (tokens ++ rest) = nestingScan maxDepth stack rest := by
  induction h generalizing stack rest with
  | nil => rfl
  | comma hkind _ ih =>
      rw [List.cons_append, nestingScan_other (by simp [hkind]) (by simp [hkind])]
      exact ih stack rest hdepth
  | atom hatom _ ih =>
      obtain ⟨_, hopening, hclosing, _⟩ := Token.atom?_eq_some hatom
      simp only [Expression.nestingAll] at hdepth
      rw [List.cons_append, nestingScan_other hopening hclosing]
      exact ih stack rest (by omega)
  | @call opening name closing inner tokens args program hopening hname hclosing _ _ ihinner ih =>
      simp only [Expression.nestingAll, Expression.nesting] at hdepth
      -- The arguments are passed over with one more parenthesis open, which then closes.
      have hinside : (opening.start :: stack).length + Expression.nestingAll args ≤ maxDepth := by
        simp only [List.length_cons]
        omega
      rw [List.cons_append, List.cons_append, List.append_assoc, List.cons_append,
        nestingScan_enter hopening hname (by omega), ihinner _ _ hinside,
        nestingScan_closing hclosing, ih stack rest (by omega)]

/-- Behind a spelling, what is read is read as if the spelling were not there. -/
theorem Spells.readProgram_append {front : List Token} {program : List Expression}
    (h : Spells front program) {maxDepth : Nat} (hdepth : Expression.nestingAll program ≤ maxDepth)
    (tokens : List Token) :
    readProgram maxDepth (front ++ tokens) =
      (readProgram maxDepth tokens).map (program ++ ·) := by
  cases hread : readProgram maxDepth tokens with
  | error error =>
      have hscan := h.nestingScan_append [] (beforeEnd tokens) (by simpa using hdepth)
      rw [readProgram_error_iff.1 hread, ← h.beforeEnd_append] at hscan
      exact readProgram_error_iff.2 hscan
  | ok rest =>
      obtain ⟨hrest, hnesting⟩ := readProgram_eq_ok_iff.1 hread
      have hall := h.append hrest
      rw [← h.beforeEnd_append] at hall
      refine readProgram_eq_ok_iff.2 ⟨hall, ?_⟩
      rw [Expression.nestingAll_append]
      omega

/-- The second of two sources is read as it is on its own, moved behind the first. -/
theorem readSource_joined {maxDepth : Nat} {first : String} {program : List Expression}
    (hfirst : readSource maxDepth first = .ok program) {separator : Char}
    (hseparator : IsSeparator separator) (second : String) :
    readSource maxDepth (joined first separator second) =
      ((readSource maxDepth second).map fun rest =>
        program ++ Expression.relocate (· + (byteLength first.toList + 1)) rest).mapError
          (Error.relocate (· + (byteLength first.toList + 1))) := by
  obtain ⟨body, stop, hscans, hspells, hdepth⟩ := readSource_eq_ok_iff.1 hfirst
  -- Nothing stands behind the tokens of the first source, so a separator may stand there.
  have hends : Scans 0 (first.toList ++ []) body stop [] := by
    rw [List.append_nil]
    exact hscans
  obtain ⟨front, hfront, hstop⟩ := hscans.exists_front
  rw [List.append_nil] at hfront
  subst hfront hstop
  -- Up to the second source, the tokens of the first are read again, and a comma at most.
  obtain ⟨commas, hcommas, hnothing⟩ :=
    hseparator.scans (0 + byteLength first.toList) second.toList
  have hscans' : Scans 0 (first.toList ++ separator :: second.toList) body
      (0 + byteLength first.toList) (separator :: second.toList) :=
    Scans.exchange hends (hseparator.goesOnLess second.toList)
  have hall := hscans'.trans hcommas
  have hprogram := hspells.append hnothing
  rw [List.append_nil] at hprogram
  have hsecond := tokensFrom_relocate (· + (byteLength first.toList + 1)) second.toList
    fun n => Nat.add_right_comm 0 n _
  rw [Nat.zero_add] at hsecond
  rw [readSource, tokenize, toList_joined, hall.tokensFrom_eq, Nat.zero_add, hsecond, readSource,
    tokenize]
  cases tokensFrom 0 second.toList with
  | error error => rfl
  | ok tokens =>
      simp only [Except.map, Except.mapError, Except.bind, hprogram.readProgram_append hdepth,
        readProgram_relocate]
      cases readProgram maxDepth tokens <;> rfl

/-! ## Section 3: Validating -/

theorem validateWith_relocate (grammar? : Option Grammar) (place : Nat → Nat)
    (program : List Expression) :
    validateWith grammar? (Expression.relocate place program) =
      (validateWith grammar? program).mapError (Error.relocate place) := by
  cases grammar? with
  | none => exact congrArg Except.ok (Expression.nodes_relocate place program)
  | some grammar => exact grammar.validate_relocate place program

/-- Without constraints on the whole, programs are validated one after the other. -/
theorem validateWith_append {grammar? : Option Grammar}
    (hfree : ∀ grammar ∈ grammar?, grammar.schema.constraints = [])
    (first second : List Expression) :
    validateWith grammar? (first ++ second) =
      (validateWith grammar? first).bind fun nodes =>
        (validateWith grammar? second).map (nodes ++ ·) := by
  cases grammar? with
  | none => simp [validateWith, Except.bind, Except.map]
  | some grammar =>
      have hroots : ∀ nodes, grammar.checkConstraints nodes = .ok () := by
        intro nodes
        rw [Grammar.checkConstraints, hfree grammar rfl]
        rfl
      have hchecks : Expression.programChecks (first ++ second) =
          Expression.programChecks first ++ Expression.programChecks second :=
        List.flatMap_append
      simp only [validateWith, Grammar.validate, hchecks, Check.runAll_append, hroots]
      cases Check.runAll grammar (Expression.programChecks first) with
      | error error => rfl
      | ok passed =>
          cases Check.runAll grammar (Expression.programChecks second) with
          | error error => rfl
          | ok passed => simp [bind, Except.bind, Except.map]

/-- Top-level expressions do not influence one another.  Behind a program that is accepted, a source
is parsed as it is on its own.  Behind one that breaks a contract, it is still searched for a wrong
character or a wrong nesting, and the broken contract is reported if there is none. -/
theorem parse_joined {grammar? : Option Grammar}
    (hfree : ∀ grammar ∈ grammar?, grammar.schema.constraints = []) (maxDepth : Nat)
    {separator : Char} (hseparator : IsSeparator separator) (first second : String) :
    (∀ nodes, parse grammar? maxDepth first = .ok nodes →
      parse grammar? maxDepth (joined first separator second) =
        match parse grammar? maxDepth second with
        | .ok rest => .ok (nodes ++ rest)
        | .error later => .error (later.relocate (· + (byteLength first.toList + 1)))) ∧
    (∀ error, parse grammar? maxDepth first = .error error → error.category = .semantic →
      parse grammar? maxDepth (joined first separator second) =
        match parse grammar? maxDepth second with
        | .ok _ => .error error
        | .error later =>
            if later.category = .lexical ∨ later.category = .syntactic then
              .error (later.relocate (· + (byteLength first.toList + 1)))
            else .error error) := by
  simp only [parse_eq_validateWith]
  cases hread : readSource maxDepth first with
  | error wrong =>
      -- What cannot be read is neither accepted nor a broken contract.
      refine ⟨?_, ?_⟩
      · intro nodes hnodes
        cases hnodes
      intro error herror hsemantic
      obtain rfl := Except.error.inj herror
      rcases category_of_readSource hread with hcategory | hcategory <;>
        exact nomatch hsemantic.symm.trans hcategory
  | ok program =>
      rw [readSource_joined hread hseparator]
      cases hsecond : readSource maxDepth second with
      | error later =>
          have hcategory := category_of_readSource hsecond
          simp [Except.bind, Except.map, Except.mapError, hcategory]
      | ok rest =>
          simp only [Except.bind, Except.map, Except.mapError, validateWith_append hfree,
            validateWith_relocate]
          constructor
          · intro nodes hnodes
            rw [hnodes]
            cases validateWith grammar? rest <;> rfl
          · intro error herror _
            rw [herror]
            cases hlater : validateWith grammar? rest with
            | ok _ => rfl
            | error later => simp [category_of_validateWith hlater]

/-- A program whose characters have more bytes than one stands in front of a superfluous argument,
and a wrong argument in front of an open parenthesis and in front of a superfluous argument. -/
theorem parse_joined_query : ∃ grammar,
    ({ querySchema with constraints := [] } : Schema).compile = .ok grammar ∧
    parse (some grammar) 8 (joined "(Q (F t)) 'é'" ',' "(C 1)") =
      .error (.contract (.tooManyArguments "C" 0 1) 18) ∧
    parse (some grammar) 8 (joined "(S 'é')" '\n' "(C") =
      .error (.structural .unmatchedOpenParen 9) ∧
    parse (some grammar) 8 (joined "(S 'é')" '\n' "(C 1)") =
      .error (.contract (.expectedIdentifier "S" "columns" "string literal 'é'") 3) := by
  have h : ({ querySchema with constraints := [] } : Schema).compile.toOption.any (fun grammar =>
      parse (some grammar) 8 "(Q (F t)) 'é'" =
        .ok [.symbolic "Q" [.symbolic "F" [.ident "t"]], .literal .string "é"] ∧
      parse (some grammar) 8 "(S 'é')" =
        .error (.contract (.expectedIdentifier "S" "columns" "string literal 'é'") 3) ∧
      parse (some grammar) 8 "(C" = .error (.structural .unmatchedOpenParen 0) ∧
      parse (some grammar) 8 "(C 1)" =
        .error (.contract (.tooManyArguments "C" 0 1) 3)) = true := by
    decide +kernel
  obtain ⟨grammar, hcompile, hresult⟩ := Schema.exists_compile_of_any h
  obtain ⟨haccepted, hwrong, hopen, hsuperfluous⟩ := of_decide_eq_true hresult
  have hfree : ∀ grammar' ∈ some grammar, grammar'.schema.constraints = [] := by
    rintro _ ⟨⟩
    rw [Schema.schema_of_compile hcompile]
  have hcomma : IsSeparator ',' := by simp [IsSeparator]
  have hline : IsSeparator '\n' := by simp [IsSeparator]
  refine ⟨grammar, hcompile, ?_, ?_, ?_⟩
  · have hbehind := (parse_joined hfree 8 hcomma "(Q (F t)) 'é'" "(C 1)").1 _ haccepted
    rw [hsuperfluous] at hbehind
    exact hbehind
  · have hbehind := (parse_joined hfree 8 hline "(S 'é')" "(C").2 _ hwrong rfl
    rw [hopen] at hbehind
    exact hbehind
  · have hbehind := (parse_joined hfree 8 hline "(S 'é')" "(C 1)").2 _ hwrong rfl
    rw [hsuperfluous] at hbehind
    exact hbehind

end SexpContract
