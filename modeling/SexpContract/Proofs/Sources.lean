import SexpContract.Proofs.Descent

/-!
# Programs of Sources

A source is read in three stages: its tokens, the program that they spell, and with a grammar the
validation of that program.  The first two need no grammar (`readSource`), and what they fail with
no grammar changes (`parse_eq_readSource`).
-/

namespace SexpContract

/-- Reads the program of a source. -/
def readSource (maxDepth : Nat) (source : String) : Except Error (List Expression) :=
  (tokenize source).bind (readProgram maxDepth)

/-- Without a grammar a program loses its offsets, and with one it is validated. -/
theorem parse_eq_readSource (maxDepth : Nat) (source : String) :
    parse none maxDepth source = (readSource maxDepth source).map Expression.nodes ∧
      ∀ grammar, parse (some grammar) maxDepth source =
        (readSource maxDepth source).bind grammar.validate := by
  rw [readSource]
  cases htokens : tokenize source with
  | error error => simp [parse, htokens, Except.bind, Except.map]
  | ok tokens =>
      obtain ⟨hnone, hsome⟩ := parseTokens_eq_readProgram maxDepth tokens
      simp only [parse, htokens, Except.bind]
      exact ⟨hnone, hsome⟩

/-- What becomes of a program: with a grammar it is validated. -/
def validateWith (grammar? : Option Grammar) (program : List Expression) :
    Except Error (List Node) :=
  match grammar? with
  | none => .ok (Expression.nodes program)
  | some grammar => grammar.validate program

theorem parseTokens_eq_validateWith (grammar? : Option Grammar) (maxDepth : Nat)
    (tokens : List Token) :
    parseTokens grammar? maxDepth tokens =
      (readProgram maxDepth tokens).bind (validateWith grammar?) := by
  obtain ⟨hnone, hsome⟩ := parseTokens_eq_readProgram maxDepth tokens
  cases grammar? with
  | none =>
      rw [hnone]
      cases readProgram maxDepth tokens <;> rfl
  | some grammar => exact hsome grammar

theorem parse_eq_validateWith (grammar? : Option Grammar) (maxDepth : Nat) (source : String) :
    parse grammar? maxDepth source = (readSource maxDepth source).bind (validateWith grammar?) := by
  obtain ⟨hnone, hsome⟩ := parse_eq_readSource maxDepth source
  cases grammar? with
  | none =>
      rw [hnone]
      cases readSource maxDepth source <;> rfl
  | some grammar => exact hsome grammar

theorem category_of_validateWith {grammar? : Option Grammar} {program : List Expression}
    {error : Error} (h : validateWith grammar? program = .error error) :
    error.category = .semantic := by
  cases grammar? with
  | none => cases h
  | some grammar =>
      rcases validate_cases grammar program with hok | ⟨error', herror, hcategory⟩
      · cases h.symm.trans hok
      · obtain rfl := Except.error.inj (h.symm.trans herror)
        exact hcategory

/-- Tokens that are no program have a wrong nesting. -/
theorem category_of_readProgram {maxDepth : Nat} {tokens : List Token} {error : Error}
    (h : readProgram maxDepth tokens = .error error) : error.category = .syntactic := by
  have hparse := (parseTokens_eq_readProgram maxDepth tokens).1
  rw [h] at hparse
  obtain ⟨⟨fault, position, rfl⟩, _⟩ := parseFrom_structural rfl hparse
  rfl

/-- A source that cannot be read has a wrong character or a wrong nesting. -/
theorem category_of_readSource {maxDepth : Nat} {source : String} {error : Error}
    (h : readSource maxDepth source = .error error) :
    error.category = .lexical ∨ error.category = .syntactic := by
  rw [readSource] at h
  cases htokens : tokenize source with
  | error error =>
      obtain ⟨fault, position, rfl⟩ := tokenize_error htokens
      rw [htokens] at h
      cases h
      exact .inl rfl
  | ok tokens =>
      rw [htokens, Except.bind] at h
      exact .inr (category_of_readProgram h)

/-- A contract is broken by tokens that are a program. -/
theorem exists_readProgram_of_parseTokens {grammar : Grammar} {maxDepth : Nat}
    {tokens : List Token} {fault : ContractFault} {position : Nat}
    (h : parseTokens (some grammar) maxDepth tokens = .error (.contract fault position)) :
    ∃ program, readProgram maxDepth tokens = .ok program ∧
      grammar.validate program = .error (.contract fault position) := by
  rw [(parseTokens_eq_readProgram maxDepth tokens).2] at h
  cases hread : readProgram maxDepth tokens with
  | error error =>
      rw [hread] at h
      obtain rfl := Except.error.inj h
      cases category_of_readProgram hread
  | ok program =>
      rw [hread] at h
      exact ⟨program, rfl, h⟩

/-- A contract is broken by a program that was read. -/
theorem exists_readSource_of_parse {grammar : Grammar} {maxDepth : Nat} {source : String}
    {fault : ContractFault} {position : Nat}
    (h : parse (some grammar) maxDepth source = .error (.contract fault position)) :
    ∃ program, readSource maxDepth source = .ok program ∧
      grammar.validate program = .error (.contract fault position) := by
  rw [(parse_eq_readSource maxDepth source).2] at h
  cases hread : readSource maxDepth source with
  | error error =>
      rw [hread] at h
      obtain rfl := Except.error.inj h
      rcases category_of_readSource hread with hcategory | hcategory <;> cases hcategory
  | ok program =>
      rw [hread] at h
      exact ⟨program, rfl, h⟩

/-- No lexeme is an end mark, so all tokens of a text stand before the end. -/
theorem Scans.beforeEnd_eq {position stop mark : Nat} {text rest : List Char} {tokens : List Token}
    (h : Scans position text tokens stop rest) :
    beforeEnd (tokens ++ [.endMark mark]) = tokens := by
  induction h with
  | done => exact beforeEnd_end [] rfl
  | blank _ _ ih => exact ih
  | @lexeme position _ _ _ _ _ lexeme _ _ _ _ ih =>
      have hkind : (lexeme.toToken position).kind ≠ .endOfInput := by
        cases lexeme <;> simp [Lexeme.toToken, Lexeme.kind]
      rw [List.cons_append, beforeEnd_cons _ hkind, ih]

/-- A program is read from a source whose tokens spell it, if it is not nested too deep. -/
theorem readSource_eq_ok_iff {maxDepth : Nat} {source : String} {program : List Expression} :
    readSource maxDepth source = .ok program ↔
      ∃ body stop, Scans 0 source.toList body stop [] ∧ Spells body program ∧
        Expression.nestingAll program ≤ maxDepth := by
  rw [readSource]
  constructor
  · intro h
    cases htokens : tokenize source with
    | error error =>
        rw [htokens] at h
        cases h
    | ok tokens =>
        obtain ⟨body, stop, hscans, rfl⟩ := tokenize_eq_ok_iff.1 htokens
        rw [htokens, Except.bind, readProgram_eq_ok_iff, hscans.beforeEnd_eq] at h
        exact ⟨body, stop, hscans, h⟩
  · rintro ⟨body, stop, hscans, hspells, hnesting⟩
    rw [tokenize_eq_ok_iff.2 ⟨body, stop, hscans, rfl⟩, Except.bind, readProgram_eq_ok_iff,
      hscans.beforeEnd_eq]
    exact ⟨hspells, hnesting⟩

end SexpContract
