import Mathlib.Data.List.Forall2
import Mathlib.Data.List.TakeWhile
import SexpContract.Proofs.Concatenation

/-!
# Layout

How the tokens of a program are laid out decides where an error is reported, and nothing else.
Where a token stops is never read (`parseTokens_unstopped`), and where it starts is only carried
along (`parseTokens_moved`).  So an error lies at the start of one of the tokens in front of the end
(`exists_token_of_position`), and two sources with the same kinds and texts of tokens have the same
result, down to the token at which an error is reported (`parse_layout`).
-/

namespace SexpContract

/-! ## Section 1: What programs are read from -/

/-- What is read depends on what the tokens in front of the end spell and on the fault of their
nesting. -/
theorem readProgram_congr {maxDepth : Nat} {tokens others : List Token}
    (hspells : ∀ program, Spells (beforeEnd tokens) program → Spells (beforeEnd others) program)
    (hscan : nestingScan maxDepth [] (beforeEnd others) =
      nestingScan maxDepth [] (beforeEnd tokens)) :
    readProgram maxDepth others = readProgram maxDepth tokens := by
  cases hread : readProgram maxDepth tokens with
  | ok program =>
      obtain ⟨hprogram, hnesting⟩ := readProgram_eq_ok_iff.1 hread
      exact readProgram_eq_ok_iff.2 ⟨hspells program hprogram, hnesting⟩
  | error error =>
      rw [readProgram_error_iff, hscan]
      exact readProgram_error_iff.1 hread

theorem parseTokens_congr (grammar? : Option Grammar) {maxDepth : Nat} {tokens others : List Token}
    (hspells : ∀ program, Spells (beforeEnd tokens) program → Spells (beforeEnd others) program)
    (hscan : nestingScan maxDepth [] (beforeEnd others) =
      nestingScan maxDepth [] (beforeEnd tokens)) :
    parseTokens grammar? maxDepth others = parseTokens grammar? maxDepth tokens := by
  rw [parseTokens_eq_validateWith, parseTokens_eq_validateWith, readProgram_congr hspells hscan]

/-! ## Section 2: Where tokens stop -/

/-- The token without the place where it stops. -/
def Token.unstopped (token : Token) : Token :=
  { token with stop := 0 }

theorem Spells.unstopped {tokens : List Token} {program : List Expression}
    (h : Spells tokens program) : Spells (tokens.map Token.unstopped) program := by
  induction h with
  | nil => exact .nil
  | comma hkind _ ih => exact .comma hkind ih
  | atom hatom _ ih => exact .atom hatom ih
  | call hopening hname hclosing _ _ ihinner ih =>
      simp only [List.map_cons, List.map_append]
      exact .call hopening hname hclosing ihinner ih

theorem nestingScan_unstopped (maxDepth : Nat) (stack : List Nat) (tokens : List Token) :
    nestingScan maxDepth stack (tokens.map Token.unstopped) =
      nestingScan maxDepth stack tokens := by
  induction tokens generalizing stack with
  | nil => rfl
  | cons token rest ih =>
      have hfault : nestingFault? maxDepth stack token.unstopped
          (rest.map Token.unstopped).head? = nestingFault? maxDepth stack token rest.head? := by
        cases rest <;> rfl
      have hopen : openAfter stack token.unstopped = openAfter stack token := rfl
      rw [List.map_cons, nestingScan, nestingScan, hfault, hopen, ih]
      rfl

theorem beforeEnd_unstopped (tokens : List Token) :
    beforeEnd (tokens.map Token.unstopped) = (beforeEnd tokens).map Token.unstopped := by
  rw [beforeEnd, beforeEnd, List.takeWhile_map]
  rfl

/-- Where its tokens stop is no part of what a program comes to. -/
theorem parseTokens_unstopped (grammar? : Option Grammar) (maxDepth : Nat) (tokens : List Token) :
    parseTokens grammar? maxDepth (tokens.map Token.unstopped) =
      parseTokens grammar? maxDepth tokens := by
  apply parseTokens_congr
  · intro program hprogram
    rw [beforeEnd_unstopped]
    exact hprogram.unstopped
  · rw [beforeEnd_unstopped, nestingScan_unstopped]

/-! ## Section 3: Where tokens start -/

/-- Tokens that move are parsed as before, and what is reported moves with them. -/
theorem parseTokens_relocate (grammar? : Option Grammar) (maxDepth : Nat) (place : Nat → Nat)
    (tokens : List Token) :
    parseTokens grammar? maxDepth (tokens.map (Token.relocate place)) =
      (parseTokens grammar? maxDepth tokens).mapError (Error.relocate place) := by
  rw [parseTokens_eq_validateWith, parseTokens_eq_validateWith, readProgram_relocate]
  cases readProgram maxDepth tokens with
  | error error => rfl
  | ok program => exact validateWith_relocate grammar? place program

/-- A token starts where another one is moved to.  Where it stops is left open. -/
structure Token.MovesTo (place : Nat → Nat) (token other : Token) : Prop where
  kind : other.kind = token.kind
  text : other.text = token.text
  start : other.start = place token.start

/-- Moved tokens differ from relocated ones in where they stop at most. -/
theorem Token.map_unstopped_of_movesTo {place : Nat → Nat} {tokens others : List Token}
    (h : List.Forall₂ (Token.MovesTo place) tokens others) :
    others.map Token.unstopped = (tokens.map (Token.relocate place)).map Token.unstopped := by
  induction h with
  | nil => rfl
  | @cons token other _ _ hmoves _ ih =>
      have hhead : other.unstopped = (token.relocate place).unstopped := by
        simp only [unstopped, relocate, hmoves.kind, hmoves.text, hmoves.start]
      rw [List.map_cons, List.map_cons, List.map_cons, hhead, ih]

theorem parseTokens_moved {place : Nat → Nat} {tokens others : List Token}
    (h : List.Forall₂ (Token.MovesTo place) tokens others) (grammar? : Option Grammar)
    (maxDepth : Nat) :
    parseTokens grammar? maxDepth others =
      (parseTokens grammar? maxDepth tokens).mapError (Error.relocate place) := by
  calc parseTokens grammar? maxDepth others
      = parseTokens grammar? maxDepth (others.map Token.unstopped) :=
        (parseTokens_unstopped grammar? maxDepth others).symm
    _ = parseTokens grammar? maxDepth (tokens.map (Token.relocate place)) := by
        rw [Token.map_unstopped_of_movesTo h, parseTokens_unstopped]
    _ = (parseTokens grammar? maxDepth tokens).mapError (Error.relocate place) :=
        parseTokens_relocate grammar? maxDepth place tokens

/-! ## Section 4: Where errors lie -/

theorem Error.position?_relocate (place : Nat → Nat) (error : Error) :
    (error.relocate place).position? = error.position?.map place := by
  cases error <;> rfl

theorem parseTokens_beforeEnd (grammar? : Option Grammar) (maxDepth : Nat) (tokens : List Token) :
    parseTokens grammar? maxDepth (beforeEnd tokens) = parseTokens grammar? maxDepth tokens := by
  have hsame : beforeEnd (beforeEnd tokens) = beforeEnd tokens := List.takeWhile_idem
  apply parseTokens_congr
  · intro program hprogram
    rw [hsame]
    exact hprogram
  · rw [hsame]

/-- An error that names an offset names the start of a token in front of the end. -/
theorem exists_token_of_position {grammar? : Option Grammar} {maxDepth : Nat} {tokens : List Token}
    {error : Error} (h : parseTokens grammar? maxDepth tokens = .error error) {position : Nat}
    (hposition : error.position? = some position) :
    ∃ token ∈ beforeEnd tokens, token.start = position := by
  by_contra hnone
  -- If no token starts there, that offset can be moved while all tokens stay where they are.
  let place : Nat → Nat := fun offset => if offset = position then position + 1 else offset
  have hstays : List.Forall₂ (Token.MovesTo place) (beforeEnd tokens) (beforeEnd tokens) := by
    rw [List.forall₂_same]
    intro token htoken
    refine ⟨rfl, rfl, ?_⟩
    have hother : token.start ≠ position := fun hstart => hnone ⟨token, htoken, hstart⟩
    simp only [place, if_neg hother]
  have hmoved := parseTokens_moved hstays grammar? maxDepth
  rw [parseTokens_beforeEnd, h] at hmoved
  have hsame := congrArg Error.position? (Except.error.inj hmoved)
  rw [Error.position?_relocate, hposition] at hsame
  simp [place] at hsame

/-! ## Section 5: Layouts of one sequence of texts -/

/-- Tokens of given kinds and texts, each with its index for an offset. -/
def Token.numbered (texts : List (TokenKind × String)) : List Token :=
  texts.zipIdx.map fun (text, index) => ⟨text.1, text.2, index, index⟩

/-- Where the token with an index starts. -/
def Token.startAt (tokens : List Token) (index : Nat) : Nat :=
  (tokens[index]?.map Token.start).getD 0

theorem Token.numbered_movesTo (tokens : List Token) :
    List.Forall₂ (Token.MovesTo (Token.startAt tokens))
      (Token.numbered (tokens.map fun token => (token.kind, token.text))) tokens := by
  rw [List.forall₂_iff_get]
  refine ⟨by simp [numbered], ?_⟩
  intro index _ hindex
  constructor <;> simp [numbered, startAt, hindex]

/-- Offsets are carried along and never consulted.  Tokens that start elsewhere and stop anywhere
have the same result, with the place of an error moved as the tokens are.  So sources whose tokens
have the same kinds and texts are accepted alike, with the same nodes, and rejected alike, with the
same error at the same token. -/
theorem parse_layout (grammar? : Option Grammar) (maxDepth : Nat) :
    (∀ place tokens others, List.Forall₂ (Token.MovesTo place) tokens others →
      parseTokens grammar? maxDepth others =
        (parseTokens grammar? maxDepth tokens).mapError (Error.relocate place)) ∧
    (∀ first second tokens others, tokenize first = .ok tokens → tokenize second = .ok others →
      (tokens.map fun token => (token.kind, token.text)) =
        (others.map fun token => (token.kind, token.text)) →
      (∀ nodes, parse grammar? maxDepth first = .ok nodes ↔
        parse grammar? maxDepth second = .ok nodes) ∧
      ∃ result : Except Error (List Node),
        parse grammar? maxDepth first = result.mapError (Error.relocate (Token.startAt tokens)) ∧
        parse grammar? maxDepth second =
          result.mapError (Error.relocate (Token.startAt others))) := by
  refine ⟨fun place tokens others h => parseTokens_moved h grammar? maxDepth, ?_⟩
  intro first second tokens others hfirst hsecond hsame
  -- Both are layouts of the tokens that have their indices for offsets.
  have hfirst' := parseTokens_moved (Token.numbered_movesTo tokens) grammar? maxDepth
  have hsecond' := parseTokens_moved (Token.numbered_movesTo others) grammar? maxDepth
  rw [← hsame] at hsecond'
  rw [parse, parse, hfirst, hsecond]
  simp only [Except.bind]
  rw [hfirst', hsecond']
  refine ⟨?_, _, rfl, rfl⟩
  intro nodes
  cases parseTokens grammar? maxDepth
      (Token.numbered (tokens.map fun token => (token.kind, token.text))) <;>
    simp [Except.mapError]

/-- A call whose argument is a string, with offsets in no order and then elsewhere, and a query with
the same fault on one line and on four. -/
theorem parse_layout_query :
    let fault : ContractFault := .expectedIdentifier "F" "table" "string literal 'a'"
    let others : List Token :=
      [⟨.leftParen, "(", 71, 0⟩, ⟨.identifier, "F", 31, 5⟩, ⟨.string, "a", 31, 31⟩,
        ⟨.rightParen, ")", 11, 2⟩]
    let tokens : List Token :=
      [⟨.leftParen, "(", 0, 1⟩, ⟨.identifier, "Q", 1, 2⟩, ⟨.leftParen, "(", 3, 4⟩,
        ⟨.identifier, "F", 4, 5⟩, ⟨.string, "a", 6, 9⟩, ⟨.rightParen, ")", 9, 10⟩,
        ⟨.rightParen, ")", 10, 11⟩, ⟨.endOfInput, "", 11, 11⟩]
    let spread : List Token :=
      [⟨.leftParen, "(", 1, 2⟩, ⟨.identifier, "Q", 4, 5⟩, ⟨.leftParen, "(", 6, 7⟩,
        ⟨.identifier, "F", 7, 8⟩, ⟨.string, "a", 8, 11⟩, ⟨.rightParen, ")", 13, 14⟩,
        ⟨.rightParen, ")", 14, 15⟩, ⟨.endOfInput, "", 15, 15⟩]
    ∃ grammar, querySchema.compile = .ok grammar ∧
      parseTokens (some grammar) 8 others = .error (.contract fault 31) ∧
      tokenize "(Q (F 'a'))" = .ok tokens ∧ tokenize "\n( \nQ\n(F'a'\t ))" = .ok spread ∧
      ∃ result : Except Error (List Node),
        parse (some grammar) 8 "(Q (F 'a'))" = result.mapError (.relocate (Token.startAt tokens)) ∧
        parse (some grammar) 8 "\n( \nQ\n(F'a'\t ))" =
          result.mapError (.relocate (Token.startAt spread)) := by
  intro fault others tokens spread
  let jumbled : List Token :=
    [⟨.leftParen, "(", 7, 2⟩, ⟨.identifier, "F", 3, 9⟩, ⟨.string, "a", 3, 0⟩,
      ⟨.rightParen, ")", 1, 1⟩]
  have h : querySchema.compile.toOption.any (fun grammar =>
      parseTokens (some grammar) 8 jumbled = .error (.contract fault 3)) = true := by
    decide +kernel
  obtain ⟨grammar, hcompile, hresult⟩ := Schema.exists_compile_of_any h
  obtain ⟨hmoved, hlayout⟩ := parse_layout (some grammar) 8
  have hothers := hmoved (fun offset => 10 * offset + 1) jumbled others
    (.cons ⟨rfl, rfl, rfl⟩ (.cons ⟨rfl, rfl, rfl⟩ (.cons ⟨rfl, rfl, rfl⟩
      (.cons ⟨rfl, rfl, rfl⟩ .nil))))
  rw [of_decide_eq_true hresult] at hothers
  have htokens : tokenize "(Q (F 'a'))" = .ok tokens := by decide +kernel
  have hspread : tokenize "\n( \nQ\n(F'a'\t ))" = .ok spread := by decide +kernel
  exact ⟨grammar, hcompile, hothers, htokens, hspread,
    (hlayout _ _ tokens spread htokens hspread rfl).2⟩

end SexpContract
