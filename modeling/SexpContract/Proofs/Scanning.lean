import SexpContract.Proofs.Lexemes
import SexpContract.Token.Scan

/-!
# Scanning

`Scans` states how tokens are read off the front of a text.  It composes (`Scans.trans`), and it
decides what a source comes to (`tokenize_eq_ok_iff`); all else is a lexical fault
(`tokenize_error`).
-/

namespace SexpContract

open Text

/-! ## Section 1: Tokens at the front of a text -/

/-- From a text at a byte offset, some tokens are read until another text is left. -/
inductive Scans : Nat → List Char → List Token → Nat → List Char → Prop where
  | done (position : Nat) (rest : List Char) :
      Scans position rest [] position rest
  | blank {position stop : Nat} {c : Char} {text rest : List Char} {tokens : List Token}
      (hblank : isBlank c = true) :
      Scans (position + c.utf8Size) text tokens stop rest →
      Scans position (c :: text) tokens stop rest
  | lexeme {position stop : Nat} {c : Char} {text after rest : List Char} {lexeme : Lexeme}
      {tokens : List Token} (hblank : isBlank c = false)
      (hfirst : Lexeme.first c text = .ok (lexeme, after)) :
      Scans (position + byteLength lexeme.source) after tokens stop rest →
      Scans position (c :: text) (lexeme.toToken position :: tokens) stop rest

theorem Scans.trans {position middle stop : Nat} {text between rest : List Char}
    {tokens tokens' : List Token} (h : Scans position text tokens middle between)
    (h' : Scans middle between tokens' stop rest) :
    Scans position text (tokens ++ tokens') stop rest := by
  induction h with
  | done => exact h'
  | blank hblank _ ih => exact .blank hblank (ih h')
  | lexeme hblank hfirst _ ih => exact .lexeme hblank hfirst (ih h')

theorem tokensFrom_nil (position : Nat) : tokensFrom position [] = .ok [.endMark position] := by
  rw [tokensFrom.eq_def]

theorem tokensFrom_blank (position : Nat) {c : Char} (rest : List Char)
    (hblank : isBlank c = true) :
    tokensFrom position (c :: rest) = tokensFrom (position + c.utf8Size) rest := by
  rw [tokensFrom.eq_def]
  simp only [hblank, if_true]

theorem tokensFrom_lexeme (position : Nat) {c : Char} {rest after : List Char} {lexeme : Lexeme}
    (hblank : isBlank c = false) (hfirst : Lexeme.first c rest = .ok (lexeme, after)) :
    tokensFrom position (c :: rest) =
      (tokensFrom (position + byteLength lexeme.source) after).map
        fun tokens => lexeme.toToken position :: tokens := by
  rw [tokensFrom.eq_def]
  simp only [hblank, Bool.false_eq_true, if_false]
  split
  · rename_i hfault
    rw [hfirst] at hfault
    cases hfault
  · rename_i hlexeme
    rw [hfirst] at hlexeme
    cases hlexeme
    simp only [bind, Except.bind]
    cases tokensFrom (position + byteLength lexeme.source) after <;> rfl

theorem tokensFrom_fault (position : Nat) {c : Char} {rest : List Char} {fault : LexicalFault}
    (hblank : isBlank c = false) (hfirst : Lexeme.first c rest = .error fault) :
    tokensFrom position (c :: rest) = .error (.lexical fault position) := by
  rw [tokensFrom.eq_def]
  simp only [hblank, Bool.false_eq_true, if_false]
  split
  · rename_i hfault
    rw [hfirst] at hfault
    cases hfault
    rfl
  · rename_i hlexeme
    rw [hfirst] at hlexeme
    cases hlexeme

theorem Scans.tokensFrom_eq {position stop : Nat} {text rest : List Char} {tokens : List Token}
    (h : Scans position text tokens stop rest) :
    tokensFrom position text = (tokensFrom stop rest).map (tokens ++ ·) := by
  -- On the scan: whatever becomes of the rest, the tokens before it stay in front.
  induction h with
  | @done position rest => cases tokensFrom position rest <;> rfl
  | blank hblank _ ih => rw [tokensFrom_blank _ _ hblank, ih]
  | @lexeme _ stop _ _ _ rest _ _ hblank hfirst _ ih =>
      rw [tokensFrom_lexeme _ hblank hfirst, ih]
      cases tokensFrom stop rest <;> rfl

/-- A text is read to its end, or up to a character at which no lexeme starts. -/
theorem scans_or_fault (position : Nat) (text : List Char) :
    (∃ tokens stop, Scans position text tokens stop []) ∨
      ∃ tokens offset c rest fault, Scans position text tokens offset (c :: rest) ∧
        isBlank c = false ∧ Lexeme.first c rest = .error fault := by
  -- Along the scan: a blank and a lexeme pass on what becomes of the text behind them.
  induction position, text using tokensFrom.induct with
  | case1 position => exact Or.inl ⟨[], position, .done position []⟩
  | case2 position c rest hblank ih =>
      rcases ih with ⟨tokens, stop, hscans⟩ | ⟨tokens, offset, d, after, fault, hscans, hfault⟩
      · exact Or.inl ⟨tokens, stop, .blank hblank hscans⟩
      · exact Or.inr ⟨tokens, offset, d, after, fault, .blank hblank hscans, hfault⟩
  | case3 position c rest hblank fault hfirst =>
      exact Or.inr ⟨[], position, c, rest, fault, .done position _, Bool.eq_false_iff.2 hblank,
        hfirst⟩
  | case4 position c rest hblank lexeme after hfirst _ ih =>
      have hlexeme := Bool.eq_false_iff.2 hblank
      rcases ih with ⟨tokens, stop, hscans⟩ | ⟨tokens, offset, d, text, fault, hscans, hfault⟩
      · exact Or.inl ⟨_, stop, .lexeme hlexeme hfirst hscans⟩
      · exact Or.inr ⟨_, offset, d, text, fault, .lexeme hlexeme hfirst hscans, hfault⟩

theorem Scans.tokensFrom_end {position stop : Nat} {text : List Char} {tokens : List Token}
    (h : Scans position text tokens stop []) :
    tokensFrom position text = .ok (tokens ++ [.endMark stop]) := by
  rw [h.tokensFrom_eq, tokensFrom_nil]
  rfl

theorem Scans.tokensFrom_fault {position offset : Nat} {text rest : List Char}
    {tokens : List Token} {c : Char} {fault : LexicalFault}
    (h : Scans position text tokens offset (c :: rest)) (hblank : isBlank c = false)
    (hfirst : Lexeme.first c rest = .error fault) :
    tokensFrom position text = .error (.lexical fault offset) := by
  rw [h.tokensFrom_eq, SexpContract.tokensFrom_fault _ hblank hfirst]
  rfl

theorem tokenize_eq_ok_iff {source : String} {tokens : List Token} :
    tokenize source = .ok tokens ↔
      ∃ body stop, Scans 0 source.toList body stop [] ∧ tokens = body ++ [.endMark stop] := by
  constructor
  · intro h
    rcases scans_or_fault 0 source.toList with ⟨body, stop, hscans⟩ |
      ⟨_, _, _, _, _, hscans, hblank, hfirst⟩
    · exact ⟨body, stop, hscans, Except.ok.inj (h.symm.trans hscans.tokensFrom_end)⟩
    · cases h.symm.trans (hscans.tokensFrom_fault hblank hfirst)
  · rintro ⟨body, stop, hscans, rfl⟩
    exact hscans.tokensFrom_end

/-- A source without tokens has a character at which no lexeme starts, and tokens up to there. -/
theorem exists_fault_of_tokenize {source : String} {error : Error}
    (h : tokenize source = .error error) :
    ∃ tokens offset c rest fault, error = .lexical fault offset ∧
      Scans 0 source.toList tokens offset (c :: rest) ∧ isBlank c = false ∧
      Lexeme.first c rest = .error fault := by
  rcases scans_or_fault 0 source.toList with ⟨_, _, hscans⟩ |
    ⟨tokens, offset, c, rest, fault, hscans, hblank, hfirst⟩
  · cases h.symm.trans hscans.tokensFrom_end
  · have herror := h.symm.trans (hscans.tokensFrom_fault hblank hfirst)
    exact ⟨tokens, offset, c, rest, fault, Except.error.inj herror, hscans, hblank, hfirst⟩

theorem tokenize_error {source : String} {error : Error} (h : tokenize source = .error error) :
    ∃ fault offset, error = .lexical fault offset := by
  obtain ⟨_, offset, _, _, fault, rfl, _⟩ := exists_fault_of_tokenize h
  exact ⟨fault, offset, rfl⟩

/-! ## Section 2: Tokens keep what was found -/

/-- The text of an identifier token is an identifier, that of a number token a number. -/
def Token.IsWhole (token : Token) : Prop :=
  match token.kind with
  | .identifier => IsIdentifier token.text.toList
  | .number => IsNumber token.text.toList
  | _ => True

theorem Lexeme.IsWhole.toToken {lexeme : Lexeme} (h : lexeme.IsWhole) (position : Nat) :
    (lexeme.toToken position).IsWhole := by
  cases lexeme with
  | identifier name =>
      simpa [Token.IsWhole, Lexeme.toToken, Lexeme.IsWhole, kind, text, source] using h
  | number digits =>
      simpa [Token.IsWhole, Lexeme.toToken, Lexeme.IsWhole, kind, text, source] using h
  | _ => trivial

theorem Scans.isWhole {position stop : Nat} {text rest : List Char} {tokens : List Token}
    (h : Scans position text tokens stop rest) : ∀ token ∈ tokens, token.IsWhole := by
  induction h with
  | done => simp
  | blank _ _ ih => exact ih
  | lexeme _ hfirst _ ih =>
      intro token htoken
      rcases List.mem_cons.1 htoken with rfl | htoken
      · exact (Lexeme.isWhole_of_first hfirst).toToken _
      · exact ih token htoken

theorem isWhole_of_tokenize {source : String} {tokens : List Token}
    (h : tokenize source = .ok tokens) : ∀ token ∈ tokens, token.IsWhole := by
  obtain ⟨body, stop, hscans, rfl⟩ := tokenize_eq_ok_iff.1 h
  intro token htoken
  rcases List.mem_append.1 htoken with hbody | hend
  · exact hscans.isWhole token hbody
  · obtain rfl := List.mem_singleton.1 hend
    trivial

/-! ## Section 3: Scanning what was written -/

/-- The token of an identifier that starts at a byte offset. -/
def Token.identifierAt (name : String) (position : Nat) : Token :=
  ⟨.identifier, name, position, position + byteLength name.toList⟩

theorem Lexeme.toToken_identifier (name : String) (position : Nat) :
    (Lexeme.identifier name.toList).toToken position = .identifierAt name position := by
  simp [Token.identifierAt, toToken, kind, text, source]

theorem Scans.identifier {name after : List Char} (h : IsIdentifier name)
    (hafter : ∀ d ∈ after.head?, isIdentifierChar d = false) (position : Nat) :
    Scans position (name ++ after) [(Lexeme.identifier name).toToken position]
      (position + byteLength name) after := by
  cases name with
  | nil => exact h.elim
  | cons c rest =>
      have hblank : isBlank c = false := isBlank_eq_false h.1 (by decide)
      exact .lexeme hblank (Lexeme.first_identifier h hafter) (.done _ _)

theorem Scans.number {digits after : List Char} (h : IsNumber digits) (hafter : Separated after)
    (position : Nat) :
    Scans position (digits ++ after) [(Lexeme.number digits).toToken position]
      (position + byteLength digits) after := by
  obtain ⟨c, rest, rfl, hblank⟩ : ∃ c rest, digits = c :: rest ∧ isBlank c = false := by
    cases h with
    | unsigned h =>
        obtain ⟨c, rest, hcons, hdigit⟩ := h.exists_cons
        exact ⟨c, rest, hcons, isBlank_eq_false hdigit (by decide)⟩
    | negative h => exact ⟨'-', _, rfl, by decide⟩
  exact .lexeme hblank (Lexeme.first_number h hafter) (.done _ _)

theorem Scans.string (text after : List Char) (position : Nat) :
    Scans position ('\'' :: Quoted.encode text ++ ['\''] ++ after)
      [(Lexeme.string (Quoted.encode text)).toToken position]
      (position + byteLength ('\'' :: Quoted.encode text ++ ['\''])) after := by
  have hfirst := Lexeme.first_string text after
  rw [List.cons_append, List.cons_append, List.append_assoc]
  exact .lexeme (by decide) hfirst (.done _ _)

theorem Scans.leftParen (position : Nat) (after : List Char) :
    Scans position ('(' :: after) [Lexeme.leftParen.toToken position] (position + 1) after :=
  .lexeme (by decide) rfl (.done _ _)

theorem Scans.rightParen (position : Nat) (after : List Char) :
    Scans position (')' :: after) [Lexeme.rightParen.toToken position] (position + 1) after :=
  .lexeme (by decide) rfl (.done _ _)

end SexpContract
