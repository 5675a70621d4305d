import SexpContract.Proofs.Lookahead

/-!
# Where Tokens Stand

The tokens of a text stand within it (`Scans.within`), each over the characters of one lexeme
(`Scans.exists_lexeme`).  They move with the text that they are read from (`Scans.relocate`).
-/

namespace SexpContract

open Text

/-- The token with its offsets moved. -/
def Token.relocate (place : Nat → Nat) (token : Token) : Token :=
  { token with start := place token.start, stop := place token.stop }

namespace Scans

variable {position stop : Nat} {text rest : List Char} {tokens : List Token}

/-! ## Section 1: Bounds -/

theorem position_le_stop (h : Scans position text tokens stop rest) : position ≤ stop := by
  obtain ⟨front, _, rfl⟩ := h.exists_front
  exact Nat.le_add_right _ _

/-- Every token stands within the text that was read, and over one byte at least. -/
theorem within (h : Scans position text tokens stop rest) :
    ∀ token ∈ tokens, position ≤ token.start ∧ token.start < token.stop ∧ token.stop ≤ stop := by
  induction h with
  | done => simp
  | blank _ _ ih =>
      intro token htoken
      obtain ⟨hlow, hspan, hhigh⟩ := ih token htoken
      exact ⟨by omega, hspan, hhigh⟩
  | lexeme _ hfirst hinner ih =>
      have hpos := byteLength_pos (Lexeme.source_ne_nil hfirst)
      have hle := hinner.position_le_stop
      intro token htoken
      rcases List.mem_cons.1 htoken with rfl | htoken
      · refine ⟨Nat.le_refl _, ?_, hle⟩
        simp only [Lexeme.toToken]
        omega
      · obtain ⟨hlow, hspan, hhigh⟩ := ih token htoken
        exact ⟨by omega, hspan, hhigh⟩

/-! ## Section 2: Tokens and lexemes -/

/-- A token among those of a text stands over the longest lexeme at its place, behind the tokens
before it and in front of those after it. -/
theorem exists_lexeme {front back : List Token} {token : Token}
    (h : Scans position text (front ++ token :: back) stop rest) :
    ∃ before, ∃ lexeme : Lexeme, ∃ after, text = before ++ (lexeme.source ++ after) ∧
      Scans position text front (position + byteLength before) (lexeme.source ++ after) ∧
      token = lexeme.toToken (position + byteLength before) ∧
      LongestLexeme lexeme.kind lexeme.source lexeme.text after ∧
      Scans (position + byteLength before + byteLength lexeme.source) after back stop rest := by
  generalize htokens : front ++ token :: back = tokens at h
  induction h generalizing front with
  | done => simp at htokens
  | @blank position _ c _ _ _ hblank _ ih =>
      obtain ⟨before, lexeme, after, rfl, hfront, rfl, hlongest, hback⟩ := ih htokens
      have hsum : position + byteLength (c :: before) =
          position + c.utf8Size + byteLength before := by
        rw [byteLength_cons, Nat.add_assoc]
      refine ⟨c :: before, lexeme, after, rfl, ?_, ?_, hlongest, ?_⟩
      · rw [hsum]
        exact .blank hblank hfront
      · rw [hsum]
      · rw [hsum]
        exact hback
  | @lexeme position _ c _ after _ lexeme _ hblank hfirst hinner ih =>
      have hsource := Lexeme.first_source hfirst
      cases front with
      | nil =>
          obtain ⟨rfl, rfl⟩ := List.cons.inj htokens
          refine ⟨[], lexeme, after, hsource.symm, ?_, rfl, Lexeme.longest_of_first hfirst, hinner⟩
          rw [hsource]
          exact .done position _
      | cons first front =>
          obtain ⟨rfl, htail⟩ := List.cons.inj htokens
          obtain ⟨before, other, after', rfl, hfront, rfl, hlongest, hback⟩ := ih htail
          have hsum : position + byteLength (lexeme.source ++ before) =
              position + byteLength lexeme.source + byteLength before := by
            rw [byteLength_append, Nat.add_assoc]
          refine ⟨lexeme.source ++ before, other, after', ?_, ?_, ?_, hlongest, ?_⟩
          · rw [← hsource, List.append_assoc]
          · rw [hsum]
            exact .lexeme hblank hfirst hfront
          · rw [hsum]
          · rw [hsum]
            exact hback

/-! ## Section 3: Moving a text -/

/-- The same text at another offset has the same tokens, moved as the text is. -/
theorem relocate {place : Nat → Nat} (h : Scans position text tokens stop rest)
    (hplace : ∀ n, place (position + n) = place position + n) :
    Scans (place position) text (tokens.map (Token.relocate place)) (place stop) rest := by
  induction h with
  | done => exact .done _ _
  | @blank position _ c _ _ _ hblank _ ih =>
      have hinner := ih fun n => by rw [Nat.add_assoc, hplace, hplace, Nat.add_assoc]
      rw [hplace] at hinner
      exact .blank hblank hinner
  | @lexeme position _ _ _ _ _ lexeme _ hblank hfirst _ ih =>
      have hinner := ih fun n => by rw [Nat.add_assoc, hplace, hplace, Nat.add_assoc]
      have htoken : (lexeme.toToken position).relocate place = lexeme.toToken (place position) := by
        simp only [Token.relocate, Lexeme.toToken, hplace]
      rw [hplace] at hinner
      rw [List.map_cons, htoken]
      exact .lexeme hblank hfirst hinner

end Scans

end SexpContract
