import Mathlib.Data.List.Basic
import SexpContract.Proofs.Lookahead
import SexpContract.Proofs.TokenPlaces

/-!
# Lexical Faults

Where the tokens of a source stop, and why.  A fault says what stands at its offset, behind the
tokens of the text in front of it (`tokenize_eq_error_iff`).  No look-ahead in front of a fault
reaches past its first character, so an unexpected character stays one as long as no digit comes
to stand behind it, and an unterminated string can only be closed by text that is added
(`tokenize_error_local`).
-/

namespace SexpContract

open Text

/-! ## Section 1: What stands at a fault -/

namespace Text.Quoted

/-- A text in which no quote closes a string literal that is opened in front of it: each is behind a
backslash that takes it along. -/
def Unclosed (text : List Char) : Prop :=
  ∀ body denoted after, Denotes body denoted → text ≠ body ++ '\'' :: after

theorem unclosed_iff {text : List Char} : Unclosed text ↔ split text = none := by
  constructor
  · intro hunclosed
    cases hsplit : split text with
    | none => rfl
    | some parts =>
        have htext := append_split hsplit
        exact absurd htext.symm (hunclosed _ _ _ (denotes_of_split hsplit))
  · rintro hsplit body denoted after hbody rfl
    rw [hbody.split_eq] at hsplit
    cases hsplit

/-- A string literal that is closed by text that is added runs through all the text in front. -/
theorem Unclosed.exists_ending {text more body left : List Char} (h : Unclosed text)
    (hsplit : split (text ++ more) = some (body, left)) :
    ∃ ending, body = text ++ ending ∧ more = ending ++ '\'' :: left := by
  rcases List.append_eq_append_iff.1 (append_split hsplit) with
    ⟨ending, htext, hmore⟩ | ⟨ending, hbody, hmore⟩
  · cases ending with
    | nil => exact ⟨[], by simpa using htext.symm, by simpa using hmore.symm⟩
    | cons d inner =>
        -- The closing quote would stand in the text in front.
        obtain ⟨rfl, _⟩ := List.cons.inj hmore
        exact absurd htext (h _ _ _ (denotes_of_split hsplit))
  · exact ⟨ending, hbody, hmore⟩

end Text.Quoted

/-- Neither a blank nor a lexeme starts at a character with the given text behind it. -/
structure StartsNothing (c : Char) (after : List Char) : Prop where
  blank : isBlank c = false
  mark : c ∉ ['(', ')', ',', '\'']
  digit : c.isDigit = false
  identifier : isIdentifierStart c = false
  dash : c = '-' → ∀ d ∈ after.head?, d.isDigit = false

/-- What a fault says about the character at its offset and the text behind it. -/
def LexicalFault.Fits (c : Char) (after : List Char) : LexicalFault → Prop
  | .unterminatedString => c = '\'' ∧ Quoted.Unclosed after
  | .unexpectedCharacter character => character = c ∧ StartsNothing c after

namespace LexicalFault

theorem first_of_fits {c : Char} {after : List Char} {fault : LexicalFault}
    (h : fault.Fits c after) : isBlank c = false ∧ Lexeme.first c after = .error fault := by
  cases fault with
  | unterminatedString =>
      obtain ⟨rfl, hunclosed⟩ := h
      refine ⟨by decide, ?_⟩
      simp [Lexeme.first, Quoted.unclosed_iff.1 hunclosed]
  | unexpectedCharacter character =>
      obtain ⟨rfl, hnothing⟩ := h
      refine ⟨hnothing.blank, ?_⟩
      have hnumber : Lexeme.startsNumber character after = false := by
        simpa [Lexeme.startsNumber, hnothing.digit, Option.any_eq_false] using hnothing.dash
      have hmark := hnothing.mark
      simp only [List.mem_cons, List.not_mem_nil, or_false, not_or] at hmark
      simp [Lexeme.first, hmark, hnumber, hnothing.identifier]

theorem fits_of_first {c : Char} {after : List Char} {fault : LexicalFault}
    (hblank : isBlank c = false) (h : Lexeme.first c after = .error fault) :
    fault.Fits c after := by
  by_cases hquote : c = '\''
  · subst hquote
    cases hsplit : Quoted.split after with
    | none =>
        simp only [Lexeme.first, hsplit] at h
        cases h
        exact ⟨rfl, Quoted.unclosed_iff.2 hsplit⟩
    | some parts =>
        rw [Lexeme.first_quote hsplit] at h
        cases h
  · -- Nothing but a string literal fails once its first character is known.
    have hother : c ∉ ['(', ')', ','] ∧ Lexeme.startsNumber c after = false ∧
        isIdentifierStart c = false ∧ fault = .unexpectedCharacter c := by
      unfold Lexeme.first at h
      grind
    obtain ⟨hmark, hnumber, hstart, rfl⟩ := hother
    simp only [Lexeme.startsNumber, Bool.or_eq_false_iff, Bool.and_eq_false_imp,
      decide_eq_true_eq, Option.any_eq_false] at hnumber
    refine ⟨rfl, hblank, ?_, hnumber.1, hstart, ?_⟩
    · simpa [hquote] using hmark
    · simpa using hnumber.2

end LexicalFault

/-- A source is faulty exactly if its tokens lead up to a character at which no token can start. -/
theorem tokenize_eq_error_iff {source : String} {error : Error} :
    tokenize source = .error error ↔
      ∃ fault before c after tokens, error = .lexical fault (byteLength before) ∧
        source.toList = before ++ c :: after ∧ fault.Fits c after ∧
        Scans 0 source.toList tokens (byteLength before) (c :: after) := by
  constructor
  · intro h
    obtain ⟨tokens, offset, c, after, fault, rfl, hscans, hblank, hfirst⟩ :=
      exists_fault_of_tokenize h
    obtain ⟨before, hsource, hoffset⟩ := hscans.exists_front
    rw [Nat.zero_add] at hoffset
    subst hoffset
    exact ⟨fault, before, c, after, tokens, rfl, hsource, LexicalFault.fits_of_first hblank hfirst,
      hscans⟩
  · rintro ⟨fault, before, c, after, tokens, rfl, _, hfits, hscans⟩
    obtain ⟨hblank, hfirst⟩ := LexicalFault.first_of_fits hfits
    exact hscans.tokensFrom_fault hblank hfirst

/-! ## Section 2: What may stand behind a fault -/

theorem goesOnLess_nil (text : List Char) : GoesOnLess [] text :=
  ⟨by simp, by simp, fun _ => rfl⟩

/-- Of the text behind a character only its first one is looked at, for the digit of a fraction. -/
theorem goesOnLess_cons {c : Char} {after' : List Char} (after : List Char)
    (h : c = '.' → ∀ d ∈ after'.head?, d.isDigit = false) :
    GoesOnLess (c :: after') (c :: after) := by
  refine ⟨id, id, ?_⟩
  intro _
  by_cases hpoint : c = '.'
  · simpa [startsFraction, hpoint, Option.any_eq_false] using h hpoint
  · simp [startsFraction, hpoint]

theorem StartsNothing.exchange {c : Char} {after after' : List Char} (h : StartsNothing c after)
    (hafter : ∀ d ∈ after'.head?, d.isDigit = false) : StartsNothing c after' :=
  { h with dash := fun _ => hafter }

/-! ## Section 3: Faults and the text behind them -/

/-- Behind some tokens a further one is read, and then the rest of the source or a later fault. -/
def ReadsOn (source : String) (tokens : List Token) (token : Token) : Prop :=
  ∃ rest, tokenize source = .ok (tokens ++ token :: rest) ∨
    ∃ fault offset left, tokenize source = .error (.lexical fault offset) ∧
      token.start < offset ∧ Scans 0 source.toList (tokens ++ token :: rest) offset left

theorem Scans.readsOn {source : String} {tokens : List Token} {token : Token} {stop : Nat}
    {left : List Char} (h : Scans 0 source.toList (tokens ++ [token]) stop left)
    (hstop : token.start < stop) : ReadsOn source tokens token := by
  rcases scans_or_fault stop left with ⟨rest, finish, hrest⟩ |
    ⟨rest, offset, c, after, fault, hrest, hblank, hfirst⟩
  · have hscans := h.trans hrest
    refine ⟨rest ++ [.endMark finish], .inl ?_⟩
    rw [tokenize, hscans.tokensFrom_end]
    simp
  · have hscans := h.trans hrest
    have hle := hrest.position_le_stop
    refine ⟨rest, .inr ⟨fault, offset, c :: after, hscans.tokensFrom_fault hblank hfirst,
      by omega, ?_⟩⟩
    simpa using hscans

section Behind

variable {source : String} {before after : List Char} {tokens : List Token}

/-- The tokens in front of a text stay when it is exchanged for one that goes on with no more. -/
theorem Scans.exchange_behind {tail tail' : List Char}
    (hsource : source.toList = before ++ tail)
    (h : Scans 0 source.toList tokens (byteLength before) tail) (hless : GoesOnLess tail' tail) :
    Scans 0 (before ++ tail') tokens (byteLength before) tail' := by
  rw [hsource] at h
  exact h.exchange hless

/-- With text added, a string literal that is not closed is not closed again or it is read, and its
closing quote stands in the text that was added. -/
theorem tokenize_append_of_unclosed (hsource : source.toList = before ++ '\'' :: after)
    (hscans : Scans 0 source.toList tokens (byteLength before) ('\'' :: after))
    (hunclosed : Quoted.Unclosed after) (more : String) :
    tokenize (source ++ more) = .error (.lexical .unterminatedString (byteLength before)) ∨
      ∃ ending left, more.toList = ending ++ '\'' :: left ∧
        ReadsOn (source ++ more) tokens
          ((Lexeme.string (after ++ ending)).toToken (byteLength before)) := by
  have hwhole : (source ++ more).toList = before ++ '\'' :: (after ++ more.toList) := by
    simp [hsource]
  have hless : GoesOnLess ('\'' :: (after ++ more.toList)) ('\'' :: after) :=
    goesOnLess_cons after (by simp)
  have hfront := hscans.exchange_behind hsource hless
  rw [← hwhole] at hfront
  cases hsplit : Quoted.split (after ++ more.toList) with
  | none =>
      left
      have hfits : LexicalFault.Fits '\'' (after ++ more.toList) .unterminatedString :=
        ⟨rfl, Quoted.unclosed_iff.2 hsplit⟩
      exact tokenize_eq_error_iff.2 ⟨_, before, _, _, tokens, rfl, hwhole, hfits, hfront⟩
  | some parts =>
      right
      obtain ⟨body, left⟩ := parts
      obtain ⟨ending, rfl, hmore⟩ := hunclosed.exists_ending hsplit
      have hstring := hfront.trans
        (.lexeme (by decide) (Lexeme.first_quote hsplit) (.done _ left))
      refine ⟨ending, left, hmore, hstring.readsOn ?_⟩
      have hpos : 0 < byteLength (Lexeme.string (after ++ ending)).source :=
        byteLength_pos (by simp [Lexeme.source])
      simp only [Lexeme.toToken]
      omega

end Behind

/-- Lexical errors are localised and stable.  The text in front of one has the tokens that were read
up to there, and what stands there is what the fault says.  An unexpected character is reported in
every text that starts so and in which no digit stands behind it.  An unterminated string is
reported again when text is added, or the string is closed in that text and read as the next token. -/
theorem tokenize_error_local {source : String} {error : Error}
    (h : tokenize source = .error error) :
    ∃ fault before c after tokens, error = .lexical fault (byteLength before) ∧
      source.toList = before ++ c :: after ∧ fault.Fits c after ∧
      Scans 0 source.toList tokens (byteLength before) (c :: after) ∧
      tokenize (String.ofList before) = .ok (tokens ++ [.endMark (byteLength before)]) ∧
      (fault = .unexpectedCharacter c → ∀ after', (∀ d ∈ after'.head?, d.isDigit = false) →
        tokenize (String.ofList (before ++ c :: after')) = .error error) ∧
      (fault = .unterminatedString → ∀ more : String, tokenize (source ++ more) = .error error ∨
        ∃ ending left, more.toList = ending ++ '\'' :: left ∧
          ReadsOn (source ++ more) tokens
            ((Lexeme.string (after ++ ending)).toToken (byteLength before))) := by
  obtain ⟨fault, before, c, after, tokens, rfl, hsource, hfits, hscans⟩ :=
    tokenize_eq_error_iff.1 h
  refine ⟨fault, before, c, after, tokens, rfl, hsource, hfits, hscans, ?_, ?_, ?_⟩
  · have hfront := hscans.exchange_behind hsource (goesOnLess_nil _)
    rw [List.append_nil] at hfront
    rw [tokenize, String.toList_ofList, hfront.tokensFrom_end]
  · rintro rfl after' hafter
    obtain ⟨_, hnothing⟩ := hfits
    have hfront := hscans.exchange_behind hsource (goesOnLess_cons after fun _ => hafter)
    have hfits' : LexicalFault.Fits c after' (.unexpectedCharacter c) :=
      ⟨rfl, hnothing.exchange hafter⟩
    rw [← String.toList_ofList (l := before ++ c :: after')] at hfront
    exact tokenize_eq_error_iff.2
      ⟨_, before, c, after', tokens, rfl, String.toList_ofList, hfits', hfront⟩
  · rintro rfl more
    obtain ⟨rfl, hunclosed⟩ := hfits
    exact tokenize_append_of_unclosed hsource hscans hunclosed more

/-- A call with a string that is not closed, and one with a dash that no digit follows. -/
theorem tokenize_error_local_query :
    let unclosed : Error := .lexical .unterminatedString 3
    let dash : Error := .lexical (.unexpectedCharacter '-') 3
    tokenize "(F 'abc" = .error unclosed ∧ tokenize "(F - 1)" = .error dash ∧
      (∃ before after tokens, "(F 'abc".toList = before ++ '\'' :: after ∧
        tokenize (String.ofList before) = .ok (tokens ++ [.endMark 3]) ∧
        ∀ more : String, tokenize ("(F 'abc" ++ more) = .error unclosed ∨
          ∃ ending left, more.toList = ending ++ '\'' :: left ∧
            ReadsOn ("(F 'abc" ++ more) tokens ((Lexeme.string (after ++ ending)).toToken 3)) ∧
      ∃ before after, "(F - 1)".toList = before ++ '-' :: after ∧
        ∀ after', (∀ d ∈ after'.head?, d.isDigit = false) →
          tokenize (String.ofList (before ++ '-' :: after')) = .error dash := by
  intro unclosed dash
  have hunclosed : tokenize "(F 'abc" = .error unclosed := by decide +kernel
  have hdash : tokenize "(F - 1)" = .error dash := by decide +kernel
  refine ⟨hunclosed, hdash, ?_, ?_⟩
  · obtain ⟨fault, before, c, after, tokens, herror, hsource, hfits, _, hfront, _, hmore⟩ :=
      tokenize_error_local hunclosed
    obtain ⟨rfl, hplace⟩ := Error.lexical.inj herror
    obtain ⟨rfl, _⟩ := hfits
    rw [← hplace] at hfront hmore
    exact ⟨before, after, tokens, hsource, hfront, hmore rfl⟩
  · obtain ⟨fault, before, c, after, tokens, herror, hsource, hfits, _, _, hstable, _⟩ :=
      tokenize_error_local hdash
    obtain ⟨rfl, _⟩ := Error.lexical.inj herror
    obtain ⟨rfl, _⟩ := hfits
    exact ⟨before, after, hsource, hstable rfl⟩

end SexpContract
