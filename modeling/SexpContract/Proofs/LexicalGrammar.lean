import SexpContract.Proofs.Lexemes

/-!
# The Lexical Grammar

What a lexeme is, said of its characters alone.  `Lexeme.first` takes the longest lexeme off the
front of a text whenever some lexeme stands there: it takes a lexeme that none at that place is
longer than (`Lexeme.longest_of_first`), and it takes no other (`Lexeme.first_of_longest`).
-/

namespace SexpContract

open Text

/-! ## Section 1: Lexemes -/

namespace Text.Quoted

/-- The body of a string literal and the text that it denotes.  A quote stands only behind a
backslash, and each backslash takes the next character with it. -/
inductive Denotes : List Char → List Char → Prop where
  | nil :
      Denotes [] []
  | plain {c : Char} {body text : List Char} (hquote : c ≠ '\'') (hbackslash : c ≠ '\\') :
      Denotes body text →
      Denotes (c :: body) (c :: text)
  | newline {body text : List Char} :
      Denotes body text →
      Denotes ('\\' :: 'n' :: body) ('\n' :: text)
  | tab {body text : List Char} :
      Denotes body text →
      Denotes ('\\' :: 't' :: body) ('\t' :: text)
  | quote {body text : List Char} :
      Denotes body text →
      Denotes ('\\' :: '\'' :: body) ('\'' :: text)
  | backslash {body text : List Char} :
      Denotes body text →
      Denotes ('\\' :: '\\' :: body) ('\\' :: text)
  | verbatim {c : Char} {body text : List Char} (hn : c ≠ 'n') (ht : c ≠ 't') (hquote : c ≠ '\'')
      (hbackslash : c ≠ '\\') :
      Denotes body text →
      Denotes ('\\' :: c :: body) ('\\' :: c :: text)

theorem Denotes.split_eq {body text : List Char} (h : Denotes body text) (after : List Char) :
    split (body ++ '\'' :: after) = some (body, after) := by
  induction h with
  | nil => simp [split]
  | plain _ hbackslash _ ih => simp [split, hbackslash, ih]
  | _ => simp_all [split]

theorem Denotes.decode_eq {body text : List Char} (h : Denotes body text) :
    decode body = text := by
  induction h with
  | nil => rfl
  | plain _ hbackslash _ ih => simp [decode, hbackslash, ih]
  | _ => simp_all [decode, unescape?]

theorem Denotes.escaped {body : List Char} (c : Char) (h : Denotes body (decode body)) :
    Denotes ('\\' :: c :: body) (decode ('\\' :: c :: body)) := by
  by_cases hn : c = 'n'
  · subst hn
    exact .newline h
  by_cases ht : c = 't'
  · subst ht
    exact .tab h
  by_cases hquote : c = '\''
  · subst hquote
    exact .quote h
  by_cases hbackslash : c = '\\'
  · subst hbackslash
    exact .backslash h
  · simpa [decode, unescape?, hn, ht, hquote, hbackslash] using
      Denotes.verbatim hn ht hquote hbackslash h

theorem denotes_of_split {text body after : List Char} (h : split text = some (body, after)) :
    Denotes body (decode body) := by
  fun_induction split text generalizing body after with
  | case1 => cases h
  | case2 rest =>
      cases h
      exact .nil
  | case3 => cases h
  | case4 d rest ih =>
      obtain ⟨⟨body', after'⟩, hsplit, heq⟩ := Option.map_eq_some_iff.1 h
      cases heq
      exact (ih hsplit).escaped d
  | case5 c rest hquote hlast hbackslash ih =>
      obtain ⟨⟨body', after'⟩, hsplit, heq⟩ := Option.map_eq_some_iff.1 h
      cases heq
      -- A backslash would have been read together with the character behind it.
      have hplain : c ≠ '\\' := by
        intro heq
        cases rest with
        | nil => exact hlast heq rfl
        | cons d rest => exact hbackslash d rest heq rfl
      have hbody := Denotes.plain hquote hplain (ih hsplit)
      simpa [decode, hplain] using hbody

end Text.Quoted

/-- The lexemes of each kind: their characters and the text of the token that they become. -/
inductive IsLexeme : TokenKind → List Char → List Char → Prop where
  | leftParen : IsLexeme .leftParen ['('] ['(']
  | rightParen : IsLexeme .rightParen [')'] [')']
  | comma : IsLexeme .comma [','] [',']
  | identifier {name : List Char} (h : IsIdentifier name) : IsLexeme .identifier name name
  | number {digits : List Char} (h : IsNumber digits) : IsLexeme .number digits digits
  | string {body text : List Char} (h : Quoted.Denotes body text) :
      IsLexeme .string ('\'' :: body ++ ['\'']) text

/-- A lexeme in front of a text such that no lexeme at the same place is longer. -/
structure LongestLexeme (kind : TokenKind) (source text after : List Char) : Prop where
  isLexeme : IsLexeme kind source text
  length_le : ∀ {kind' source' text'}, IsLexeme kind' source' text' → source' <+: source ++ after →
    source'.length ≤ source.length

/-! ## Section 2: What is taken is a lexeme -/

namespace Lexeme

theorem split_of_first {c : Char} {rest after body : List Char}
    (h : first c rest = .ok (.string body, after)) :
    c = '\'' ∧ Quoted.split rest = some (body, after) := by
  unfold first at h
  grind

theorem isLexeme_of_first {c : Char} {rest after : List Char} {lexeme : Lexeme}
    (h : first c rest = .ok (lexeme, after)) :
    IsLexeme lexeme.kind lexeme.source lexeme.text := by
  have hwhole := isWhole_of_first h
  cases lexeme with
  | leftParen => exact .leftParen
  | rightParen => exact .rightParen
  | comma => exact .comma
  | identifier name => exact .identifier hwhole
  | number digits => exact .number hwhole
  | string body => exact .string (Quoted.denotes_of_split (split_of_first h).2)

end Lexeme

/-! ## Section 3: No lexeme is longer than what is taken -/

/-- A run of characters of a class at the front of a text is part of the longest one. -/
theorem length_le_takeWhile {p : Char → Bool} {run : List Char} (hrun : ∀ c ∈ run, p c = true)
    (after : List Char) : run.length ≤ ((run ++ after).takeWhile p).length := by
  rw [List.takeWhile_append_of_pos hrun, List.length_append]
  omega

theorem Lexeme.length_takeWhile_le_splitNumber (text : List Char) :
    (text.takeWhile Char.isDigit).length ≤ (splitNumber text).1.length := by
  simp [splitNumber]

theorem IsUnsigned.length_le_splitNumber {text : List Char} (h : IsUnsigned text)
    (after : List Char) : text.length ≤ (Lexeme.splitNumber (text ++ after)).1.length := by
  cases h with
  | whole hdigits =>
      have hrun := length_le_takeWhile hdigits.2 after
      exact Nat.le_trans hrun (Lexeme.length_takeWhile_le_splitNumber _)
  | @fraction digits decimals hdigits hdecimals =>
      have hpoint : ∀ c ∈ ('.' :: (decimals ++ after)).head?, c.isDigit = false := by simp
      obtain ⟨htake, hdrop⟩ := span_append hdigits.2 hpoint
      obtain ⟨d, rest, rfl, hdigit⟩ := (IsUnsigned.whole hdecimals).exists_cons
      have hlength := length_le_takeWhile hdecimals.2 after
      -- A digit stands behind the point, so that all the decimals are taken.
      rw [List.append_assoc, List.cons_append, Lexeme.splitNumber, htake, hdrop]
      rw [List.cons_append] at hlength ⊢
      rw [Lexeme.splitFraction, if_pos hdigit]
      simp only [List.length_append, List.length_cons] at hlength ⊢
      omega

/-- Where a lexeme stands, one of its kind is taken that is not shorter. -/
theorem IsLexeme.exists_first {kind : TokenKind} {source text : List Char}
    (h : IsLexeme kind source text) {c : Char} {rest after : List Char}
    (heq : c :: rest = source ++ after) :
    ∃ lexeme after', Lexeme.first c rest = .ok (lexeme, after') ∧ lexeme.kind = kind ∧
      source.length ≤ lexeme.source.length ∧ (lexeme.source = source → lexeme.text = text) := by
  cases h with
  | leftParen =>
      obtain ⟨rfl, _⟩ := List.cons.inj heq
      exact ⟨.leftParen, rest, rfl, rfl, Nat.le_refl _, fun _ => rfl⟩
  | rightParen =>
      obtain ⟨rfl, _⟩ := List.cons.inj heq
      exact ⟨.rightParen, rest, rfl, rfl, Nat.le_refl _, fun _ => rfl⟩
  | comma =>
      obtain ⟨rfl, _⟩ := List.cons.inj heq
      exact ⟨.comma, rest, rfl, rfl, Nat.le_refl _, fun _ => rfl⟩
  | identifier hname =>
      cases source with
      | nil => exact hname.elim
      | cons d name =>
          obtain ⟨rfl, rfl⟩ := List.cons.inj heq
          have hlength := length_le_takeWhile hname.2 after
          exact ⟨_, _, Lexeme.first_of_isIdentifierStart _ hname.1, rfl,
            Nat.succ_le_succ hlength, id⟩
  | number hdigits =>
      cases hdigits with
      | unsigned hunsigned =>
          have hlength := hunsigned.length_le_splitNumber after
          obtain ⟨d, digits, rfl, hdigit⟩ := hunsigned.exists_cons
          obtain ⟨rfl, rfl⟩ := List.cons.inj heq
          exact ⟨_, _, Lexeme.first_of_isDigit _ hdigit, rfl, hlength, id⟩
      | negative hunsigned =>
          have hlength := hunsigned.length_le_splitNumber after
          obtain ⟨d, digits, rfl, hdigit⟩ := hunsigned.exists_cons
          obtain ⟨rfl, rfl⟩ := List.cons.inj heq
          exact ⟨_, _, Lexeme.first_dash _ hdigit, rfl, Nat.succ_le_succ hlength, id⟩
  | @string body _ hbody =>
      have hquote : c :: rest = '\'' :: (body ++ '\'' :: after) := by simpa using heq
      obtain ⟨rfl, rfl⟩ := List.cons.inj hquote
      have hsplit := hbody.split_eq after
      exact ⟨_, _, Lexeme.first_quote hsplit, rfl, Nat.le_refl _, fun _ => hbody.decode_eq⟩

namespace Lexeme

/-- What is taken off the front of a text is the longest lexeme there. -/
theorem longest_of_first {c : Char} {rest after : List Char} {lexeme : Lexeme}
    (h : first c rest = .ok (lexeme, after)) :
    LongestLexeme lexeme.kind lexeme.source lexeme.text after := by
  refine ⟨isLexeme_of_first h, ?_⟩
  intro kind source text hother hfront
  obtain ⟨after', heq⟩ := hfront
  rw [first_source h] at heq
  obtain ⟨lexeme', _, hfirst, _, hlength, _⟩ := hother.exists_first heq.symm
  cases h.symm.trans hfirst
  exact hlength

/-- The longest lexeme at the front of a text is taken. -/
theorem first_of_longest {kind : TokenKind} {source text after : List Char}
    (h : LongestLexeme kind source text after) {c : Char} {rest : List Char}
    (heq : c :: rest = source ++ after) :
    ∃ lexeme, first c rest = .ok (lexeme, after) ∧ lexeme.kind = kind ∧ lexeme.source = source ∧
      lexeme.text = text := by
  obtain ⟨lexeme, after', hfirst, hkind, hlength, htext⟩ := h.isLexeme.exists_first heq
  have hsource := first_source hfirst
  -- What is taken is a lexeme at the same place, so it is not longer either.
  have hfront : lexeme.source <+: source ++ after := ⟨after', hsource.trans heq⟩
  have hle := h.length_le (isLexeme_of_first hfirst) hfront
  obtain ⟨heqsource, rfl⟩ := List.append_inj (hsource.trans heq) (Nat.le_antisymm hle hlength)
  exact ⟨lexeme, hfirst, hkind, heqsource, htext heqsource⟩

end Lexeme

/-- No identifier goes on behind the longest one. -/
theorem LongestLexeme.ends_identifier {name text after : List Char}
    (h : LongestLexeme .identifier name text after) :
    IsIdentifier name ∧ text = name ∧ ∀ c ∈ after.head?, isIdentifierChar c = false := by
  obtain ⟨hlexeme, hlongest⟩ := h
  cases hlexeme with
  | identifier hname =>
      refine ⟨hname, rfl, ?_⟩
      intro c hc
      obtain ⟨tail, rfl⟩ := List.head?_eq_some_iff.1 hc
      obtain ⟨d, rest, rfl⟩ := List.exists_cons_of_ne_nil hname.ne_nil
      rw [Bool.eq_false_iff]
      intro hchar
      -- With one more character the identifier would be longer.
      have hlonger : IsIdentifier (d :: (rest ++ [c])) := by
        refine ⟨hname.1, ?_⟩
        intro e hmem
        rcases List.mem_append.1 hmem with hmem | hmem
        · exact hname.2 e hmem
        · exact List.mem_singleton.1 hmem ▸ hchar
      have hle := hlongest (.identifier hlonger) ⟨tail, by simp⟩
      simp only [List.length_cons, List.length_append, List.length_nil] at hle
      omega

/-- No lexeme starts with a blank. -/
theorem IsLexeme.exists_cons {kind : TokenKind} {source text : List Char}
    (h : IsLexeme kind source text) : ∃ c rest, source = c :: rest ∧ isBlank c = false := by
  cases h with
  | leftParen => exact ⟨'(', [], rfl, by decide⟩
  | rightParen => exact ⟨')', [], rfl, by decide⟩
  | comma => exact ⟨',', [], rfl, by decide⟩
  | identifier hname =>
      cases source with
      | nil => exact hname.elim
      | cons c rest => exact ⟨c, rest, rfl, isBlank_eq_false hname.1 (by decide)⟩
  | number hdigits =>
      cases hdigits with
      | unsigned hunsigned =>
          obtain ⟨c, rest, rfl, hdigit⟩ := hunsigned.exists_cons
          exact ⟨c, rest, rfl, isBlank_eq_false hdigit (by decide)⟩
      | negative _ => exact ⟨'-', _, rfl, by decide⟩
  | string _ => exact ⟨'\'', _, rfl, by decide⟩

end SexpContract
