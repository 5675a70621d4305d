import SexpContract.Token.Lexeme

/-!
# Whole Lexemes

What an identifier and a number are, as texts.  With a separator behind it, such a text is taken
off the front of a source whole (`Lexeme.first_identifier`, `Lexeme.first_number`), and what is
taken off as an identifier or as a number is one (`Lexeme.isWhole_of_first`).
-/

namespace SexpContract

open Text

/-! ## Section 1: Identifiers and numbers -/

/-- A text that is an identifier from its first character to its last. -/
def IsIdentifier : List Char → Prop
  | [] => False
  | c :: rest => isIdentifierStart c = true ∧ ∀ d ∈ rest, isIdentifierChar d = true

theorem IsIdentifier.ne_nil {name : List Char} (h : IsIdentifier name) : name ≠ [] := by
  rintro rfl
  exact h

/-- One digit or more. -/
def IsDigits (text : List Char) : Prop :=
  text ≠ [] ∧ ∀ d ∈ text, d.isDigit = true

/-- Digits, with a point and more digits behind them or not. -/
inductive IsUnsigned : List Char → Prop where
  | whole {digits : List Char} (hdigits : IsDigits digits) : IsUnsigned digits
  | fraction {digits decimals : List Char} (hdigits : IsDigits digits)
      (hdecimals : IsDigits decimals) : IsUnsigned (digits ++ '.' :: decimals)

/-- A text that is a number from its first character to its last. -/
inductive IsNumber : List Char → Prop where
  | unsigned {text : List Char} (h : IsUnsigned text) : IsNumber text
  | negative {text : List Char} (h : IsUnsigned text) : IsNumber ('-' :: text)

/-- A text that no identifier and no number before it goes on with. -/
def Separated (text : List Char) : Prop :=
  ∀ c ∈ text.head?, c = ' ' ∨ c = ')' ∨ c = '\n'

theorem separated_nil : Separated [] := by
  simp [Separated]

theorem separated_space (text : List Char) : Separated (' ' :: text) := by
  simp [Separated]

theorem separated_close (text : List Char) : Separated (')' :: text) := by
  simp [Separated]

theorem separated_line (text : List Char) : Separated ('\n' :: text) := by
  simp [Separated]

/-! ## Section 2: Characters -/

theorem toNat_le_of_isDigit {c : Char} (h : c.isDigit = true) : c.toNat ≤ '9'.toNat :=
  (Char.isDigit_iff_toNat.1 h).2

theorem not_isAlpha_of_isDigit {c : Char} (h : c.isDigit = true) : c.isAlpha = false := by
  rw [Bool.eq_false_iff]
  intro halpha
  -- The letters stand behind the digits.
  have hcases : (c.isUpper || c.isLower) = true := halpha
  rcases Bool.or_eq_true_iff.1 hcases with hupper | hlower
  · have hle : 'A'.val ≤ c.val :=
      (of_decide_eq_true (p := c.val ≥ 'A'.val ∧ c.val ≤ 'Z'.val) hupper).1
    exact absurd (Nat.le_trans hle (toNat_le_of_isDigit h)) (by decide)
  · have hle : 'a'.val ≤ c.val := of_decide_eq_true (Bool.and_eq_true_iff.1 hlower).1
    exact absurd (Nat.le_trans hle (toNat_le_of_isDigit h)) (by decide)

/-- No number starts like an identifier. -/
theorem not_isIdentifierStart_of_isDigit {c : Char} (h : c.isDigit = true) :
    isIdentifierStart c = false := by
  have hline : c ≠ '_' := by
    rintro rfl
    exact absurd h (by decide)
  have hascii : c.toNat < 0x80 := Nat.lt_of_le_of_lt (toNat_le_of_isDigit h) (by decide)
  simp [isIdentifierStart, isAlphabetic, hascii, not_isAlpha_of_isDigit h, hline]

theorem ne_of_class {p : Char → Bool} {c d : Char} (hc : p c = true) (hd : p d = false) :
    c ≠ d := by
  rintro rfl
  rw [hc] at hd
  cases hd

theorem isBlank_eq_false {p : Char → Bool} {c : Char} (hc : p c = true)
    (hblank : p ' ' = false ∧ p '\t' = false ∧ p '\n' = false ∧ p '\r' = false) :
    isBlank c = false := by
  obtain ⟨hspace, htab, hline, hreturn⟩ := hblank
  simp [isBlank, ne_of_class hc hspace, ne_of_class hc htab, ne_of_class hc hline,
    ne_of_class hc hreturn]

theorem ne_mark {p : Char → Bool} {c : Char} (hc : p c = true)
    (hmark : p '(' = false ∧ p ')' = false ∧ p ',' = false ∧ p '\'' = false) :
    c ≠ '(' ∧ c ≠ ')' ∧ c ≠ ',' ∧ c ≠ '\'' := by
  obtain ⟨hopen, hclose, hcomma, hquote⟩ := hmark
  exact ⟨ne_of_class hc hopen, ne_of_class hc hclose, ne_of_class hc hcomma,
    ne_of_class hc hquote⟩

/-- A separator goes on with no identifier and no number. -/
theorem Separated.stops {text : List Char} (h : Separated text) :
    ∀ c ∈ text.head?, isIdentifierChar c = false ∧ c.isDigit = false ∧ c ≠ '.' := by
  intro c hc
  rcases h c hc with rfl | rfl | rfl <;> decide

theorem Separated.ends_identifier {text : List Char} (h : Separated text) :
    ∀ c ∈ text.head?, isIdentifierChar c = false :=
  fun c hc => (h.stops c hc).1

/-! ## Section 3: The first lexeme -/

/-- Reading a run of characters of a class off a text that goes on with another. -/
theorem span_append {p : Char → Bool} {run after : List Char} (hrun : ∀ c ∈ run, p c = true)
    (hafter : ∀ c ∈ after.head?, p c = false) :
    (run ++ after).takeWhile p = run ∧ (run ++ after).dropWhile p = after := by
  rw [List.takeWhile_append_of_pos hrun, List.dropWhile_append_of_pos hrun]
  cases after with
  | nil => simp
  | cons c rest => simp [hafter c rfl]

theorem IsUnsigned.exists_cons {text : List Char} (h : IsUnsigned text) :
    ∃ c rest, text = c :: rest ∧ c.isDigit = true := by
  have hdigits : ∀ digits, IsDigits digits → ∃ c rest, digits = c :: rest ∧ c.isDigit = true := by
    intro digits h
    cases digits with
    | nil => exact absurd rfl h.1
    | cons c rest => exact ⟨c, rest, rfl, h.2 c List.mem_cons_self⟩
  cases h with
  | whole h => exact hdigits _ h
  | @fraction digits decimals h _ =>
      obtain ⟨c, rest, rfl, hc⟩ := hdigits _ h
      exact ⟨c, rest ++ '.' :: decimals, rfl, hc⟩

namespace Lexeme

/-- No test before that for an identifier succeeds on a character that starts one. -/
theorem first_of_isIdentifierStart {c : Char} (rest : List Char)
    (hstart : isIdentifierStart c = true) :
    first c rest =
      .ok (.identifier (c :: rest.takeWhile isIdentifierChar),
        rest.dropWhile isIdentifierChar) := by
  have hdigit : c.isDigit = false := by
    rw [Bool.eq_false_iff]
    intro hdigit
    rw [not_isIdentifierStart_of_isDigit hdigit] at hstart
    cases hstart
  have hdash : c ≠ '-' := ne_of_class hstart (by decide)
  have hmark := ne_mark hstart (by decide)
  simp [first, startsNumber, hdigit, hdash, hmark, hstart]

theorem first_of_isDigit {c : Char} (rest : List Char) (hdigit : c.isDigit = true) :
    first c rest = .ok (.number (splitNumber (c :: rest)).1, (splitNumber (c :: rest)).2) := by
  have hdash : c ≠ '-' := ne_of_class hdigit (by decide)
  have hmark := ne_mark hdigit (by decide)
  simp [first, startsNumber, hdigit, hdash, hmark]

theorem first_dash {d : Char} (rest : List Char) (hdigit : d.isDigit = true) :
    first '-' (d :: rest) =
      .ok (.number ('-' :: (splitNumber (d :: rest)).1), (splitNumber (d :: rest)).2) := by
  simp [first, startsNumber, hdigit]

theorem first_quote {rest body after : List Char}
    (hsplit : Quoted.split rest = some (body, after)) :
    first '\'' rest = .ok (.string body, after) := by
  simp [first, hsplit]

theorem first_identifier {c : Char} {rest after : List Char} (h : IsIdentifier (c :: rest))
    (hafter : ∀ d ∈ after.head?, isIdentifierChar d = false) :
    first c (rest ++ after) = .ok (.identifier (c :: rest), after) := by
  obtain ⟨htake, hdrop⟩ := span_append h.2 hafter
  rw [first_of_isIdentifierStart _ h.1, htake, hdrop]

theorem splitFraction_separated {after : List Char} (hafter : Separated after) :
    splitFraction after = ([], after) := by
  unfold splitFraction
  split
  · exact absurd rfl (hafter.stops '.' rfl).2.2
  · rfl

theorem splitNumber_append_separated {text after : List Char} (h : IsUnsigned text)
    (hafter : Separated after) : splitNumber (text ++ after) = (text, after) := by
  have hstop : ∀ c ∈ after.head?, c.isDigit = false := fun c hc => (hafter.stops c hc).2.1
  cases h with
  | whole hdigits =>
      obtain ⟨htake, hdrop⟩ := span_append hdigits.2 hstop
      simp [splitNumber, htake, hdrop, splitFraction_separated hafter]
  | @fraction digits decimals hdigits hdecimals =>
      have hpoint : ∀ c ∈ ('.' :: (decimals ++ after)).head?, c.isDigit = false := by simp
      obtain ⟨htake, hdrop⟩ := span_append hdigits.2 hpoint
      obtain ⟨d, rest, hd, hdigit⟩ := (IsUnsigned.whole hdecimals).exists_cons
      obtain ⟨htake', hdrop'⟩ := span_append hdecimals.2 hstop
      -- The point counts because a digit follows it.
      have hfraction : splitFraction ('.' :: (decimals ++ after)) = ('.' :: decimals, after) := by
        subst hd
        rw [List.cons_append] at htake' hdrop' ⊢
        rw [splitFraction, if_pos hdigit, htake', hdrop']
      rw [List.append_assoc, List.cons_append, splitNumber, htake, hdrop, hfraction]

theorem first_number {c : Char} {rest after : List Char} (h : IsNumber (c :: rest))
    (hafter : Separated after) :
    first c (rest ++ after) = .ok (.number (c :: rest), after) := by
  cases h with
  | unsigned h =>
      have hsplit := splitNumber_append_separated h hafter
      obtain ⟨_, _, hcons, hdigit⟩ := h.exists_cons
      cases hcons
      rw [List.cons_append] at hsplit
      rw [first_of_isDigit _ hdigit, hsplit]
  | negative h =>
      have hsplit := splitNumber_append_separated h hafter
      obtain ⟨d, rest', rfl, hdigit⟩ := h.exists_cons
      rw [List.cons_append] at hsplit ⊢
      rw [first_dash _ hdigit, hsplit]

theorem first_string (text after : List Char) :
    first '\'' (Quoted.encode text ++ '\'' :: after) =
      .ok (.string (Quoted.encode text), after) :=
  first_quote (Quoted.split_encode text after)

/-! ## Section 4: Lexemes are whole -/

/-- An identifier lexeme is an identifier, a number lexeme is a number. -/
def IsWhole : Lexeme → Prop
  | .identifier name => IsIdentifier name
  | .number digits => IsNumber digits
  | _ => True

theorem isDigits_takeWhile {c : Char} (rest : List Char) (h : c.isDigit = true) :
    IsDigits ((c :: rest).takeWhile Char.isDigit) :=
  ⟨by simp [h], List.all_eq_true.1 List.all_takeWhile⟩

theorem splitFraction_fst (text : List Char) :
    (splitFraction text).1 = [] ∨
      ∃ decimals, (splitFraction text).1 = '.' :: decimals ∧ IsDigits decimals := by
  unfold splitFraction
  split
  · split
    · rename_i hdigit
      exact Or.inr ⟨_, rfl, isDigits_takeWhile _ hdigit⟩
    · exact Or.inl rfl
  · exact Or.inl rfl

theorem isUnsigned_splitNumber {c : Char} {rest : List Char} (h : c.isDigit = true) :
    IsUnsigned (splitNumber (c :: rest)).1 := by
  have hdigits := isDigits_takeWhile rest h
  rcases splitFraction_fst ((c :: rest).dropWhile Char.isDigit) with hnone | ⟨decimals, hsome, hdec⟩
  · simpa [splitNumber, hnone] using IsUnsigned.whole hdigits
  · simpa [splitNumber, hsome] using IsUnsigned.fraction hdigits hdec

theorem isWhole_of_first {c : Char} {rest after : List Char} {lexeme : Lexeme}
    (h : first c rest = .ok (lexeme, after)) : lexeme.IsWhole := by
  -- In the order of the tests; only the last three take what can be said of their lexemes.
  unfold first at h
  split at h
  · cases h
    trivial
  split at h
  · cases h
    trivial
  split at h
  · cases h
    trivial
  split at h
  · split at h <;> cases h
    trivial
  split at h
  · rename_i hstarts
    split at h
    · rename_i hdash
      cases h
      -- Behind the dash stands a digit.
      cases rest with
      | nil => simp [startsNumber, hdash] at hstarts
      | cons d rest =>
          have hdigit : d.isDigit = true := by simpa [startsNumber, hdash] using hstarts
          exact .negative (isUnsigned_splitNumber hdigit)
    · rename_i hdash
      cases h
      have hdigit : c.isDigit = true := by simpa [startsNumber, hdash] using hstarts
      exact .unsigned (isUnsigned_splitNumber hdigit)
  split at h
  · rename_i hstart
    cases h
    exact ⟨hstart, List.all_eq_true.1 List.all_takeWhile⟩
  · cases h

end Lexeme

end SexpContract
