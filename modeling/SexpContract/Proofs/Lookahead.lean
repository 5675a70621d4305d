import SexpContract.Proofs.LexicalGrammar
import SexpContract.Proofs.Scanning

/-!
# Lookahead

How far a lexeme depends on the text behind it.  Whether an identifier or a number ends shows in the
next two characters at most, so a text may be exchanged for one that goes on with no more lexemes
than it did (`GoesOnLess`), and whatever was read in front of it is read again (`Scans.exchange`).
-/

namespace SexpContract

open Text

/-! ## Section 1: What goes on with a lexeme -/

/-- Whether a text starts with a point and a digit, as the fraction of a number does. -/
def startsFraction (text : List Char) : Bool :=
  text.head? = some '.' && text.tail.head?.any Char.isDigit

/-- Whatever lexeme the first text goes on with, the second text goes on with it too. -/
structure GoesOnLess (text' text : List Char) : Prop where
  identifier : (∀ c ∈ text.head?, isIdentifierChar c = false) →
    ∀ c ∈ text'.head?, isIdentifierChar c = false
  digit : (∀ c ∈ text.head?, c.isDigit = false) → ∀ c ∈ text'.head?, c.isDigit = false
  fraction : startsFraction text = false → startsFraction text' = false

theorem isIdentifierChar_of_isIdentifierStart {c : Char} (h : isIdentifierStart c = true) :
    isIdentifierChar c = true := by
  simp only [isIdentifierStart, isIdentifierChar, isAlphanumeric, Bool.or_eq_true,
    decide_eq_true_eq] at h ⊢
  rcases h with halpha | hline
  · simp [halpha]
  · simp [hline]

/-- Among texts that start with identifiers none goes on with more than another. -/
theorem goesOnLess_of_identifiers {name name' text text' : List Char} (h : IsIdentifier name)
    (h' : IsIdentifier name') : GoesOnLess (name' ++ text') (name ++ text) := by
  obtain ⟨c, rest, rfl⟩ := List.exists_cons_of_ne_nil h.ne_nil
  obtain ⟨d, rest', rfl⟩ := List.exists_cons_of_ne_nil h'.ne_nil
  have hchar : isIdentifierChar c = true := isIdentifierChar_of_isIdentifierStart h.1
  have hpoint : d ≠ '.' := ne_of_class h'.1 (by decide)
  refine ⟨?_, ?_, ?_⟩
  · intro hends
    rw [hends c rfl] at hchar
    cases hchar
  · intro _ e he
    cases he
    rw [Bool.eq_false_iff]
    intro hdigit
    have hstart := not_isIdentifierStart_of_isDigit hdigit
    rw [h'.1] at hstart
    cases hstart
  · intro _
    simp [startsFraction, hpoint]

/-- In front of both texts the same may stand. -/
theorem GoesOnLess.append {text' text : List Char} (h : GoesOnLess text' text)
    (front : List Char) : GoesOnLess (front ++ text') (front ++ text) := by
  cases front with
  | nil => exact h
  | cons c front =>
      refine ⟨id, id, ?_⟩
      intro hfraction
      cases front with
      | cons d front => exact hfraction
      | nil =>
          simp only [startsFraction, List.singleton_append, List.head?_cons, List.tail_cons,
            Bool.and_eq_false_iff] at hfraction ⊢
          refine hfraction.imp_right fun hhead => ?_
          have hdigit : ∀ d ∈ text.head?, d.isDigit = false := by
            simpa [Option.any_eq_false] using hhead
          simpa [Option.any_eq_false] using h.digit hdigit

/-! ## Section 2: The first lexeme -/

/-- A run of characters of a class that ends in front of a text ends there as well when the text is
exchanged. -/
theorem span_exchange {p : Char → Bool} {text after tail tail' : List Char}
    (hdrop : (text ++ tail).dropWhile p = after ++ tail)
    (hless : (∀ c ∈ tail.head?, p c = false) → ∀ c ∈ tail'.head?, p c = false) :
    (text ++ tail').takeWhile p = (text ++ tail).takeWhile p ∧
      (text ++ tail').dropWhile p = after ++ tail' := by
  have hall := List.takeWhile_append_dropWhile (p := p) (l := text ++ tail)
  have hrun : ∀ c ∈ (text ++ tail).takeWhile p, p c = true :=
    List.all_eq_true.1 List.all_takeWhile
  have hstop : ∀ c ∈ (after ++ tail).head?, p c = false := by
    have hhead := List.head?_dropWhile_not p (text ++ tail)
    rw [hdrop] at hhead
    intro c hc
    rw [hc] at hhead
    exact hhead
  rw [hdrop, ← List.append_assoc] at hall
  have htext := List.append_cancel_right hall
  -- What is left of the text still ends the run; if nothing is, the exchanged text does.
  have hstop' : ∀ c ∈ (after ++ tail').head?, p c = false := by
    cases after with
    | nil => exact hless hstop
    | cons d after => exact hstop
  obtain ⟨htake, hrest⟩ := span_append hrun hstop'
  rw [← List.append_assoc, htext] at htake hrest
  exact ⟨htake, hrest⟩

theorem head?_any_iff {p : Char → Bool} {text : List Char} :
    text.head?.any p = true ↔ text.takeWhile p ≠ [] := by
  cases text with
  | nil => simp
  | cons c rest => by_cases hc : p c = true <;> simp [hc]

namespace Lexeme

theorem splitFraction_eq (text : List Char) :
    splitFraction text =
      if startsFraction text = true then
        ('.' :: text.tail.takeWhile Char.isDigit, text.tail.dropWhile Char.isDigit)
      else ([], text) := by
  unfold splitFraction startsFraction
  split
  · simp
  · rename_i hother
    cases text with
    | nil => simp
    | cons c rest =>
        cases rest with
        | nil => simp
        | cons d rest =>
            have hpoint : c ≠ '.' := fun heq => hother d rest (heq ▸ rfl)
            simp [hpoint]

theorem splitFraction_exchange {text after fraction tail tail' : List Char}
    (hless : GoesOnLess tail' tail) (h : splitFraction (text ++ tail) = (fraction, after ++ tail)) :
    splitFraction (text ++ tail') = (fraction, after ++ tail') := by
  rw [splitFraction_eq] at h ⊢
  by_cases hstarts : startsFraction (text ++ tail) = true
  · rw [if_pos hstarts] at h
    obtain ⟨rfl, hdrop⟩ := Prod.mk.inj h
    cases text with
    | nil =>
        -- The point alone makes what is left shorter than the text behind it.
        have hlength := congrArg List.length hdrop
        have hle := (List.dropWhile_suffix Char.isDigit (l := tail.tail)).length_le
        cases tail with
        | nil => simp [startsFraction] at hstarts
        | cons c tail =>
            simp only [List.nil_append, List.tail_cons, List.length_append,
              List.length_cons] at hlength hle
            omega
    | cons c text =>
        obtain ⟨htake, hrest⟩ := @span_exchange _ text _ _ _ hdrop hless.digit
        -- The same digits stand behind the point, and there is one at least.
        have hpoint : startsFraction (c :: text ++ tail') = true := by
          simp only [startsFraction, List.cons_append, List.head?_cons, List.tail_cons,
            Bool.and_eq_true, head?_any_iff] at hstarts ⊢
          rw [htake]
          exact hstarts
        rw [if_pos hpoint]
        simp only [List.cons_append, List.tail_cons, htake, hrest]
  · rw [if_neg hstarts] at h
    obtain ⟨rfl, htext⟩ := Prod.mk.inj h
    have hstarts' := (hless.append text).fraction (Bool.eq_false_iff.2 hstarts)
    rw [if_neg (Bool.eq_false_iff.1 hstarts'), List.append_cancel_right htext]

theorem splitNumber_exchange {text after tail tail' : List Char}
    (hless : GoesOnLess tail' tail) (h : (splitNumber (text ++ tail)).2 = after ++ tail) :
    splitNumber (text ++ tail') = ((splitNumber (text ++ tail)).1, after ++ tail') := by
  obtain ⟨fraction, rest, hfraction⟩ : ∃ fraction rest,
      splitFraction ((text ++ tail).dropWhile Char.isDigit) = (fraction, rest) := ⟨_, _, rfl⟩
  simp only [splitNumber, hfraction] at h ⊢
  subst h
  -- The whole part ends in front of the fraction, which is a part of the same text.
  have hmiddle := splitFraction_append ((text ++ tail).dropWhile Char.isDigit)
  rw [hfraction, ← List.append_assoc] at hmiddle
  obtain ⟨htake, hdrop⟩ := span_exchange hmiddle.symm hless.digit
  rw [← hmiddle] at hfraction
  simp only [htake, hdrop, splitFraction_exchange hless hfraction]

theorem first_dash_error {rest : List Char} (h : rest.head?.any Char.isDigit ≠ true) :
    first '-' rest = .error (.unexpectedCharacter '-') := by
  have hstart : isIdentifierStart '-' = false := by decide
  simp [first, startsNumber, h, hstart]

theorem first_dash_exchange {text after tail tail' : List Char} {lexeme : Lexeme}
    (hless : GoesOnLess tail' tail) (h : first '-' (text ++ tail) = .ok (lexeme, after ++ tail)) :
    first '-' (text ++ tail') = .ok (lexeme, after ++ tail') := by
  by_cases hhead : (text ++ tail).head?.any Char.isDigit = true
  · cases text with
    | nil =>
        -- The digits behind the dash make what is left shorter than the text behind it.
        cases tail with
        | nil => simp at hhead
        | cons d tail =>
            have hdigit : d.isDigit = true := by simpa using hhead
            rw [List.nil_append, first_dash _ hdigit] at h
            obtain ⟨rfl, hrest⟩ := Prod.mk.inj (Except.ok.inj h)
            have hpos := List.length_pos_iff.2 (@splitNumber_ne_nil d tail hdigit)
            have hlength := congrArg List.length (splitNumber_append (d :: tail))
            rw [hrest] at hlength
            simp only [List.length_append] at hlength
            omega
    | cons d text =>
        have hdigit : d.isDigit = true := by simpa using hhead
        rw [List.cons_append, first_dash _ hdigit] at h ⊢
        obtain ⟨rfl, hrest⟩ := Prod.mk.inj (Except.ok.inj h)
        have hsplit := @splitNumber_exchange (d :: text) _ _ _ hless hrest
        rw [List.cons_append, List.cons_append] at hsplit
        rw [hsplit]
  · rw [first_dash_error hhead] at h
    cases h

/-- A lexeme is read again when the text behind it is exchanged for one that goes on with less. -/
theorem first_exchange {c : Char} {text after tail tail' : List Char} {lexeme : Lexeme}
    (hless : GoesOnLess tail' tail) (h : first c (text ++ tail) = .ok (lexeme, after ++ tail)) :
    first c (text ++ tail') = .ok (lexeme, after ++ tail') := by
  by_cases hdigit : c.isDigit = true
  · rw [first_of_isDigit _ hdigit] at h ⊢
    obtain ⟨rfl, hrest⟩ := Prod.mk.inj (Except.ok.inj h)
    have hsplit := @splitNumber_exchange (c :: text) _ _ _ hless hrest
    rw [List.cons_append, List.cons_append] at hsplit
    rw [hsplit]
  by_cases hstart : isIdentifierStart c = true
  · rw [first_of_isIdentifierStart _ hstart] at h ⊢
    obtain ⟨rfl, hrest⟩ := Prod.mk.inj (Except.ok.inj h)
    obtain ⟨htake, hdrop⟩ := span_exchange hrest hless.identifier
    rw [htake, hdrop]
  by_cases hquote : c = '\''
  · subst hquote
    cases hsplit : Quoted.split (text ++ tail) with
    | none => simp [first, hsplit] at h
    | some parts =>
        obtain ⟨body, rest⟩ := parts
        rw [first_quote hsplit] at h
        obtain ⟨rfl, rfl⟩ := Prod.mk.inj (Except.ok.inj h)
        -- The closing quote stands in the text that stays.
        have hbody := Quoted.append_split hsplit
        rw [← List.cons_append, ← List.append_assoc] at hbody
        rw [← List.append_cancel_right hbody, List.append_assoc, List.cons_append]
        exact first_quote ((Quoted.denotes_of_split hsplit).split_eq _)
  by_cases hdash : c = '-'
  · subst hdash
    exact first_dash_exchange hless h
  by_cases hmark : c = '(' ∨ c = ')' ∨ c = ','
  · rcases hmark with rfl | rfl | rfl <;>
    · obtain ⟨rfl, hrest⟩ := Prod.mk.inj (Except.ok.inj h)
      rw [List.append_cancel_right hrest]
      rfl
  · simp only [not_or] at hmark
    simp [first, startsNumber, hdigit, hstart, hquote, hdash, hmark] at h

end Lexeme

/-! ## Section 3: Scanning in front of a text -/

namespace Scans

/-- What is left is the end of the text, and the offset counts the bytes in front of it. -/
theorem exists_front {position stop : Nat} {text rest : List Char} {tokens : List Token}
    (h : Scans position text tokens stop rest) :
    ∃ front, text = front ++ rest ∧ stop = position + byteLength front := by
  induction h with
  | done => exact ⟨[], rfl, rfl⟩
  | @blank position _ c _ _ _ _ _ ih =>
      obtain ⟨front, rfl, rfl⟩ := ih
      exact ⟨c :: front, rfl, by rw [byteLength_cons, Nat.add_assoc]⟩
  | @lexeme position _ c text after rest lexeme _ _ hfirst _ ih =>
      obtain ⟨front, rfl, rfl⟩ := ih
      refine ⟨lexeme.source ++ front, ?_, ?_⟩
      · rw [List.append_assoc, Lexeme.first_source hfirst]
      · rw [byteLength_append, Nat.add_assoc]

/-- The tokens in front of a text stay when it is exchanged for one that goes on with less. -/
theorem exchange {position stop : Nat} {text tail tail' : List Char} {tokens : List Token}
    (h : Scans position (text ++ tail) tokens stop tail) (hless : GoesOnLess tail' tail) :
    Scans position (text ++ tail') tokens stop tail' := by
  generalize hwhole : text ++ tail = whole at h
  induction h generalizing text with
  | done position =>
      have htext : text = [] := by simpa using hwhole
      subst htext
      exact .done position tail'
  | @blank position _ c inner _ _ hblank hinner ih =>
      -- The text behind the blank still ends with the text that is exchanged.
      obtain ⟨front, rfl, _⟩ := hinner.exists_front
      have htext : text = c :: front := List.append_cancel_right hwhole
      subst htext
      exact .blank hblank (ih hless rfl)
  | @lexeme position _ c inner after tail lexeme _ hblank hfirst hinner ih =>
      obtain ⟨front, rfl, _⟩ := hinner.exists_front
      have hsource := Lexeme.first_source hfirst
      obtain ⟨d, source, hcons⟩ := List.exists_cons_of_ne_nil (Lexeme.source_ne_nil hfirst)
      rw [hcons] at hsource
      obtain ⟨rfl, rfl⟩ := List.cons.inj hsource
      have htext : text = d :: (source ++ front) :=
        List.append_cancel_right (by rw [hwhole, List.cons_append, List.append_assoc]; rfl)
      subst htext
      have hfirst' : Lexeme.first d (source ++ front ++ tail) = .ok (lexeme, front ++ tail) := by
        rw [List.append_assoc]
        exact hfirst
      exact .lexeme hblank (Lexeme.first_exchange hless hfirst') (ih hless rfl)

end Scans

end SexpContract
