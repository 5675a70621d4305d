import SexpContract.Pattern.Token

/-!
# Patterns in Front of a Parenthesis

What is read off the front of a pattern does not depend on a closing parenthesis that is written
behind it, nor on what follows there without a colon.  Each reader keeps what it takes and leaves
the longer rest (`Local`), so a pattern that can be cut into tokens is cut into the same tokens in
front of a parenthesis (`PatternToken.all_append`).
-/

namespace SexpContract

open Text

/-! ## Section 1: Local readers -/

/-- Text behind a pattern: a closing parenthesis, and no colon anywhere. -/
structure Closing (tail : List Char) : Prop where
  head : tail.head? = some ')'
  colon : ':' ∉ tail

/-- What a reader takes off a text, it takes off the text with more behind it. -/
def Local {α : Type} (tail : List Char) (read : List Char → Option (α × List Char)) : Prop :=
  ∀ text item after, read text = some (item, after) →
    read (text ++ tail) = some (item, after ++ tail)

variable {tail : List Char}

theorem Closing.exists_cons (h : Closing tail) : ∃ more, tail = ')' :: more := by
  cases tail with
  | nil => cases h.head
  | cons c more =>
      obtain rfl := Option.some.inj h.head
      exact ⟨more, rfl⟩

/-- A run of characters of a class without parentheses ends in front of the parenthesis. -/
theorem Closing.span_append (h : Closing tail) {p : Char → Bool} (hp : p ')' = false)
    (text : List Char) :
    (text ++ tail).takeWhile p = text.takeWhile p ∧
      (text ++ tail).dropWhile p = text.dropWhile p ++ tail := by
  obtain ⟨more, rfl⟩ := h.exists_cons
  induction text with
  | nil => simp [hp]
  | cons c rest ih =>
      by_cases hc : p c = true
      · simp [hc, ih]
      · simp [hc]

/-- A text that does not start with a character does not either in front of the parenthesis. -/
theorem Closing.not_cons (h : Closing tail) {c : Char} (hc : c ≠ ')') {text : List Char}
    (htext : ∀ rest, text = c :: rest → False) : ∀ rest, text ++ tail = c :: rest → False := by
  obtain ⟨more, rfl⟩ := h.exists_cons
  intro rest heq
  cases text with
  | nil => exact hc (List.cons.inj heq).1.symm
  | cons d text =>
      rw [List.cons_append, List.cons.injEq] at heq
      exact htext text (by rw [heq.1])

/-- Changing what is read changes nothing about how far it is read. -/
theorem Local.map {α β : Type} {read : List Char → Option (α × List Char)} (h : Local tail read)
    (change : α → β) :
    Local tail fun text => (read text).map fun (item, after) => (change item, after) := by
  intro text item after hread
  obtain ⟨⟨item', after'⟩, hread', heq⟩ := Option.map_eq_some_iff.1 hread
  cases heq
  simp only [h text item' after hread', Option.map_some]

theorem upTo_append {stop : Char} {text body after : List Char}
    (h : upTo stop text = some (body, after)) (tail : List Char) :
    upTo stop (text ++ tail) = some (body, after ++ tail) := by
  induction text generalizing body with
  | nil => simp [upTo] at h
  | cons c rest ih =>
      rw [List.cons_append, upTo]
      rw [upTo] at h
      split at h
      · cases h
        rw [if_pos ‹_›]
      · obtain ⟨⟨body', after'⟩, hrest, heq⟩ := Option.map_eq_some_iff.1 h
        cases heq
        rw [if_neg ‹_›, ih hrest]
        rfl

theorem upTo_eq_none_iff {stop : Char} {text : List Char} :
    upTo stop text = none ↔ stop ∉ text := by
  induction text with
  | nil => simp [upTo]
  | cons c rest ih =>
      rw [upTo]
      split
      · rename_i hstop
        simp [hstop]
      · rename_i hother
        simp [ih, Ne.symm hother]

/-! ## Section 2: Escapes -/

namespace Escape

theorem local_codePoint (tail : List Char) {width : Nat} (hwidth : 0 < width) :
    Local tail (codePoint width) := by
  intro text c after h
  cases text with
  | nil => simp [codePoint, hwidth] at h
  | cons d rest =>
      by_cases hbrace : d = '{'
      · subst hbrace
        simp only [codePoint, List.cons_append, Option.bind_eq_some_iff,
          Option.map_eq_some_iff] at h ⊢
        obtain ⟨⟨digits, after'⟩, hupTo, c', hc, heq⟩ := h
        cases heq
        exact ⟨_, upTo_append hupTo tail, c, hc, rfl⟩
      · -- Without a brace in front, the digits are counted off, and there are enough of them.
        have hfixed (text : List Char) : codePoint width (d :: text) =
            if (d :: text).length < width then none
            else (charOfHex? ((d :: text).take width)).map (·, (d :: text).drop width) := by
          rw [codePoint]
          rintro rest' heq
          exact hbrace (List.cons.inj heq).1
        rw [hfixed] at h
        split at h
        · cases h
        · rename_i hlength
          obtain ⟨c', hc, heq⟩ := Option.map_eq_some_iff.1 h
          cases heq
          have hle : width ≤ (d :: rest).length := Nat.le_of_not_lt hlength
          rw [List.cons_append, hfixed, ← List.cons_append, List.take_append_of_le_length hle,
            List.drop_append_of_le_length hle, if_neg (by simp at hle ⊢; omega), hc]
          rfl

theorem local_property (tail : List Char) (negated : Bool) : Local tail (property negated) := by
  intro text atom after h
  unfold property at h
  split at h
  · cases h
  · obtain ⟨⟨body, after'⟩, hupTo, hclass⟩ := Option.bind_eq_some_iff.1 h
    obtain ⟨expr, hexpr, heq⟩ := Option.map_eq_some_iff.1 hclass
    cases heq
    unfold property
    simp only [List.cons_append, upTo_append hupTo, Option.bind_some, hexpr, Option.map_some]
  · rename_i hbrace
    obtain ⟨set, hset, heq⟩ := Option.map_eq_some_iff.1 h
    cases heq
    unfold property
    simp only [List.cons_append, hset, Option.map_some]

theorem local_wordBoundary (htail : Closing tail) : Local tail wordBoundary := by
  intro text atom after h
  have hparen : isBoundaryNameChar ')' = false := by decide
  obtain ⟨more, rfl⟩ := htail.exists_cons
  unfold wordBoundary at h
  split at h
  · rename_i c rest
    obtain ⟨hname, hrest⟩ := htail.span_append hparen (c :: rest)
    split at h
    · rename_i hc
      split at h
      · rename_i after' hdrop
        obtain ⟨assertion, hassertion, heq⟩ := Option.map_eq_some_iff.1 h
        cases heq
        rw [List.cons_append] at hname hrest
        simp only [List.cons_append, wordBoundary, hc, if_true, hname, hrest, hdrop, hassertion,
          Option.map_some]
      · cases h
    · rename_i hc
      cases h
      simp only [List.cons_append, wordBoundary, hc, Bool.false_eq_true, if_false]
  · rename_i hbrace
    cases h
    cases text with
    | nil => rfl
    | cons c rest =>
        by_cases hc : c = '{'
        · -- A single brace stays one that no name follows: a parenthesis starts none.
          subst hc
          cases rest with
          | nil => simp [wordBoundary, hparen]
          | cons d rest => exact absurd rfl (hbrace d rest)
        · simp [wordBoundary, hc]

theorem local_first (htail : Closing tail) : Local tail first := by
  intro text atom after h
  unfold first at h
  split at h
  · cases h
  · exact (local_codePoint tail (by decide)).map .literal _ atom after h
  · exact (local_codePoint tail (by decide)).map .literal _ atom after h
  · exact (local_codePoint tail (by decide)).map .literal _ atom after h
  · exact local_property tail false _ atom after h
  · exact local_property tail true _ atom after h
  · exact local_wordBoundary htail _ atom after h
  · rename_i c rest _ _ _ _ _ _
    obtain ⟨single, hsingle, heq⟩ := Option.map_eq_some_iff.1 h
    cases heq
    simp_all [first]

end Escape

/-! ## Section 3: Bracket classes -/

theorem local_classItem (htail : Closing tail) : Local tail classItem := by
  intro text item after h
  unfold classItem at h
  split at h
  · cases h
  · split at h
    · rename_i c after' hfirst
      cases h
      simp only [List.cons_append, classItem, Escape.local_first htail _ _ _ hfirst]
    · rename_i expr after' hfirst
      cases h
      simp only [List.cons_append, classItem, Escape.local_first htail _ _ _ hfirst]
    · cases h
  · cases h
    simp_all [classItem]

theorem local_classRange (htail : Closing tail) : Local tail classRange := by
  intro text item after h
  unfold classRange at h
  split at h
  · rename_i low rest hlow
    have hlow' := local_classItem htail _ _ _ hlow
    rw [List.cons_append] at hlow'
    split at h
    · cases h
      simp only [classRange, hlow', List.cons_append]
    · cases h
      simp only [classRange, hlow', List.cons_append]
    · rename_i hbracket hdash
      split at h
      · rename_i first last after' hlast
        split at h
        · rename_i hle
          cases h
          simp only [classRange, hlow']
          split
          · exact (htail.not_cons (by decide) hbracket _ ‹_›).elim
          · exact (htail.not_cons (by decide) hdash _ ‹_›).elim
          · simp only [local_classItem htail _ _ _ hlast, hle, if_true]
        · cases h
      · cases h
  · -- The parenthesis is no dash either, so a single item at the end stays one.
    rename_i hdash
    have hnot : ∀ rest, after ++ tail = '-' :: rest → False :=
      htail.not_cons (by decide) fun rest heq => hdash item rest (by rw [h, heq])
    simp only [classRange, local_classItem htail _ _ _ h]
    split
    · rename_i heq
      exact (hnot _ (Prod.mk.inj (Option.some.inj heq)).2).elim
    · rfl

/-- The sign in front of a class does not depend on what stands behind the class. -/
theorem complementSign_append (htail : Closing tail) (text : List Char) :
    complementSign (text ++ tail) =
      ((complementSign text).1, (complementSign text).2 ++ tail) := by
  obtain ⟨more, rfl⟩ := htail.exists_cons
  cases text with
  | nil => rfl
  | cons c rest =>
      by_cases hc : c = '^'
      · subst hc
        rfl
      · simp [complementSign, hc]

/-- The name of a class is read in full or not at all, since there is no further colon. -/
theorem asciiClass_append (htail : Closing tail) (text : List Char) :
    asciiClass (text ++ tail) =
      (asciiClass text).map fun (item, after) => (item, after ++ tail) := by
  obtain ⟨more, hmore⟩ := htail.exists_cons
  cases text with
  | nil => simp [asciiClass, hmore]
  | cons c rest =>
      by_cases hc : c = ':'
      · subst hc
        simp only [List.cons_append, asciiClass, complementSign_append htail]
        generalize (complementSign rest).2 = body
        cases hname : upTo ':' body with
        | none =>
            -- This is where a colon behind the pattern would do harm.
            have hbody : upTo ':' (body ++ tail) = none := by
              rw [upTo_eq_none_iff] at hname ⊢
              exact fun hmem => (List.mem_append.1 hmem).elim hname htail.colon
            rw [hbody]
            rfl
        | some split =>
            obtain ⟨name, after⟩ := split
            rw [upTo_append hname]
            cases after with
            | nil => simp [hmore]
            | cons d after =>
                by_cases hd : d = ']'
                · subst hd
                  simp [Function.comp_def]
                · simp [hd]
      · simp [asciiClass, hc]

theorem opening_append (htail : Closing tail) (text : List Char) :
    OpenClass.opening (text ++ tail) =
      ((OpenClass.opening text).1, (OpenClass.opening text).2 ++ tail) := by
  obtain ⟨htake, hdrop⟩ :=
    htail.span_append (p := (· = '-')) (by decide) (complementSign text).2
  simp only [OpenClass.opening, complementSign_append htail, htake, hdrop]
  generalize (complementSign text).2.takeWhile _ = dashes
  generalize (complementSign text).2.dropWhile _ = body
  cases dashes with
  | cons => rfl
  | nil =>
      cases body with
      | nil =>
          obtain ⟨more, rfl⟩ := htail.exists_cons
          rfl
      | cons c rest =>
          by_cases hc : c = ']'
          · subst hc
            rfl
          · simp [hc]

section Equations

variable {current : OpenClass} {outer : List OpenClass} {rest after : List Char} {item : ClassExpr}

theorem classRest_named (h : asciiClass rest = some (item, after)) :
    classRest current outer ('[' :: rest) = classRest (current.add item) outer after := by
  rw [classRest]
  split <;> simp_all

theorem classRest_nested (h : asciiClass rest = none) :
    classRest current outer ('[' :: rest) =
      classRest (OpenClass.opening rest).1 (current :: outer) (OpenClass.opening rest).2 := by
  rw [classRest]
  split <;> simp_all

end Equations

theorem local_classRest (htail : Closing tail) (current : OpenClass) (outer : List OpenClass) :
    Local tail (classRest current outer) := by
  intro text expr after h
  fun_induction classRest current outer text with
  | case1 => cases h
  | case2 current rest =>
      cases h
      rw [List.cons_append, classRest]
  | case3 current rest parent outer ih =>
      rw [List.cons_append, classRest]
      exact ih h
  | case4 current outer rest item after' hascii _ ih =>
      have hascii' := asciiClass_append htail rest
      rw [hascii, Option.map_some] at hascii'
      rw [List.cons_append, classRest_named hascii']
      exact ih h
  | case5 current outer rest hascii _ ih =>
      have hascii' := asciiClass_append htail rest
      rw [hascii, Option.map_none] at hascii'
      rw [List.cons_append, classRest_nested hascii', opening_append htail]
      exact ih h
  | case6 current outer rest ih =>
      rw [List.cons_append, List.cons_append, classRest]
      exact ih h
  | case7 current outer rest ih =>
      rw [List.cons_append, List.cons_append, classRest]
      exact ih h
  | case8 current outer rest ih =>
      rw [List.cons_append, List.cons_append, classRest]
      exact ih h
  | case9 current outer c rest hclose hopen hand hdash htilde item after' hrange _ ih =>
      have hrange' := local_classRange htail _ _ _ hrange
      rw [List.cons_append] at hrange'
      -- No operation comes about where the text ends, since none is written with a parenthesis.
      rw [List.cons_append, classRest]
      · split
        · rename_i heq
          rw [hrange'] at heq
          cases heq
          exact ih h
        · rename_i heq
          rw [hrange'] at heq
          cases heq
      · exact hclose
      · exact hopen
      · exact fun more hc => htail.not_cons (by decide) (fun rest' => hand rest' hc) more
      · exact fun more hc => htail.not_cons (by decide) (fun rest' => hdash rest' hc) more
      · exact fun more hc => htail.not_cons (by decide) (fun rest' => htilde rest' hc) more
  | case10 => cases h

theorem local_bracketClass (htail : Closing tail) : Local tail bracketClass := by
  intro text expr after h
  simp only [bracketClass, opening_append htail] at h ⊢
  exact local_classRest htail _ _ _ _ _ h

/-! ## Section 4: Repetitions and groups -/

namespace PatternToken

theorem repeating_append (htail : Closing tail) (bounds : Bounds) (text : List Char) :
    repeating bounds (text ++ tail) =
      ((repeating bounds text).1, (repeating bounds text).2 ++ tail) := by
  obtain ⟨more, rfl⟩ := htail.exists_cons
  cases text with
  | nil => rfl
  | cons c rest =>
      by_cases hc : c = '?'
      · subst hc
        rfl
      · simp [repeating, lazyMark, hc]

theorem decimal_append (htail : Closing tail) (text : List Char) :
    decimal (text ++ tail) = ((decimal text).1, (decimal text).2 ++ tail) := by
  have hspace : isWhiteSpace ')' = false := by decide
  have hdigit : Char.isDigit ')' = false := by decide
  simp only [decimal, (htail.span_append hspace _).2, htail.span_append hdigit _]

theorem local_counted (htail : Closing tail) : Local tail counted := by
  intro text bounds after h
  unfold counted at h
  split at h
  · rename_i least after' hleast
    cases h
    simp only [counted, decimal_append htail, hleast, List.cons_append]
  · rename_i least after' hleast
    cases h
    simp only [counted, decimal_append htail, hleast, List.cons_append]
  · rename_i least rest hbrace hleast
    split at h
    · rename_i most after' hmost
      split at h
      · rename_i hle
        cases h
        simp only [counted, decimal_append htail, hleast, List.cons_append]
        -- What follows the comma still decides that there is a second number.
        split
        · rename_i heq
          cases heq
        · rename_i heq
          cases (Prod.mk.inj heq).1
          exact (htail.not_cons (by decide) hbrace _ (List.cons.inj (Prod.mk.inj heq).2).2).elim
        · rename_i heq
          cases heq
          simp only [decimal_append htail, hmost, List.cons_append, hle, if_true]
        · rename_i hnot
          exact (hnot _ _ rfl).elim
      · cases h
    · cases h
  · cases h

theorem local_namedGroup (tail : List Char) : Local tail namedGroup := by
  intro text token after h
  unfold namedGroup at h
  split at h
  · rename_i name after' hname
    split at h
    · rename_i hvalid
      cases h
      simp only [namedGroup, upTo_append hname, hvalid, if_true]
    · cases h
  · cases h

theorem local_flagGroup (htail : Closing tail) : Local tail flagGroup := by
  intro text token after h
  obtain ⟨hflags, hrest⟩ := htail.span_append (p := isFlagChar) (by decide) text
  unfold flagGroup at h
  simp only at h
  split at h
  · rename_i hvalid
    split at h
    · rename_i after' hcolon
      cases h
      simp only [flagGroup, hflags, hrest, hvalid, hcolon, List.cons_append, if_true]
    · rename_i after' hparen
      split at h
      · cases h
      · rename_i hempty
        cases h
        simp only [flagGroup, hflags, hrest, hvalid, hparen, hempty, List.cons_append, if_true]
        rfl
    · cases h
  · cases h

theorem local_group (htail : Closing tail) : Local tail group := by
  intro text token after h
  unfold group at h
  split at h
  · exact local_namedGroup tail _ _ _ h
  · exact local_namedGroup tail _ _ _ h
  · -- The two names of a group start are not completed by the parenthesis.
    rename_i rest hnamed hname
    have hparen := htail.not_cons (by decide) hname
    rw [List.cons_append, group]
    · exact local_flagGroup htail _ _ _ h
    · intro more heq
      cases rest with
      | nil =>
          obtain ⟨_, rfl⟩ := htail.exists_cons
          cases heq
      | cons c rest =>
          obtain ⟨rfl, hrest⟩ := List.cons.inj heq
          have hname' (more : List Char) (h : rest = '<' :: more) : False :=
            hnamed more (by rw [h])
          exact htail.not_cons (by decide) hname' _ hrest
    · exact hparen
  · rename_i hplain
    have hplain' := htail.not_cons (by decide) hplain
    cases h
    rw [group]
    · exact fun more => hplain' _
    · exact fun more => hplain' _
    · exact hplain'

theorem local_first (htail : Closing tail) (c : Char) : Local tail (first c) := by
  intro rest token after h
  unfold first at h
  split at h
  · exact local_group htail _ _ _ h
  · cases h
    rfl
  · cases h
    rfl
  · exact (local_bracketClass htail).map (fun expr => PatternToken.atom (.set expr)) _ _ _ h
  · rw [Option.some.injEq] at h
    rw [first, repeating_append htail, h]
  · rw [Option.some.injEq] at h
    rw [first, repeating_append htail, h]
  · rw [Option.some.injEq] at h
    rw [first, repeating_append htail, h]
  · obtain ⟨⟨bounds, after'⟩, hcounted, hrepeat⟩ := Option.map_eq_some_iff.1 h
    simp only at hrepeat
    simp only [first, local_counted htail _ _ _ hcounted, Option.map_some,
      repeating_append htail, hrepeat]
  · exact (Escape.local_first htail).map PatternToken.atom _ _ _ h
  · cases h
    rfl
  · cases h
    rfl
  · cases h
    rfl
  · cases h
    simp_all [first]

/-- A pattern is cut into its first token and the tokens of the rest. -/
theorem all_of_first {c : Char} {rest after : List Char} {token : PatternToken}
    (h : first c rest = some (token, after)) :
    all (c :: rest) = (all after).map (token :: ·) := by
  rw [all]
  split <;> simp_all

/-- A pattern that can be cut into tokens is cut into the same ones in front of a closing
parenthesis. -/
theorem all_append (htail : Closing tail) {text : List Char} {tokens : List PatternToken}
    (h : all text = some tokens) : all (text ++ tail) = (all tail).map (tokens ++ ·) := by
  induction text using all.induct generalizing tokens with
  | case1 =>
      rw [all, Option.some.injEq] at h
      subst h
      simp
  | case2 c rest token after hfirst _ ih =>
      rw [all_of_first hfirst] at h
      obtain ⟨tokens', hafter, rfl⟩ := Option.map_eq_some_iff.1 h
      rw [List.cons_append, all_of_first (local_first htail c _ _ _ hfirst), ih hafter,
        Option.map_map]
      rfl
  | case3 c rest hfirst =>
      rw [all] at h
      split at h <;> simp_all

end PatternToken

end SexpContract
