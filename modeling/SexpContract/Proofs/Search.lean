import SexpContract.Pattern.Search

/-!
# Searching Finds What Occurs

The marks on an expression stand for the stretches that are under way.  `Marked.Reaches` says which
of them can be completed; moving the marks over a character is right for it
(`Marked.reaches_shift`), and so searching decides whether an expression occurs in a text
(`Regex.search_iff`).
-/

namespace SexpContract

/-! ## Section 1: Spans, constructor by constructor -/

namespace Regex

theorem spans_empty_iff {before text after : List Char} :
    Spans .empty before text after ↔ text = [] := by
  constructor
  · intro h
    cases h
    rfl
  · rintro rfl
    exact .empty before after

theorem spans_chars_iff {set : CharSet} {before text after : List Char} :
    Spans (.chars set) before text after ↔ ∃ c, text = [c] ∧ set.contains c = true := by
  constructor
  · intro h
    cases h with
    | chars _ c _ _ h => exact ⟨c, rfl, h⟩
  · rintro ⟨c, rfl, h⟩
    exact .chars set c before after h

theorem spans_assert_iff {assertion : Assertion} {before text after : List Char} :
    Spans (.assert assertion) before text after ↔
      text = [] ∧ assertion.holds before.getLast? after.head? = true := by
  constructor
  · intro h
    cases h with
    | assert _ _ _ h => exact ⟨rfl, h⟩
  · rintro ⟨rfl, h⟩
    exact .assert assertion before after h

theorem spans_seq_iff {first second : Regex} {before text after : List Char} :
    Spans (.seq first second) before text after ↔
      ∃ left right, text = left ++ right ∧ first.Spans before left (right ++ after) ∧
        second.Spans (before ++ left) right after := by
  constructor
  · intro h
    cases h with
    | seq hfirst hsecond => exact ⟨_, _, rfl, hfirst, hsecond⟩
  · rintro ⟨left, right, rfl, hfirst, hsecond⟩
    exact .seq hfirst hsecond

theorem spans_alt_iff {first second : Regex} {before text after : List Char} :
    Spans (.alt first second) before text after ↔
      first.Spans before text after ∨ second.Spans before text after := by
  constructor
  · intro h
    cases h with
    | altFirst h => exact .inl h
    | altSecond h => exact .inr h
  · rintro (h | h)
    · exact .altFirst h
    · exact .altSecond h

theorem spans_star_nil (body : Regex) (before after : List Char) :
    (star body).Spans before [] after :=
  .altSecond (.empty before after)

/-- A repetition that spans the empty text has a round that does. -/
theorem spans_plus_nil_iff {body : Regex} {before after : List Char} :
    Spans (.plus body) before [] after ↔ body.Spans before [] after := by
  constructor
  · intro h
    generalize hplus : Regex.plus body = regex at h
    generalize htext : ([] : List Char) = whole at h
    induction h with
    | empty => cases hplus
    | chars => cases hplus
    | assert => cases hplus
    | seq => cases hplus
    | altFirst => cases hplus
    | altSecond => cases hplus
    | plusOne h =>
        cases hplus
        exact h
    | plusCons hbody _ _ _ =>
        cases hplus
        obtain ⟨rfl, rfl⟩ := List.append_eq_nil_iff.1 htext.symm
        exact hbody
  · exact .plusOne

/-- A repetition that spans a character starts with a round that does. -/
theorem spans_plus_cons_iff {body : Regex} {before text after : List Char} {c : Char} :
    Spans (.plus body) before (c :: text) after ↔
      ∃ left right, text = left ++ right ∧ body.Spans before (c :: left) (right ++ after) ∧
        (star body).Spans (before ++ c :: left) right after := by
  constructor
  · intro h
    generalize hplus : Regex.plus body = regex at h
    generalize htext : c :: text = whole at h
    induction h with
    | empty => cases hplus
    | chars => cases hplus
    | assert => cases hplus
    | seq => cases hplus
    | altFirst => cases hplus
    | altSecond => cases hplus
    | plusOne h =>
        cases hplus
        subst htext
        exact ⟨text, [], by simp, h, spans_star_nil ..⟩
    | @plusCons body' before' round rest after' hbody hrest _ ih =>
        cases hplus
        cases round with
        | nil =>
            rw [List.nil_append] at htext
            rw [List.append_nil] at ih
            exact ih rfl htext
        | cons d left =>
            rw [List.cons_append, List.cons.injEq] at htext
            obtain ⟨rfl, rfl⟩ := htext
            exact ⟨left, rest, rfl, hbody, .altFirst hrest⟩
  · rintro ⟨left, right, rfl, hbody, hrest⟩
    rw [← List.cons_append]
    rcases spans_alt_iff.1 hrest with hplus | hempty
    · exact .plusCons hbody hplus
    · rw [spans_empty_iff.1 hempty] at hbody ⊢
      rw [List.append_nil]
      exact .plusOne hbody

theorem spans_star_cons_iff {body : Regex} {before text after : List Char} {c : Char} :
    (star body).Spans before (c :: text) after ↔ Spans (.plus body) before (c :: text) after := by
  rw [star, spans_alt_iff, spans_empty_iff]
  simp

end Regex

/-! ## Section 2: Stretches under way -/

namespace Marked

/-- A mark can be completed to the end of the expression over a text. -/
def Reaches : Marked → List Char → List Char → List Char → Prop
  | .empty, _, _, _ => False
  | .chars _ mark, _, text, _ => mark = true ∧ text = []
  | .assert _, _, _, _ => False
  | .seq first second, before, text, after =>
      (∃ left right, text = left ++ right ∧ first.Reaches before left (right ++ after) ∧
        second.regex.Spans (before ++ left) right after) ∨ second.Reaches before text after
  | .alt first second, before, text, after =>
      first.Reaches before text after ∨ second.Reaches before text after
  | .plus body, before, text, after =>
      ∃ left right, text = left ++ right ∧ body.Reaches before left (right ++ after) ∧
        (Regex.star body.regex).Spans (before ++ left) right after

theorem nullable_iff (marked : Marked) (before after : List Char) :
    marked.nullable before.getLast? after.head? = true ↔ marked.regex.Spans before [] after := by
  induction marked with
  | empty => simp [nullable, regex, Regex.spans_empty_iff]
  | chars set mark => simp [nullable, regex, Regex.spans_chars_iff]
  | assert assertion => simp [nullable, regex, Regex.spans_assert_iff]
  | seq first second ihfirst ihsecond =>
      rw [nullable, Bool.and_eq_true_iff, ihfirst, ihsecond, regex, Regex.spans_seq_iff]
      constructor
      · rintro ⟨hfirst, hsecond⟩
        exact ⟨[], [], rfl, hfirst, by simpa using hsecond⟩
      · rintro ⟨left, right, htext, hfirst, hsecond⟩
        obtain ⟨rfl, rfl⟩ := List.append_eq_nil_iff.1 htext.symm
        exact ⟨hfirst, by simpa using hsecond⟩
  | alt first second ihfirst ihsecond =>
      rw [nullable, Bool.or_eq_true_iff, ihfirst, ihsecond, regex, Regex.spans_alt_iff]
  | plus body ih => rw [nullable, regex, ih, Regex.spans_plus_nil_iff]

theorem final_iff (marked : Marked) (before after : List Char) :
    marked.final before.getLast? after.head? = true ↔ marked.Reaches before [] after := by
  induction marked with
  | empty => simp [final, Reaches]
  | chars set mark => simp [final, Reaches]
  | assert assertion => simp [final, Reaches]
  | seq first second ihfirst ihsecond =>
      rw [final, Bool.or_eq_true_iff, Bool.and_eq_true_iff, ihfirst, ihsecond, nullable_iff,
        Reaches]
      constructor
      · rintro (⟨hfirst, hsecond⟩ | hsecond)
        · exact .inl ⟨[], [], rfl, hfirst, by simpa using hsecond⟩
        · exact .inr hsecond
      · rintro (⟨left, right, htext, hfirst, hsecond⟩ | hsecond)
        · obtain ⟨rfl, rfl⟩ := List.append_eq_nil_iff.1 htext.symm
          exact .inl ⟨hfirst, by simpa using hsecond⟩
        · exact .inr hsecond
  | alt first second ihfirst ihsecond =>
      rw [final, Bool.or_eq_true_iff, ihfirst, ihsecond, Reaches]
  | plus body ih =>
      rw [final, ih, Reaches]
      constructor
      · intro h
        exact ⟨[], [], rfl, h, Regex.spans_star_nil ..⟩
      · rintro ⟨left, right, htext, h, _⟩
        obtain ⟨rfl, rfl⟩ := List.append_eq_nil_iff.1 htext.symm
        exact h

/-! ## Section 3: One character further -/

/-- Moving the marks over a character: what can then be completed is what a new start or an old
mark completes over that character and the rest. -/
theorem reaches_shift (marked : Marked) (before : List Char) (c : Char) (entered : Bool)
    (text after : List Char) :
    (marked.shift before.getLast? c entered).Reaches (before ++ [c]) text after ↔
      (entered = true ∧ marked.regex.Spans before (c :: text) after) ∨
        marked.Reaches before (c :: text) after := by
  induction marked generalizing entered text after with
  | empty => simp [shift, Reaches, regex, Regex.spans_empty_iff]
  | chars set mark =>
      simp only [shift, Reaches, regex, Regex.spans_chars_iff, Bool.and_eq_true_iff]
      grind
  | assert assertion => simp [shift, Reaches, regex, Regex.spans_assert_iff]
  | alt first second ihfirst ihsecond =>
      rw [shift, Reaches, ihfirst, ihsecond, Reaches, regex, Regex.spans_alt_iff]
      grind
  | seq first second ihfirst ihsecond =>
      have hnullable := nullable_iff first before (c :: (text ++ after))
      have hfinal := final_iff first before (c :: (text ++ after))
      rw [List.head?_cons] at hnullable hfinal
      rw [shift, Reaches, ihsecond, regex_shift, Reaches, regex, Regex.spans_seq_iff,
        Bool.or_eq_true_iff, Bool.and_eq_true_iff, hnullable, hfinal]
      constructor
      · rintro (⟨left, right, rfl, hfirst, hsecond⟩ |
          ⟨⟨hentered, hempty⟩ | hmark, hsecond⟩ | hsecond)
        · rw [List.append_assoc, List.singleton_append] at hsecond
          rcases (ihfirst entered left (right ++ after)).1 hfirst with ⟨hentered, hspan⟩ | hmark
          · exact .inl ⟨hentered, c :: left, right, rfl, hspan, hsecond⟩
          · exact .inr (.inl ⟨c :: left, right, rfl, hmark, hsecond⟩)
        · exact .inl ⟨hentered, [], c :: text, rfl, hempty, by simpa using hsecond⟩
        · exact .inr (.inl ⟨[], c :: text, rfl, hmark, by simpa using hsecond⟩)
        · exact .inr (.inr hsecond)
      · rintro (⟨hentered, left, right, htext, hfirst, hsecond⟩ |
          ⟨left, right, htext, hfirst, hsecond⟩ | hsecond)
        · cases left with
          | nil =>
              rw [List.nil_append] at htext
              subst htext
              rw [List.append_nil] at hsecond
              exact .inr (.inl ⟨.inl ⟨hentered, hfirst⟩, hsecond⟩)
          | cons d left =>
              rw [List.cons_append, List.cons.injEq] at htext
              obtain ⟨rfl, rfl⟩ := htext
              refine .inl ⟨left, right, rfl, ?_, ?_⟩
              · exact (ihfirst entered left (right ++ after)).2 (.inl ⟨hentered, hfirst⟩)
              · rw [List.append_assoc, List.singleton_append]
                exact hsecond
        · cases left with
          | nil =>
              rw [List.nil_append] at htext
              subst htext
              rw [List.append_nil] at hsecond
              exact .inr (.inl ⟨.inr hfirst, hsecond⟩)
          | cons d left =>
              rw [List.cons_append, List.cons.injEq] at htext
              obtain ⟨rfl, rfl⟩ := htext
              refine .inl ⟨left, right, rfl, ?_, ?_⟩
              · exact (ihfirst entered left (right ++ after)).2 (.inr hfirst)
              · rw [List.append_assoc, List.singleton_append]
                exact hsecond
        · exact .inr (.inr hsecond)
  | plus body ih =>
      rw [shift, Reaches, regex_shift, Reaches, regex]
      constructor
      · rintro ⟨left, right, rfl, hbody, hstar⟩
        rw [List.append_assoc, List.singleton_append] at hstar
        rcases (ih _ left (right ++ after)).1 hbody with ⟨hentered, hspan⟩ | hmark
        · have hround : (Regex.plus body.regex).Spans before (c :: (left ++ right)) after :=
            Regex.spans_plus_cons_iff.2 ⟨left, right, rfl, hspan, hstar⟩
          rcases Bool.or_eq_true_iff.1 hentered with hentered | hfinal
          · exact .inl ⟨hentered, hround⟩
          · have hdone := (final_iff body before (c :: (left ++ right ++ after))).1 hfinal
            refine .inr ⟨[], c :: (left ++ right), rfl, hdone, ?_⟩
            rw [List.append_nil, Regex.spans_star_cons_iff]
            exact hround
        · exact .inr ⟨c :: left, right, rfl, hmark, hstar⟩
      · rintro (⟨hentered, hplus⟩ | ⟨left, right, htext, hbody, hstar⟩)
        · obtain ⟨left, right, rfl, hspan, hrest⟩ := Regex.spans_plus_cons_iff.1 hplus
          refine ⟨left, right, rfl, ?_, ?_⟩
          · exact (ih _ left (right ++ after)).2 (.inl ⟨by rw [hentered, Bool.true_or], hspan⟩)
          · rw [List.append_assoc, List.singleton_append]
            exact hrest
        · cases left with
          | nil =>
              rw [List.nil_append] at htext
              subst htext
              rw [List.append_nil, Regex.spans_star_cons_iff] at hstar
              obtain ⟨left, right, rfl, hspan, hrest⟩ := Regex.spans_plus_cons_iff.1 hstar
              have hfinal := (final_iff body before (c :: (left ++ right) ++ after)).2 hbody
              refine ⟨left, right, rfl, ?_, ?_⟩
              · refine (ih _ left (right ++ after)).2 (.inl ⟨?_, hspan⟩)
                rw [List.cons_append, List.head?_cons] at hfinal
                rw [hfinal, Bool.or_true]
              · rw [List.append_assoc, List.singleton_append]
                exact hrest
          | cons d left =>
              rw [List.cons_append, List.cons.injEq] at htext
              obtain ⟨rfl, rfl⟩ := htext
              refine ⟨left, right, rfl, ?_, ?_⟩
              · exact (ih _ left (right ++ after)).2 (.inr hbody)
              · rw [List.append_assoc, List.singleton_append]
                exact hstar

/-! ## Section 4: The whole text -/

/-- Searching from a place on finds a stretch under way that ends, or a later stretch. -/
theorem search_iff (marked : Marked) (before text : List Char) :
    marked.search before.getLast? text = true ↔
      (∃ left right, text = left ++ right ∧ marked.Reaches before left right) ∨
        ∃ skipped middle rest, text = skipped ++ middle ++ rest ∧
          marked.regex.Spans (before ++ skipped) middle rest := by
  induction text generalizing marked before with
  | nil =>
      have hnullable := nullable_iff marked before []
      have hfinal := final_iff marked before []
      rw [List.head?_nil] at hnullable hfinal
      rw [search, Bool.or_eq_true_iff, hnullable, hfinal]
      constructor
      · rintro (hspan | hmark)
        · exact .inr ⟨[], [], [], rfl, by simpa using hspan⟩
        · exact .inl ⟨[], [], rfl, hmark⟩
      · rintro (⟨left, right, htext, hmark⟩ | ⟨skipped, middle, rest, htext, hspan⟩)
        · obtain ⟨rfl, rfl⟩ := List.append_eq_nil_iff.1 htext.symm
          exact .inr hmark
        · obtain ⟨hleft, rfl⟩ := List.append_eq_nil_iff.1 htext.symm
          obtain ⟨rfl, rfl⟩ := List.append_eq_nil_iff.1 hleft
          exact .inl (by simpa using hspan)
  | cons c text ih =>
      have hnullable := nullable_iff marked before (c :: text)
      have hfinal := final_iff marked before (c :: text)
      rw [List.head?_cons] at hnullable hfinal
      have hlater := ih (marked.shift before.getLast? c true) (before ++ [c])
      rw [List.getLast?_concat, regex_shift] at hlater
      rw [search, Bool.or_eq_true_iff, Bool.or_eq_true_iff, hnullable, hfinal, hlater]
      constructor
      · rintro ((hspan | hmark) | ⟨left, right, rfl, hreach⟩ |
          ⟨skipped, middle, rest, rfl, hspan⟩)
        · exact .inr ⟨[], [], c :: text, rfl, by simpa using hspan⟩
        · exact .inl ⟨[], c :: text, rfl, hmark⟩
        · rcases (reaches_shift marked before c true left right).1 hreach with ⟨_, hspan⟩ | hmark
          · exact .inr ⟨[], c :: left, right, rfl, by simpa using hspan⟩
          · exact .inl ⟨c :: left, right, rfl, hmark⟩
        · rw [List.append_assoc, List.singleton_append] at hspan
          exact .inr ⟨c :: skipped, middle, rest, rfl, hspan⟩
      · rintro (⟨left, right, htext, hmark⟩ | ⟨skipped, middle, rest, htext, hspan⟩)
        · cases left with
          | nil =>
              rw [List.nil_append] at htext
              subst htext
              exact .inl (.inr hmark)
          | cons d left =>
              rw [List.cons_append, List.cons.injEq] at htext
              obtain ⟨rfl, rfl⟩ := htext
              exact .inr (.inl ⟨left, right, rfl, (reaches_shift ..).2 (.inr hmark)⟩)
        · cases skipped with
          | cons d skipped =>
              rw [List.cons_append, List.cons_append, List.cons.injEq] at htext
              obtain ⟨rfl, rfl⟩ := htext
              refine .inr (.inr ⟨skipped, middle, rest, rfl, ?_⟩)
              rw [List.append_assoc, List.singleton_append]
              exact hspan
          | nil =>
              rw [List.append_nil] at hspan
              cases middle with
              | nil =>
                  rw [List.nil_append, List.nil_append] at htext
                  subst htext
                  exact .inl (.inl hspan)
              | cons d middle =>
                  rw [List.nil_append, List.cons_append, List.cons.injEq] at htext
                  obtain ⟨rfl, rfl⟩ := htext
                  exact .inr (.inl ⟨middle, rest, rfl, (reaches_shift ..).2 (.inl ⟨rfl, hspan⟩)⟩)

/-- Without marks no stretch is under way. -/
theorem not_reaches_unmarked (regex : Regex) (before text after : List Char) :
    ¬ regex.unmarked.Reaches before text after := by
  induction regex generalizing before text after with
  | empty => simp [Regex.unmarked, Reaches]
  | chars set => simp [Regex.unmarked, Reaches]
  | assert assertion => simp [Regex.unmarked, Reaches]
  | seq first second ihfirst ihsecond =>
      rintro (⟨left, right, _, hfirst, _⟩ | hsecond)
      · exact ihfirst _ _ _ hfirst
      · exact ihsecond _ _ _ hsecond
  | alt first second ihfirst ihsecond =>
      rintro (hfirst | hsecond)
      · exact ihfirst _ _ _ hfirst
      · exact ihsecond _ _ _ hsecond
  | plus body ih =>
      rintro ⟨left, right, _, hbody, _⟩
      exact ih _ _ _ hbody

end Marked

/-- Searching decides whether an expression occurs in a text. -/
theorem Regex.search_iff (regex : Regex) (text : List Char) :
    regex.search text = true ↔ regex.Occurs text := by
  have h := Marked.search_iff regex.unmarked [] text
  rw [List.getLast?_nil, Marked.regex_unmarked] at h
  rw [Regex.search, h, Regex.Occurs]
  constructor
  · rintro (⟨left, right, _, hmark⟩ | ⟨skipped, middle, rest, htext, hspan⟩)
    · exact absurd hmark (Marked.not_reaches_unmarked _ _ _ _)
    · exact ⟨skipped, middle, rest, htext, hspan⟩
  · rintro ⟨skipped, middle, rest, htext, hspan⟩
    exact .inr ⟨skipped, middle, rest, htext, hspan⟩

end SexpContract
