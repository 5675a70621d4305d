import Mathlib.Data.Prod.Lex
import Mathlib.Order.Bounds.Basic
import SexpContract.Proofs.Places

/-!
# The Order of Places

Places are ordered by their lines and then by their columns.  Each further character of a source
leads to a later place (`countsBehind_lt_concat`), so the places of a source are ordered as the
boundaries between its characters are, and a place tells at which boundary it stands
(`Place.ofOffset_embedding`).
-/

namespace SexpContract

open Text

/-! ## Section 1: The order -/

namespace Place

/-- The line and the column as numbers, of which the line counts first. -/
def key (place : Place) : Nat ×ₗ Nat :=
  toLex (place.line.toNat, place.column.toNat)

theorem key_injective : Function.Injective key := by
  intro first second h
  obtain ⟨hline, hcolumn⟩ := Prod.mk.inj (toLex.injective h)
  cases first
  cases second
  congr 1
  · exact UInt32.toNat.inj hline
  · exact UInt32.toNat.inj hcolumn

/-- A place comes before those on later lines and before those in later columns of its line. -/
instance : LinearOrder Place := LinearOrder.lift' key key_injective

end Place

namespace SourceSpan

/-- The place where a span starts. -/
def first (span : SourceSpan) : Place :=
  ⟨span.startLine, span.startColumn⟩

/-- The place where a span ends. -/
def last (span : SourceSpan) : Place :=
  ⟨span.endLine, span.endColumn⟩

end SourceSpan

/-! ## Section 2: Counting on -/

/-- The line and the column behind some characters. -/
def countsBehind (text : List Char) : Nat ×ₗ Nat :=
  toLex (lineBehind text, columnBehind text)

theorem Place.Stands.key_eq {place : Place} {text : List Char} (h : place.Stands text) :
    place.key = countsBehind text := by
  rw [key, countsBehind, h.line, h.column]

/-- One more character leads to a later line, or to a later column of the same line. -/
theorem countsBehind_lt_concat (text : List Char) (c : Char) :
    countsBehind text < countsBehind (text ++ [c]) := by
  rw [countsBehind, countsBehind, Prod.Lex.toLex_lt_toLex, lineBehind_concat, columnBehind_concat]
  by_cases hline : c = '\n'
  · -- The column starts anew, which the later line makes up for.
    left
    simp [hline]
  · right
    simp [hline]

theorem countsBehind_lt_append (text : List Char) {more : List Char} (hmore : more ≠ []) :
    countsBehind text < countsBehind (text ++ more) := by
  induction more generalizing text with
  | nil => exact absurd rfl hmore
  | cons c rest ih =>
      have hstep := countsBehind_lt_concat text c
      by_cases hrest : rest = []
      · rw [hrest]
        exact hstep
      · have hsplit : text ++ c :: rest = (text ++ [c]) ++ rest := by simp
        rw [hsplit]
        exact hstep.trans (ih (text ++ [c]) hrest)

/-! ## Section 3: Boundaries -/

/-- An offset of a source in front of one of its characters, or at its end. -/
def IsBoundary (source : String) (offset : Nat) : Prop :=
  ∃ before after, source.toList = before ++ after ∧ byteLength before = offset

/-- The first boundary that is not in front of an offset.  For the offsets past the end this is the
end. -/
def IsNextBoundary (source : String) (offset boundary : Nat) : Prop :=
  IsLeast { boundary | IsBoundary source boundary ∧
    min offset (byteLength source.toList) ≤ boundary } boundary

/-- The shorter of two beginnings of a text is a beginning of the longer one. -/
theorem exists_append_of_byteLength_lt {text before after before' after' : List Char}
    (h : text = before ++ after) (h' : text = before' ++ after')
    (hlt : byteLength before < byteLength before') :
    ∃ more, before' = before ++ more ∧ more ≠ [] := by
  rcases List.append_eq_append_iff.1 (h.symm.trans h') with ⟨more, hmore, -⟩ | ⟨more, hmore, -⟩
  · refine ⟨more, hmore, ?_⟩
    rintro rfl
    simp [hmore] at hlt
  · rw [hmore, byteLength_append] at hlt
    omega

namespace IsNextBoundary

variable {source : String} {offset offset' boundary boundary' : Nat}

theorem unique (h : IsNextBoundary source offset boundary)
    (h' : IsNextBoundary source offset boundary') : boundary = boundary' :=
  IsLeast.unique h h'

theorem mono (h : IsNextBoundary source offset boundary)
    (h' : IsNextBoundary source offset' boundary') (hle : offset ≤ offset') :
    boundary ≤ boundary' := by
  obtain ⟨hboundary, hreaches⟩ := h'.1
  apply h.2
  exact ⟨hboundary, by omega⟩

theorem of_le (h : byteLength source.toList ≤ offset) :
    IsNextBoundary source offset (byteLength source.toList) := by
  refine ⟨⟨⟨source.toList, [], by simp, rfl⟩, min_le_right _ _⟩, ?_⟩
  rintro boundary ⟨-, hreaches⟩
  rwa [min_eq_right h] at hreaches

end IsNextBoundary

/-! ## Section 4: Places of offsets -/

namespace Place

/-- The place of an offset is found at the first boundary that is not in front of it. -/
theorem find_eq_find_boundary (offset position : Nat) (place : Place) (text : List Char) :
    ∃ before after, text = before ++ after ∧
      find offset position place text = find (position + byteLength before) position place text ∧
      min offset (position + byteLength text) ≤ position + byteLength before ∧
      ∀ front back, text = front ++ back →
        min offset (position + byteLength text) ≤ position + byteLength front →
        byteLength before ≤ byteLength front := by
  -- On the characters, which are passed over as long as they start in front of the offset.
  induction text generalizing position place with
  | nil => exact ⟨[], [], rfl, rfl, by simp, by simp⟩
  | cons c rest ih =>
      by_cases hreached : offset ≤ position
      · refine ⟨[], c :: rest, rfl, ?_, ?_, ?_⟩
        · simp [find, hreached]
        · simp [hreached]
        · simp
      · have hsize := c.utf8Size_pos
        obtain ⟨before, after, hrest, hfind, hreaches, hleast⟩ :=
          ih (position + c.utf8Size) (place.advance c)
        refine ⟨c :: before, after, by simp [hrest], ?_, ?_, ?_⟩
        · have hbehind : ¬ position + byteLength (c :: before) ≤ position := by
            simp only [byteLength_cons]
            omega
          rw [find, find, if_neg hreached, if_neg hbehind, hfind, byteLength_cons, Nat.add_assoc]
        · simp only [byteLength_cons]
          omega
        · intro front back hsplit hfront
          cases front with
          | nil =>
              -- The offset lies behind the start of the first character.
              simp only [byteLength_cons, byteLength_nil] at hfront
              omega
          | cons d front =>
              obtain ⟨rfl, hback⟩ := List.cons.inj hsplit
              have hle := hleast front back hback
              simp only [byteLength_cons] at hfront ⊢
              omega

theorem exists_nextBoundary (source : String) (offset : Nat) :
    ∃ before after, source.toList = before ++ after ∧
      IsNextBoundary source offset (byteLength before) ∧
      ofOffset source offset = ofOffset source (byteLength before) := by
  obtain ⟨before, after, hsource, hfind, hreaches, hleast⟩ :=
    find_eq_find_boundary offset 0 start source.toList
  simp only [Nat.zero_add] at hfind hreaches hleast
  refine ⟨before, after, hsource, ⟨⟨⟨before, after, hsource, rfl⟩, hreaches⟩, ?_⟩, hfind⟩
  rintro _ ⟨⟨front, back, hsplit, rfl⟩, hfront⟩
  exact hleast front back hsplit hfront

/-- Offsets past the end of a source have the place of its end. -/
theorem ofOffset_past {source : String} {offset : Nat} (hpast : byteLength source.toList ≤ offset) :
    ofOffset source offset = ofOffset source (byteLength source.toList) := by
  obtain ⟨before, after, hsource, hnext, hplace⟩ := exists_nextBoundary source offset
  rw [hplace, hnext.unique (.of_le hpast)]

section Short

variable {source : String} (hlength : source.toList.length < placeLimit)
include hlength

theorem ofOffset_boundary_stands {before after : List Char}
    (hsource : source.toList = before ++ after) :
    (ofOffset source (byteLength before)).Stands before := by
  apply ofOffset_stands hsource
  rw [hsource, List.length_append] at hlength
  omega

theorem ofOffset_strictMonoOn :
    StrictMonoOn (ofOffset source) { offset | IsBoundary source offset } := by
  rintro _ ⟨before, after, hsource, rfl⟩ _ ⟨before', after', hsource', rfl⟩ hlt
  obtain ⟨more, rfl, hmore⟩ := exists_append_of_byteLength_lt hsource hsource' hlt
  show key _ < key _
  rw [(ofOffset_boundary_stands hlength hsource).key_eq,
    (ofOffset_boundary_stands hlength hsource').key_eq]
  exact countsBehind_lt_append before hmore

theorem ofOffset_monotone : Monotone (ofOffset source) := by
  intro offset offset' hle
  obtain ⟨before, after, hsource, hnext, hplace⟩ := exists_nextBoundary source offset
  obtain ⟨before', after', hsource', hnext', hplace'⟩ := exists_nextBoundary source offset'
  rw [hplace, hplace']
  exact (ofOffset_strictMonoOn hlength).monotoneOn hnext.1.1 hnext'.1.1 (hnext.mono hnext' hle)

/-- The place of an offset is that of no other boundary than the next one. -/
theorem isNextBoundary_of_ofOffset_eq {offset boundary : Nat} (hboundary : IsBoundary source boundary)
    (hplace : ofOffset source boundary = ofOffset source offset) :
    IsNextBoundary source offset boundary := by
  obtain ⟨before, after, hsource, hnext, hsame⟩ := exists_nextBoundary source offset
  have heq := (ofOffset_strictMonoOn hlength).injOn hboundary hnext.1.1 (hplace.trans hsame)
  rw [heq]
  exact hnext

/-- The counters have room for one more line and one more column at every character. -/
theorem ofOffset_step {before after : List Char} {c : Char}
    (hsource : source.toList = before ++ c :: after) :
    (ofOffset source (byteLength before)).line.toNat + 1 < UInt32.size ∧
      (ofOffset source (byteLength before)).column.toNat + 1 < UInt32.size ∧
      ofOffset source (byteLength (before ++ [c])) =
        (ofOffset source (byteLength before)).advance c := by
  have hstands := ofOffset_boundary_stands hlength hsource
  have hline := lineBehind_le before
  have hcolumn := columnBehind_le before
  have hshort : (before ++ [c]).length < placeLimit := by
    rw [hsource] at hlength
    simp only [List.length_append, List.length_cons, List.length_nil] at hlength ⊢
    omega
  have hroom : before.length + 2 < UInt32.size := by
    simp only [List.length_append, List.length_cons, List.length_nil, placeLimit] at hshort
    simp only [UInt32.size]
    omega
  refine ⟨?_, ?_, ?_⟩
  · rw [hstands.line]
    omega
  · rw [hstands.column]
    omega
  · have hsplit : source.toList = (before ++ [c]) ++ after := by simp [hsource]
    apply key_injective
    rw [(ofOffset_boundary_stands hlength hsplit).key_eq, (hstands.advance c hshort).key_eq]

end Short

/-! ## Section 5: The embedding -/

/-- In a source whose characters can be counted in a word, an offset has the line and the column of
the next boundary, counted from one over the characters in front of it.  So later offsets never have
earlier places, later boundaries have later places, a place tells its boundary, offsets past the end
have the place of the end, and no counter overflows on the way.  A span whose offsets are in order
does not end before it starts. -/
theorem ofOffset_embedding {source : String} (hlength : source.toList.length < placeLimit) :
    (∀ offset, ∃ before after, source.toList = before ++ after ∧
      IsNextBoundary source offset (byteLength before) ∧
      (ofOffset source offset).Stands before) ∧
    Monotone (ofOffset source) ∧
    StrictMonoOn (ofOffset source) { offset | IsBoundary source offset } ∧
    Set.InjOn (ofOffset source) { offset | IsBoundary source offset } ∧
    (∀ offset boundary, IsBoundary source boundary →
      ofOffset source boundary = ofOffset source offset →
      IsNextBoundary source offset boundary) ∧
    (∀ offset, byteLength source.toList ≤ offset →
      ofOffset source offset = ofOffset source (byteLength source.toList)) ∧
    (∀ before c after, source.toList = before ++ c :: after →
      (ofOffset source (byteLength before)).line.toNat + 1 < UInt32.size ∧
      (ofOffset source (byteLength before)).column.toNat + 1 < UInt32.size ∧
      ofOffset source (byteLength (before ++ [c])) =
        (ofOffset source (byteLength before)).advance c) ∧
    ∀ first last, first ≤ last →
      (SourceSpan.ofOffsets source first last).first ≤
        (SourceSpan.ofOffsets source first last).last := by
  refine ⟨?_, ofOffset_monotone hlength, ofOffset_strictMonoOn hlength,
    (ofOffset_strictMonoOn hlength).injOn, ?_, fun offset => ofOffset_past, ?_, ?_⟩
  · intro offset
    obtain ⟨before, after, hsource, hnext, hplace⟩ := exists_nextBoundary source offset
    refine ⟨before, after, hsource, hnext, ?_⟩
    rw [hplace]
    exact ofOffset_boundary_stands hlength hsource
  · intro offset boundary
    exact isNextBoundary_of_ofOffset_eq hlength
  · intro before c after
    exact ofOffset_step hlength
  · intro first last hle
    exact ofOffset_monotone hlength hle

/-- The first character has two bytes, and the second starts a new line. -/
theorem ofOffset_embedding_accented :
    let source := "é\nab"
    source.toList.length < placeLimit ∧ ofOffset source 1 = ⟨1, 2⟩ ∧ IsNextBoundary source 1 2 ∧
      ofOffset source 2 < ofOffset source 3 ∧ ofOffset source 99 = ofOffset source 5 ∧
      (SourceSpan.ofOffsets source 1 99).first ≤ (SourceSpan.ofOffsets source 1 99).last := by
  intro source
  have hlength : source.toList.length < placeLimit := by decide
  have hsecond : IsBoundary source 2 := ⟨['é'], ['\n', 'a', 'b'], by decide, by decide⟩
  have hthird : IsBoundary source 3 := ⟨['é', '\n'], ['a', 'b'], by decide, by decide⟩
  obtain ⟨-, -, hstrict, -, hrecover, hpast, -, hspan⟩ := ofOffset_embedding hlength
  refine ⟨hlength, by decide, ?_, ?_, ?_, hspan 1 99 (by decide)⟩
  · exact hrecover 1 2 hsecond (by decide)
  · exact hstrict hsecond hthird (by decide)
  · have hend : byteLength source.toList = 5 := by decide
    rw [hpast 99 (by decide), hend]

end Place

end SexpContract
