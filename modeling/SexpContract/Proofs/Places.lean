import SexpContract.Diagnostic.Basic

/-!
# Lines and Columns

The place of an offset, said of the characters in front of it.  In a source whose characters can be
counted in a word, a place behind some characters has their number of lines and the length of their
last line (`Place.ofOffset_stands`), and no counter overflows.
-/

namespace SexpContract

open Text

/-! ## Section 1: Behind some characters -/

/-- The line behind some characters, which start on the first line. -/
def lineBehind (text : List Char) : Nat :=
  1 + text.count '\n'

/-- The column behind some characters: their last line fills the columns in front of it. -/
def columnBehind (text : List Char) : Nat :=
  1 + (text.reverse.takeWhile fun c => c ≠ '\n').length

/-- One less than the number of words of 32 bits.  A text with fewer characters has its lines and
columns counted without overflow. -/
def placeLimit : Nat := 4294967295

theorem lineBehind_concat (text : List Char) (c : Char) :
    lineBehind (text ++ [c]) = if c = '\n' then lineBehind text + 1 else lineBehind text := by
  rw [lineBehind, List.count_append]
  by_cases hline : c = '\n' <;> simp [lineBehind, hline, Nat.add_assoc]

theorem columnBehind_concat (text : List Char) (c : Char) :
    columnBehind (text ++ [c]) = if c = '\n' then 1 else columnBehind text + 1 := by
  rw [columnBehind, List.reverse_append]
  by_cases hline : c = '\n' <;> simp [columnBehind, hline]
  omega

theorem lineBehind_le (text : List Char) : lineBehind text ≤ 1 + text.length :=
  Nat.add_le_add_left List.count_le_length 1

theorem columnBehind_le (text : List Char) : columnBehind text ≤ 1 + text.length := by
  have hle := (List.takeWhile_prefix (l := text.reverse) fun c => decide (c ≠ '\n')).length_le
  rw [List.length_reverse] at hle
  exact Nat.add_le_add_left hle 1

/-! ## Section 2: Places -/

/-- A place stands behind some characters of a source. -/
structure Place.Stands (place : Place) (text : List Char) : Prop where
  line : place.line.toNat = lineBehind text
  column : place.column.toNat = columnBehind text

namespace Place

theorem start_stands : start.Stands [] :=
  ⟨rfl, rfl⟩

/-- One more character moves a place as it moves the lines and columns. -/
theorem Stands.advance {place : Place} {text : List Char} (h : place.Stands text) (c : Char)
    (hlength : (text ++ [c]).length < placeLimit) : (place.advance c).Stands (text ++ [c]) := by
  have hline := lineBehind_le text
  have hcolumn := columnBehind_le text
  rw [List.length_append, List.length_singleton, placeLimit] at hlength
  have hone : (1 : UInt32).toNat = 1 := rfl
  refine ⟨?_, ?_⟩
  · rw [lineBehind_concat, Place.advance]
    split
    · rw [UInt32.toNat_add, h.line, hone]
      omega
    · exact h.line
  · rw [columnBehind_concat, Place.advance]
    split
    · rfl
    · rw [UInt32.toNat_add, h.column, hone]
      omega

/-- The place of the offset behind some more characters. -/
theorem Stands.find {place : Place} {text : List Char} (h : place.Stands text)
    {front after : List Char} (hlength : (text ++ front).length < placeLimit) (position : Nat) :
    (find (position + byteLength front) position place (front ++ after)).Stands
      (text ++ front) := by
  -- On the characters up to the offset, each of which moves the place on.
  induction front generalizing place text position with
  | nil =>
      rw [List.append_nil]
      cases after with
      | nil => exact h
      | cons c after =>
          rw [List.nil_append, byteLength_nil, Nat.add_zero, Place.find,
            if_pos (Nat.le_refl position)]
          exact h
  | cons c front ih =>
      have hsize := c.utf8Size_pos
      have hsplit : text ++ c :: front = (text ++ [c]) ++ front := by simp
      rw [hsplit] at hlength ⊢
      have hshort : (text ++ [c]).length < placeLimit :=
        Nat.lt_of_le_of_lt (by simp) hlength
      have hbehind : ¬ position + byteLength (c :: front) ≤ position := by
        rw [byteLength_cons]
        omega
      rw [List.cons_append, Place.find, if_neg hbehind, byteLength_cons, ← Nat.add_assoc]
      exact ih (h.advance c hshort) hlength (position + c.utf8Size)

/-- The place of an offset stands behind the characters in front of the offset. -/
theorem ofOffset_stands {source : String} {before after : List Char}
    (hsource : source.toList = before ++ after) (hlength : before.length < placeLimit) :
    (ofOffset source (byteLength before)).Stands before := by
  have hfind : (find (0 + byteLength before) 0 start (before ++ after)).Stands ([] ++ before) :=
    start_stands.find hlength 0
  rw [Nat.zero_add, List.nil_append, ← hsource] at hfind
  exact hfind

end Place

/-! ## Section 3: Spans -/

/-- A span goes from behind some characters of a source to behind those that follow them. -/
structure SourceSpan.Covers (span : SourceSpan) (before covered : List Char) : Prop where
  first : (Place.mk span.startLine span.startColumn).Stands before
  last : (Place.mk span.endLine span.endColumn).Stands (before ++ covered)

/-- The span of a symbol covers the symbol, as the offset behind it does not wrap around. -/
theorem Diagnostic.symbolSpan_covers {source symbol : String} {before after : List Char}
    (hsource : source.toList = before ++ (symbol.toList ++ after))
    (hlength : source.toList.length < placeLimit) :
    (symbolSpan source symbol (byteLength before)).Covers before symbol.toList := by
  have hfirst : before.length < placeLimit := by
    rw [hsource, List.length_append] at hlength
    omega
  have hlast : (before ++ symbol.toList).length < placeLimit := by
    rw [hsource, ← List.append_assoc, List.length_append] at hlength
    omega
  have hbytes := byteLength_le (before ++ symbol.toList)
  have hmodulus : byteLength before + byteLength symbol.toList < offsetModulus := by
    rw [byteLength_append] at hbytes
    rw [placeLimit] at hlast
    rw [offsetModulus]
    omega
  refine ⟨Place.ofOffset_stands hsource hfirst, ?_⟩
  rw [← List.append_assoc] at hsource
  have hstands := Place.ofOffset_stands hsource hlast
  rw [symbolSpan, Nat.mod_eq_of_lt hmodulus, ← byteLength_append]
  exact hstands

end SexpContract
