import SexpContract.Proofs.PlaceOrder

/-!
# Well-Formed Diagnostics

What holds of the diagnostic of an error, whatever position the error has.  Both ends of its span lie
in the text, and it has a span or a fix exactly when the error calls for one
(`Diagnostic.WellFormed`).  Its span is in order as long as the offset behind what the error is about
fits into a word (`Diagnostic.ofError_wellFormed`).  Only the offset behind an unknown symbol can be
too large, and then the span is reversed (`Diagnostic.exists_reversed_span`).
-/

namespace SexpContract

open Text

/-! ## Section 1: What errors are about -/

/-- The number of bytes of the character at an offset, none where no character starts. -/
def widthAt (source : String) (position : Nat) : Nat :=
  ((charAt? position source.toList).map Char.utf8Size).getD 0

namespace Error

/-- The error is an unknown symbol that a similar name could replace. -/
def SuggestsName (error : Error) : Prop :=
  ∃ symbol name position, error = .contract (.unknownSymbol symbol (some name)) position

/-- The offset behind what an error at a position is about, as a sum without bound: behind the symbol
that could be replaced, and else behind one character. -/
def stopFrom (source : String) (position : Nat) : Error → Nat
  | .contract (.unknownSymbol symbol (some _)) _ => position + byteLength symbol.toList
  | _ => position + widthAt source position

variable {error : Error} (h : ¬ error.SuggestsName) (source : String)
include h

theorem ofError_of_not_suggestsName :
    Diagnostic.ofError source error =
      { Diagnostic.unplaced error with
        span := error.position?.map (SourceSpan.ofCharAt source) } := by
  unfold Diagnostic.ofError
  split
  · exact absurd ⟨_, _, _, rfl⟩ h
  · rfl

theorem stopFrom_of_not_suggestsName (position : Nat) :
    error.stopFrom source position = position + widthAt source position := by
  unfold stopFrom
  split
  · exact absurd ⟨_, _, _, rfl⟩ h
  · rfl

end Error

/-! ## Section 2: Offsets -/

/-- The characters in front of the character at an offset take as many bytes as the offset says. -/
theorem exists_split_of_charAt? {offset : Nat} {text : List Char} {c : Char}
    (h : charAt? offset text = some c) :
    ∃ before after, text = before ++ c :: after ∧ byteLength before = offset := by
  induction text generalizing offset with
  | nil => cases h
  | cons d rest ih =>
      rw [charAt?] at h
      split at h
      · rename_i hzero
        cases h
        exact ⟨[], rest, rfl, hzero.symm⟩
      split at h
      · cases h
      · rename_i hinside
        obtain ⟨before, after, hrest, hlength⟩ := ih h
        refine ⟨d :: before, after, by rw [hrest, List.cons_append], ?_⟩
        rw [byteLength_cons, hlength]
        omega

/-- A character ends in the text, so the offset behind it does not wrap around. -/
theorem add_widthAt_lt {source : String} (hlength : source.toList.length < placeLimit)
    {position : Nat} (hposition : position < offsetModulus) :
    position + widthAt source position < offsetModulus := by
  rw [widthAt]
  cases hchar : charAt? position source.toList with
  | none => simpa using hposition
  | some c =>
      obtain ⟨before, after, hsource, hbefore⟩ := exists_split_of_charAt? hchar
      have hbytes := byteLength_le source.toList
      rw [hsource, byteLength_append, byteLength_cons, ← hsource] at hbytes
      simp only [placeLimit] at hlength
      simp only [Option.map_some, Option.getD_some, offsetModulus]
      omega

namespace Place

/-- The place behind the last character of a source. -/
def ofEnd (source : String) : Place :=
  ofOffset source (byteLength source.toList)

theorem ofOffset_zero (source : String) : ofOffset source 0 = start := by
  unfold ofOffset
  cases source.toList <;> simp [find]

/-- Every offset, however large, has a place in the text. -/
theorem ofOffset_within {source : String} (hlength : source.toList.length < placeLimit)
    (offset : Nat) : start ≤ ofOffset source offset ∧ ofOffset source offset ≤ ofEnd source := by
  constructor
  · rw [← ofOffset_zero source]
    exact ofOffset_monotone hlength (Nat.zero_le offset)
  · rcases Nat.le_total offset (byteLength source.toList) with hle | hpast
    · exact ofOffset_monotone hlength hle
    · exact (ofOffset_past hpast).le

end Place

/-! ## Section 3: Diagnostics -/

/-- Both ends of a span lie in a source. -/
structure SourceSpan.Within (span : SourceSpan) (source : String) : Prop where
  start_le_first : Place.start ≤ span.first
  first_le_end : span.first ≤ Place.ofEnd source
  start_le_last : Place.start ≤ span.last
  last_le_end : span.last ≤ Place.ofEnd source

theorem SourceSpan.ofOffsets_within {source : String} (hlength : source.toList.length < placeLimit)
    (first last : Nat) : (SourceSpan.ofOffsets source first last).Within source := by
  obtain ⟨hstart, hend⟩ := Place.ofOffset_within hlength first
  obtain ⟨hstart', hend'⟩ := Place.ofOffset_within hlength last
  exact ⟨hstart, hend, hstart', hend'⟩

namespace Diagnostic

/-- A diagnostic has a span in the text when its error has a position, and a fix for that span when
its error suggests a name. -/
structure WellFormed (diagnostic : Diagnostic) (source : String) (error : Error) : Prop where
  span_isSome_iff : diagnostic.span.isSome ↔ error.position?.isSome
  within : ∀ span ∈ diagnostic.span, span.Within source
  fix_isSome_iff : diagnostic.fix.isSome ↔ error.SuggestsName
  span_eq_fix : ∀ fix ∈ diagnostic.fix, diagnostic.span = some fix.span

variable {source : String}

/-- Any two offsets make a span in the text, so a diagnostic is well formed even where the offset
behind the symbol has wrapped around. -/
theorem wellFormed_ofError (hlength : source.toList.length < placeLimit) (error : Error) :
    (ofError source error).WellFormed source error := by
  by_cases hsuggests : error.SuggestsName
  · obtain ⟨symbol, name, position, rfl⟩ := hsuggests
    refine ⟨by simp [ofError, Error.position?], ?_, ?_, ?_⟩
    · intro span hspan
      cases hspan
      apply SourceSpan.ofOffsets_within hlength
    · exact ⟨fun _ => ⟨symbol, name, position, rfl⟩, fun _ => rfl⟩
    · intro fix hfix
      cases hfix
      rfl
  · rw [Error.ofError_of_not_suggestsName hsuggests]
    refine ⟨by simp, ?_, ?_, ?_⟩
    · intro span hspan
      obtain ⟨position, -, rfl⟩ := Option.map_eq_some_iff.1 hspan
      apply SourceSpan.ofOffsets_within hlength
    · simp [unplaced, hsuggests]
    · intro fix hfix
      cases hfix

/-- The span of a diagnostic goes up to the offset behind what the error is about, if this offset
fits into a word. -/
theorem span_ofError {error : Error} {position : Nat} (hposition : error.position? = some position)
    (hstop : error.stopFrom source position < offsetModulus) :
    (ofError source error).span =
      some (.ofOffsets source position (error.stopFrom source position)) := by
  by_cases hsuggests : error.SuggestsName
  · obtain ⟨symbol, name, position', rfl⟩ := hsuggests
    cases hposition
    simp only [Error.stopFrom] at hstop ⊢
    show some (symbolSpan source symbol position) = _
    rw [symbolSpan, Nat.mod_eq_of_lt hstop]
  · rw [Error.ofError_of_not_suggestsName hsuggests, hposition,
      Error.stopFrom_of_not_suggestsName hsuggests]
    rfl

/-- The diagnostic of any error at any position is well formed.  The offset behind what the error is
about fits into a word unless the error suggests a name, and whenever it fits, the span goes up to
there and does not end before it starts. -/
theorem ofError_wellFormed (hlength : source.toList.length < placeLimit) (error : Error)
    (hposition : ∀ position ∈ error.position?, position < offsetModulus) :
    (ofError source error).WellFormed source error ∧
    ∀ position ∈ error.position?,
      (¬ error.SuggestsName → error.stopFrom source position < offsetModulus) ∧
      (error.stopFrom source position < offsetModulus →
        ∃ span, (ofError source error).span = some span ∧
          span = .ofOffsets source position (error.stopFrom source position) ∧
          span.first ≤ span.last) := by
  refine ⟨wellFormed_ofError hlength error, ?_⟩
  intro position hmem
  refine ⟨?_, ?_⟩
  · intro hother
    rw [Error.stopFrom_of_not_suggestsName hother]
    exact add_widthAt_lt hlength (hposition position hmem)
  · intro hstop
    refine ⟨_, span_ofError hmem hstop, rfl, ?_⟩
    have hle : position ≤ error.stopFrom source position := by
      unfold Error.stopFrom
      split <;> omega
    exact Place.ofOffset_monotone hlength hle

/-- A symbol past the end of the source that stops at the largest offset, and an offset inside a
character. -/
theorem ofError_wellFormed_boundary :
    let source := "é\nab"
    let unknown : Error := .contract (.unknownSymbol "ab" (some "abc")) 18446744073709551613
    let inside : Error := .structural .emptyExpression 1
    source.toList.length < placeLimit ∧
      (∀ position ∈ unknown.position?, position < offsetModulus) ∧
      (∀ position ∈ inside.position?, position < offsetModulus) ∧
      (ofError source unknown).WellFormed source unknown ∧
      (ofError source inside).WellFormed source inside ∧
      unknown.stopFrom source 18446744073709551613 < offsetModulus ∧
      (∃ span, (ofError source unknown).span = some span ∧ span.first ≤ span.last) ∧
      ∃ span, (ofError source inside).span = some span ∧ span.first ≤ span.last := by
  intro source unknown inside
  have hlength : source.toList.length < placeLimit := by decide
  have hunknown : ∀ position ∈ unknown.position?, position < offsetModulus := by decide
  have hinside : ∀ position ∈ inside.position?, position < offsetModulus := by decide
  have hstop : unknown.stopFrom source 18446744073709551613 < offsetModulus := by decide
  have hother : ¬ inside.SuggestsName := by simp [inside, Error.SuggestsName]
  obtain ⟨hwell, hordered⟩ := ofError_wellFormed hlength unknown hunknown
  obtain ⟨hwell', hordered'⟩ := ofError_wellFormed hlength inside hinside
  obtain ⟨span, hspan, -, hle⟩ := (hordered _ rfl).2 hstop
  obtain ⟨hfits, hplaced⟩ := hordered' 1 rfl
  obtain ⟨span', hspan', -, hle'⟩ := hplaced (hfits hother)
  exact ⟨hlength, hunknown, hinside, hwell, hwell', hstop, ⟨span, hspan, hle⟩,
    span', hspan', hle'⟩

/-- The offset behind an unknown symbol at the largest offset wraps around, and the span ends at the
start of the source although it starts at the end. -/
theorem exists_reversed_span :
    let source := "ab"
    let error : Error := .contract (.unknownSymbol "a" (some "b")) 18446744073709551615
    source.toList.length < placeLimit ∧
      (∀ position ∈ error.position?, position < offsetModulus) ∧
      ¬ error.stopFrom source 18446744073709551615 < offsetModulus ∧
      ∃ span, (ofError source error).span = some span ∧ span.last < span.first := by
  refine ⟨by decide, by decide, by decide, ⟨1, 3, 1, 1⟩, by decide, ?_⟩
  decide

end Diagnostic

end SexpContract
