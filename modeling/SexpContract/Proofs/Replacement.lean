import SexpContract.Proofs.Relabelling
import SexpContract.Proofs.Sources
import SexpContract.Proofs.TokenPlaces

/-!
# Replacing a Symbol of a Source

The bytes of one symbol are replaced by another identifier.  The symbol is one token, so the tokens
around it stay (`Replacement.Target.scans_apply`), and the program of the new source is the old one
with that symbol renamed (`Replacement.Target.readSource_apply`).
-/

namespace SexpContract

open Text

/-! ## Section 1: Replacing bytes -/

namespace Text

/-- The characters of a text in front of a byte offset, and those from there on. -/
def splitBytes (offset : Nat) : List Char → List Char × List Char
  | [] => ([], [])
  | c :: rest =>
      if offset = 0 then ([], c :: rest)
      else
        let (before, after) := splitBytes (offset - c.utf8Size) rest
        (c :: before, after)

theorem splitBytes_append (before after : List Char) :
    splitBytes (byteLength before) (before ++ after) = (before, after) := by
  induction before with
  | nil => cases after <;> simp [splitBytes]
  | cons c rest ih =>
      have hpos := byteLength_pos (List.cons_ne_nil c rest)
      rw [List.cons_append, splitBytes, if_neg (Nat.ne_of_gt hpos), byteLength_cons,
        Nat.add_sub_cancel_left, ih]

end Text

/-- A symbol at a byte offset of a source, and the name that it is to have instead. -/
structure Replacement where
  position : Nat
  old : String
  new : String
  deriving DecidableEq, Repr

namespace Replacement

/-- The byte offset behind the symbol. -/
def stop (replacement : Replacement) : Nat :=
  replacement.position + byteLength replacement.old.toList

/-- The source with the bytes of the symbol replaced. -/
def apply (replacement : Replacement) (source : String) : String :=
  String.ofList ((splitBytes replacement.position source.toList).1 ++
    (replacement.new.toList ++ (splitBytes replacement.stop source.toList).2))

/-- Where an offset behind the symbol goes. -/
def shift (replacement : Replacement) (offset : Nat) : Nat :=
  offset + byteLength replacement.new.toList - byteLength replacement.old.toList

/-- What the replacement does to the offsets and the symbols of a source. -/
def relabelling (replacement : Replacement) : Relabelling where
  place offset := if offset < replacement.stop then offset else replacement.shift offset
  label offset symbol := if offset = replacement.position then replacement.new else symbol

/-- The token of the symbol. -/
def oldToken (replacement : Replacement) : Token :=
  .identifierAt replacement.old replacement.position

/-- The token that replaces it. -/
def newToken (replacement : Replacement) : Token :=
  .identifierAt replacement.new replacement.position

theorem shift_stop (replacement : Replacement) :
    replacement.shift replacement.stop =
      replacement.position + byteLength replacement.new.toList := by
  simp only [shift, stop]
  omega

theorem shift_add (replacement : Replacement) (n : Nat) :
    replacement.shift (replacement.stop + n) = replacement.shift replacement.stop + n := by
  simp only [shift, stop]
  omega

/-- Where the symbol stands, the new name stands then. -/
theorem toList_apply {replacement : Replacement} {source : String} {before after : List Char}
    (hsource : source.toList = before ++ (replacement.old.toList ++ after))
    (hposition : replacement.position = byteLength before) :
    (replacement.apply source).toList = before ++ (replacement.new.toList ++ after) := by
  have hbefore : splitBytes replacement.position source.toList =
      (before, replacement.old.toList ++ after) := by
    rw [hsource, hposition, splitBytes_append]
  have hstop : replacement.stop = byteLength (before ++ replacement.old.toList) := by
    rw [stop, hposition, byteLength_append]
  have hafter : splitBytes replacement.stop source.toList =
      (before ++ replacement.old.toList, after) := by
    rw [hsource, hstop, ← List.append_assoc, splitBytes_append]
  rw [apply, hbefore, hafter, String.toList_ofList]

/-! ## Section 2: The symbol is a token -/

/-- The symbol is one identifier of a source, with some tokens in front of it and some behind. -/
structure Target (replacement : Replacement) (source : String) (before after : List Char)
    (front back : List Token) (finish : Nat) : Prop where
  source_eq : source.toList = before ++ (replacement.old.toList ++ after)
  position_eq : replacement.position = byteLength before
  isIdentifier : IsIdentifier replacement.old.toList
  ends : ∀ c ∈ after.head?, isIdentifierChar c = false
  front_scans : Scans 0 source.toList front replacement.position (replacement.old.toList ++ after)
  back_scans : Scans replacement.stop after back finish []

/-- Every identifier token of a source can be renamed. -/
theorem exists_target {source : String} {body : List Token} {finish : Nat}
    (h : Scans 0 source.toList body finish []) {token : Token} (htoken : token ∈ body)
    (hkind : token.kind = .identifier) (new : String) :
    ∃ before after front back,
      Target ⟨token.start, token.text, new⟩ source before after front back finish := by
  obtain ⟨front, back, rfl⟩ := List.append_of_mem htoken
  obtain ⟨before, lexeme, after, hsource, hfront, rfl, hlongest, hback⟩ := h.exists_lexeme
  -- The token stands over the longest lexeme at its place, which is all of the symbol.
  have hlexeme : lexeme.kind = .identifier := hkind
  rw [hlexeme] at hlongest
  obtain ⟨hname, htext, hends⟩ := hlongest.ends_identifier
  rw [Nat.zero_add] at hfront hback ⊢
  have hold : ((lexeme.toToken (byteLength before)).text).toList = lexeme.source := by
    simp [Lexeme.toToken, htext]
  refine ⟨before, after, front, back, ?_, rfl, ?_, hends, ?_, ?_⟩
  · rw [hold]
    exact hsource
  · rw [hold]
    exact hname
  · rw [hold]
    exact hfront
  · rw [stop, hold]
    exact hback

namespace Target

variable {replacement : Replacement} {source : String} {before after : List Char}
  {front back : List Token} {finish : Nat}

theorem scans (h : replacement.Target source before after front back finish) :
    Scans 0 source.toList (front ++ replacement.oldToken :: back) finish [] := by
  have hname := Scans.identifier h.isIdentifier h.ends replacement.position
  rw [Lexeme.toToken_identifier] at hname
  exact h.front_scans.trans (hname.trans h.back_scans)

theorem apply_eq (h : replacement.Target source before after front back finish) :
    (replacement.apply source).toList = before ++ (replacement.new.toList ++ after) :=
  toList_apply h.source_eq h.position_eq

/-- The tokens in front of the symbol end there, and those behind it start behind it. -/
theorem apart (h : replacement.Target source before after front back finish) :
    (∀ token ∈ front, token.start < token.stop ∧ token.stop ≤ replacement.position) ∧
      ∀ token ∈ back, replacement.stop ≤ token.start ∧ token.start < token.stop := by
  refine ⟨?_, ?_⟩
  · intro token htoken
    exact (h.front_scans.within token htoken).2
  · intro token htoken
    obtain ⟨hlow, hspan, _⟩ := h.back_scans.within token htoken
    exact ⟨hlow, hspan⟩

/-! ## Section 3: The new source -/

/-- With another identifier in the place of the symbol, the tokens in front of it stay as they are
and those behind it move. -/
theorem scans_apply (h : replacement.Target source before after front back finish)
    (hnew : IsIdentifier replacement.new.toList) :
    Scans 0 (replacement.apply source).toList
      (front ++ replacement.newToken :: back.map (Token.relocate replacement.shift))
      (replacement.shift finish) [] := by
  have hless : GoesOnLess (replacement.new.toList ++ after) (replacement.old.toList ++ after) :=
    goesOnLess_of_identifiers h.isIdentifier hnew
  have hfront := h.front_scans
  rw [h.source_eq] at hfront
  have hname := Scans.identifier hnew h.ends replacement.position
  rw [Lexeme.toToken_identifier] at hname
  -- The text behind the symbol starts where the new symbol ends.
  have hback := h.back_scans.relocate replacement.shift_add
  rw [replacement.shift_stop] at hback
  rw [h.apply_eq]
  exact (hfront.exchange hless).trans (hname.trans hback)

/-- The tokens of the new source are those of the old one, relabelled. -/
theorem map_token (h : replacement.Target source before after front back finish) :
    (front ++ replacement.oldToken :: back).map replacement.relabelling.token =
      front ++ replacement.newToken :: back.map (Token.relocate replacement.shift) := by
  obtain ⟨hfront, hback⟩ := h.apart
  have hpos := byteLength_pos h.isIdentifier.ne_nil
  have hstop : replacement.position < replacement.stop := Nat.lt_add_of_pos_right hpos
  -- An offset in front of the symbol's end stays, and no other symbol is renamed.
  have hfrontmap : front.map replacement.relabelling.token = front := by
    refine (List.map_congr_left ?_).trans (List.map_id front)
    intro token htoken
    obtain ⟨hspan, hlow⟩ := hfront token htoken
    have hstay : token.start < replacement.stop ∧ token.stop < replacement.stop := by omega
    have hother : token.start ≠ replacement.position := by omega
    simp [Relabelling.token, relabelling, hstay, hother]
  have hbackmap : back.map replacement.relabelling.token =
      back.map (Token.relocate replacement.shift) := by
    refine List.map_congr_left ?_
    intro token htoken
    obtain ⟨hhigh, hspan⟩ := hback token htoken
    have hmoves : ¬ token.start < replacement.stop ∧ ¬ token.stop < replacement.stop := by omega
    have hother : token.start ≠ replacement.position := by omega
    simp [Relabelling.token, relabelling, Token.relocate, hmoves, hother]
  have hname : replacement.relabelling.token replacement.oldToken = replacement.newToken := by
    have hmoves := replacement.shift_stop
    rw [stop] at hstop hmoves
    simp [Relabelling.token, relabelling, oldToken, newToken, Token.identifierAt, stop, hstop,
      hmoves]
  rw [List.map_append, List.map_cons, hfrontmap, hname, hbackmap]

theorem tokenize_eq (h : replacement.Target source before after front back finish) :
    tokenize source = .ok (front ++ replacement.oldToken :: back ++ [.endMark finish]) :=
  tokenize_eq_ok_iff.2 ⟨_, _, h.scans, rfl⟩

theorem tokenize_apply (h : replacement.Target source before after front back finish)
    (hnew : IsIdentifier replacement.new.toList) :
    tokenize (replacement.apply source) = .ok (front ++ replacement.newToken ::
      back.map (Token.relocate replacement.shift) ++ [.endMark (replacement.shift finish)]) :=
  tokenize_eq_ok_iff.2 ⟨_, _, h.scans_apply hnew, rfl⟩

/-! ## Section 4: The new program -/

/-- A program that is read from the source is spelled by the tokens around the symbol. -/
theorem spells_of_readSource (h : replacement.Target source before after front back finish)
    {maxDepth : Nat} {program : List Expression}
    (hread : readSource maxDepth source = .ok program) :
    Spells (front ++ replacement.oldToken :: back) program ∧
      Expression.nestingAll program ≤ maxDepth := by
  obtain ⟨body, stop, hscans, hspells⟩ := readSource_eq_ok_iff.1 hread
  -- There are no two ways to cut a source into tokens.
  have htokens := tokenize_eq_ok_iff.2 ⟨body, stop, hscans, rfl⟩
  have heq := Except.ok.inj (htokens.symm.trans h.tokenize_eq)
  obtain ⟨rfl, _⟩ := List.append_inj' heq rfl
  exact hspells

/-- The program of the new source is the old one, relabelled. -/
theorem readSource_apply (h : replacement.Target source before after front back finish)
    (hnew : IsIdentifier replacement.new.toList) {maxDepth : Nat} {program : List Expression}
    (hread : readSource maxDepth source = .ok program) :
    readSource maxDepth (replacement.apply source) =
      .ok (replacement.relabelling.program program) := by
  obtain ⟨hspells, hnesting⟩ := h.spells_of_readSource hread
  -- Relabelling keeps the nesting, so the limit that the old program kept is kept again.
  have hspells' := hspells.relabel replacement.relabelling
  rw [h.map_token] at hspells'
  rw [← replacement.relabelling.nestingAll_program] at hnesting
  exact readSource_eq_ok_iff.2 ⟨_, _, h.scans_apply hnew, hspells', hnesting⟩

/-- The program has one symbol at the offset of the replacement. -/
theorem symbolsAt_eq (h : replacement.Target source before after front back finish)
    {program : List Expression} (hspells : Spells (front ++ replacement.oldToken :: back) program) :
    Expression.symbolsAt replacement.position program =
      [⟨replacement.old, replacement.position⟩] := by
  obtain ⟨hfront, hback⟩ := h.apart
  have hpos := byteLength_pos h.isIdentifier.ne_nil
  have hstop : replacement.position < replacement.stop := Nat.lt_add_of_pos_right hpos
  -- Tokens do not overlap, so no other one starts where the symbol does.
  have hnone : ∀ tokens : List Token, (∀ token ∈ tokens, token.start ≠ replacement.position) →
      ((identifiers tokens).map Token.occurrence).filter (fun occurrence =>
        occurrence.position = replacement.position) = [] := by
    intro tokens htokens
    rw [List.filter_eq_nil_iff]
    intro occurrence hmem
    obtain ⟨token, htoken, rfl⟩ := List.mem_map.1 hmem
    have hother := htokens token (List.mem_filter.1 htoken).1
    simp [Token.occurrence, hother]
  have hbefore : ∀ token ∈ front, token.start ≠ replacement.position := by
    intro token htoken
    have hlow := hfront token htoken
    omega
  have hbehind : ∀ token ∈ back, token.start ≠ replacement.position := by
    intro token htoken
    have hhigh := hback token htoken
    omega
  have hsplit : identifiers (front ++ replacement.oldToken :: back) =
      identifiers front ++ replacement.oldToken :: identifiers back := by
    simp [identifiers, oldToken, Token.identifierAt]
  rw [Expression.symbolsAt, hspells.symbolsAll_eq, hsplit, List.map_append, List.map_cons,
    List.filter_append, hnone front hbefore, List.filter_cons, hnone back hbehind]
  simp [Token.occurrence, oldToken, Token.identifierAt]

end Target

end Replacement

end SexpContract
