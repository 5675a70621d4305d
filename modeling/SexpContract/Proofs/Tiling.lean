import SexpContract.Proofs.LexicalGrammar
import SexpContract.Proofs.Scanning

/-!
# Tilings

A source with tokens is covered by its lexemes and the blanks around them, without gap or overlap,
where each lexeme is the longest at its place.  Scanning finds such a cover (`Scans.exists_tiles`)
and finds none but it (`Tiles.scans`), so it decides what the tokens are
(`tokenize_eq_ok_iff_tiles`).
-/

namespace SexpContract

open Text

/-! ## Section 1: Covers of a text -/

/-- Characters that only separate lexemes. -/
def Blanks (text : List Char) : Prop :=
  ∀ c ∈ text, isBlank c = true

/-- A lexeme of a source with the blanks behind it. -/
structure Tile where
  kind : TokenKind
  source : List Char
  text : List Char
  blanks : List Char

/-- The characters that a tile covers. -/
def Tile.cover (tile : Tile) : List Char :=
  tile.source ++ tile.blanks

/-- The tokens of tiles, the first of which starts at a byte offset. -/
def Tile.tokens (position : Nat) : List Tile → List Token
  | [] => []
  | tile :: rest =>
      ⟨tile.kind, String.ofList tile.text, position, position + byteLength tile.source⟩ ::
        tokens (position + byteLength tile.cover) rest

/-- A text is covered by tiles, each with the longest lexeme at its place. -/
inductive Tiles : List Char → List Tile → Prop where
  | nil : Tiles [] []
  | cons {tile : Tile} {after : List Char} {tiles : List Tile}
      (hlongest : LongestLexeme tile.kind tile.source tile.text (tile.blanks ++ after))
      (hblanks : Blanks tile.blanks) :
      Tiles after tiles →
      Tiles (tile.cover ++ after) (tile :: tiles)

/-! ## Section 2: Covers and scanning -/

theorem Scans.blanks {blanks : List Char} (hblanks : Blanks blanks) (position : Nat)
    (rest : List Char) :
    Scans position (blanks ++ rest) [] (position + byteLength blanks) rest := by
  induction blanks generalizing position with
  | nil => exact .done position rest
  | cons c blanks ih =>
      obtain ⟨hc, hrest⟩ := List.forall_mem_cons.1 hblanks
      have htail := ih hrest (position + c.utf8Size)
      rw [byteLength_cons, ← Nat.add_assoc]
      exact .blank hc htail

/-- The token of the longest lexeme is read off the front of a text. -/
theorem LongestLexeme.scans {kind : TokenKind} {source text after : List Char}
    (h : LongestLexeme kind source text after) (position : Nat) :
    Scans position (source ++ after)
      [⟨kind, String.ofList text, position, position + byteLength source⟩]
      (position + byteLength source) after := by
  obtain ⟨c, rest, rfl, hblank⟩ := h.isLexeme.exists_cons
  have heq : c :: (rest ++ after) = (c :: rest) ++ after := rfl
  obtain ⟨lexeme, hfirst, rfl, hsource, rfl⟩ := Lexeme.first_of_longest h heq
  have hscans : Scans position (c :: (rest ++ after)) [lexeme.toToken position]
      (position + byteLength lexeme.source) after := .lexeme hblank hfirst (.done _ after)
  rw [Lexeme.toToken, hsource] at hscans
  exact hscans

/-- A cover is scanned. -/
theorem Tiles.scans {text : List Char} {tiles : List Tile} (h : Tiles text tiles)
    (position : Nat) :
    Scans position text (Tile.tokens position tiles) (position + byteLength text) [] := by
  induction h generalizing position with
  | nil => exact .done position []
  | @cons tile after tiles hlongest hblanks _ ih =>
      have hlexeme := hlongest.scans position
      have hbehind := Scans.blanks hblanks (position + byteLength tile.source) after
      have hafter := ih (position + byteLength tile.cover)
      have hmiddle : position + byteLength tile.source + byteLength tile.blanks =
          position + byteLength tile.cover := by
        rw [Tile.cover, byteLength_append, Nat.add_assoc]
      rw [hmiddle] at hbehind
      have hall := hlexeme.trans (hbehind.trans hafter)
      rw [byteLength_append, ← Nat.add_assoc, Tile.cover, List.append_assoc]
      exact hall

/-- What is scanned to the end has a cover behind its first blanks. -/
theorem Scans.exists_tiles {position stop : Nat} {text : List Char} {tokens : List Token}
    (h : Scans position text tokens stop []) :
    ∃ blanks rest tiles, text = blanks ++ rest ∧ Blanks blanks ∧ Tiles rest tiles ∧
      tokens = Tile.tokens (position + byteLength blanks) tiles ∧
      stop = position + byteLength text := by
  generalize hend : ([] : List Char) = rest at h
  induction h with
  | done position rest =>
      subst hend
      exact ⟨[], [], [], rfl, by simp [Blanks], .nil, rfl, rfl⟩
  | @blank position _ c _ _ _ hblank _ ih =>
      obtain ⟨blanks, rest, tiles, rfl, hblanks, htiles, rfl, rfl⟩ := ih hend
      have hall : Blanks (c :: blanks) := List.forall_mem_cons.2 ⟨hblank, hblanks⟩
      refine ⟨c :: blanks, rest, tiles, rfl, hall, htiles, ?_, ?_⟩
      · rw [byteLength_cons, Nat.add_assoc]
      · rw [byteLength_cons, Nat.add_assoc]
  | @lexeme position _ c text _ _ lexeme _ _ hfirst _ ih =>
      -- The blanks in front of the rest of the cover belong to the tile of this lexeme.
      obtain ⟨blanks, rest, tiles, rfl, hblanks, htiles, rfl, rfl⟩ := ih hend
      have hsource := Lexeme.first_source hfirst
      let tile : Tile := ⟨lexeme.kind, lexeme.source, lexeme.text, blanks⟩
      have htile : Tiles (tile.cover ++ rest) (tile :: tiles) :=
        .cons (Lexeme.longest_of_first hfirst) hblanks htiles
      have hcover : c :: text = tile.cover ++ rest := by
        rw [← hsource, Tile.cover, List.append_assoc]
      refine ⟨[], tile.cover ++ rest, tile :: tiles, hcover, by simp [Blanks], htile, ?_, ?_⟩
      · rw [Tile.tokens, Tile.cover, byteLength_append, byteLength_nil, Nat.add_zero,
          ← Nat.add_assoc]
        rfl
      · rw [← hsource]
        simp only [byteLength_append]
        omega

/-! ## Section 3: Sources -/

/-- The tokens of a source are those of its cover, closed by one end mark at its end: blanks, and
then tiles with the longest lexeme at each place. -/
theorem tokenize_eq_ok_iff_tiles (source : String) (tokens : List Token) :
    tokenize source = .ok tokens ↔
      ∃ blanks rest tiles, source.toList = blanks ++ rest ∧ Blanks blanks ∧ Tiles rest tiles ∧
        tokens = Tile.tokens (byteLength blanks) tiles ++
          [⟨.endOfInput, "", byteLength source.toList, byteLength source.toList⟩] := by
  rw [tokenize_eq_ok_iff]
  constructor
  · rintro ⟨body, stop, hscans, rfl⟩
    obtain ⟨blanks, rest, tiles, htext, hblanks, htiles, rfl, rfl⟩ := hscans.exists_tiles
    refine ⟨blanks, rest, tiles, htext, hblanks, htiles, ?_⟩
    simp [Token.endMark]
  · rintro ⟨blanks, rest, tiles, htext, hblanks, htiles, rfl⟩
    have hbefore := Scans.blanks hblanks 0 rest
    have hcover := htiles.scans (0 + byteLength blanks)
    have hall := hbefore.trans hcover
    rw [Nat.zero_add, ← byteLength_append, ← htext] at hall
    exact ⟨_, _, hall, rfl⟩

end SexpContract
