import SexpContract.Grammar.Invocation
import SexpContract.Proofs.Anchors
import SexpContract.Proofs.Lookahead

/-!
# The Default Identifier Rule

A schema that gives no rule for identifiers has a default one, which describes identifiers once
more, next to the classes of characters that lexemes are made of.  The two descriptions agree on
ASCII: the default rule holds for exactly the ASCII texts that are one identifier lexeme
(`Grammar.matchesIdentifier_iff_of_default`).  Beyond ASCII they part, since lexemes take the
letters and numbers of all scripts and the rule does not (`exists_unmatched_identifier`).
-/

namespace SexpContract

/-! ## Section 1: One character of a set, again and again -/

namespace Regex

/-- Characters of a set, any number of them. -/
theorem spans_star_chars_iff {set : CharSet} {before text after : List Char} :
    (star (.chars set)).Spans before text after ↔ ∀ c ∈ text, set.contains c = true := by
  induction text generalizing before with
  | nil => simp [spans_star_nil]
  | cons c rest ih =>
      rw [spans_star_cons_iff, spans_plus_cons_iff, List.forall_mem_cons]
      constructor
      · -- A round takes one character, so the others are left to the rounds after it.
        rintro ⟨left, right, rfl, hround, hrest⟩
        obtain ⟨d, heq, hd⟩ := spans_chars_iff.1 hround
        cases heq
        exact ⟨hd, ih.1 hrest⟩
      · rintro ⟨hc, hrest⟩
        exact ⟨[], rest, rfl, spans_chars_iff.2 ⟨c, rfl, hc⟩, ih.2 hrest⟩

/-- A character of one set, and behind it characters of another. -/
theorem spans_chars_star_iff {first others : CharSet} {before text after : List Char} :
    (seqAll [.chars first, star (.chars others)]).Spans before text after ↔
      ∃ c rest, text = c :: rest ∧ first.contains c = true ∧
        ∀ d ∈ rest, others.contains d = true := by
  simp only [seqAll, List.foldr_cons, List.foldr_nil, spans_seq_iff, spans_chars_iff,
    spans_star_chars_iff, spans_empty_iff]
  constructor
  · rintro ⟨_, _, rfl, ⟨c, rfl, hc⟩, rest, _, rfl, hrest, rfl⟩
    exact ⟨c, rest, by simp, hc, hrest⟩
  · rintro ⟨c, rest, rfl, hc, hrest⟩
    exact ⟨[c], rest, rfl, ⟨c, rfl, hc⟩, rest, [], by simp, hrest, rfl⟩

end Regex

/-! ## Section 2: Characters of identifiers -/

/-- A character of ASCII. -/
def IsAscii (c : Char) : Prop :=
  c.toNat < 0x80

instance (c : Char) : Decidable (IsAscii c) :=
  inferInstanceAs (Decidable (c.toNat < 0x80))

namespace CharSet

theorem contains_range_iff {low high c : Char} :
    (range low high).contains c = true ↔ low.toNat ≤ c.toNat ∧ c.toNat ≤ high.toNat := by
  simp [contains, Char.le_def, UInt32.le_iff_toNat_le]

theorem contains_single_iff {c d : Char} : (single d).contains c = true ↔ c = d := by
  rw [single, contains_range_iff, ← Char.toNat_inj]
  omega

theorem contains_letters_iff {c : Char} :
    (range 'A' 'Z').contains c = true ∨ (range 'a' 'z').contains c = true ↔
      c.isAlpha = true := by
  show _ ↔ (decide ('A'.val ≤ c.val ∧ c.val ≤ 'Z'.val) ||
    (decide ('a'.val ≤ c.val) && decide (c.val ≤ 'z'.val))) = true
  simp [contains, Char.le_def]

theorem contains_digits_iff {c : Char} :
    (range '0' '9').contains c = true ↔ c.isDigit = true := by
  rw [contains_range_iff, Char.isDigit_iff_toNat]

/-- What the default pattern lets an identifier start with. -/
def identifierStarts : CharSet :=
  unions [range 'A' 'Z', range 'a' 'z', single '_']

/-- What the default pattern lets an identifier go on with. -/
def identifierChars : CharSet :=
  unions [range 'A' 'Z', range 'a' 'z', range '0' '9', single '_', single '.', single '-']

theorem contains_identifierStarts {c : Char} :
    identifierStarts.contains c = true ↔ c.isAlpha = true ∨ c = '_' := by
  rw [← contains_letters_iff]
  simp [identifierStarts, contains_unions, contains_single_iff, or_assoc]

theorem contains_identifierChars {c : Char} :
    identifierChars.contains c = true ↔
      c.isAlpha = true ∨ c.isDigit = true ∨ c = '_' ∨ c = '.' ∨ c = '-' := by
  rw [← contains_letters_iff, ← contains_digits_iff]
  simp [identifierChars, contains_unions, contains_single_iff, or_assoc]

end CharSet

theorem isAscii_of_isAlpha {c : Char} (h : c.isAlpha = true) : IsAscii c := by
  rcases CharSet.contains_letters_iff.2 h with hupper | hlower
  · exact Nat.lt_of_le_of_lt (CharSet.contains_range_iff.1 hupper).2 (by decide)
  · exact Nat.lt_of_le_of_lt (CharSet.contains_range_iff.1 hlower).2 (by decide)

theorem isAscii_of_isDigit {c : Char} (h : c.isDigit = true) : IsAscii c :=
  Nat.lt_of_le_of_lt (toNat_le_of_isDigit h) (by decide)

theorem isIdentifierStart_iff {c : Char} (h : IsAscii c) :
    isIdentifierStart c = true ↔ c.isAlpha = true ∨ c = '_' := by
  have hlow : c.toNat < 0x80 := h
  simp [isIdentifierStart, Text.isAlphabetic, hlow]

theorem isIdentifierChar_iff {c : Char} (h : IsAscii c) :
    isIdentifierChar c = true ↔
      c.isAlpha = true ∨ c.isDigit = true ∨ c = '_' ∨ c = '.' ∨ c = '-' := by
  have hlow : c.toNat < 0x80 := h
  simp [isIdentifierChar, Text.isAlphanumeric, Text.isAlphabetic, Text.isNumeric, hlow, or_assoc]

/-- The default pattern lets an identifier start with what lexemes let it start with in ASCII. -/
theorem contains_identifierStarts_iff {c : Char} :
    CharSet.identifierStarts.contains c = true ↔ IsAscii c ∧ isIdentifierStart c = true := by
  rw [CharSet.contains_identifierStarts, and_congr_right isIdentifierStart_iff]
  symm
  apply and_iff_right_of_imp
  rintro (halpha | rfl)
  · exact isAscii_of_isAlpha halpha
  · decide

/-- The default pattern lets an identifier go on with what lexemes let it go on with in ASCII. -/
theorem contains_identifierChars_iff {c : Char} :
    CharSet.identifierChars.contains c = true ↔ IsAscii c ∧ isIdentifierChar c = true := by
  rw [CharSet.contains_identifierChars, and_congr_right isIdentifierChar_iff]
  symm
  apply and_iff_right_of_imp
  rintro (halpha | hdigit | rfl | rfl | rfl)
  · exact isAscii_of_isAlpha halpha
  · exact isAscii_of_isDigit hdigit
  all_goals decide

/-! ## Section 3: The default rule -/

theorem parse_defaultIdentifierPattern :
    ∃ tree, PatternTree.parse Schema.defaultIdentifierPattern.toList = some tree ∧
      tree.regex = .seqAll [.chars .identifierStarts, .star (.chars .identifierChars)] := by
  have h : (PatternTree.parse Schema.defaultIdentifierPattern.toList).map PatternTree.regex =
      some (.seqAll [.chars .identifierStarts, .star (.chars .identifierChars)]) := by
    -- The pattern is one fixed text, so its tree is computed.
    decide +kernel
  exact Option.map_eq_some_iff.1 h

/-- The default rule holds for the identifiers of ASCII. -/
theorem Rule.accepts_default_iff {rule : Rule}
    (h : Rule.compile? Schema.defaultIdentifierPattern = some rule) (text : String) :
    rule.accepts text = true ↔ (∀ c ∈ text.toList, IsAscii c) ∧ IsIdentifier text.toList := by
  obtain ⟨tree, htree, hregex⟩ := parse_defaultIdentifierPattern
  rw [Rule.accepts_iff_spans h htree, hregex, Regex.spans_chars_star_iff]
  simp only [contains_identifierStarts_iff, contains_identifierChars_iff]
  cases text.toList with
  | nil => simp [IsIdentifier]
  | cons c rest =>
      simp only [List.forall_mem_cons, IsIdentifier, List.cons.injEq]
      grind

/-- A text is a single identifier token if it is an identifier from its first character to its
last. -/
theorem tokenize_eq_identifier_iff {text : String} :
    tokenize text = .ok [.identifierAt text 0, .endMark (Text.byteLength text.toList)] ↔
      IsIdentifier text.toList := by
  constructor
  · intro h
    exact isWhole_of_tokenize h (.identifierAt text 0) List.mem_cons_self
  · intro h
    -- One lexeme takes the whole text, so nothing but the end stands behind it.
    have hscans : Scans 0 (text.toList ++ []) [(Lexeme.identifier text.toList).toToken 0]
        (0 + Text.byteLength text.toList) [] := Scans.identifier h (by simp) 0
    rw [List.append_nil, Lexeme.toToken_identifier, Nat.zero_add] at hscans
    exact tokenize_eq_ok_iff.2 ⟨_, _, hscans, rfl⟩

namespace Grammar

variable {schema : Schema} {grammar : Grammar}

theorem matchesIdentifier_default_iff (h : schema.compile = .ok grammar)
    (hdefault : schema.identifierPattern = Schema.defaultIdentifierPattern) (text : String) :
    grammar.matchesIdentifier text = true ↔
      (∀ c ∈ text.toList, IsAscii c) ∧ IsIdentifier text.toList := by
  have hrule := Schema.compile?_of_compileRule (Schema.compile_eq_ok h).2.2.1
  rw [hdefault] at hrule
  exact Rule.accepts_default_iff hrule text

theorem argumentFault?_ident_eq_none_iff {symbol name : String} {parameter : Parameter}
    (htype : parameter.type = .identifier) :
    grammar.argumentFault? symbol parameter (.ident name) = none ↔
      grammar.matchesIdentifier name = true := by
  simp [argumentFault?, htype, identifierFault?, Node.ident]

/-- The default rule holds for a text if it belongs to ASCII and is a single identifier token.  So
where an identifier is expected, an identifier that was read is refused if it leaves ASCII, and
only then. -/
theorem matchesIdentifier_iff_of_default (h : schema.compile = .ok grammar)
    (hdefault : schema.identifierPattern = Schema.defaultIdentifierPattern) :
    (∀ text : String, grammar.matchesIdentifier text = true ↔
      (∀ c ∈ text.toList, IsAscii c) ∧
        tokenize text = .ok [.identifierAt text 0, .endMark (Text.byteLength text.toList)]) ∧
    ∀ (source : String) (tokens : List Token) (token : Token), tokenize source = .ok tokens →
      token ∈ tokens → token.kind = .identifier →
      ∀ (symbol : String) (parameter : Parameter), parameter.type = .identifier →
        (grammar.argumentFault? symbol parameter (.ident token.text) = none ↔
          ∀ c ∈ token.text.toList, IsAscii c) := by
  constructor
  · intro text
    rw [matchesIdentifier_default_iff h hdefault, tokenize_eq_identifier_iff]
  · intro source tokens token htokens hmem hkind symbol parameter htype
    have hwhole : IsIdentifier token.text.toList := by
      simpa [Token.IsWhole, hkind] using isWhole_of_tokenize htokens token hmem
    rw [argumentFault?_ident_eq_none_iff htype, matchesIdentifier_default_iff h hdefault]
    exact and_iff_left hwhole

/-- Two identifiers, one with a letter beyond ASCII. -/
theorem matchesIdentifier_iff_of_default_dotted :
    ∃ grammar, querySchema.compile = .ok grammar ∧
      querySchema.identifierPattern = Schema.defaultIdentifierPattern ∧
      grammar.matchesIdentifier "f.id-2" = true ∧ grammar.matchesIdentifier "f.größe" = false ∧
      grammar.argumentFault? "F" (.ofType "table" .identifier) (.ident "f.id-2") = none := by
  obtain ⟨grammar, hcompile⟩ := querySchema_compiles
  obtain ⟨hmatches, hfault⟩ := matchesIdentifier_iff_of_default hcompile rfl
  have hascii : ∀ c ∈ "f.id-2".toList, IsAscii c := by simp [IsAscii]
  have htokens : tokenize "f.id-2" = .ok [.identifierAt "f.id-2" 0, .endMark 6] :=
    tokenize_eq_identifier_iff.2 ⟨by decide +kernel, List.all_eq_true.1 (by decide +kernel)⟩
  refine ⟨grammar, hcompile, rfl, (hmatches _).2 ⟨hascii, htokens⟩, ?_, ?_⟩
  · rw [Bool.eq_false_iff]
    intro hmatch
    exact absurd (((hmatches _).1 hmatch).1 'ö' (by decide)) (by decide)
  · exact (hfault _ _ _ htokens List.mem_cons_self rfl "F" _ rfl).2 hascii

end Grammar

/-- A letter beyond ASCII is an identifier for lexemes and none for the default rule. -/
theorem exists_unmatched_identifier :
    ∃ schema grammar, Schema.compile schema = .ok grammar ∧
      schema.identifierPattern = Schema.defaultIdentifierPattern ∧
      tokenize "é" = .ok [.identifierAt "é" 0, .endMark (Text.byteLength "é".toList)] ∧
      grammar.matchesIdentifier "é" = false := by
  obtain ⟨grammar, hcompile⟩ := querySchema_compiles
  refine ⟨querySchema, grammar, hcompile, rfl, ?_, ?_⟩
  · exact tokenize_eq_identifier_iff.2 ⟨by decide +kernel, by simp⟩
  · rw [Bool.eq_false_iff, ne_eq, Grammar.matchesIdentifier_default_iff hcompile rfl]
    intro hmatch
    exact absurd (hmatch.1 'é' (by decide)) (by decide)

end SexpContract
