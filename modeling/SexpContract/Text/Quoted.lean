/-!
# Quoted Text

The body of a string literal, between its quotes.  A backslash takes the next character with it,
so a quote after a backslash does not close the literal.  Writing and reading a body are inverse:
`decode_encode`, and a written body is split off again whole: `split_encode`.
-/

namespace SexpContract.Text.Quoted

/-! ## Section 1: Reading -/

/-- The body up to the first closing quote, and what follows that quote.  There is none when the
text ends first, also when it ends right after a backslash. -/
def split : List Char → Option (List Char × List Char)
  | [] => none
  | '\'' :: rest => some ([], rest)
  | ['\\'] => none
  | '\\' :: d :: rest => (split rest).map fun (body, after) => ('\\' :: d :: body, after)
  | c :: rest => (split rest).map fun (body, after) => (c :: body, after)

/-- The character that a backslash and the given character stand for, when that pair is one of
the four escapes. -/
def unescape? (c : Char) : Option Char :=
  if c = 'n' then some '\n'
  else if c = 't' then some '\t'
  else if c = '\'' then some '\''
  else if c = '\\' then some '\\'
  else none

/-- The text that a body denotes.  A backslash before any other character stays as written. -/
def decode : List Char → List Char
  | [] => []
  | '\\' :: d :: rest =>
      match unescape? d with
      | some e => e :: decode rest
      | none => '\\' :: d :: decode rest
  | c :: rest => c :: decode rest

/-! ## Section 2: Writing -/

/-- The written form of one character. -/
def escape (c : Char) : List Char :=
  if c = '\n' then ['\\', 'n']
  else if c = '\t' then ['\\', 't']
  else if c = '\'' then ['\\', '\'']
  else if c = '\\' then ['\\', '\\']
  else [c]

/-- The body that denotes a text. -/
def encode (text : List Char) : List Char :=
  text.flatMap escape

/-! ## Section 3: Laws -/

theorem append_split {text body after : List Char} (h : split text = some (body, after)) :
    body ++ '\'' :: after = text := by
  fun_induction split text generalizing body after with
  | case1 => simp at h
  | case2 rest => simp_all
  | case3 => simp at h
  | case4 d rest ih =>
      obtain ⟨⟨b, a⟩, hsplit, heq⟩ := Option.map_eq_some_iff.1 h
      cases heq
      simp [ih hsplit]
  | case5 c rest _ _ _ ih =>
      obtain ⟨⟨b, a⟩, hsplit, heq⟩ := Option.map_eq_some_iff.1 h
      cases heq
      simp [ih hsplit]

theorem decode_encode (text : List Char) : decode (encode text) = text := by
  induction text with
  | nil => rfl
  | cons c text ih =>
      simp only [encode, List.flatMap_cons] at ih ⊢
      by_cases hn : c = '\n'
      · subst hn; simp [escape, decode, unescape?, ih]
      by_cases ht : c = '\t'
      · subst ht; simp [escape, decode, unescape?, ih]
      by_cases hq : c = '\''
      · subst hq; simp [escape, decode, unescape?, ih]
      by_cases hb : c = '\\'
      · subst hb; simp [escape, decode, unescape?, ih]
      · simp [escape, decode, hn, ht, hq, hb, ih]

theorem split_encode (text after : List Char) :
    split (encode text ++ '\'' :: after) = some (encode text, after) := by
  induction text with
  | nil => simp [encode, split]
  | cons c text ih =>
      simp only [encode, List.flatMap_cons] at ih ⊢
      by_cases hn : c = '\n'
      · subst hn; simp [escape, split, ih]
      by_cases ht : c = '\t'
      · subst ht; simp [escape, split, ih]
      by_cases hq : c = '\''
      · subst hq; simp [escape, split, ih]
      by_cases hb : c = '\\'
      · subst hb; simp [escape, split, ih]
      · simp [escape, split, hn, ht, hq, hb, ih]

end SexpContract.Text.Quoted
