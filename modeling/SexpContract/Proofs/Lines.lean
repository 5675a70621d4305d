import SexpContract.Program.DepthLimit
import SexpContract.Proofs.Lookahead
import SexpContract.Proofs.RoundTrip

/-!
# Lines

A written program has one expression on each line.  A line break and a tab stand in no written
expression, since string literals escape them and no other lexeme holds them
(`Node.IsLexical.not_mem_render`).  So the lines of a written program are its written expressions
(`lines_renderProgram`), and any of the lines are read as the expressions on them
(`parse_lines`).
-/

namespace SexpContract

open Text

/-! ## Section 1: Characters of lexemes -/

/-- The blanks that are never written as they are. -/
def IsEscapedBlank (c : Char) : Prop :=
  c = '\n' ∨ c = '\t'

theorem Text.Quoted.not_mem_encode {c : Char} (hc : IsEscapedBlank c) (text : List Char) :
    c ∉ encode text := by
  intro hmem
  obtain ⟨d, _, hd⟩ := List.mem_flatMap.1 hmem
  rcases hc with rfl | rfl <;> grind [escape]

theorem IsIdentifier.isIdentifierChar {name : List Char} (h : IsIdentifier name) :
    ∀ c ∈ name, isIdentifierChar c = true := by
  cases name with
  | nil => exact h.elim
  | cons c rest =>
      exact List.forall_mem_cons.2 ⟨isIdentifierChar_of_isIdentifierStart h.1, h.2⟩

/-- A number is made of digits, points and dashes. -/
def isNumberChar (c : Char) : Bool :=
  c.isDigit || c = '.' || c = '-'

theorem IsDigits.isNumberChar {digits : List Char} (h : IsDigits digits) :
    ∀ c ∈ digits, isNumberChar c = true := by
  intro c hc
  simp [SexpContract.isNumberChar, h.2 c hc]

theorem IsUnsigned.isNumberChar {text : List Char} (h : IsUnsigned text) :
    ∀ c ∈ text, isNumberChar c = true := by
  cases h with
  | whole hdigits => exact hdigits.isNumberChar
  | fraction hdigits hdecimals =>
      rw [List.forall_mem_append, List.forall_mem_cons]
      exact ⟨hdigits.isNumberChar, by decide, hdecimals.isNumberChar⟩

theorem IsNumber.isNumberChar {text : List Char} (h : IsNumber text) :
    ∀ c ∈ text, isNumberChar c = true := by
  cases h with
  | unsigned h => exact h.isNumberChar
  | negative h => exact List.forall_mem_cons.2 ⟨by decide, h.isNumberChar⟩

/-- No lexeme of a class of characters holds an escaped blank, if the class does not. -/
theorem IsEscapedBlank.not_mem_of_class {c : Char} (hc : IsEscapedBlank c) {p : Char → Bool}
    {text : List Char} (htext : ∀ d ∈ text, p d = true)
    (hblanks : p '\n' = false ∧ p '\t' = false) : c ∉ text := by
  intro hmem
  rcases hc with rfl | rfl
  · exact ne_of_class (htext _ hmem) hblanks.1 rfl
  · exact ne_of_class (htext _ hmem) hblanks.2 rfl

theorem IsEscapedBlank.ne_mark {c : Char} (hc : IsEscapedBlank c) :
    c ≠ '(' ∧ c ≠ ')' ∧ c ≠ ' ' ∧ c ≠ '\'' := by
  rcases hc with rfl | rfl <;> decide

/-! ## Section 2: Characters of expressions -/

namespace Node

theorem not_mem_renderArgs {c : Char} (hspace : c ≠ ' ') {args : List Node}
    (h : ∀ arg ∈ args, c ∉ arg.renderChars) : c ∉ renderArgs args := by
  induction args with
  | nil => simp [renderArgs]
  | cons arg rest ih =>
      obtain ⟨harg, hrest⟩ := List.forall_mem_cons.1 h
      simp [renderArgs, hspace, harg, ih hrest]

/-- Neither a line break nor a tab stands in a written expression, however deep its strings are. -/
theorem IsLexical.not_mem_renderChars {c : Char} (hc : IsEscapedBlank c) {node : Node}
    (h : node.IsLexical) : c ∉ node.renderChars := by
  obtain ⟨hopen, hclose, hspace, hquote⟩ := hc.ne_mark
  induction node using Node.inductionOn with
  | hliteral kind value =>
      cases kind with
      -- The text of a string is any text, so only its escapes keep a blank out.
      | string => simp [renderChars, hquote, Quoted.not_mem_encode hc]
      | number =>
          have hnumber : IsNumber value.toList := isLexical_literal_iff.1 h
          rw [renderChars]
          exact hc.not_mem_of_class hnumber.isNumberChar (by decide)
  | hsymbolic symbol args ih =>
      obtain ⟨hsymbol, hargs⟩ := isLexical_symbolic_iff.1 h
      have hname : c ∉ symbol.toList := hc.not_mem_of_class hsymbol.isIdentifierChar (by decide)
      by_cases hne : args = []
      · subst hne
        rwa [renderChars]
      · have hinner := not_mem_renderArgs hspace fun arg harg => ih arg harg (hargs arg harg)
        simp [renderChars_call symbol hne, hopen, hclose, hname, hinner]

theorem IsLexical.not_mem_render {c : Char} (hc : IsEscapedBlank c) {node : Node}
    (h : node.IsLexical) : c ∉ node.render.toList := by
  rw [render, String.toList_ofList]
  exact h.not_mem_renderChars hc

end Node

/-! ## Section 3: Lines of a program -/

/-- The lines of a text, without the line breaks between them. -/
def lines (source : String) : List String :=
  (source.split '\n').toList.map String.Slice.copy

theorem renderProgramChars_eq_intercalate (nodes : List Node) :
    renderProgramChars nodes = ['\n'].intercalate (nodes.map Node.renderChars) := by
  induction nodes with
  | nil => rfl
  | cons node rest ih =>
      cases rest with
      | nil => simp [renderProgramChars]
      | cons next rest => simp [renderProgramChars, ih]

/-- A written program is its written expressions with line breaks between them. -/
theorem renderProgram_eq_intercalate (nodes : List Node) :
    renderProgram nodes = "\n".intercalate (nodes.map Node.render) := by
  apply String.toList_inj.1
  rw [renderProgram, String.toList_ofList, String.toList_intercalate,
    renderProgramChars_eq_intercalate]
  simp [Node.render, Function.comp_def]

theorem lines_renderProgram {nodes : List Node} (hne : nodes ≠ [])
    (h : ∀ node ∈ nodes, node.IsLexical) :
    lines (renderProgram nodes) = nodes.map Node.render := by
  have hbreak : ∀ line ∈ nodes.map Node.render, '\n' ∉ line.toList := by
    rw [List.forall_mem_map]
    exact fun node hnode => (h node hnode).not_mem_render (.inl rfl)
  -- Parts without a line break are found again between the line breaks.
  have hsplit := String.toList_split_intercalate hbreak
  rw [if_neg (by simpa using hne)] at hsplit
  rw [lines, renderProgram_eq_intercalate]
  exact hsplit

/-! ## Section 4: Reading lines -/

/-- Some of the lines of a program, beside the nodes written on them, are a written program. -/
theorem exists_of_sublist_zip {nodes : List Node} {kept : List (String × Node)}
    (h : kept.Sublist ((nodes.map Node.render).zip nodes)) :
    (kept.map Prod.snd).Sublist nodes ∧
      "\n".intercalate (kept.map Prod.fst) = renderProgram (kept.map Prod.snd) := by
  have hzip : (nodes.map Node.render).zip nodes = nodes.map fun node => (node.render, node) := by
    simpa using List.zip_map' (f := Node.render) (g := id) (l := nodes)
  rw [hzip] at h
  obtain ⟨others, hothers, rfl⟩ := List.sublist_map_iff.1 h
  rw [renderProgram_eq_intercalate]
  simpa [Function.comp_def] using hothers

/-- The lines of a written program are its expressions as they are written, without any line break
or tab in them.  Each line by itself is read as the node that is written on it, and so are any of
the lines together. -/
theorem parse_lines {nodes : List Node} {maxDepth : Nat} (hne : nodes ≠ [])
    (h : ∀ node ∈ nodes, node.IsLexical ∧ node.depth ≤ maxDepth + 1) :
    lines (renderProgram nodes) = nodes.map Node.render ∧
    (∀ node ∈ nodes, '\n' ∉ node.render.toList ∧ '\t' ∉ node.render.toList) ∧
    (∀ (index : Nat) (node : Node), nodes[index]? = some node →
      ∃ line, (lines (renderProgram nodes))[index]? = some line ∧
        parse none maxDepth line = .ok [node]) ∧
    ∀ kept : List (String × Node), kept.Sublist ((lines (renderProgram nodes)).zip nodes) →
      parse none maxDepth ("\n".intercalate (kept.map Prod.fst)) = .ok (kept.map Prod.snd) := by
  have hlines := lines_renderProgram hne fun node hnode => (h node hnode).1
  rw [hlines]
  refine ⟨rfl, ?_, ?_, ?_⟩
  · intro node hnode
    have hlexical := (h node hnode).1
    exact ⟨hlexical.not_mem_render (.inl rfl), hlexical.not_mem_render (.inr rfl)⟩
  · intro index node hindex
    have hnode := h node (List.mem_of_getElem? hindex)
    -- A single line is a written program of one expression.
    have hread := parse_renderProgram_of_lexical (List.forall_mem_singleton.2 hnode)
    exact ⟨node.render, by simp [hindex], hread⟩
  · intro kept hkept
    obtain ⟨hsublist, htext⟩ := exists_of_sublist_zip hkept
    rw [htext]
    exact parse_renderProgram_of_lexical fun node hnode => h node (hsublist.subset hnode)

/-- The first and the last of three lines; the string on the first one holds a line break and a
tab. -/
theorem parse_lines_escaped :
    let nodes : List Node :=
      [.symbolic "F" [.literal .string "a\n\tb"], .ident "G", .literal .number "-3.5"]
    (nodes ≠ [] ∧ ∀ node ∈ nodes, node.IsLexical ∧ node.depth ≤ defaultMaxDepth + 1) ∧
      lines (renderProgram nodes) = ["(F 'a\\n\\tb')", "G", "-3.5"] ∧
      parse none defaultMaxDepth "G" = .ok [.ident "G"] ∧
      parse none defaultMaxDepth "(F 'a\\n\\tb')\n-3.5" =
        .ok [.symbolic "F" [.literal .string "a\n\tb"], .literal .number "-3.5"] := by
  intro nodes
  have hparse : parse none defaultMaxDepth "(F 'a\\n\\tb') G -3.5" = .ok nodes :=
    parse_eq_ok_of_toOption (by decide +kernel)
  have hnodes := isLexical_of_parse hparse
  have hne : nodes ≠ [] := by simp [nodes]
  obtain ⟨hlines, -, hline, hkept⟩ := parse_lines hne hnodes
  have htexts : nodes.map Node.render = ["(F 'a\\n\\tb')", "G", "-3.5"] := by decide +kernel
  rw [htexts] at hlines
  rw [hlines] at hline hkept
  obtain ⟨line, htext, hread⟩ := hline 1 (.ident "G") rfl
  obtain rfl := Option.some.inj htext
  have hends := hkept [("(F 'a\\n\\tb')", .symbolic "F" [.literal .string "a\n\tb"]),
    ("-3.5", .literal .number "-3.5")] (by simp [nodes])
  exact ⟨⟨hne, hnodes⟩, hlines, hread, hends⟩

end SexpContract
