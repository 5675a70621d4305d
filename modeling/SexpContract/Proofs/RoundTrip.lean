import SexpContract.Node.Render
import SexpContract.Proofs.Reading
import SexpContract.Proofs.Scanning

/-!
# Round Trip

Writing a program and reading it again.  Whatever is read can be written (`isLexical_of_parse`),
and what can be written is read as the canonical expressions of its nodes
(`tokenize_renderProgram`), so the two are inverse up to the limit on the depth.
-/

namespace SexpContract

/-! ## Section 1: Trees that can be written -/

namespace Node

/-- A node whose own symbol is an identifier, or whose own number is a number. -/
def IsWhole : Node → Prop
  | .literal .string _ => True
  | .literal .number value => IsNumber value.toList
  | .symbolic symbol _ => IsIdentifier symbol.toList

/-- A tree with identifiers for symbols and numbers for the values of numbers.  The values of
strings are arbitrary. -/
def IsLexical (node : Node) : Prop :=
  ∀ part ∈ node.walk, part.IsWhole

theorem isLexical_literal_iff {kind : LiteralKind} {value : String} :
    (literal kind value).IsLexical ↔ (literal kind value).IsWhole := by
  simp [IsLexical, walk]

theorem isLexical_symbolic_iff {symbol : String} {args : List Node} :
    (symbolic symbol args).IsLexical ↔
      IsIdentifier symbol.toList ∧ ∀ arg ∈ args, arg.IsLexical := by
  simp only [IsLexical, walk, walkList_eq_flatMap, List.mem_cons, List.mem_flatMap,
    forall_eq_or_imp, IsWhole]
  refine and_congr_right fun _ => ⟨?_, ?_⟩
  · intro h arg harg part hpart
    exact h part ⟨arg, harg, hpart⟩
  · rintro h part ⟨arg, harg, hpart⟩
    exact h arg harg part hpart

end Node

/-! ## Section 2: What is read -/

theorem Token.IsWhole.isLexical_node {token : Token} {expression : Expression}
    (h : token.IsWhole) (hatom : token.atom? = some expression) :
    expression.node.IsLexical := by
  unfold Token.atom? at hatom
  split at hatom <;> cases hatom
  · rename_i hkind
    rw [Expression.node, Node.isLexical_literal_iff]
    trivial
  · rename_i hkind
    rw [Expression.node, Node.isLexical_literal_iff]
    simpa [Token.IsWhole, Node.IsWhole, hkind] using h
  · rename_i hkind
    rw [Expression.node, Node.isLexical_symbolic_iff]
    simpa [Token.IsWhole, hkind] using h

/-- The nodes that whole tokens spell can be written. -/
theorem Spells.isLexical_node {tokens : List Token} {program : List Expression}
    (h : Spells tokens program) (htokens : ∀ token ∈ tokens, token.IsWhole) :
    ∀ expression ∈ program, expression.node.IsLexical := by
  -- On the spelling: each symbol and each number of the program is the text of one of its tokens.
  induction h with
  | nil => simp
  | comma _ _ ih => exact ih fun token hmem => htokens token (List.mem_cons_of_mem _ hmem)
  | atom hatom _ ih =>
      intro expression hexpression
      rcases List.mem_cons.1 hexpression with rfl | hexpression
      · exact (htokens _ List.mem_cons_self).isLexical_node hatom
      · exact ih (fun token hmem => htokens token (List.mem_cons_of_mem _ hmem)) _ hexpression
  | @call _ name _ _ _ _ _ _ hname _ _ _ ihinner ih =>
      intro expression hexpression
      simp only [List.mem_cons, List.mem_append] at htokens
      rcases List.mem_cons.1 hexpression with rfl | hexpression
      · rw [Expression.node, Node.isLexical_symbolic_iff]
        refine ⟨?_, ?_⟩
        · have hwhole := htokens name (by simp)
          simpa [Token.IsWhole, hname] using hwhole
        · intro arg harg
          obtain ⟨inner, hinner, rfl⟩ := Expression.mem_nodes.1 harg
          exact ihinner (fun token hmem => htokens token (by simp [hmem])) inner hinner
      · exact ih (fun token hmem => htokens token (by simp [hmem])) expression hexpression

/-- A node is at most one level deeper than the parentheses it was written with. -/
theorem Expression.depth_node_le (expression : Expression) :
    expression.node.depth ≤ expression.nesting + 1 := by
  induction expression using Expression.inductionOn with
  | hliteral kind value position => exact Nat.le_refl _
  | hname symbol position => exact Nat.le_refl _
  | hcall openAt symbolAt symbol args ih =>
      have hargs : Node.depthList (nodes args) ≤ nestingAll args + 1 := by
        apply Node.depthList_le_iff.2
        intro node hnode
        obtain ⟨arg, harg, rfl⟩ := mem_nodes.1 hnode
        have hnesting := nestingAll_le_iff.1 (Nat.le_refl (nestingAll args)) arg harg
        exact Nat.le_trans (ih arg harg) (Nat.succ_le_succ hnesting)
      rw [node, nesting, Node.depth]
      omega

/-- What is read from a source can be written and is not too deep. -/
theorem isLexical_of_parse {maxDepth : Nat} {source : String} {nodes : List Node}
    (h : parse none maxDepth source = .ok nodes) :
    ∀ node ∈ nodes, node.IsLexical ∧ node.depth ≤ maxDepth + 1 := by
  obtain ⟨tokens, htokens, hparse⟩ := parse_eq_ok_iff.1 h
  obtain ⟨program, hspells, hdepth, rfl⟩ := parseTokens_none_eq_ok_iff.1 hparse
  intro node hnode
  obtain ⟨expression, hexpression, rfl⟩ := Expression.mem_nodes.1 hnode
  refine ⟨?_, ?_⟩
  · apply hspells.isLexical_node _ expression hexpression
    intro token htoken
    exact isWhole_of_tokenize htokens token (List.takeWhile_subset _ htoken)
  · have hnesting := Expression.nestingAll_le_iff.1 hdepth expression hexpression
    exact Nat.le_trans expression.depth_node_le (Nat.succ_le_succ hnesting)

/-! ## Section 3: Canonical expressions -/

namespace Expression

/-- An expression with parentheses only around symbols that have arguments. -/
inductive IsCanonical : Expression → Prop where
  | literal (kind : LiteralKind) (value : String) (position : Nat) :
      IsCanonical (.literal kind value position)
  | name (symbol : String) (position : Nat) :
      IsCanonical (.name symbol position)
  | call {openAt symbolAt : Nat} {symbol : String} {args : List Expression} (hne : args ≠ [])
      (hargs : ∀ arg ∈ args, IsCanonical arg) :
      IsCanonical (.call openAt symbolAt symbol args)

/-- A canonical expression has no more parentheses than its node has levels. -/
theorem IsCanonical.nesting_lt {expression : Expression} (h : expression.IsCanonical) :
    expression.nesting < expression.node.depth := by
  induction h with
  | literal kind value position => exact Nat.zero_lt_one
  | name symbol position => exact Nat.zero_lt_one
  | @call _ _ _ args hne _ ih =>
      obtain ⟨arg, harg⟩ := List.exists_mem_of_ne_nil args hne
      have hdepth : ∀ arg ∈ args, arg.node.depth ≤ Node.depthList (nodes args) := by
        intro arg harg
        exact Node.depthList_le_iff.1 (Nat.le_refl _) _ (mem_nodes.2 ⟨arg, harg, rfl⟩)
      have hnesting : nestingAll args ≤ Node.depthList (nodes args) - 1 := by
        apply nestingAll_le_iff.2
        intro arg harg
        exact Nat.le_sub_one_of_lt (Nat.lt_of_lt_of_le (ih arg harg) (hdepth arg harg))
      -- As there is an argument, the arguments are at least one level deep.
      have hpositive := Nat.lt_of_lt_of_le (ih arg harg) (hdepth arg harg)
      rw [nesting, node, Node.depth]
      omega

/-- For canonical expressions the limit on the parentheses is a limit on the depth. -/
theorem nestingAll_le_iff_depth {program : List Expression}
    (h : ∀ expression ∈ program, expression.IsCanonical) {limit : Nat} :
    nestingAll program ≤ limit ↔ ∀ node ∈ nodes program, node.depth ≤ limit + 1 := by
  rw [nestingAll_le_iff, nodes_eq_map, List.forall_mem_map]
  apply forall₂_congr
  intro expression hexpression
  have hlow := expression.depth_node_le
  have hhigh := (h expression hexpression).nesting_lt
  omega

end Expression

/-! ## Section 4: What was written -/

/-- The front of a text, until another text is left, is read as canonical expressions of nodes. -/
def ReadsAs (position : Nat) (text after : List Char) (nodes : List Node) : Prop :=
  ∃ tokens program stop, Scans position text tokens stop after ∧ Spells tokens program ∧
    Expression.nodes program = nodes ∧ ∀ expression ∈ program, expression.IsCanonical

namespace ReadsAs

theorem nil (position : Nat) (after : List Char) : ReadsAs position after after [] :=
  ⟨[], [], position, .done position after, .nil, rfl, by simp⟩

theorem blank {position : Nat} {c : Char} {text after : List Char} {nodes : List Node}
    (hblank : isBlank c = true) (h : ReadsAs (position + c.utf8Size) text after nodes) :
    ReadsAs position (c :: text) after nodes := by
  obtain ⟨tokens, program, stop, hscans, hspells⟩ := h
  exact ⟨tokens, program, stop, .blank hblank hscans, hspells⟩

theorem trans {position : Nat} {text between after : List Char} {nodes nodes' : List Node}
    (h : ReadsAs position text between nodes)
    (h' : ∀ middle, ReadsAs middle between after nodes') :
    ReadsAs position text after (nodes ++ nodes') := by
  obtain ⟨tokens, program, middle, hscans, hspells, rfl, hcanonical⟩ := h
  obtain ⟨tokens', program', stop, hscans', hspells', rfl, hcanonical'⟩ := h' middle
  refine ⟨_, _, stop, hscans.trans hscans', hspells.append hspells', ?_, ?_⟩
  · simp
  · exact List.forall_mem_append.2 ⟨hcanonical, hcanonical'⟩

theorem atom {position stop : Nat} {text after : List Char} {token : Token}
    {expression : Expression} (hscans : Scans position text [token] stop after)
    (hatom : token.atom? = some expression) (hcanonical : expression.IsCanonical) :
    ReadsAs position text after [expression.node] :=
  ⟨_, _, stop, hscans, .atom hatom .nil, rfl, by simpa using hcanonical⟩

/-- A symbol and its arguments in parentheses, once the arguments are read as they should be. -/
theorem call {position : Nat} {symbol : String} {args : List Node} {text after : List Char}
    (hsymbol : IsIdentifier symbol.toList) (hne : args ≠ []) (hseparated : Separated text)
    (h : ∀ middle, ReadsAs middle text (')' :: after) args) :
    ReadsAs position ('(' :: symbol.toList ++ text) after [.symbolic symbol args] := by
  obtain ⟨tokens, program, stop, hscans, hspells, hnodes, hcanonical⟩ :=
    h (position + 1 + Text.byteLength symbol.toList)
  have hname := Scans.identifier hsymbol hseparated.ends_identifier (position + 1)
  have hall := (Scans.leftParen position _).trans
    (hname.trans (hscans.trans (Scans.rightParen stop after)))
  have hcall : Spells
      (Lexeme.leftParen.toToken position ::
        (Lexeme.identifier symbol.toList).toToken (position + 1) ::
        (tokens ++ [Lexeme.rightParen.toToken stop]))
      [.call position (position + 1) (String.ofList symbol.toList) program] :=
    .call rfl rfl rfl hspells .nil
  refine ⟨_, _, stop + 1, hall, hcall, ?_, ?_⟩
  · rw [Expression.nodes, Expression.nodes, Expression.node, hnodes, String.ofList_toList]
  · rw [List.forall_mem_singleton]
    refine .call ?_ hcanonical
    intro hnil
    subst hnil
    exact hne hnodes.symm

end ReadsAs

/-- In front of a separator, the written node is read as that node. -/
def Node.ReadsBack (node : Node) : Prop :=
  ∀ position after, Separated after → ReadsAs position (node.renderChars ++ after) after [node]

theorem separated_renderArgs (args : List Node) {after : List Char} (hafter : Separated after) :
    Separated (Node.renderArgs args ++ after) := by
  cases args with
  | nil => exact hafter
  | cons arg rest => exact separated_space _

theorem readsAs_renderArgs {args : List Node} (h : ∀ arg ∈ args, arg.ReadsBack) (position : Nat)
    {after : List Char} (hafter : Separated after) :
    ReadsAs position (Node.renderArgs args ++ after) after args := by
  induction args generalizing position with
  | nil => exact .nil position after
  | cons arg rest ih =>
      have harg := h arg List.mem_cons_self (position + ' '.utf8Size) _
        (separated_renderArgs rest hafter)
      have hrest := ih fun arg harg => h arg (List.mem_cons_of_mem _ harg)
      have hall := ReadsAs.blank (by decide) (harg.trans hrest)
      simpa [Node.renderArgs] using hall

theorem readsBack_literal {kind : LiteralKind} {value : String}
    (h : (Node.literal kind value).IsWhole) : (Node.literal kind value).ReadsBack := by
  intro position after hafter
  cases kind with
  | string =>
      apply ReadsAs.atom (Scans.string value.toList after position) _ (.literal .string _ position)
      simp [Token.atom?, Lexeme.toToken, Lexeme.kind, Lexeme.text, Text.Quoted.decode_encode]
  | number =>
      apply ReadsAs.atom (Scans.number h hafter position) _ (.literal .number _ position)
      simp [Token.atom?, Lexeme.toToken, Lexeme.kind, Lexeme.text, Lexeme.source]

theorem readsBack_symbolic {symbol : String} {args : List Node}
    (hsymbol : IsIdentifier symbol.toList) (hargs : ∀ arg ∈ args, arg.ReadsBack) :
    (Node.symbolic symbol args).ReadsBack := by
  intro position after hafter
  by_cases hne : args = []
  · -- Without arguments the symbol stands bare and needs the separator behind it.
    subst hne
    apply ReadsAs.atom (Scans.identifier hsymbol hafter.ends_identifier position) _ (.name _ position)
    simp [Token.atom?, Lexeme.toToken, Lexeme.kind, Lexeme.text, Lexeme.source]
  · -- With arguments the closing parenthesis separates the last of them from what follows.
    have hclose := separated_close after
    have hcall : ReadsAs position
        ('(' :: symbol.toList ++ (Node.renderArgs args ++ ')' :: after)) after
        [.symbolic symbol args] :=
      .call hsymbol hne (separated_renderArgs args hclose) fun middle =>
        readsAs_renderArgs hargs middle hclose
    simpa [Node.renderChars_call symbol hne] using hcall

theorem Node.IsLexical.readsBack {node : Node} (h : node.IsLexical) : node.ReadsBack := by
  -- On the tree, for every text behind it that starts with a separator.
  induction node using Node.inductionOn with
  | hliteral kind value => exact readsBack_literal (isLexical_literal_iff.1 h)
  | hsymbolic symbol args ih =>
      obtain ⟨hsymbol, hargs⟩ := isLexical_symbolic_iff.1 h
      exact readsBack_symbolic hsymbol fun arg harg => ih arg harg (hargs arg harg)

theorem readsAs_renderProgramChars {nodes : List Node} (h : ∀ node ∈ nodes, node.IsLexical)
    (position : Nat) : ReadsAs position (renderProgramChars nodes) [] nodes := by
  -- A line break separates each expression from the next; the last one is followed by nothing.
  induction nodes generalizing position with
  | nil => exact .nil position []
  | cons node rest ih =>
      have hnode := (h node List.mem_cons_self).readsBack position
      have hrest := ih fun node hmem => h node (List.mem_cons_of_mem _ hmem)
      cases rest with
      | nil => simpa [renderProgramChars] using hnode [] separated_nil
      | cons next rest =>
          apply (hnode _ (separated_line _)).trans
          intro middle
          exact .blank (by decide) (hrest _)

/-! ## Section 5: Reading what was written -/

/-- A written program is read as the canonical expressions of its nodes. -/
theorem tokenize_renderProgram {nodes : List Node} (h : ∀ node ∈ nodes, node.IsLexical) :
    ∃ tokens program, tokenize (renderProgram nodes) = .ok tokens ∧
      Spells (beforeEnd tokens) program ∧ Expression.nodes program = nodes ∧
      ∀ expression ∈ program, expression.IsCanonical := by
  obtain ⟨tokens, program, stop, hscans, hspells, hnodes, hcanonical⟩ :=
    readsAs_renderProgramChars h 0
  refine ⟨tokens ++ [.endMark stop], program, ?_, ?_, hnodes, hcanonical⟩
  · refine tokenize_eq_ok_iff.2 ⟨tokens, stop, ?_, rfl⟩
    rw [renderProgram, String.toList_ofList]
    exact hscans
  · rw [hspells.beforeEnd_append, beforeEnd_end [] rfl, List.append_nil]
    exact hspells

theorem parse_renderProgram_of_lexical {nodes : List Node} {maxDepth : Nat}
    (h : ∀ node ∈ nodes, node.IsLexical ∧ node.depth ≤ maxDepth + 1) :
    parse none maxDepth (renderProgram nodes) = .ok nodes := by
  obtain ⟨tokens, program, htokens, hspells, hnodes, hcanonical⟩ :=
    tokenize_renderProgram fun node hnode => (h node hnode).1
  refine parse_eq_ok_iff.2 ⟨tokens, htokens, ?_⟩
  refine parseTokens_none_eq_ok_iff.2 ⟨program, hspells, ?_, hnodes.symm⟩
  rw [Expression.nestingAll_le_iff_depth hcanonical, hnodes]
  exact fun node hnode => (h node hnode).2

theorem parse_renderProgram_of_tooDeep {nodes : List Node} {maxDepth : Nat}
    (h : ∀ node ∈ nodes, node.IsLexical) {node : Node} (hmem : node ∈ nodes)
    (hdeep : maxDepth + 1 < node.depth) (grammar? : Option Grammar) :
    ∃ position, parse grammar? maxDepth (renderProgram nodes) =
      .error (.structural (.maxDepthExceeded maxDepth) position) := by
  obtain ⟨tokens, program, htokens, hspells, hnodes, hcanonical⟩ := tokenize_renderProgram h
  obtain ⟨rest, _, hrest⟩ := beforeEnd_append_rest tokens
  have hnesting : maxDepth < Expression.nestingAll program := by
    apply Nat.lt_of_not_le
    intro hle
    rw [Expression.nestingAll_le_iff_depth hcanonical, hnodes] at hle
    exact absurd (hle node hmem) (Nat.not_le.2 hdeep)
  -- The parentheses that are too deep stand before the end mark, where the reading stops.
  rw [parse, htokens, ← hrest]
  exact parseFrom_tooDeep hspells grammar? .start rest (Nat.zero_le _)
    (by simpa [State.start] using hnesting)

/-- A program is read back from its written form exactly when it can be written and is not too
deep; a program that is only too deep is refused for that.  Whatever is read from any source is of
this kind, so writing and reading it again changes neither the program nor its written form. -/
theorem parse_renderProgram (nodes : List Node) (maxDepth : Nat) :
    (parse none maxDepth (renderProgram nodes) = .ok nodes ↔
      ∀ node ∈ nodes, node.IsLexical ∧ node.depth ≤ maxDepth + 1) ∧
    ((∀ node ∈ nodes, node.IsLexical) → (∃ node ∈ nodes, maxDepth + 1 < node.depth) →
      ∃ position, parse none maxDepth (renderProgram nodes) =
        .error (.structural (.maxDepthExceeded maxDepth) position)) ∧
    (∀ source, parse none maxDepth source = .ok nodes →
      (∀ node ∈ nodes, node.IsLexical ∧ node.depth ≤ maxDepth + 1) ∧
        parse none maxDepth (renderProgram nodes) = .ok nodes ∧
        (parse none maxDepth (renderProgram nodes)).map renderProgram =
          .ok (renderProgram nodes)) := by
  refine ⟨⟨isLexical_of_parse, parse_renderProgram_of_lexical⟩, ?_, ?_⟩
  · rintro hlexical ⟨node, hmem, hdeep⟩
    exact parse_renderProgram_of_tooDeep hlexical hmem hdeep none
  · intro source h
    have hnodes := isLexical_of_parse h
    have hagain := parse_renderProgram_of_lexical hnodes
    refine ⟨hnodes, hagain, ?_⟩
    rw [hagain]
    rfl

/-- Two expressions, the second of them in parentheses that its written form does without. -/
theorem parse_renderProgram_nested :
    parse none 1 "(F 'it\\'s\\n', -3.5)(G)" =
        .ok [.symbolic "F" [.literal .string "it's\n", .literal .number "-3.5"], .ident "G"] ∧
      parse none 1 (renderProgram
          [.symbolic "F" [.literal .string "it's\n", .literal .number "-3.5"], .ident "G"]) =
        .ok [.symbolic "F" [.literal .string "it's\n", .literal .number "-3.5"], .ident "G"] ∧
      ∃ position, parse none 0 (renderProgram
          [.symbolic "F" [.literal .string "it's\n", .literal .number "-3.5"], .ident "G"]) =
        .error (.structural (.maxDepthExceeded 0) position) := by
  have hparse : parse none 1 "(F 'it\\'s\\n', -3.5)(G)" =
      .ok [.symbolic "F" [.literal .string "it's\n", .literal .number "-3.5"], .ident "G"] :=
    parse_eq_ok_of_toOption (by decide +kernel)
  obtain ⟨hnodes, hagain, -⟩ := (parse_renderProgram _ 1).2.2 _ hparse
  have hlexical := fun node hnode => (hnodes node hnode).1
  exact ⟨hparse, hagain, (parse_renderProgram _ 0).2.1 hlexical
    ⟨_, List.mem_cons_self, by decide⟩⟩

end SexpContract
