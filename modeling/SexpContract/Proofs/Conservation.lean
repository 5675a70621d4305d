import Mathlib.Algebra.GroupWithZero.Nat
import Mathlib.Data.List.Basic
import SexpContract.Proofs.Acceptance

/-!
# Tokens and Nodes

Which tokens stand for nodes, and which nodes they stand for.  A parenthesis or a comma stands for
none; every other token of a program stands for one node, of which it says the kind and the text.
The walk through a program meets these nodes in the order of their tokens
(`Spells.contents_eq`), so parsing loses, duplicates and reorders nothing
(`walk_of_parseTokens`).
-/

namespace SexpContract

/-! ## Section 1: Contents -/

/-- Whether a token only groups or separates what is around it. -/
def Token.isPunctuation (token : Token) : Bool :=
  token.kind = .leftParen || token.kind = .rightParen || token.kind = .comma

/-- What a token says of the node that it stands for. -/
def Token.content (token : Token) : TokenKind × String :=
  (token.kind, token.text)

/-- What some tokens say, those aside that only group and separate. -/
def contents (tokens : List Token) : List (TokenKind × String) :=
  (tokens.filter fun token => !token.isPunctuation).map Token.content

/-- What the token of a node says. -/
def Node.content : Node → TokenKind × String
  | .literal .string value => (.string, value)
  | .literal .number value => (.number, value)
  | .symbolic symbol _ => (.identifier, symbol)

@[simp]
theorem contents_append (first second : List Token) :
    contents (first ++ second) = contents first ++ contents second := by
  simp [contents]

theorem contents_cons_punctuation {token : Token} (h : token.isPunctuation = true)
    (tokens : List Token) : contents (token :: tokens) = contents tokens := by
  simp [contents, h]

theorem contents_cons {token : Token} (h : token.isPunctuation = false) (tokens : List Token) :
    contents (token :: tokens) = token.content :: contents tokens := by
  simp [contents, h]

/-! ## Section 2: Spelled programs -/

/-- A token that makes an expression on its own says what its node is. -/
theorem Token.content_of_atom? {token : Token} {expression : Expression}
    (h : token.atom? = some expression) :
    token.isPunctuation = false ∧ expression.node.walk.map Node.content = [token.content] := by
  unfold Token.atom? at h
  split at h
  case h_4 => cases h
  all_goals
    rename_i hkind
    cases h
    simp [isPunctuation, content, hkind, Expression.node, Node.walk, Node.content]

/-- A spelled program is walked through in the order of its tokens. -/
theorem Spells.contents_eq {tokens : List Token} {program : List Expression}
    (h : Spells tokens program) :
    ((Expression.nodes program).flatMap Node.walk).map Node.content = contents tokens := by
  -- On the spelling: the node of a call comes before those of its arguments, as its symbol does.
  induction h with
  | nil => rfl
  | @comma token tokens _ hkind _ ih =>
      rw [contents_cons_punctuation (by simp [Token.isPunctuation, hkind]), ih]
  | @atom token tokens _ _ hatom _ ih =>
      obtain ⟨hcontent, hwalk⟩ := Token.content_of_atom? hatom
      rw [Expression.nodes, List.flatMap_cons, List.map_append, hwalk, ih, contents_cons hcontent]
      rfl
  | @call opening name closing inner tokens args program hopening hname hclosing _ _ ihinner ih =>
      have hsymbol : name.content = (.identifier, name.text) := by rw [Token.content, hname]
      rw [contents_cons_punctuation (by simp [Token.isPunctuation, hopening]),
        contents_cons (by simp [Token.isPunctuation, hname]), contents_append,
        contents_cons_punctuation (by simp [Token.isPunctuation, hclosing]), ← ihinner, ← ih,
        hsymbol, Expression.nodes, Expression.node, List.flatMap_cons, Node.walk,
        Node.walkList_eq_flatMap, List.map_append, List.map_cons]
      rfl

/-! ## Section 3: Nodes with a symbol -/

theorem Node.content_eq_identifier_iff {node : Node} {symbol : String} :
    node.content = (.identifier, symbol) ↔ node.symbol? = some symbol := by
  cases node with
  | literal kind value => cases kind <;> simp [content, symbol?]
  | symbolic name args => simp [content, symbol?]

/-- The nodes of a tree with a given symbol are those whose tokens are that identifier. -/
theorem Node.length_findAll (node : Node) (symbol : String) :
    (node.findAll symbol).length = (node.walk.map Node.content).count (.identifier, symbol) := by
  rw [findAll, ← List.countP_eq_length_filter, List.count, List.countP_map]
  apply List.countP_congr
  intro part _
  simp [content_eq_identifier_iff]

theorem count_contents (tokens : List Token) (symbol : String) :
    (contents tokens).count (.identifier, symbol) =
      tokens.countP fun token => token.kind = .identifier ∧ token.text = symbol := by
  rw [contents, List.count, List.countP_map, List.countP_filter]
  apply List.countP_congr
  intro token _
  simp only [Function.comp_apply, Token.content, Token.isPunctuation, beq_iff_eq, Prod.mk.injEq,
    Bool.and_eq_true, decide_eq_true_eq]
  refine ⟨And.left, fun h => ⟨h, ?_⟩⟩
  simp [h.1]

/-! ## Section 4: Parsed programs -/

/-- Parsing loses, duplicates and reorders nothing: walked through in order, the nodes of a program
are what its tokens say.  So there is one node for each token that says something, and for each
occurrence of an identifier one node with that symbol. -/
theorem walk_of_parseTokens {grammar? : Option Grammar} {maxDepth : Nat} {tokens : List Token}
    {nodes : List Node} (h : parseTokens grammar? maxDepth tokens = .ok nodes) :
    (nodes.flatMap Node.walk).map Node.content = contents (beforeEnd tokens) ∧
    (nodes.map Node.count).sum =
      (beforeEnd tokens).countP (fun token => !token.isPunctuation) ∧
    ∀ symbol, (nodes.map fun node => (node.findAll symbol).length).sum =
      (beforeEnd tokens).countP fun token => token.kind = .identifier ∧ token.text = symbol := by
  obtain ⟨program, hspells, -, rfl⟩ := exists_spells_of_parseTokens h
  have hwalk := hspells.contents_eq
  refine ⟨hwalk, ?_, ?_⟩
  · have hlength := congrArg List.length hwalk
    rw [List.length_map, List.length_flatMap, contents, List.length_map,
      ← List.countP_eq_length_filter] at hlength
    simpa only [Node.length_walk] using hlength
  · intro symbol
    rw [← count_contents, ← hwalk, List.map_flatMap, List.count_flatMap]
    simp only [Function.comp_def, Node.length_findAll]

/-- A query with commas, with tokens behind the end mark, and with a symbol that occurs twice. -/
theorem walk_of_parseTokens_query :
    let tokens : List Token :=
      [⟨.leftParen, "(", 0, 1⟩, ⟨.identifier, "Q", 1, 2⟩, ⟨.leftParen, "(", 3, 4⟩,
        ⟨.identifier, "F", 4, 5⟩, ⟨.identifier, "s", 6, 7⟩, ⟨.comma, ",", 7, 8⟩,
        ⟨.identifier, "s", 9, 10⟩, ⟨.rightParen, ")", 10, 11⟩, ⟨.rightParen, ")", 11, 12⟩,
        ⟨.comma, ",", 12, 13⟩, ⟨.number, "1", 13, 14⟩, ⟨.endOfInput, "", 14, 14⟩,
        ⟨.identifier, "s", 14, 15⟩]
    let nodes : List Node :=
      [.symbolic "Q" [.symbolic "F" [.ident "s", .ident "s"]], .literal .number "1"]
    ∃ grammar, querySchema.compile = .ok grammar ∧
      parseTokens (some grammar) 2 tokens = .ok nodes ∧
      (nodes.flatMap Node.walk).map Node.content =
        [(.identifier, "Q"), (.identifier, "F"), (.identifier, "s"), (.identifier, "s"),
          (.number, "1")] ∧
      (nodes.map Node.count).sum = 5 ∧
      (nodes.map fun node => (node.findAll "s").length).sum = 2 := by
  intro tokens nodes
  have h : querySchema.compile.toOption.any (fun grammar =>
      parseTokens (some grammar) 2 tokens = .ok nodes) = true := by
    decide +kernel
  obtain ⟨grammar, hcompile, hresult⟩ := Schema.exists_compile_of_any h
  have hparse := of_decide_eq_true hresult
  obtain ⟨hwalk, hcount, hsymbol⟩ := walk_of_parseTokens hparse
  exact ⟨grammar, hcompile, hparse, hwalk, hcount, hsymbol "s"⟩

end SexpContract
