import Mathlib.Data.List.Basic
import SexpContract.Proofs.Invoked
import SexpContract.Proofs.LexicalFaults
import SexpContract.Proofs.Nesting
import SexpContract.Proofs.Positional
import SexpContract.Proofs.Sources

/-!
# Where Faults Lie

An error that names an offset names the place of what is wrong: a character of the source, a
parenthesis, or the expression that breaks a contract.  The offsets of a program are those of the
tokens that it is spelled with (`Spells.exists_forms`), each check reports one of them
(`Grammar.exists_blamed`), and a token stands at its offset (`Forms.stands`).  Together this says
what stands at the offset of an error (`parse_error_marks`).
-/

namespace SexpContract

open Text

/-! ## Section 1: The tokens of one expression -/

/-- Some tokens are one expression, without commas around it. -/
inductive Forms : List Token → Expression → Prop where
  | atom {token : Token} {expression : Expression} (hatom : token.atom? = some expression) :
      Forms [token] expression
  | call {opening name closing : Token} {inner : List Token} {args : List Expression}
      (hopening : opening.kind = .leftParen) (hname : name.kind = .identifier)
      (hclosing : closing.kind = .rightParen) :
      Spells inner args →
      Forms (opening :: name :: (inner ++ [closing]))
        (.call opening.start name.start name.text args)

/-- A token on its own is an expression without other parts. -/
theorem Token.parts_of_atom? {token : Token} {expression : Expression}
    (h : token.atom? = some expression) : expression.parts = [expression] := by
  unfold Token.atom? at h
  split at h
  case h_4 => cases h
  all_goals
    cases h
    rfl

/-- Every part of a program is a stretch of its tokens. -/
theorem Spells.exists_forms {tokens : List Token} {program : List Expression}
    (h : Spells tokens program) {part : Expression} (hpart : part ∈ Expression.partsAll program) :
    ∃ front inner back, tokens = front ++ (inner ++ back) ∧ Forms inner part := by
  induction h with
  | nil => cases hpart
  | @comma token _ _ _ _ ih =>
      obtain ⟨front, inner, back, rfl, hforms⟩ := ih hpart
      exact ⟨token :: front, inner, back, rfl, hforms⟩
  | @atom token tokens expression _ hatom _ ih =>
      rw [Expression.partsAll, List.mem_append] at hpart
      rcases hpart with hself | hrest
      · rw [Token.parts_of_atom? hatom, List.mem_singleton] at hself
        subst hself
        exact ⟨[], [token], tokens, rfl, .atom hatom⟩
      · obtain ⟨front, inner, back, rfl, hforms⟩ := ih hrest
        exact ⟨token :: front, inner, back, rfl, hforms⟩
  | @call opening name closing inside tokens _ _ hopening hname hclosing hinside _ ihinside ih =>
      rw [Expression.partsAll, Expression.parts, List.cons_append, List.mem_cons,
        List.mem_append] at hpart
      rcases hpart with rfl | hinner | hrest
      · exact ⟨[], opening :: name :: (inside ++ [closing]), tokens, by simp,
          .call hopening hname hclosing hinside⟩
      · obtain ⟨front, inner, back, rfl, hforms⟩ := ihinside hinner
        exact ⟨opening :: name :: front, inner, back ++ closing :: tokens, by simp, hforms⟩
      · obtain ⟨front, inner, back, rfl, hforms⟩ := ih hrest
        exact ⟨opening :: name :: (inside ++ closing :: front), inner, back, by simp, hforms⟩

/-- The symbol of an expression is one of its tokens. -/
theorem Forms.exists_symbol {tokens : List Token} {expression : Expression}
    (h : Forms tokens expression) {symbol : String} (hsymbol : expression.symbol? = some symbol) :
    ∃ front token back, tokens = front ++ token :: back ∧
      token.atom? = some (.name symbol expression.site.symbolAt) := by
  cases h with
  | @atom token expression hatom =>
      cases expression with
      | literal => cases hsymbol
      | call =>
          unfold Token.atom? at hatom
          split at hatom <;> cases hatom
      | name =>
          cases hsymbol
          exact ⟨[], token, [], rfl, hatom⟩
  | @call opening name closing inner args hopening hname hclosing hinner =>
      cases hsymbol
      refine ⟨[opening], name, inner ++ [closing], rfl, ?_⟩
      rw [Token.atom?, hname]
      rfl

/-! ## Section 2: Expressions in a source -/

/-- What a text starts with where an expression stands: a parenthesis, all of a symbol, the quote of
a string, or all of a number. -/
def Expression.Starts (text : List Char) : Expression → Prop
  | .call _ _ _ _ => text.head? = some '('
  | .name symbol _ =>
      ∃ rest, text = symbol.toList ++ rest ∧ IsIdentifier symbol.toList ∧
        ∀ c ∈ rest.head?, isIdentifierChar c = false
  | .literal .string _ _ => text.head? = some '\''
  | .literal .number digits _ => digits.toList <+: text

/-- An expression stands in a source at its offset, behind some characters.  Its tokens are a stretch
of those of the source. -/
structure Expression.Stands (source : String) (before text : List Char)
    (expression : Expression) : Prop where
  source_eq : source.toList = before ++ text
  position_eq : expression.position = byteLength before
  starts : expression.Starts text
  forms : ∃ front inner back, tokenize source = .ok (front ++ (inner ++ back)) ∧
    Forms inner expression

/-- A token of a source is the lexeme at its offset. -/
theorem Lexeme.starts_of_atom? {lexeme : Lexeme} {position : Nat} {after : List Char}
    (hlongest : LongestLexeme lexeme.kind lexeme.source lexeme.text after)
    {expression : Expression} (hatom : (lexeme.toToken position).atom? = some expression) :
    expression.position = position ∧ expression.Starts (lexeme.source ++ after) := by
  cases lexeme with
  | leftParen => cases hatom
  | rightParen => cases hatom
  | comma => cases hatom
  | identifier name =>
      cases hatom
      obtain ⟨hname, _, hends⟩ := hlongest.ends_identifier
      have htoken : (String.ofList (Lexeme.identifier name).text).toList = name := by
        simp [Lexeme.text, Lexeme.source]
      refine ⟨rfl, after, ?_, ?_, hends⟩
      · rw [Lexeme.toToken, htoken, Lexeme.source]
      · rw [Lexeme.toToken, htoken]
        exact hname
  | number digits =>
      cases hatom
      refine ⟨rfl, after, ?_⟩
      simp [Lexeme.toToken, Lexeme.text, Lexeme.source]
  | string body =>
      cases hatom
      exact ⟨rfl, rfl⟩

/-- Some tokens of a source that are one expression stand at its offset. -/
theorem Forms.stands {source : String} {body front inner back : List Token} {finish : Nat}
    {expression : Expression} (h : Forms inner expression)
    (hscans : Scans 0 source.toList body finish []) (hbody : body = front ++ (inner ++ back)) :
    ∃ before c after, expression.Stands source before (c :: after) := by
  have hforms : ∃ front inner back, tokenize source = .ok (front ++ (inner ++ back)) ∧
      Forms inner expression := by
    refine ⟨front, inner, back ++ [.endMark finish], ?_, h⟩
    rw [tokenize_eq_ok_iff]
    exact ⟨body, finish, hscans, by simp [hbody]⟩
  subst hbody
  cases h with
  | @atom token _ hatom =>
      obtain ⟨before, lexeme, after, hsource, _, rfl, hlongest, _⟩ := hscans.exists_lexeme
      rw [Nat.zero_add] at hatom
      obtain ⟨hposition, hstarts⟩ := Lexeme.starts_of_atom? hlongest hatom
      obtain ⟨c, rest, hcons, _⟩ := hlongest.isLexeme.exists_cons
      rw [hcons, List.cons_append] at hsource hstarts
      exact ⟨before, c, rest ++ after, hsource, hposition, hstarts, hforms⟩
  | @call opening name closing _ _ hopening =>
      obtain ⟨before, lexeme, after, hsource, _, rfl, _⟩ := hscans.exists_lexeme
      have hparen : lexeme = .leftParen := by
        cases lexeme <;> first | rfl | cases hopening
      subst hparen
      exact ⟨before, '(', after, hsource, by simp [Expression.position, Lexeme.toToken], rfl,
        hforms⟩

/-! ## Section 3: The expression to blame -/

/-- An argument is the first of an invocation to be faulted by the parameter that it belongs to. -/
def Grammar.Offends (grammar : Grammar) (invocation target : Expression)
    (fault : ContractFault) : Prop :=
  ∃ symbol contract index, invocation.symbol? = some symbol ∧
    grammar.symbol? symbol = some contract ∧ invocation.args[index]? = some target ∧
    grammar.faultAt? symbol contract.parameters index target.node = some fault ∧
    grammar.Fits symbol contract.parameters (Expression.nodes (invocation.args.take index))

/-- The expression that is to blame for a fault of an invocation: the symbol if it is unknown, all of
the invocation if an argument is missing, and otherwise one of the arguments. -/
def ContractFault.Blames (grammar : Grammar) (invocation target : Expression) :
    ContractFault → Prop
  | .unknownSymbol symbol _ =>
      invocation.symbol? = some symbol ∧ target = .name symbol invocation.site.symbolAt
  | .missingParameter symbol _ => invocation.symbol? = some symbol ∧ target = invocation
  | .missingRepeatedParameter symbol _ => invocation.symbol? = some symbol ∧ target = invocation
  | .tooManyArguments symbol expected _ =>
      invocation.symbol? = some symbol ∧ invocation.args[expected]? = some target
  | fault => grammar.Offends invocation target fault

theorem Expression.position_eq_openAt {invocation : Expression} :
    invocation.position = invocation.site.openAt := by
  cases invocation <;> rfl

theorem Expression.position_eq_argAt {invocation arg : Expression} {index : Nat}
    (h : invocation.args[index]? = some arg) : arg.position = invocation.site.argAt index := by
  cases invocation with
  | literal => cases h
  | name => cases h
  | call =>
      rw [Expression.args] at h
      simp [Expression.site, Site.argAt, h]

namespace Grammar

variable {schema : Schema} {grammar : Grammar} {invocation : Expression}

/-- The fault of an argument is of a kind of its own. -/
theorem Offends.blames {target : Expression} {fault : ContractFault}
    (h : grammar.Offends invocation target fault) : fault.Blames grammar invocation target := by
  have hoffends := h
  obtain ⟨_, _, _, _, _, _, hfault, _⟩ := hoffends
  obtain ⟨parameter, _, hfault⟩ := Option.bind_eq_some_iff.1 hfault
  have hkind := isOfArgument_of_argumentFault? hfault
  cases fault with
  | unknownSymbol => exact hkind.elim
  | missingParameter => exact hkind.elim
  | missingRepeatedParameter => exact hkind.elim
  | tooManyArguments => exact hkind.elim
  | _ => exact h

/-- A broken contract is reported at the offset of the expression to blame. -/
theorem exists_blamed (hcompile : schema.compile = .ok grammar) {fault : ContractFault}
    {position : Nat} (h : grammar.Rejects invocation (.contract fault position)) :
    ∃ target, fault.Blames grammar invocation target ∧ target.position = position ∧
      ((∃ symbol, invocation.symbol? = some symbol ∧
        target = .name symbol invocation.site.symbolAt) ∨
        target = invocation ∨ target ∈ invocation.args) := by
  obtain ⟨symbol, hsymbol, h⟩ := h
  -- An unknown symbol comes first, then a faulty argument, a missing one and one too many.
  cases hcontract : grammar.symbol? symbol with
  | none =>
      simp only [checkInvocation, hcontract] at h
      cases h
      exact ⟨_, ⟨hsymbol, rfl⟩, rfl, .inl ⟨symbol, hsymbol, rfl⟩⟩
  | some contract =>
      rw [checkInvocation_eq hcontract (variadicLast_of_compile hcompile hcontract)] at h
      split at h
      · rename_i index fault' hfirst
        cases h
        obtain ⟨node, hnode, hfault, hfits⟩ := exists_of_firstFault? hfirst
        rw [Expression.nodes_eq_map, List.getElem?_map] at hnode
        obtain ⟨arg, harg, rfl⟩ := Option.map_eq_some_iff.1 hnode
        have hoffends : grammar.Offends invocation arg fault := by
          refine ⟨symbol, contract, index, hsymbol, hcontract, harg, hfault, ?_⟩
          rw [Expression.nodes_eq_map, List.map_take, ← Expression.nodes_eq_map]
          exact hfits
        exact ⟨arg, hoffends.blames, Expression.position_eq_argAt harg,
          .inr (.inr (List.mem_of_getElem? harg))⟩
      split at h
      · cases h
        refine ⟨invocation, ?_, Expression.position_eq_openAt, .inr (.inl rfl)⟩
        unfold missingFault
        split <;> exact ⟨hsymbol, rfl⟩
      split at h
      · rename_i htoomany
        cases h
        have hlt : contract.parameters.length < invocation.args.length := by
          simpa using htoomany.1
        have harg : invocation.args[contract.parameters.length]? =
            some invocation.args[contract.parameters.length] :=
          List.getElem?_eq_getElem hlt
        exact ⟨_, ⟨hsymbol, harg⟩, Expression.position_eq_argAt harg,
          .inr (.inr (List.mem_of_getElem? harg))⟩
      · cases h

end Grammar

/-! ## Section 4: Wrong characters and parentheses -/

/-- The parenthesis that a fault of the nesting lies at. -/
def StructuralFault.parenthesis : StructuralFault → Lexeme
  | .unexpectedCloseParen => .rightParen
  | _ => .leftParen

theorem kind_of_nestingFault? {maxDepth : Nat} {stack : List Nat} {token : Token}
    {next? : Option Token} {fault : StructuralFault}
    (h : nestingFault? maxDepth stack token next? = some fault) :
    token.kind = fault.parenthesis.kind := by
  unfold nestingFault? at h
  split at h
  · rename_i hkind
    split at h
    · cases h
      exact hkind
    · cases h
  · rename_i hkind
    split at h
    · cases h
      exact hkind
    · obtain ⟨next, _, hopening⟩ := Option.bind_eq_some_iff.1 h
      unfold openingFault? at hopening
      split at hopening <;> cases hopening <;> exact hkind
  · cases h

/-- A fault of the nesting lies at a parenthesis that is still open, or at one of the tokens. -/
theorem nestingScan_error {maxDepth : Nat} {stack : List Nat} {tokens : List Token} {error : Error}
    (h : nestingScan maxDepth stack tokens = .error error) :
    ∃ fault position, error = .structural fault position ∧
      ((fault.parenthesis = .leftParen ∧ position ∈ stack) ∨
        ∃ token ∈ tokens, token.start = position ∧ token.kind = fault.parenthesis.kind) := by
  -- On the tokens: a parenthesis that is still open behind a token was open before it, or is it.
  induction tokens generalizing stack with
  | nil =>
      cases stack with
      | nil => cases h
      | cons innermost stack =>
          cases h
          exact ⟨_, innermost, rfl, .inl ⟨rfl, List.mem_cons_self⟩⟩
  | cons token rest ih =>
      rw [nestingScan] at h
      split at h
      · rename_i fault hfault
        cases h
        exact ⟨fault, _, rfl, .inr ⟨token, List.mem_cons_self, rfl, kind_of_nestingFault? hfault⟩⟩
      · obtain ⟨fault, position, rfl, hplace⟩ := ih h
        refine ⟨fault, position, rfl, ?_⟩
        rcases hplace with ⟨hopening, hopen⟩ | ⟨other, hother, hstart, hkind⟩
        · unfold openAfter at hopen
          split at hopen
          · rename_i hkind
            rcases List.mem_cons.1 hopen with rfl | hopen
            · exact .inr ⟨token, List.mem_cons_self, rfl, by rw [hkind, hopening]; rfl⟩
            · exact .inl ⟨hopening, hopen⟩
          · exact .inl ⟨hopening, List.mem_of_mem_tail hopen⟩
          · exact .inl ⟨hopening, hopen⟩
        · exact .inr ⟨other, List.mem_cons_of_mem _ hother, hstart, hkind⟩

/-- A parenthesis stands at the offset of its token. -/
theorem Scans.exists_parenthesis {source : String} {body : List Token} {finish : Nat}
    (h : Scans 0 source.toList body finish []) {token : Token} (htoken : token ∈ body)
    {fault : StructuralFault} (hkind : token.kind = fault.parenthesis.kind) :
    ∃ before after, source.toList = before ++ (fault.parenthesis.source ++ after) ∧
      token.start = byteLength before := by
  obtain ⟨front, back, rfl⟩ := List.append_of_mem htoken
  obtain ⟨before, lexeme, after, hsource, _, rfl, _⟩ := h.exists_lexeme
  have hlexeme : lexeme = fault.parenthesis := by
    cases fault <;> cases lexeme <;> first | rfl | cases hkind
  subst hlexeme
  exact ⟨before, after, hsource, by simp [Lexeme.toToken]⟩

/-! ## Section 5: Errors -/

/-- What stands at the offset of an error: in a source, between the characters before and behind. -/
def Error.Marks (grammar? : Option Grammar) (maxDepth : Nat) (source : String)
    (before : List Char) (c : Char) (after : List Char) : Error → Prop
  | .lexical .unterminatedString _ => c = '\''
  | .lexical (.unexpectedCharacter character) _ => c = character
  | .structural .unexpectedCloseParen _ => c = ')'
  | .structural _ _ => c = '('
  | .contract fault position =>
      ∃ grammar ∈ grammar?, ∃ program invocation target, readSource maxDepth source = .ok program ∧
        Expression.Invoked program invocation ∧
        grammar.Rejects invocation (.contract fault position) ∧
        fault.Blames grammar invocation target ∧ target.Stands source before (c :: after)
  | .missingRoot _ _ => False
  | .grammar _ => False

variable {grammar? : Option Grammar} {maxDepth : Nat} {source : String} {error : Error}

theorem marks_of_tokenize (h : tokenize source = .error error) :
    ∃ before c after, source.toList = before ++ c :: after ∧
      error.position? = some (byteLength before) ∧
      error.Marks grammar? maxDepth source before c after := by
  obtain ⟨fault, before, c, after, tokens, rfl, hsource, hfits, _⟩ := tokenize_eq_error_iff.1 h
  refine ⟨before, c, after, hsource, rfl, ?_⟩
  cases fault with
  | unterminatedString => exact hfits.1
  | unexpectedCharacter character => exact hfits.1.symm

theorem marks_of_readSource (h : readSource maxDepth source = .error error) :
    ∃ before c after, source.toList = before ++ c :: after ∧
      error.position? = some (byteLength before) ∧
      error.Marks grammar? maxDepth source before c after := by
  rw [readSource] at h
  cases htokens : tokenize source with
  | error error' =>
      rw [htokens] at h
      cases h
      exact marks_of_tokenize htokens
  | ok tokens =>
      obtain ⟨body, finish, hscans, rfl⟩ := tokenize_eq_ok_iff.1 htokens
      rw [htokens, Except.bind, readProgram_error_iff, hscans.beforeEnd_eq] at h
      obtain ⟨fault, position, rfl, hplace⟩ := nestingScan_error h
      -- At the end of a source no parenthesis is open that is not one of its tokens.
      obtain ⟨token, htoken, rfl, hkind⟩ := hplace.resolve_left (by simp)
      obtain ⟨before, after, hsource, hstart⟩ := hscans.exists_parenthesis htoken hkind
      cases fault <;> exact ⟨before, _, after, hsource, congrArg some hstart, rfl⟩

/-- A contract is broken by an expression of the source, which stands there. -/
theorem marks_of_validate {schema : Schema} {grammar : Grammar}
    (hcompile : schema.compile = .ok grammar) {program : List Expression}
    (hread : readSource maxDepth source = .ok program) {fault : ContractFault} {position : Nat}
    (h : grammar.validate program = .error (.contract fault position)) :
    ∃ before c after, source.toList = before ++ c :: after ∧ position = byteLength before ∧
      (Error.contract fault position).Marks (some grammar) maxDepth source before c after := by
  obtain ⟨invocation, hinvoked, hrejects⟩ := Grammar.breaks_of_validate h
  obtain ⟨target, hblames, rfl, htarget⟩ := Grammar.exists_blamed hcompile hrejects
  obtain ⟨body, finish, hscans, hspells, _⟩ := readSource_eq_ok_iff.1 hread
  obtain ⟨front, inner, back, hbody, hforms⟩ := hspells.exists_forms hinvoked.mem_partsAll
  -- The symbol is a token of the invocation, and an argument is a part of the program itself.
  have hstands : ∃ before c after, target.Stands source before (c :: after) := by
    rcases htarget with ⟨symbol, hsymbol, rfl⟩ | rfl | harg
    · obtain ⟨front', token, back', rfl, hatom⟩ := hforms.exists_symbol hsymbol
      have hsplit : body = (front ++ front') ++ ([token] ++ (back' ++ back)) := by
        simp [hbody]
      exact (Forms.atom hatom).stands hscans hsplit
    · exact hforms.stands hscans hbody
    · have hpart := Expression.args_subset_partsAll hinvoked.mem_partsAll harg
      obtain ⟨front, inner, back, hbody, hforms⟩ := hspells.exists_forms hpart
      exact hforms.stands hscans hbody
  obtain ⟨before, c, after, hstands⟩ := hstands
  exact ⟨before, c, after, hstands.source_eq, hstands.position_eq, grammar, rfl, program,
    invocation, target, hread, hinvoked, hrejects, hblames, hstands⟩

/-- The offset of an error is that of a character of the source, and what is wrong stands there: the
quote of a string without end, the unexpected character, a parenthesis, or the expression to blame
for a broken contract. -/
theorem parse_error_marks
    (hcompiled : ∀ grammar ∈ grammar?, ∃ schema : Schema, schema.compile = .ok grammar)
    (h : parse grammar? maxDepth source = .error error) {position : Nat}
    (hposition : error.position? = some position) :
    ∃ before c after, source.toList = before ++ c :: after ∧ position = byteLength before ∧
      error.Marks grammar? maxDepth source before c after := by
  rw [parse_eq_validateWith] at h
  cases hread : readSource maxDepth source with
  | error error' =>
      rw [hread] at h
      cases h
      obtain ⟨before, c, after, hsource, hplace, hmarks⟩ := marks_of_readSource hread
      exact ⟨before, c, after, hsource, Option.some.inj (hposition.symm.trans hplace), hmarks⟩
  | ok program =>
      rw [hread] at h
      cases grammar? with
      | none => cases h
      | some grammar =>
          obtain ⟨schema, hcompile⟩ := hcompiled grammar rfl
          have hvalidate : validateWith (some grammar) program = .error error := h
          have hcategory := category_of_validateWith hvalidate
          cases error with
          | contract fault position' =>
              cases hposition
              exact marks_of_validate hcompile hread hvalidate
          | missingRoot => cases hposition
          | _ => cases hcategory

/-- A string is an argument where identifiers belong, on the second line, two parentheses deep and
behind a character of two bytes. -/
theorem parse_error_marks_query : ∃ grammar, querySchema.compile = .ok grammar ∧
    parse (some grammar) 8 "'é'\n(Q (F t) (S a, 'ü'))" =
      .error (.contract (.expectedIdentifier "S" "columns" "string literal 'ü'") 20) ∧
    ∃ before c after, "'é'\n(Q (F t) (S a, 'ü'))".toList = before ++ c :: after ∧
      20 = byteLength before ∧
      (Error.contract (.expectedIdentifier "S" "columns" "string literal 'ü'") 20).Marks
        (some grammar) 8 "'é'\n(Q (F t) (S a, 'ü'))" before c after := by
  have h : querySchema.compile.toOption.any (fun grammar =>
      parse (some grammar) 8 "'é'\n(Q (F t) (S a, 'ü'))" =
        .error (.contract (.expectedIdentifier "S" "columns" "string literal 'ü'") 20)) = true := by
    decide +kernel
  obtain ⟨grammar, hcompile, hresult⟩ := Schema.exists_compile_of_any h
  have hparse := of_decide_eq_true hresult
  have hcompiled : ∀ grammar' ∈ some grammar, ∃ schema : Schema, schema.compile = .ok grammar' := by
    rintro _ ⟨⟩
    exact ⟨querySchema, hcompile⟩
  exact ⟨grammar, hcompile, hparse, parse_error_marks hcompiled hparse rfl⟩

end SexpContract
