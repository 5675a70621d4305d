import SexpContract.Proofs.Compilation
import SexpContract.Proofs.Places
import SexpContract.Proofs.Replacement
import SexpContract.Proofs.UnknownSymbols

/-!
# Suggested Fixes

What a suggested fix does to a source.  The unknown symbol is one whole token of the source, and the
fix covers it.  With the suggested identifier in its place nothing else changes, and one invocation
less is undefined.  So fixes can be applied one after another only so many times
(`suggested_fix_makes_progress`).
-/

namespace SexpContract

open Text

/-! ## Section 1: Undefined invocations -/

namespace Grammar

/-- Whether the grammar does not define the symbol. -/
def isUndefined (grammar : Grammar) (occurrence : Occurrence) : Bool :=
  !grammar.hasSymbol occurrence.symbol

/-- The number of invocations in a program whose symbol the grammar does not define. -/
def undefinedCount (grammar : Grammar) (program : List Expression) : Nat :=
  (Expression.invocationsAll program).countP grammar.isUndefined

/-- The number of undefined invocations in a source; there are none in a source without a
program. -/
def undefinedIn (grammar : Grammar) (maxDepth : Nat) (source : String) : Nat :=
  match readSource maxDepth source with
  | .ok program => grammar.undefinedCount program
  | .error _ => 0

/-- A source is rejected for an unknown symbol, and becomes another one by the suggested fix. -/
def Fixes (grammar : Grammar) (maxDepth : Nat) (source fixed : String) : Prop :=
  ∃ symbol name position,
    parse (some grammar) maxDepth source =
        .error (.contract (.unknownSymbol symbol (some name)) position) ∧
      IsIdentifier name.toList ∧ fixed = Replacement.apply ⟨position, symbol, name⟩ source

end Grammar

namespace Replacement

variable {replacement : Replacement} {grammar : Grammar} {program : List Expression}

/-- No other offset goes where the replaced symbol is. -/
theorem eq_position_of_place {offset : Nat} (hnew : 0 < byteLength replacement.new.toList)
    (h : replacement.relabelling.place offset = replacement.position) :
    offset = replacement.position := by
  have hstop : replacement.stop = replacement.position + byteLength replacement.old.toList := rfl
  -- An offset behind the symbol goes behind the new one, which has one byte at least.
  simp only [relabelling, shift] at h
  split at h <;> omega

/-- The only undefined invocation at the offset of the replacement becomes a defined one, and all
others stay as they are. -/
theorem undefinedCount_program
    (hsymbols : Expression.symbolsAt replacement.position program =
      [⟨replacement.old, replacement.position⟩])
    (hinvoked : ⟨replacement.old, replacement.position⟩ ∈ Expression.invocationsAll program)
    (hold : grammar.hasSymbol replacement.old = false)
    (hnew : grammar.hasSymbol replacement.new = true) :
    grammar.undefinedCount program =
      grammar.undefinedCount (replacement.relabelling.program program) + 1 := by
  let here : Occurrence → Bool := fun occurrence => occurrence.position = replacement.position
  let invoked := Expression.invocationsAll program
  let others := invoked.filter fun occurrence => !here occurrence
  -- What is invoked at the offset is the one symbol there.
  have hhere : invoked.filter here = [⟨replacement.old, replacement.position⟩] := by
    have hsublist := (Expression.invocationsAll_sublist_symbolsAll program).filter here
    rw [← Expression.symbolsAt, hsymbols] at hsublist
    refine hsublist.eq_of_length_le ?_
    exact List.length_pos_of_mem (List.mem_filter.2 ⟨hinvoked, decide_eq_true rfl⟩)
  have hbefore : grammar.undefinedCount program = 1 + others.countP grammar.isUndefined := by
    rw [Grammar.undefinedCount, List.countP_eq_countP_filter_add invoked grammar.isUndefined here,
      hhere]
    simp [Grammar.isUndefined, hold, others]
  have hothers : others.countP (grammar.isUndefined ∘ replacement.relabelling.occurrence) =
      others.countP grammar.isUndefined := by
    refine List.countP_congr ?_
    intro occurrence hmem
    have hother : occurrence.position ≠ replacement.position := by
      simpa [here] using (List.mem_filter.1 hmem).2
    simp [Grammar.isUndefined, Relabelling.occurrence, relabelling, hother]
  have hafter : grammar.undefinedCount (replacement.relabelling.program program) =
      0 + others.countP grammar.isUndefined := by
    rw [Grammar.undefinedCount, Relabelling.invocationsAll_program, List.countP_map,
      List.countP_eq_countP_filter_add invoked _ here, hhere, ← hothers]
    simp [Grammar.isUndefined, Relabelling.occurrence, relabelling, hnew, others]
  omega

/-- At the offset of the replacement stands a defined symbol now. -/
theorem not_unknown_at (hlength : 0 < byteLength replacement.new.toList)
    (hnew : grammar.hasSymbol replacement.new = true) (unknown : String)
    (suggestion : Option String) :
    grammar.validate (replacement.relabelling.program program) ≠
      .error (.contract (.unknownSymbol unknown suggestion) replacement.position) := by
  intro h
  obtain ⟨hmem, hmissing, _⟩ := Grammar.misses_of_validate h
  rw [Relabelling.invocationsAll_program] at hmem
  obtain ⟨occurrence, _, heq⟩ := List.mem_map.1 hmem
  obtain ⟨hlabel, hplace⟩ := Occurrence.mk.inj heq
  have hposition := eq_position_of_place hlength hplace
  simp only [relabelling, hposition, if_true] at hlabel
  rw [← hlabel, hnew] at hmissing
  cases hmissing

/-! ## Section 2: Before and after a fix -/

/-- The symbol to be replaced is one whole identifier token of a source, and one symbol of its
program. -/
structure Original (replacement : Replacement) (maxDepth : Nat) (source : String)
    (before after : List Char) (front back : List Token) (program : List Expression) : Prop where
  source_eq : source.toList = before ++ (replacement.old.toList ++ after)
  position_eq : replacement.position = byteLength before
  tokenize_eq : tokenize source = .ok (front ++ replacement.oldToken :: back)
  readSource_eq : readSource maxDepth source = .ok program
  parse_eq : parse none maxDepth source = .ok (Expression.nodes program)
  symbolsAt_eq : Expression.symbolsAt replacement.position program =
    [⟨replacement.old, replacement.position⟩]

/-- With the symbol replaced, its token and its occurrence in the program have the new name, and
everything behind it has moved.  Whatever a grammar still has against the program, it is no longer
that symbol, and one invocation less is undefined. -/
structure Outcome (replacement : Replacement) (grammar : Grammar) (maxDepth : Nat)
    (before after : List Char) (front back : List Token) (program : List Expression)
    (fixed : String) : Prop where
  fixed_eq : fixed.toList = before ++ (replacement.new.toList ++ after)
  tokenize_eq : tokenize fixed =
    .ok (front ++ replacement.newToken :: back.map (Token.relocate replacement.shift))
  readSource_eq : readSource maxDepth fixed = .ok (replacement.relabelling.program program)
  parse_eq : parse none maxDepth fixed =
    .ok (Expression.nodes (replacement.relabelling.program program))
  semantic : ∀ error, parse (some grammar) maxDepth fixed = .error error →
    error.category = .semantic
  known : ∀ unknown suggestion, parse (some grammar) maxDepth fixed ≠
    .error (.contract (.unknownSymbol unknown suggestion) replacement.position)
  undefinedCount_eq : grammar.undefinedCount program =
    grammar.undefinedCount (replacement.relabelling.program program) + 1

variable {maxDepth : Nat} {source : String} {before after : List Char} {front back : List Token}
  {finish : Nat}

theorem Target.original (h : replacement.Target source before after front back finish)
    (hread : readSource maxDepth source = .ok program) :
    replacement.Original maxDepth source before after front (back ++ [.endMark finish])
      program := by
  obtain ⟨hspells, _⟩ := h.spells_of_readSource hread
  refine ⟨h.source_eq, h.position_eq, ?_, hread, ?_, h.symbolsAt_eq hspells⟩
  · rw [h.tokenize_eq, List.append_assoc, List.cons_append]
  · rw [(parse_eq_readSource maxDepth source).1, hread]
    rfl

theorem Target.outcome (h : replacement.Target source before after front back finish)
    (hread : readSource maxDepth source = .ok program) {suggestion : Option String}
    (hmisses : grammar.Misses (Expression.invocationsAll program) replacement.old suggestion
      replacement.position)
    (hsuggestion : suggestion = some replacement.new) (hnew : IsIdentifier replacement.new.toList) :
    replacement.Outcome grammar maxDepth before after front (back ++ [.endMark finish]) program
      (replacement.apply source) := by
  -- Only defined symbols are suggested.
  have hdefined : grammar.hasSymbol replacement.new = true :=
    Grammar.hasSymbol_of_suggest? (hmisses.suggestion_eq.symm.trans hsuggestion)
  have hfixed := h.readSource_apply hnew hread
  obtain ⟨hnone, hsome⟩ := parse_eq_readSource maxDepth (replacement.apply source)
  have hvalidate := hsome grammar
  rw [hfixed] at hnone hvalidate
  refine ⟨h.apply_eq, ?_, hfixed, hnone, ?_, ?_, ?_⟩
  · rw [h.tokenize_apply hnew, List.map_append, List.append_assoc, List.cons_append]
    rfl
  · intro error herror
    -- What is read is kept as it is, or fails with a broken contract.
    rcases validate_cases grammar (replacement.relabelling.program program) with hok | hfails
    · cases herror.symm.trans (hvalidate.trans hok)
    · obtain ⟨error', herror', hcategory⟩ := hfails
      obtain rfl := Except.error.inj (herror.symm.trans (hvalidate.trans herror'))
      exact hcategory
  · intro unknown suggestion herror
    have hlength := byteLength_pos hnew.ne_nil
    exact not_unknown_at hlength hdefined unknown suggestion (hvalidate.symm.trans herror)
  · obtain ⟨hspells, _⟩ := h.spells_of_readSource hread
    exact undefinedCount_program (h.symbolsAt_eq hspells) hmisses.mem_invocations
      hmisses.hasSymbol_eq_false hdefined

/-- What is reported as unknown can be replaced, and the suggestion repairs it. -/
theorem exists_outcome {symbol name : String} {position : Nat}
    (h : parse (some grammar) maxDepth source =
      .error (.contract (.unknownSymbol symbol (some name)) position)) :
    ∃ before after front back program,
      Original ⟨position, symbol, name⟩ maxDepth source before after front back program ∧
      (IsIdentifier name.toList →
        Outcome ⟨position, symbol, name⟩ grammar maxDepth before after front back program
          (apply ⟨position, symbol, name⟩ source)) := by
  obtain ⟨program, hread, hvalidate⟩ := exists_readSource_of_parse h
  have hmisses := Grammar.misses_of_validate hvalidate
  -- What is invoked is spelled by an identifier token.
  obtain ⟨body, finish, hscans, hspells, _⟩ := readSource_eq_ok_iff.1 hread
  have hsymbol := (Expression.invocationsAll_sublist_symbolsAll program).subset
    hmisses.mem_invocations
  rw [hspells.symbolsAll_eq] at hsymbol
  obtain ⟨token, htoken, heq⟩ := List.mem_map.1 hsymbol
  obtain ⟨rfl, rfl⟩ := Occurrence.mk.inj heq
  obtain ⟨hbody, hkind⟩ := List.mem_filter.1 htoken
  obtain ⟨before, after, front, back, htarget⟩ :=
    exists_target hscans hbody (of_decide_eq_true hkind) name
  refine ⟨before, after, front, _, program, htarget.original hread, ?_⟩
  intro hname
  exact htarget.outcome hread hmisses rfl hname

end Replacement

/-! ## Section 3: Fix after fix -/

namespace Grammar

variable {grammar : Grammar} {maxDepth : Nat} {source fixed : String}

/-- Each fix leaves one undefined invocation less. -/
theorem Fixes.undefinedIn_lt (h : grammar.Fixes maxDepth source fixed) :
    grammar.undefinedIn maxDepth fixed < grammar.undefinedIn maxDepth source := by
  obtain ⟨symbol, name, position, hparse, hname, rfl⟩ := h
  obtain ⟨before, after, front, back, program, horiginal, houtcome⟩ :=
    Replacement.exists_outcome hparse
  have hafter := houtcome hname
  have hcount := hafter.undefinedCount_eq
  rw [undefinedIn, undefinedIn, horiginal.readSource_eq, hafter.readSource_eq]
  exact Nat.lt_of_lt_of_eq (Nat.lt_succ_self _) hcount.symm

theorem wellFounded_fixes (grammar : Grammar) (maxDepth : Nat) :
    WellFounded fun fixed source => grammar.Fixes maxDepth source fixed :=
  Subrelation.wf Fixes.undefinedIn_lt (measure (grammar.undefinedIn maxDepth)).wf

end Grammar

/-- A suggested fix covers the unknown symbol, which is one whole token.  When the suggestion is an
identifier, the fixed source has the same tokens and the same program but for that symbol, the
symbol is not unknown any more, and one invocation less is undefined.  So no source can be fixed
forever. -/
theorem suggested_fix_makes_progress (grammar : Grammar) (maxDepth : Nat) :
    (∀ source symbol name position,
      parse (some grammar) maxDepth source =
        .error (.contract (.unknownSymbol symbol (some name)) position) →
      ∃ before after front back program,
        Replacement.Original ⟨position, symbol, name⟩ maxDepth source before after front back
          program ∧
        (source.toList.length < placeLimit →
          ∃ fix, (Diagnostic.ofError source
              (.contract (.unknownSymbol symbol (some name)) position)).fix = some fix ∧
            fix.replacement = name ∧ fix.span.Covers before symbol.toList) ∧
        (IsIdentifier name.toList →
          Replacement.Outcome ⟨position, symbol, name⟩ grammar maxDepth before after front back
            program (Replacement.apply ⟨position, symbol, name⟩ source))) ∧
    WellFounded fun fixed source => grammar.Fixes maxDepth source fixed := by
  refine ⟨?_, grammar.wellFounded_fixes maxDepth⟩
  intro source symbol name position h
  obtain ⟨before, after, front, back, program, horiginal, houtcome⟩ :=
    Replacement.exists_outcome h
  refine ⟨before, after, front, back, program, horiginal, ?_, houtcome⟩
  intro hlength
  have hcovers := Diagnostic.symbolSpan_covers horiginal.source_eq hlength
  rw [← horiginal.position_eq] at hcovers
  exact ⟨_, rfl, rfl, hcovers⟩

/-- The unknown symbol touches the number in front of it and stands on the second line, behind a
character of two bytes. -/
theorem suggested_fix_makes_progress_query : ∃ grammar, querySchema.compile = .ok grammar ∧
    parse (some grammar) 8 "'é'\n1FF(C)" =
      .error (.contract (.unknownSymbol "FF" (some "F")) 6) ∧
    "'é'\n1FF(C)".toList.length < placeLimit ∧ IsIdentifier "F".toList ∧
    Replacement.apply ⟨6, "FF", "F"⟩ "'é'\n1FF(C)" = "'é'\n1F(C)" ∧
    (∃ before after front back program,
      Replacement.Original ⟨6, "FF", "F"⟩ 8 "'é'\n1FF(C)" before after front back program ∧
      (∃ fix, (Diagnostic.ofError "'é'\n1FF(C)"
          (.contract (.unknownSymbol "FF" (some "F")) 6)).fix = some fix ∧
        fix.replacement = "F" ∧ fix.span.Covers before "FF".toList) ∧
      Replacement.Outcome ⟨6, "FF", "F"⟩ grammar 8 before after front back program
        "'é'\n1F(C)") := by
  have h : querySchema.compile.toOption.any (fun grammar =>
      match parse (some grammar) 8 "'é'\n1FF(C)" with
      | .error error => error = .contract (.unknownSymbol "FF" (some "F")) 6
      | .ok _ => false) = true := by
    decide +kernel
  obtain ⟨grammar, hcompile, hresult⟩ := Schema.exists_compile_of_any h
  have hparse : parse (some grammar) 8 "'é'\n1FF(C)" =
      .error (.contract (.unknownSymbol "FF" (some "F")) 6) := by
    cases hread : parse (some grammar) 8 "'é'\n1FF(C)" with
    | error error =>
        rw [hread] at hresult
        exact congrArg Except.error (of_decide_eq_true hresult)
    | ok nodes =>
        rw [hread] at hresult
        cases hresult
  have hlength : "'é'\n1FF(C)".toList.length < placeLimit := by decide
  have hname : IsIdentifier "F".toList := by
    refine ⟨by decide, ?_⟩
    simp
  have hfixed : Replacement.apply ⟨6, "FF", "F"⟩ "'é'\n1FF(C)" = "'é'\n1F(C)" := by decide
  obtain ⟨before, after, front, back, program, horiginal, hfix, houtcome⟩ :=
    (suggested_fix_makes_progress grammar 8).1 _ _ _ _ hparse
  rw [hfixed] at houtcome
  exact ⟨grammar, hcompile, hparse, hlength, hname, hfixed, before, after, front, back, program,
    horiginal, hfix hlength, houtcome hname⟩

end SexpContract
