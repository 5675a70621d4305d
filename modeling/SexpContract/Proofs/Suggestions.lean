import Mathlib.Data.List.MinMax
import SexpContract.Proofs.Fixes

/-!
# The Closest Symbol

Which symbol is suggested for an unknown one.  Going through the names in ascending order and keeping
the first of the best comes down to taking a maximum (`closest?_eq_argmax`), whatever the names are
scored by.  A suggestion is a symbol that may be used in the place of the unknown one, and a fix that
uses it changes the source (`Grammar.suggestion_closest`).
-/

namespace SexpContract

/-! ## Section 1: Maxima -/

/-- A candidate scores highest of all candidates and reaches a threshold, and no other candidate with
that score comes before it. -/
structure IsClosest {α : Type} [LE α] (score : String → α) (threshold : α)
    (candidates : String → Prop) (name : String) : Prop where
  candidate : candidates name
  reaches : threshold ≤ score name
  maximal : ∀ other, candidates other → score other ≤ score name
  least : ∀ other, candidates other → score other = score name → name ≤ other

/-- In an ascending list, what is less has the lower index. -/
theorem idxOf_lt_of_lt {names : List String} (hascending : names.Pairwise (· < ·))
    {first second : String} (hfirst : first ∈ names) (hsecond : second ∈ names)
    (hlt : first < second) : names.idxOf first < names.idxOf second := by
  induction names with
  | nil => cases hfirst
  | cons head rest ih =>
      obtain ⟨hhead, hrest⟩ := List.pairwise_cons.1 hascending
      -- The head comes before all others, so the greater of the two names stands behind it.
      have hne : head ≠ second := by
        rintro rfl
        rcases List.mem_cons.1 hfirst with rfl | hmem
        · exact String.lt_irrefl _ hlt
        · exact String.lt_irrefl _ (String.lt_trans hlt (hhead first hmem))
      rw [List.idxOf_cons_ne _ hne]
      by_cases heq : head = first
      · rw [heq, List.idxOf_cons_self]
        exact Nat.succ_pos _
      · rw [List.idxOf_cons_ne _ heq]
        apply Nat.succ_lt_succ
        apply ih hrest
        · exact List.mem_of_ne_of_mem (Ne.symm heq) hfirst
        · exact List.mem_of_ne_of_mem (Ne.symm hne) hsecond

section Scores

variable {α : Type} [LinearOrder α] {score : String → α} {threshold : α} {names : List String}
  {name : String}

/-- One step: a name that reaches the threshold replaces the best one so far when it scores higher. -/
theorem betterName_map (score : String → α) (threshold : α) (best : Option String)
    (name : String) :
    betterName threshold (best.map fun name => (name, score name)) (name, score name) =
      (if threshold ≤ score name then
          List.argAux (fun first second => score second < score first) best name
        else best).map fun name => (name, score name) := by
  unfold betterName
  by_cases hreaches : threshold ≤ score name
  · rw [if_pos hreaches, if_pos hreaches]
    cases best with
    | none => rfl
    | some current =>
        -- Not scoring higher than the best so far is scoring at most as high.
        simp only [Option.map_some, List.argAux, ← not_le, ite_not]
        split <;> rfl
  · rw [if_neg hreaches, if_neg hreaches]

theorem foldl_betterName (best : Option String) :
    (names.map fun name => (name, score name)).foldl (betterName threshold)
        (best.map fun name => (name, score name)) =
      ((names.filter fun name => threshold ≤ score name).foldl
        (List.argAux fun first second => score second < score first) best).map
          fun name => (name, score name) := by
  induction names generalizing best with
  | nil => rfl
  | cons name rest ih =>
      rw [List.map_cons, List.foldl_cons, betterName_map, ih]
      by_cases hreaches : threshold ≤ score name <;> simp [hreaches]

/-- The closest name is the first maximum among the names that reach the threshold. -/
theorem closest?_eq_argmax :
    closest? score threshold names =
      (names.filter fun name => threshold ≤ score name).argmax score := by
  have hfold := @foldl_betterName α _ score threshold names none
  rw [Option.map_none] at hfold
  rw [closest?, hfold, Option.map_map, List.argmax]
  exact Option.map_id'

theorem isClosest_of_closest? (hascending : names.Pairwise (· < ·))
    (h : closest? score threshold names = some name) :
    IsClosest score threshold (· ∈ names) name := by
  rw [closest?_eq_argmax, List.argmax_eq_some_iff] at h
  obtain ⟨hmem, hmax, hfirst⟩ := h
  obtain ⟨hname, hreaches⟩ := List.mem_filter.1 hmem
  have hreaches := of_decide_eq_true hreaches
  refine ⟨hname, hreaches, ?_, ?_⟩
  · intro other hother
    rcases le_or_gt threshold (score other) with hother' | hbelow
    · exact hmax other (List.mem_filter.2 ⟨hother, decide_eq_true hother'⟩)
    · exact (hbelow.trans_le hreaches).le
  · intro other hother hscore
    have hother' : other ∈ names.filter fun name => threshold ≤ score name :=
      List.mem_filter.2 ⟨hother, decide_eq_true (hscore ▸ hreaches)⟩
    apply String.not_lt.1
    intro hlt
    have hindex := idxOf_lt_of_lt (hascending.filter _) hother' hmem hlt
    have hle := hfirst other hother' hscore.ge
    omega

/-- Only one candidate scores highest and comes first. -/
theorem IsClosest.unique {candidates : String → Prop} {other : String}
    (h : IsClosest score threshold candidates name)
    (h' : IsClosest score threshold candidates other) : name = other := by
  have hscore : score other = score name :=
    le_antisymm (h.maximal other h'.candidate) (h'.maximal name h.candidate)
  apply String.le_antisymm
  · exact h.least other h'.candidate hscore
  · exact h'.least name h.candidate hscore.symm

theorem exists_closest?_iff :
    (∃ name, closest? score threshold names = some name) ↔
      ∃ name ∈ names, threshold ≤ score name := by
  rw [closest?_eq_argmax, ← Option.isSome_iff_exists, ← Option.ne_none_iff_isSome, ne_eq,
    List.argmax_eq_none, List.filter_eq_nil_iff]
  simp

theorem closest?_eq_some_iff (hascending : names.Pairwise (· < ·)) :
    closest? score threshold names = some name ↔ IsClosest score threshold (· ∈ names) name := by
  constructor
  · exact isClosest_of_closest? hascending
  · intro h
    obtain ⟨other, hother⟩ := exists_closest?_iff.2 ⟨name, h.candidate, h.reaches⟩
    rw [hother, h.unique (isClosest_of_closest? hascending hother)]

end Scores

/-! ## Section 2: Suggested symbols -/

namespace Grammar

variable {grammar : Grammar}

theorem names_ascending (grammar : Grammar) : grammar.schema.symbols.names.Pairwise (· < ·) :=
  List.pairwise_map.2 grammar.schema.symbols.ascending

theorem mem_names_iff {name : String} :
    name ∈ grammar.schema.symbols.names ↔ grammar.hasSymbol name = true := by
  constructor
  · exact hasSymbol_of_mem_names
  · intro h
    obtain ⟨contract, hcontract⟩ := Option.isSome_iff_exists.1 h
    exact List.mem_map.2 ⟨_, NameMap.mem_of_valueOf? hcontract, rfl⟩

/-- A symbol of the grammar is another name for an unknown one. -/
structure Improves (grammar : Grammar) (unknown name : String) : Prop where
  hasSymbol : grammar.hasSymbol name = true
  not_isReserved : grammar.isReserved name = false
  ne_unknown : name ≠ unknown

/-- A symbol that is suggested for an undefined one is defined, so it is not the same, and compiling
has seen to it that it is not reserved. -/
theorem improves_of_suggest? {schema : Schema} (hcompile : schema.compile = .ok grammar)
    {unknown name : String} (hmissing : grammar.hasSymbol unknown = false)
    (h : grammar.suggest? unknown = some name) : grammar.Improves unknown name := by
  have hdefined := hasSymbol_of_suggest? h
  obtain ⟨contract, hcontract⟩ := Option.isSome_iff_exists.1 hdefined
  refine ⟨hdefined, isReserved_of_compile hcompile hcontract, ?_⟩
  rintro rfl
  rw [hmissing] at hdefined
  cases hdefined

theorem improves_of_validate {schema : Schema} (hcompile : schema.compile = .ok grammar)
    {program : List Expression} {unknown name : String} {position : Nat}
    (h : grammar.validate program =
      .error (.contract (.unknownSymbol unknown (some name)) position)) :
    grammar.Improves unknown name := by
  have hmisses := misses_of_validate h
  exact improves_of_suggest? hcompile hmisses.hasSymbol_eq_false hmisses.suggestion_eq.symm

/-- With another name in the place of the unknown symbol the source is another one. -/
theorem apply_ne_of_parse {maxDepth : Nat} {source unknown name : String} {position : Nat}
    (h : parse (some grammar) maxDepth source =
      .error (.contract (.unknownSymbol unknown (some name)) position))
    (hne : name ≠ unknown) : Replacement.apply ⟨position, unknown, name⟩ source ≠ source := by
  obtain ⟨before, after, front, back, program, horiginal, -⟩ := Replacement.exists_outcome h
  intro heq
  -- The text around the symbol is the same in both sources.
  have hsource := Replacement.toList_apply horiginal.source_eq horiginal.position_eq
  rw [heq, horiginal.source_eq] at hsource
  have hnames := List.append_cancel_right (List.append_cancel_left hsource)
  exact hne (String.toList_inj.1 hnames.symm)

/-- Whatever symbols are scored by, in any total order, one is suggested if and only if one reaches
the threshold, and it is the first in code point order among those that score highest.  When a
check or a validated parse suggests a symbol for an unknown one, it is a defined symbol that is not
reserved and another name, so the fix changes the source. -/
theorem suggestion_closest {schema : Schema} (hcompile : schema.compile = .ok grammar) :
    (∀ (α : Type) [LinearOrder α] (score : String → α) (threshold : α),
      ((∃ name, closest? score threshold grammar.schema.symbols.names = some name) ↔
        ∃ name, grammar.hasSymbol name = true ∧ threshold ≤ score name) ∧
      ∀ name, closest? score threshold grammar.schema.symbols.names = some name ↔
        IsClosest score threshold (fun name => grammar.hasSymbol name = true) name) ∧
    (∀ unknown name, grammar.suggest? unknown = some name ↔
      IsClosest (similarityRank unknown) suggestionThreshold
        (fun name => grammar.hasSymbol name = true) name) ∧
    (∀ symbol args site unknown name position,
      grammar.checkInvocation symbol args site =
        .error (.contract (.unknownSymbol unknown (some name)) position) →
      unknown = symbol ∧ grammar.Improves unknown name) ∧
    (∀ maxDepth tokens unknown name position,
      parseTokens (some grammar) maxDepth tokens =
        .error (.contract (.unknownSymbol unknown (some name)) position) →
      grammar.Improves unknown name) ∧
    ∀ maxDepth source unknown name position,
      parse (some grammar) maxDepth source =
        .error (.contract (.unknownSymbol unknown (some name)) position) →
      grammar.Improves unknown name ∧
        Replacement.apply ⟨position, unknown, name⟩ source ≠ source := by
  have hdefined : (fun name => name ∈ grammar.schema.symbols.names) =
      fun name => grammar.hasSymbol name = true :=
    funext fun name => propext mem_names_iff
  refine ⟨?_, ?_, ?_, ?_, ?_⟩
  · intro α _ score threshold
    refine ⟨?_, ?_⟩
    · simp only [exists_closest?_iff, mem_names_iff]
    · intro name
      rw [closest?_eq_some_iff grammar.names_ascending, hdefined]
  · intro unknown name
    rw [suggest?, closest?_eq_some_iff grammar.names_ascending, hdefined]
  · intro symbol args site unknown name position h
    obtain ⟨rfl, -, hmissing, hsuggestion⟩ := unknown_of_checkInvocation h
    exact ⟨rfl, improves_of_suggest? hcompile hmissing hsuggestion.symm⟩
  · intro maxDepth tokens unknown name position h
    obtain ⟨program, -, hvalidate⟩ := exists_readProgram_of_parseTokens h
    exact improves_of_validate hcompile hvalidate
  · intro maxDepth source unknown name position h
    obtain ⟨program, -, hvalidate⟩ := exists_readSource_of_parse h
    have himproves := improves_of_validate hcompile hvalidate
    exact ⟨himproves, apply_ne_of_parse h himproves.ne_unknown⟩

/-- Names that all score the same, and an unknown name that only one symbol is close to. -/
theorem suggestion_closest_query : ∃ grammar, querySchema.compile = .ok grammar ∧
    closest? (fun _ => 1) 1 grammar.schema.symbols.names = some "C" ∧
    grammar.suggest? "FF" = some "F" ∧
    IsClosest (similarityRank "FF") suggestionThreshold
      (fun name => grammar.hasSymbol name = true) "F" ∧
    IsClosest (fun _ => 1) 1 (fun name => grammar.hasSymbol name = true) "C" ∧
    parse (some grammar) 8 "(Q (FF t))" =
      .error (.contract (.unknownSymbol "FF" (some "F")) 4) ∧
    grammar.Improves "FF" "F" ∧
    Replacement.apply ⟨4, "FF", "F"⟩ "(Q (FF t))" ≠ "(Q (FF t))" := by
  have h : querySchema.compile.toOption.any (fun grammar =>
      closest? (fun _ => 1) 1 grammar.schema.symbols.names = some "C" ∧
      grammar.suggest? "FF" = some "F" ∧
      parse (some grammar) 8 "(Q (FF t))" =
        .error (.contract (.unknownSymbol "FF" (some "F")) 4)) = true := by
    decide +kernel
  obtain ⟨grammar, hcompile, hresult⟩ := Schema.exists_compile_of_any h
  obtain ⟨htie, hsuggest, hparse⟩ := of_decide_eq_true hresult
  obtain ⟨hscores, hclosest, -, -, hfix⟩ := suggestion_closest hcompile
  obtain ⟨himproves, hchanges⟩ := hfix _ _ _ _ _ hparse
  exact ⟨grammar, hcompile, htie, hsuggest, (hclosest _ _).1 hsuggest,
    ((hscores Nat _ _).2 _).1 htie, hparse, himproves, hchanges⟩

end Grammar

end SexpContract
