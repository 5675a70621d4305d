import SexpContract.Proofs.Acceptance
import SexpContract.Proofs.Concatenation
import SexpContract.Proofs.Derivation

/-!
# Limits on the Nesting

What the limit on the nesting decides.  A higher limit changes nothing but the fault of a nesting
that goes too deep (`nestingScan_of_le`), and expressions that are closed do not count
(`Spells.nestingScan_between`), so the limits at which a program is accepted are all those from some
limit on, and the program is the same at each of them (`parseTokens_of_le`).
-/

namespace SexpContract

/-! ## Section 1: A higher limit -/

/-- A result that is no fault of going too deep. -/
def WithinLimit {α : Type} (result : Except Error α) : Prop :=
  ∀ limit position, result ≠ .error (.structural (.maxDepthExceeded limit) position)

theorem nestingFault?_of_le {limit limit' : Nat} (hle : limit ≤ limit') {stack : List Nat}
    {token : Token} {next? : Option Token}
    (h : ∀ deep, nestingFault? limit stack token next? ≠ some (.maxDepthExceeded deep)) :
    nestingFault? limit' stack token next? = nestingFault? limit stack token next? := by
  unfold nestingFault? at h ⊢
  split
  · rfl
  · rename_i hkind
    simp only [hkind] at h
    -- Where the lower limit is not reached, the higher one is not either.
    have hlow : ¬ limit ≤ stack.length := by
      intro hdeep
      simp [hdeep] at h
    rw [if_neg hlow, if_neg (by omega)]
  · rfl

/-- A scan that stays within a limit is the same under a higher one. -/
theorem nestingScan_of_le {limit limit' : Nat} (hle : limit ≤ limit') {stack : List Nat}
    {tokens : List Token} (h : WithinLimit (nestingScan limit stack tokens)) :
    nestingScan limit' stack tokens = nestingScan limit stack tokens := by
  induction tokens generalizing stack with
  | nil => rfl
  | cons token rest ih =>
      have hfault : nestingFault? limit' stack token rest.head? =
          nestingFault? limit stack token rest.head? := by
        apply nestingFault?_of_le hle
        intro deep hdeep
        exact h deep token.start (by rw [nestingScan, hdeep])
      rw [nestingScan, nestingScan, hfault]
      cases hnone : nestingFault? limit stack token rest.head? with
      | some fault => rfl
      | none =>
          refine ih ?_
          intro deep position hdeep
          exact h deep position (by rw [nestingScan, hnone]; exact hdeep)

theorem readProgram_of_le {limit limit' : Nat} (hle : limit ≤ limit') {tokens : List Token}
    (h : WithinLimit (readProgram limit tokens)) :
    readProgram limit' tokens = readProgram limit tokens := by
  cases hread : readProgram limit tokens with
  | ok program =>
      obtain ⟨hspells, hnesting⟩ := readProgram_eq_ok_iff.1 hread
      exact readProgram_eq_ok_iff.2 ⟨hspells, by omega⟩
  | error error =>
      have hscan := readProgram_error_iff.1 hread
      rw [readProgram_error_iff, nestingScan_of_le hle, hscan]
      intro deep position hdeep
      exact h deep position (readProgram_error_iff.2 hdeep)

/-! ## Section 2: Closed expressions -/

/-- What is read behind some tokens depends on them by the number of parentheses that they leave
open.  The token right behind an opening parenthesis is no part of that, so none may stand last,
unless more parentheses are closed than opened and the scan does not come that far. -/
theorem nestingScan_behind {limit : Nat} {stack : List Nat} {front first second : List Token}
    (hlast : ∀ token ∈ front.getLast?, token.kind = .leftParen →
      stack.length + openings front ≤ closings front)
    (h : ∀ stack', stack'.length + closings front = stack.length + openings front →
      nestingScan limit stack' first = nestingScan limit stack' second) :
    nestingScan limit stack (front ++ first) = nestingScan limit stack (front ++ second) := by
  induction front generalizing stack with
  | nil => exact h stack rfl
  | cons token front ih =>
      have hhead : nestingFault? limit stack token (front ++ first).head? =
          nestingFault? limit stack token (front ++ second).head? := by
        cases front with
        | cons next front => rfl
        | nil =>
            have hkind : token.kind ≠ .leftParen := by
              intro hkind
              have hcount := hlast token rfl hkind
              simp [openings, closings, hkind] at hcount
            unfold nestingFault?
            split <;> simp_all
      rw [List.cons_append, List.cons_append, nestingScan, nestingScan, hhead]
      cases hfault : nestingFault? limit stack token (front ++ second).head? with
      | some fault => rfl
      | none =>
          have hopen : (openAfter stack token).length + closings [token] =
              stack.length + openings [token] := by
            unfold nestingFault? at hfault
            cases hkind : token.kind <;> cases stack <;>
              simp_all [openAfter, openings, closings]
          have hcounts : openings (token :: front) = openings [token] + openings front ∧
              closings (token :: front) = closings [token] + closings front :=
            ⟨openings_append [token] front, closings_append [token] front⟩
          refine ih ?_ ?_
          · intro last hmem hkind
            have hcount := hlast last (List.mem_getLast?_cons hmem) hkind
            omega
          · intro stack' hstack'
            exact h stack' (by omega)

/-- Closed expressions between other tokens leave the scan as it was, if they are not too deep for
their place. -/
theorem Spells.nestingScan_between {siblings : List Token} {program : List Expression}
    (h : Spells siblings program) {limit : Nat} {before : List Token}
    (hlast : ∀ token ∈ before.getLast?, token.kind ≠ .leftParen)
    (hdepth : openings before + Expression.nestingAll program ≤ limit + closings before)
    (after : List Token) :
    nestingScan limit [] (before ++ (siblings ++ after)) =
      nestingScan limit [] (before ++ after) := by
  refine nestingScan_behind (fun token hmem hkind => absurd hkind (hlast token hmem)) ?_
  intro stack hstack
  simp only [List.length_nil] at hstack
  exact h.nestingScan_append stack after (by omega)

theorem beforeEnd_append_eq_ite (first second : List Token) :
    beforeEnd (first ++ second) =
      if (beforeEnd first).length = first.length then first ++ beforeEnd second
      else beforeEnd first :=
  List.takeWhile_append

/-- Closed expressions that are not too deep change no fault of the nesting. -/
theorem Spells.readProgram_between_iff {siblings : List Token} {program : List Expression}
    (h : Spells siblings program) {limit : Nat} {before : List Token}
    (hlast : ∀ token ∈ before.getLast?, token.kind ≠ .leftParen)
    (hdepth : openings before + Expression.nestingAll program ≤ limit + closings before)
    (after : List Token) (error : Error) :
    readProgram limit (before ++ (siblings ++ after)) = .error error ↔
      readProgram limit (before ++ after) = .error error := by
  rw [readProgram_error_iff, readProgram_error_iff, beforeEnd_append_eq_ite before,
    beforeEnd_append_eq_ite before, h.beforeEnd_append]
  split
  · rw [h.nestingScan_between hlast hdepth]
  · rfl

/-! ## Section 3: Parsed programs -/

/-- A fault of the nesting is one of reading, whatever a grammar says. -/
theorem parseTokens_eq_structural_iff {grammar? : Option Grammar} {limit : Nat}
    {tokens : List Token} {fault : StructuralFault} {position : Nat} :
    parseTokens grammar? limit tokens = .error (.structural fault position) ↔
      readProgram limit tokens = .error (.structural fault position) := by
  rw [parseTokens_eq_validateWith]
  cases readProgram limit tokens with
  | error error => simp [Except.bind]
  | ok program =>
      simp only [Except.bind, reduceCtorEq, iff_false]
      intro hvalidate
      cases category_of_validateWith hvalidate

/-- A higher limit on the nesting takes away the fault of going too deep and changes nothing else.
So what is accepted under a limit is accepted under all higher ones, as one and the same list of
nodes; no accepted tree is deeper than the limit allows; and expressions that are closed, however
many there are and wherever they stand, neither cause nor prevent that the limit is exceeded. -/
theorem parseTokens_of_le (grammar? : Option Grammar) (tokens : List Token) :
    (∀ limit limit', limit ≤ limit' → WithinLimit (parseTokens grammar? limit tokens) →
      parseTokens grammar? limit' tokens = parseTokens grammar? limit tokens) ∧
    (∀ limit limit' nodes, limit ≤ limit' → parseTokens grammar? limit tokens = .ok nodes →
      parseTokens grammar? limit' tokens = .ok nodes) ∧
    (∀ limit limit' nodes nodes', parseTokens grammar? limit tokens = .ok nodes →
      parseTokens grammar? limit' tokens = .ok nodes' → nodes = nodes') ∧
    (∀ limit nodes, parseTokens grammar? limit tokens = .ok nodes →
      ∀ node ∈ nodes, node.depth ≤ limit + 1) ∧
    (∀ limit before siblings after program, tokens = before ++ (siblings ++ after) →
      Spells siblings program → (∀ token ∈ before.getLast?, token.kind ≠ .leftParen) →
      openings before + Expression.nestingAll program ≤ limit + closings before →
      ∀ deep position,
        parseTokens grammar? limit tokens =
            .error (.structural (.maxDepthExceeded deep) position) ↔
          parseTokens grammar? limit (before ++ after) =
            .error (.structural (.maxDepthExceeded deep) position)) := by
  have hhigher : ∀ limit limit', limit ≤ limit' → WithinLimit (parseTokens grammar? limit tokens) →
      parseTokens grammar? limit' tokens = parseTokens grammar? limit tokens := by
    intro limit limit' hle h
    have hread : readProgram limit' tokens = readProgram limit tokens := by
      apply readProgram_of_le hle
      intro deep position hdeep
      exact h deep position (parseTokens_eq_structural_iff.2 hdeep)
    rw [parseTokens_eq_validateWith, parseTokens_eq_validateWith, hread]
  have haccepted : ∀ limit limit' nodes, limit ≤ limit' →
      parseTokens grammar? limit tokens = .ok nodes →
      parseTokens grammar? limit' tokens = .ok nodes := by
    intro limit limit' nodes hle h
    rw [hhigher limit limit' hle, h]
    intro deep position hdeep
    cases h.symm.trans hdeep
  refine ⟨hhigher, haccepted, ?_, ?_, ?_⟩
  · intro limit limit' nodes nodes' h h'
    -- Under the higher one of the two limits, both lists of nodes are accepted.
    have hmax := haccepted limit (max limit limit') nodes (Nat.le_max_left _ _) h
    have hmax' := haccepted limit' (max limit limit') nodes' (Nat.le_max_right _ _) h'
    exact Except.ok.inj (hmax.symm.trans hmax')
  · intro limit nodes h node hnode
    obtain ⟨program, -, hdepth, rfl⟩ := exists_spells_of_parseTokens h
    obtain ⟨expression, hexpression, rfl⟩ := Expression.mem_nodes.1 hnode
    have hnesting := Expression.nestingAll_le_iff.1 hdepth expression hexpression
    exact Nat.le_trans expression.depth_node_le (Nat.succ_le_succ hnesting)
  · rintro limit before siblings after program rfl hspells hlast hdepth deep position
    rw [parseTokens_eq_structural_iff, parseTokens_eq_structural_iff]
    exact hspells.readProgram_between_iff hlast hdepth after _

/-- A query of nesting two, and one of nesting three with two counts in front of what is too deep. -/
theorem parseTokens_of_le_query :
    let opening : List Token := [⟨.leftParen, "(", 0, 1⟩, ⟨.identifier, "Q", 1, 2⟩]
    let source : List Token :=
      [⟨.leftParen, "(", 3, 4⟩, ⟨.identifier, "F", 4, 5⟩, ⟨.identifier, "t", 6, 7⟩,
        ⟨.rightParen, ")", 7, 8⟩]
    let counts : List Token :=
      [⟨.leftParen, "(", 9, 10⟩, ⟨.identifier, "C", 10, 11⟩, ⟨.rightParen, ")", 11, 12⟩,
        ⟨.comma, ",", 12, 13⟩, ⟨.leftParen, "(", 13, 14⟩, ⟨.identifier, "C", 14, 15⟩,
        ⟨.rightParen, ")", 15, 16⟩]
    let deep : List Token :=
      [⟨.leftParen, "(", 17, 18⟩, ⟨.identifier, "S", 18, 19⟩, ⟨.leftParen, "(", 20, 21⟩,
        ⟨.identifier, "C", 21, 22⟩]
    let closing : List Token := [⟨.rightParen, ")", 30, 31⟩]
    let nodes : List Node :=
      [.symbolic "Q" [.symbolic "F" [.ident "t"], .ident "C", .ident "C"]]
    ∃ grammar, querySchema.compile = .ok grammar ∧
      parseTokens (some grammar) 2 (opening ++ source ++ counts ++ closing) = .ok nodes ∧
      parseTokens (some grammar) 128 (opening ++ source ++ counts ++ closing) = .ok nodes ∧
      (∀ node ∈ nodes, node.depth ≤ 3) ∧
      parseTokens (some grammar) 2 (opening ++ source ++ deep) =
        .error (.structural (.maxDepthExceeded 2) 20) ∧
      parseTokens (some grammar) 2 (opening ++ source ++ (counts ++ deep)) =
        .error (.structural (.maxDepthExceeded 2) 20) := by
  intro opening source counts deep closing nodes
  have h : querySchema.compile.toOption.any (fun grammar =>
      parseTokens (some grammar) 2 (opening ++ source ++ counts ++ closing) = .ok nodes ∧
      parseTokens (some grammar) 2 (opening ++ source ++ deep) =
        .error (.structural (.maxDepthExceeded 2) 20)) = true := by
    decide +kernel
  obtain ⟨grammar, hcompile, hresult⟩ := Schema.exists_compile_of_any h
  obtain ⟨hsound, hdeep⟩ := of_decide_eq_true hresult
  obtain ⟨-, haccepted, -, hdepth, -⟩ :=
    parseTokens_of_le (some grammar) (opening ++ source ++ counts ++ closing)
  obtain ⟨-, -, -, -, hbetween⟩ :=
    parseTokens_of_le (some grammar) (opening ++ source ++ (counts ++ deep))
  have hcounts : Spells counts [.call 9 10 "C" [], .call 13 14 "C" []] :=
    .call rfl rfl rfl .nil (.comma rfl (.call rfl rfl rfl .nil .nil))
  have hlimit := hbetween 2 (opening ++ source) counts deep _ rfl hcounts (by decide) (by decide)
  exact ⟨grammar, hcompile, hsound, haccepted 2 128 nodes (by decide) hsound,
    hdepth 2 nodes hsound, hdeep, (hlimit 2 20).2 hdeep⟩

end SexpContract
