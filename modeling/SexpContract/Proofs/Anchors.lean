import SexpContract.Proofs.Compilation
import SexpContract.Proofs.PatternText
import SexpContract.Proofs.Search

/-!
# Anchored Rules

A rule is searched for in a text, and yet it holds for the text as a whole, because its pattern
stands in a group between two anchors.  A pattern that can be read by itself cannot close that
group: it is assembled to the same tree inside of it (`PatternTree.assemble_enclosed`), so the
tree of the anchored pattern is that tree between the anchors (`PatternTree.parse_anchored`), and
the rule holds for exactly the texts that the pattern spans from end to end
(`Rule.accepts_iff_spans`).

A pattern that cannot be read by itself may be readable between the anchors all the same.  Its
group then ends early, and the anchors no longer hold the whole of it.
-/

namespace SexpContract

/-! ## Section 1: The group around a pattern -/

namespace OpenGroup

/-- What the outermost of the open groups was opened with. -/
def outermost (current : OpenGroup) : List OpenGroup → Bool × FlagChange
  | [] => (current.captures, current.change)
  | parent :: outer => outermost parent outer

@[simp]
theorem outermost_add (current : OpenGroup) (part : PatternTree) (outer : List OpenGroup) :
    outermost (current.add part) outer = outermost current outer := by
  cases outer <;> rfl

@[simp]
theorem outermost_nextBranch (current : OpenGroup) (outer : List OpenGroup) :
    outermost current.nextBranch outer = outermost current outer := by
  cases outer <;> rfl

theorem outermost_repeatLast? {current repeated : OpenGroup} {bounds : Bounds} {isLazy : Bool}
    (h : current.repeatLast? bounds isLazy = some repeated) (outer : List OpenGroup) :
    outermost repeated outer = outermost current outer := by
  unfold repeatLast? at h
  split at h
  · cases h
  · split at h
    · cases h
      cases outer <;> rfl
    · cases h

end OpenGroup

namespace PatternTree

/-- What can be assembled by itself is assembled alike inside one more group, which becomes a part
of whatever stands around it. -/
theorem assemble_enclosed {current : OpenGroup} {outer : List OpenGroup}
    {tokens : List PatternToken} {tree : PatternTree}
    (h : assemble current outer tokens = some tree) (around : OpenGroup)
    (beyond : List OpenGroup) (rest : List PatternToken) :
    assemble current (outer ++ around :: beyond) (tokens ++ .groupEnd :: rest) =
      assemble (around.add (.group (OpenGroup.outermost current outer).1
        (OpenGroup.outermost current outer).2 tree)) beyond rest := by
  induction tokens generalizing current outer with
  | nil =>
      cases outer with
      | nil =>
          obtain rfl := Option.some.inj h
          rfl
      | cons parent outer => cases h
  | cons token tokens ih =>
      rw [List.cons_append]
      cases token with
      | atom part =>
          rw [assemble] at h ⊢
          rw [ih h, OpenGroup.outermost_add]
      | directive change =>
          rw [assemble] at h ⊢
          rw [ih h, OpenGroup.outermost_add]
      | bar =>
          rw [assemble] at h ⊢
          rw [ih h, OpenGroup.outermost_nextBranch]
      | repetition bounds isLazy =>
          rw [assemble] at h ⊢
          cases hrepeated : current.repeatLast? bounds isLazy with
          | none =>
              rw [hrepeated] at h
              cases h
          | some repeated =>
              rw [hrepeated] at h
              exact (ih h).trans (by rw [OpenGroup.outermost_repeatLast? hrepeated])
      | groupStart kind change =>
          rw [assemble] at h ⊢
          rw [← List.cons_append, ih h, OpenGroup.outermost]
      | groupEnd =>
          -- The group that ends here is not the one around, since that would be an end too many.
          cases outer with
          | nil => cases h
          | cons parent outer =>
              rw [assemble] at h
              rw [List.cons_append, assemble, ih h, OpenGroup.outermost_add, OpenGroup.outermost]

/-! ## Section 2: The tree between the anchors -/

/-- A tree between two anchors. -/
def anchored (tree : PatternTree) : PatternTree :=
  .concat [.atom .lineStart, .group false .keep tree, .atom .lineEnd]

end PatternTree

namespace PatternToken

/-- The text in front of a pattern is an anchor and the start of a group. -/
theorem all_opening (text : List Char) :
    all ("^(?:".toList ++ text) =
      (all text).map (.atom .lineStart :: .groupStart .bracket .keep :: ·) := by
  have hanchor : first '^' ('(' :: '?' :: ':' :: text) =
      some (.atom .lineStart, '(' :: '?' :: ':' :: text) := rfl
  have hgroup : first '(' ('?' :: ':' :: text) = some (.groupStart .bracket .keep, text) := rfl
  show all ('^' :: '(' :: '?' :: ':' :: text) = _
  rw [all_of_first hanchor, all_of_first hgroup, Option.map_map]
  rfl

/-- The text behind a pattern is the end of a group and an anchor. -/
theorem all_closing : all ")$".toList = some [.groupEnd, .atom .lineEnd] := by
  have hend : first ')' ['$'] = some (.groupEnd, ['$']) := rfl
  have hanchor : first '$' [] = some (.atom .lineEnd, []) := rfl
  show all [')', '$'] = _
  rw [all_of_first hend, all_of_first hanchor, all]
  rfl

theorem all_anchored {pattern : List Char} {tokens : List PatternToken}
    (h : all pattern = some tokens) :
    all (Rule.anchored pattern) =
      some (.atom .lineStart :: .groupStart .bracket .keep ::
        (tokens ++ [.groupEnd, .atom .lineEnd])) := by
  have hclosing : Closing ")$".toList := ⟨rfl, by decide⟩
  rw [Rule.anchored, List.append_assoc, all_opening, all_append hclosing h, all_closing]
  rfl

end PatternToken

/-- The anchors and the group around a pattern give no group a name. -/
theorem PatternToken.groupNames_anchored (tokens : List PatternToken) :
    groupNames (.atom .lineStart :: .groupStart .bracket .keep ::
      (tokens ++ [.groupEnd, .atom .lineEnd])) = groupNames tokens := by
  simp [groupNames]

namespace PatternTree

/-- Reading a pattern that is cut into tokens: no two groups have one name, the groups match, and
the tree is not nested too deep. -/
theorem parse_of_all {pattern : List Char} {tokens : List PatternToken}
    (h : PatternToken.all pattern = some tokens) :
    parse pattern =
      if (PatternToken.groupNames tokens).Nodup then
        (assemble (.start false .keep) [] tokens).bind fun tree =>
          if tree.nesting ≤ nestingLimit then some tree else none
      else none := by
  rw [parse, h]
  show (if (PatternToken.groupNames tokens).Nodup then some () else none).bind (fun _ =>
    (assemble (.start false .keep) [] tokens).bind fun tree =>
      (if tree.nesting ≤ nestingLimit then some () else none).bind fun _ => some tree) = _
  split
  · rw [Option.bind_some]
    congr 1
    funext tree
    split <;> rfl
  · rfl

/-- The tree of a pattern between anchors is its own tree between anchors, unless that is nested
too deep. -/
theorem parse_anchored {pattern : List Char} {tree : PatternTree}
    (h : parse pattern = some tree) :
    parse (Rule.anchored pattern) =
      if tree.anchored.nesting ≤ nestingLimit then some tree.anchored else none := by
  cases htokens : PatternToken.all pattern with
  | none =>
      rw [parse, htokens] at h
      cases h
  | some tokens =>
      rw [parse_of_all htokens] at h
      split at h
      · rename_i hnames
        obtain ⟨tree', htree, hrest⟩ := Option.bind_eq_some_iff.1 h
        split at hrest
        · cases hrest
          -- Behind the first anchor the group opens, and its end is the one that is written.
          have hwhole : assemble (.start false .keep) [] (.atom .lineStart ::
              .groupStart .bracket .keep :: (tokens ++ [.groupEnd, .atom .lineEnd])) =
                some tree.anchored := by
            rw [assemble, assemble]
            exact assemble_enclosed htree ((OpenGroup.start false .keep).add (.atom .lineStart))
              [] [.atom .lineEnd]
          rw [parse_of_all (PatternToken.all_anchored htokens),
            PatternToken.groupNames_anchored, if_pos hnames, hwhole, Option.bind_some]
        · cases hrest
      · cases h

end PatternTree

/-! ## Section 3: What an anchored tree spans -/

theorem PatternTree.regex_anchored (tree : PatternTree) :
    tree.anchored.regex =
      .seq (.assert .textStart) (.seq tree.regex (.seq (.assert .textEnd) .empty)) := by
  rfl

/-- An anchored expression occurs in a text where the expression spans all of it. -/
theorem PatternTree.occurs_anchored_iff (tree : PatternTree) (text : List Char) :
    tree.anchored.regex.Occurs text ↔ tree.regex.Spans [] text [] := by
  rw [PatternTree.regex_anchored]
  simp only [Regex.Occurs, Regex.spans_seq_iff, Regex.spans_assert_iff, Regex.spans_empty_iff,
    Assertion.holds]
  constructor
  · rintro ⟨before, middle, after, rfl, _, rest, rfl, ⟨rfl, hstart⟩, span, _, rfl, hspan, _, _,
      rfl, ⟨rfl, hend⟩, rfl⟩
    -- The anchors leave nothing before the stretch and nothing behind it.
    have hbefore : before = [] := by simpa using hstart
    have hafter : after = [] := by simpa using hend
    subst hbefore hafter
    simpa using hspan
  · intro h
    refine ⟨[], text, [], by simp, [], text, rfl, ⟨rfl, rfl⟩, text, [], by simp, ?_, [], [], rfl,
      ⟨rfl, rfl⟩, rfl⟩
    simpa using h

/-! ## Section 4: Rules -/

/-- The rule of a pattern that can be read by itself holds for a text that the pattern spans as a
whole. -/
theorem Rule.accepts_iff_spans {pattern : String} {rule : Rule} {tree : PatternTree}
    (hrule : Rule.compile? pattern = some rule)
    (htree : PatternTree.parse pattern.toList = some tree) (text : String) :
    rule.accepts text = true ↔ tree.regex.Spans [] text.toList [] := by
  rw [compile?, PatternTree.parse_anchored htree] at hrule
  split at hrule
  · rename_i whole hwhole
    split at hwhole
    · cases hwhole
      split at hrule
      · cases hrule
        rw [accepts, Regex.search_iff, PatternTree.occurs_anchored_iff]
      · cases hrule
    · cases hwhole
  · cases hrule

end SexpContract
