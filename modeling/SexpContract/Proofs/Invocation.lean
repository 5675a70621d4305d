import SexpContract.Grammar.Invocation

/-!
# Checks of Invocations

What the check of an invocation does, read off from its loops.  It fails only with broken contracts
(`checkInvocation_error`), and whether it passes does not depend on where the invocation stands
(`admits_of_checkInvocation`).
-/

namespace SexpContract

/-! ## Section 1: Failures are broken contracts -/

/-- A fault that one argument has, whatever the others are. -/
def ContractFault.IsOfArgument : ContractFault → Prop
  | .unknownSymbol _ _ => False
  | .missingParameter _ _ => False
  | .missingRepeatedParameter _ _ => False
  | .tooManyArguments _ _ _ => False
  | _ => True

namespace Grammar

variable {grammar : Grammar} {symbol : String} {args : List Node}

theorem isOfArgument_of_argumentFault? {parameter : Parameter} {arg : Node} {fault : ContractFault}
    (h : grammar.argumentFault? symbol parameter arg = some fault) : fault.IsOfArgument := by
  unfold argumentFault? identifierFault? nodeFault? literalFault? at h
  cases fault <;> grind [ContractFault.IsOfArgument]

theorem checkArguments_error {parameter : Parameter} {site : Site} {index : Nat} {error : Error}
    (h : grammar.checkArguments symbol parameter site index args = .error error) :
    ∃ fault position, error = .contract fault position := by
  induction args generalizing index with
  | nil => cases h
  | cons arg rest ih =>
      rw [checkArguments] at h
      split at h
      · exact ⟨_, _, (Except.error.inj h).symm⟩
      · exact ih h

theorem checkParameters_error {site : Site} {index : Nat} {parameters : List Parameter}
    {error : Error} (h : grammar.checkParameters symbol args site index parameters = .error error) :
    ∃ fault position, error = .contract fault position := by
  induction parameters generalizing index with
  | nil => cases h
  | cons parameter rest ih =>
      simp only [checkParameters] at h
      split at h
      · exact ⟨_, _, (Except.error.inj h).symm⟩
      split at h
      · rename_i harguments
        cases h
        exact checkArguments_error harguments
      · exact ih h

theorem checkInvocation_error {site : Site} {error : Error}
    (h : grammar.checkInvocation symbol args site = .error error) :
    ∃ fault position, error = .contract fault position := by
  unfold checkInvocation at h
  split at h
  · exact ⟨_, _, (Except.error.inj h).symm⟩
  split at h
  · rename_i hparameters
    cases h
    exact checkParameters_error hparameters
  split at h
  · exact ⟨_, _, (Except.error.inj h).symm⟩
  · cases h

theorem checkTopLevel_error {node : Node} {position : Nat} {error : Error}
    (h : grammar.checkTopLevel node position = .error error) :
    ∃ fault position, error = .contract fault position := by
  unfold checkTopLevel at h
  split at h
  · exact checkInvocation_error h
  · cases h

theorem checkRoots_error {nodes : List Node} {constraints : List RootConstraint} {error : Error}
    (h : checkRoots nodes constraints = .error error) :
    ∃ expected found, error = .missingRoot expected found := by
  induction constraints with
  | nil => cases h
  | cons constraint rest ih =>
      simp only [checkRoots] at h
      split at h
      · exact ih h
      · exact ⟨_, _, (Except.error.inj h).symm⟩

/-! ## Section 2: What passing means -/

/-- A symbol may be invoked with these arguments, wherever the invocation stands. -/
def Admits (grammar : Grammar) (symbol : String) (args : List Node) : Prop :=
  ∀ site, grammar.checkInvocation symbol args site = .ok ()

theorem checkArguments_eq_ok_iff {parameter : Parameter} {site : Site} {index : Nat} :
    grammar.checkArguments symbol parameter site index args = .ok () ↔
      ∀ arg ∈ args, grammar.argumentFault? symbol parameter arg = none := by
  induction args generalizing index with
  | nil => simp [checkArguments]
  | cons arg rest ih =>
      rw [checkArguments]
      cases hfault : grammar.argumentFault? symbol parameter arg with
      | some fault => simp [hfault]
      | none => simp [hfault, ih]

theorem checkParameters_ok_of_site {site : Site} (other : Site) {index taken : Nat}
    {parameters : List Parameter}
    (h : grammar.checkParameters symbol args site index parameters = .ok taken) :
    grammar.checkParameters symbol args other index parameters = .ok taken := by
  -- On the parameters: what is taken depends on counts, and whether a check passes on its argument.
  induction parameters generalizing index with
  | nil => exact h
  | cons parameter rest ih =>
      simp only [checkParameters] at h ⊢
      split at h
      · cases h
      rename_i henough
      rw [if_neg henough]
      split at h
      · cases h
      rename_i harguments
      rw [checkArguments_eq_ok_iff.2 (checkArguments_eq_ok_iff.1 harguments)]
      exact ih h

theorem admits_of_checkInvocation {site : Site}
    (h : grammar.checkInvocation symbol args site = .ok ()) : grammar.Admits symbol args := by
  intro other
  unfold checkInvocation at h ⊢
  split at h
  · cases h
  split at h
  · cases h
  rename_i taken hparameters
  rw [checkParameters_ok_of_site other hparameters]
  split at h
  · cases h
  rename_i henough
  simp only [henough, if_false]

theorem Admits.exists_contract (h : grammar.Admits symbol args) :
    ∃ contract, grammar.symbol? symbol = some contract := by
  have hsite := h (.everywhere 0)
  unfold checkInvocation at hsite
  split at hsite
  · cases hsite
  · rename_i contract hcontract
    exact ⟨contract, hcontract⟩

theorem checkTopLevel_eq_ok_iff {node : Node} {position : Nat} :
    grammar.checkTopLevel node position = .ok () ↔
      ∀ symbol, node = .symbolic symbol [] → grammar.Admits symbol [] := by
  constructor
  · rintro h symbol rfl
    exact admits_of_checkInvocation h
  · intro h
    unfold checkTopLevel
    -- Only a bare symbol is looked at here; all else passes.
    split
    · exact h _ rfl _
    · rfl

theorem root_of_checkRoots {nodes : List Node} {constraints : List RootConstraint}
    (h : checkRoots nodes constraints = .ok ()) :
    ∀ constraint ∈ constraints, nodes.head?.bind Node.symbol? = some constraint.root := by
  induction constraints with
  | nil => simp
  | cons constraint rest ih =>
      simp only [checkRoots] at h
      split at h
      · rename_i hroot
        exact List.forall_mem_cons.2 ⟨hroot, ih h⟩
      · cases h

/-- Roots pass where the first expression has the root that each of them demands. -/
theorem checkRoots_of_root {nodes : List Node} {constraints : List RootConstraint}
    (h : ∀ constraint ∈ constraints, nodes.head?.bind Node.symbol? = some constraint.root) :
    checkRoots nodes constraints = .ok () := by
  induction constraints with
  | nil => rfl
  | cons constraint rest ih =>
      obtain ⟨hroot, hrest⟩ := List.forall_mem_cons.1 h
      rw [checkRoots, if_pos hroot, ih hrest]

end Grammar

end SexpContract
