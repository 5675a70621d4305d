import SexpContract.Proofs.Compilation
import SexpContract.Proofs.Invocation

/-!
# Positional Arguments

The contract of a symbol is walked with a cursor: each parameter takes what it can of the arguments
that are left.  As only the last parameter of a compiled contract takes all of them, the walk has a
closed form (`checkParameters_eq`): each argument belongs to one parameter by its index alone, and
so the check of an invocation is decided by indices and lengths (`checkInvocation_eq`).
-/

namespace SexpContract

/-! ## Section 1: The parameter of an argument -/

namespace Parameter

/-- Whether the last of the parameters takes every argument that is left. -/
def takesRest (parameters : List Parameter) : Bool :=
  parameters.getLast?.any fun parameter => parameter.cardinality.isVariadic

/-- The parameter that the argument with an index belongs to: the one with the same index, and past
the end the last one, if that takes every argument that is left. -/
def at? (parameters : List Parameter) (index : Nat) : Option Parameter :=
  if index < parameters.length ∨ takesRest parameters = true then
    parameters[min index (parameters.length - 1)]?
  else none

theorem variadicLast_cons {parameter : Parameter} {rest : List Parameter}
    (h : VariadicLast (parameter :: rest)) :
    VariadicLast rest ∧ (parameter.cardinality.isVariadic = true → rest = []) := by
  cases rest with
  | nil => simp [VariadicLast]
  | cons next rest =>
      simp only [VariadicLast, List.dropLast_cons_cons, List.mem_cons, forall_eq_or_imp] at h ⊢
      simp [h.1]
      exact h.2

theorem takesRest_cons {parameter : Parameter} {rest : List Parameter}
    (h : parameter.cardinality.isVariadic = false) :
    takesRest (parameter :: rest) = takesRest rest := by
  cases rest with
  | nil => simp [takesRest, h]
  | cons next rest => simp [takesRest]

theorem at?_nil (index : Nat) : at? [] index = none := by
  simp [at?]

theorem at?_zero (parameter : Parameter) (rest : List Parameter) :
    at? (parameter :: rest) 0 = some parameter := by
  simp [at?]

theorem at?_succ {parameter : Parameter} {rest : List Parameter}
    (h : parameter.cardinality.isVariadic = false) (index : Nat) :
    at? (parameter :: rest) (index + 1) = at? rest index := by
  cases rest with
  | nil => simp [at?, takesRest, h]
  | cons next rest =>
      -- Cutting the index off at the last parameter moves with the parameters.
      have hmin : min (index + 1) (rest.length + 1) = min index rest.length + 1 := by omega
      simp [at?, takesRest_cons h, hmin]

theorem at?_variadic {parameter : Parameter} (h : parameter.cardinality.isVariadic = true)
    (index : Nat) : at? [parameter] index = some parameter := by
  simp [at?, takesRest, h]

end Parameter

/-! ## Section 2: The walk in closed form -/

theorem Cardinality.take_of_variadic {cardinality : Cardinality}
    (h : cardinality.isVariadic = true) (available : Nat) :
    cardinality.take available = available := by
  cases cardinality <;> simp_all [isVariadic, maxCount?, take]

theorem Cardinality.take_of_not_variadic {cardinality : Cardinality}
    (h : cardinality.isVariadic = false) (available : Nat) :
    cardinality.take available = min available 1 := by
  cases cardinality <;> simp_all [isVariadic, maxCount?, take]

theorem Cardinality.minCount_le_one (cardinality : Cardinality) : cardinality.minCount ≤ 1 := by
  cases cardinality <;> simp [minCount]

/-- The first argument with a fault, and its index. -/
def firstFault? (fault? : Nat → Node → Option ContractFault) (args : List Node) :
    Option (Nat × ContractFault) :=
  args.zipIdx.findSome? fun (arg, index) => (fault? index arg).map fun fault => (index, fault)

/-- The first parameter that asks for an argument although none is left for it. -/
def missing? (parameters : List Parameter) (available : Nat) : Option Parameter :=
  (parameters.drop available).find? fun parameter => parameter.cardinality.minCount = 1

theorem missing?_nil (available : Nat) : missing? [] available = none := by
  simp [missing?]

theorem missing?_cons_zero (parameter : Parameter) (rest : List Parameter) :
    missing? (parameter :: rest) 0 =
      if parameter.cardinality.minCount = 1 then some parameter else missing? rest 0 := by
  by_cases h : parameter.cardinality.minCount = 1 <;> simp [missing?, h]

theorem missing?_cons_succ (parameter : Parameter) (rest : List Parameter) (available : Nat) :
    missing? (parameter :: rest) (available + 1) = missing? rest available := rfl

theorem firstFault?_nil (fault? : Nat → Node → Option ContractFault) :
    firstFault? fault? [] = none := rfl

theorem firstFault?_cons (fault? : Nat → Node → Option ContractFault) (arg : Node)
    (rest : List Node) :
    firstFault? fault? (arg :: rest) =
      match fault? 0 arg with
      | some fault => some (0, fault)
      | none =>
          (firstFault? (fun index => fault? (index + 1)) rest).map fun (index, fault) =>
            (index + 1, fault) := by
  unfold firstFault?
  rw [List.zipIdx_cons', List.findSome?_cons, List.findSome?_map, List.map_findSome?]
  cases hfault : fault? 0 arg with
  | some fault => simp [hfault]
  | none => simp [hfault, Function.comp_def, Prod.map]

theorem firstFault?_eq_none {fault? : Nat → Node → Option ContractFault} {args : List Node}
    (h : ∀ index arg, args[index]? = some arg → fault? index arg = none) :
    firstFault? fault? args = none := by
  apply List.findSome?_eq_none_iff.2
  intro (arg, index) hmem
  exact Option.map_eq_none_iff.2 (h index arg (List.mk_mem_zipIdx_iff_getElem?.1 hmem))

theorem fault?_eq_none_of_firstFault? {fault? : Nat → Node → Option ContractFault}
    {args : List Node} (h : firstFault? fault? args = none) {index : Nat} {arg : Node}
    (harg : args[index]? = some arg) : fault? index arg = none := by
  have hnone := List.findSome?_eq_none_iff.1 h (arg, index)
    (List.mk_mem_zipIdx_iff_getElem?.2 harg)
  exact Option.map_eq_none_iff.1 hnone

theorem firstFault?_eq_some {fault? : Nat → Node → Option ContractFault} {args : List Node}
    {index : Nat} {arg : Node} {fault : ContractFault} (harg : args[index]? = some arg)
    (hfault : fault? index arg = some fault)
    (hfirst : ∀ earlier arg, (args.take index)[earlier]? = some arg → fault? earlier arg = none) :
    firstFault? fault? args = some (index, fault) := by
  -- On the index: the head of the arguments has no fault, unless it is the one that is meant.
  induction index generalizing args fault? with
  | zero =>
      obtain ⟨rest, rfl⟩ : ∃ rest, args = arg :: rest := by
        cases args <;> simp_all
      simp [firstFault?_cons, hfault]
  | succ index ih =>
      cases args with
      | nil => cases harg
      | cons head rest =>
          have hhead : fault? 0 head = none := hfirst 0 head rfl
          have hrest : firstFault? (fun index => fault? (index + 1)) rest = some (index, fault) :=
            ih harg hfault fun earlier arg hearlier => hfirst (earlier + 1) arg hearlier
          simp [firstFault?_cons, hhead, hrest]

/-- The first fault is that of an argument, and those before it have none. -/
theorem exists_of_firstFault? {fault? : Nat → Node → Option ContractFault} {args : List Node}
    {index : Nat} {fault : ContractFault} (h : firstFault? fault? args = some (index, fault)) :
    ∃ arg, args[index]? = some arg ∧ fault? index arg = some fault ∧
      ∀ earlier arg, (args.take index)[earlier]? = some arg → fault? earlier arg = none := by
  induction args generalizing fault? index with
  | nil => cases h
  | cons head rest ih =>
      rw [firstFault?_cons] at h
      cases hhead : fault? 0 head with
      | some fault' =>
          rw [hhead] at h
          cases h
          exact ⟨head, rfl, hhead, by simp⟩
      | none =>
          rw [hhead] at h
          obtain ⟨⟨offset, fault'⟩, hfound, heq⟩ := Option.map_eq_some_iff.1 h
          cases heq
          obtain ⟨arg, harg, hfault, hfirst⟩ := ih hfound
          refine ⟨arg, harg, hfault, ?_⟩
          intro earlier other hearlier
          cases earlier with
          | zero =>
              cases hearlier
              exact hhead
          | succ earlier => exact hfirst earlier other hearlier

namespace Grammar

variable {grammar : Grammar} {symbol : String} {args : List Node}

/-- The fault of the argument with an index, seen by the parameter that it belongs to. -/
def faultAt? (grammar : Grammar) (symbol : String) (parameters : List Parameter) (index : Nat)
    (arg : Node) : Option ContractFault :=
  (Parameter.at? parameters index).bind fun parameter =>
    grammar.argumentFault? symbol parameter arg

theorem checkArguments_eq (parameter : Parameter) (site : Site) (index : Nat) :
    grammar.checkArguments symbol parameter site index args =
      match firstFault? (fun _ => grammar.argumentFault? symbol parameter) args with
      | some (offset, fault) => .error (.contract fault (site.argAt (index + offset)))
      | none => .ok () := by
  induction args generalizing index with
  | nil => rfl
  | cons arg rest ih =>
      rw [checkArguments, firstFault?_cons]
      cases hfault : grammar.argumentFault? symbol parameter arg with
      | some fault => rfl
      | none =>
          simp only [ih]
          cases firstFault? (fun _ => grammar.argumentFault? symbol parameter) rest with
          | none => rfl
          | some found => simp [Nat.add_assoc, Nat.add_comm 1]

/-- A parameter for one argument, when one is left. -/
theorem checkParameters_one {parameter : Parameter} (rest : List Parameter)
    (hvariadic : parameter.cardinality.isVariadic = false) (site : Site) {index : Nat}
    (hlt : index < args.length) :
    grammar.checkParameters symbol args site index (parameter :: rest) =
      match grammar.argumentFault? symbol parameter args[index] with
      | some fault => .error (.contract fault (site.argAt index))
      | none => grammar.checkParameters symbol args site (index + 1) rest := by
  have htaken : parameter.cardinality.take (args.length - index) = 1 := by
    rw [Cardinality.take_of_not_variadic hvariadic]
    omega
  have henough : ¬ 1 < parameter.cardinality.minCount :=
    Nat.not_lt.2 parameter.cardinality.minCount_le_one
  have harg : (args.drop index).take 1 = [args[index]] := by
    rw [List.drop_eq_getElem_cons hlt, List.take_succ_cons, List.take_zero]
  simp only [checkParameters, htaken, henough, if_false, harg, checkArguments]
  cases grammar.argumentFault? symbol parameter args[index] <;> rfl

/-- A parameter for one argument, when none is left. -/
theorem checkParameters_none {parameter : Parameter} (rest : List Parameter)
    (hvariadic : parameter.cardinality.isVariadic = false) (site : Site) {index : Nat}
    (hle : args.length ≤ index) :
    grammar.checkParameters symbol args site index (parameter :: rest) =
      if parameter.cardinality.minCount = 1 then
        .error (.contract (missingFault symbol parameter) site.openAt)
      else grammar.checkParameters symbol args site index rest := by
  have htaken : parameter.cardinality.take (args.length - index) = 0 := by
    rw [Cardinality.take_of_not_variadic hvariadic]
    omega
  have hone := parameter.cardinality.minCount_le_one
  simp only [checkParameters, htaken]
  by_cases hmin : parameter.cardinality.minCount = 1
  · simp [hmin]
  · have hzero : parameter.cardinality.minCount = 0 := by omega
    simp [hzero, checkArguments]

/-- A parameter for every argument that is left: it is missing only when none is left. -/
theorem checkParameters_all {parameter : Parameter}
    (hvariadic : parameter.cardinality.isVariadic = true) (site : Site) {index : Nat}
    (hindex : index ≤ args.length) :
    grammar.checkParameters symbol args site index [parameter] =
      match firstFault? (grammar.faultAt? symbol [parameter]) (args.drop index) with
      | some (offset, fault) => .error (.contract fault (site.argAt (index + offset)))
      | none =>
          match missing? [parameter] (args.length - index) with
          | some parameter => .error (.contract (missingFault symbol parameter) site.openAt)
          | none => .ok args.length := by
  have hfaults : grammar.faultAt? symbol [parameter] =
      fun _ => grammar.argumentFault? symbol parameter := by
    funext offset arg
    simp [faultAt?, Parameter.at?_variadic hvariadic]
  have hall : (args.drop index).take (args.length - index) = args.drop index :=
    List.take_of_length_le (by simp)
  have hone := parameter.cardinality.minCount_le_one
  -- With no argument left there is no fault, and with one left nothing is missing.
  simp only [checkParameters, Cardinality.take_of_variadic hvariadic, hall, hfaults,
    checkArguments_eq, Nat.add_sub_cancel' hindex]
  rcases Nat.eq_or_lt_of_le hindex with heq | hlt
  · have hdrop : args.drop index = [] := List.drop_eq_nil_of_le (by omega)
    have hzero : args.length - index = 0 := by omega
    rw [hdrop, hzero, firstFault?_nil, missing?_cons_zero, missing?_nil]
    by_cases hmin : parameter.cardinality.minCount = 1
    · simp [hmin]
    · simp [hmin, show ¬ 0 < parameter.cardinality.minCount by omega]
  · obtain ⟨left, hleft⟩ : ∃ left, args.length - index = left + 1 :=
      ⟨args.length - index - 1, by omega⟩
    rw [hleft, missing?_cons_succ, missing?_nil, if_neg (by omega)]
    cases firstFault? (fun _ => grammar.argumentFault? symbol parameter) (args.drop index) <;> rfl

/-- The walk over the parameters, from an index on: a fault of an argument comes first, then a
missing argument, and otherwise the arguments are taken as far as there are parameters. -/
theorem checkParameters_eq (grammar : Grammar) (symbol : String) {parameters : List Parameter}
    (hlast : Parameter.VariadicLast parameters) (site : Site) {index : Nat}
    (hindex : index ≤ args.length) :
    grammar.checkParameters symbol args site index parameters =
      match firstFault? (grammar.faultAt? symbol parameters) (args.drop index) with
      | some (offset, fault) => .error (.contract fault (site.argAt (index + offset)))
      | none =>
          match missing? parameters (args.length - index) with
          | some parameter => .error (.contract (missingFault symbol parameter) site.openAt)
          | none =>
              .ok (if Parameter.takesRest parameters = true then args.length
                else min args.length (index + parameters.length)) := by
  -- On the parameters: each of them uses up the front of the arguments that are left, and the
  -- cursor stays within the arguments.
  induction parameters generalizing index with
  | nil =>
      have hnone : firstFault? (grammar.faultAt? symbol []) (args.drop index) = none := by
        simp [firstFault?, faultAt?, Parameter.at?_nil]
      simp [checkParameters, hnone, missing?, Parameter.takesRest, hindex]
  | cons parameter rest ih =>
      obtain ⟨hrest, hend⟩ := Parameter.variadicLast_cons hlast
      cases hvariadic : parameter.cardinality.isVariadic with
      | true =>
          obtain rfl := hend hvariadic
          have htakes : Parameter.takesRest [parameter] = true := by
            simp [Parameter.takesRest, hvariadic]
          rw [checkParameters_all hvariadic site hindex, if_pos htakes]
      | false =>
          rw [Parameter.takesRest_cons hvariadic]
          -- With no argument left this parameter is missing or skipped; with one left it takes
          -- that one, and the indices of the others move by one.
          rcases Nat.eq_or_lt_of_le hindex with heq | hlt
          · have hdrop : args.drop index = [] := List.drop_eq_nil_of_le (by omega)
            have hzero : args.length - index = 0 := by omega
            rw [checkParameters_none rest hvariadic site (by omega), ih hrest hindex, hdrop, hzero,
              firstFault?_nil, firstFault?_nil, missing?_cons_zero]
            by_cases hmin : parameter.cardinality.minCount = 1
            · simp [hmin]
            · simp [hmin, heq]
          · have hsub : args.length - index = args.length - (index + 1) + 1 := by omega
            have hshift : (fun offset => grammar.faultAt? symbol (parameter :: rest) (offset + 1)) =
                grammar.faultAt? symbol rest := by
              funext offset arg
              simp [faultAt?, Parameter.at?_succ hvariadic]
            rw [checkParameters_one rest hvariadic site hlt, List.drop_eq_getElem_cons hlt,
              firstFault?_cons, hshift, ih hrest hlt, hsub, missing?_cons_succ]
            simp only [faultAt?, Parameter.at?_zero, Option.bind_some]
            cases grammar.argumentFault? symbol parameter args[index] with
            | some fault => rfl
            | none =>
                have hlength : index + (rest.length + 1) = index + 1 + rest.length := by omega
                simp only [List.length_cons, hlength]
                cases firstFault? (grammar.faultAt? symbol rest) (args.drop (index + 1)) with
                | none => rfl
                | some found => simp [Nat.add_assoc, Nat.add_comm 1]

/-- The check of an invocation by the indices of its arguments. -/
theorem checkInvocation_eq {contract : SymbolContract}
    (hsymbol : grammar.symbol? symbol = some contract)
    (hlast : Parameter.VariadicLast contract.parameters) (site : Site) :
    grammar.checkInvocation symbol args site =
      match firstFault? (grammar.faultAt? symbol contract.parameters) args with
      | some (index, fault) => .error (.contract fault (site.argAt index))
      | none =>
          match missing? contract.parameters args.length with
          | some parameter => .error (.contract (missingFault symbol parameter) site.openAt)
          | none =>
              if contract.parameters.length < args.length ∧
                  Parameter.takesRest contract.parameters = false then
                .error (.contract
                  (.tooManyArguments symbol contract.parameters.length args.length)
                  (site.argAt contract.parameters.length))
              else .ok () := by
  have hwalk := checkParameters_eq grammar symbol hlast site (Nat.zero_le args.length)
  simp only [List.drop_zero, Nat.zero_add, Nat.sub_zero] at hwalk
  rw [checkInvocation, hsymbol]
  simp only [hwalk]
  cases firstFault? (grammar.faultAt? symbol contract.parameters) args with
  | some found => rfl
  | none =>
      cases missing? contract.parameters args.length with
      | some parameter => rfl
      | none =>
          cases Parameter.takesRest contract.parameters with
          | true => simp
          | false =>
              rcases Nat.lt_or_ge contract.parameters.length args.length with hlt | hge
              · simp [hlt, Nat.min_eq_right (Nat.le_of_lt hlt)]
              · simp [Nat.not_lt.2 hge, Nat.min_eq_left hge]

theorem checkParameters_append (done rest : List Parameter) (site : Site) (index : Nat) :
    grammar.checkParameters symbol args site index (done ++ rest) =
      match grammar.checkParameters symbol args site index done with
      | .error error => .error error
      | .ok cursor => grammar.checkParameters symbol args site cursor rest := by
  induction done generalizing index with
  | nil => rfl
  | cons parameter done ih =>
      simp only [List.cons_append, checkParameters, ih]
      split
      · rfl
      split <;> rfl

/-- The cursor never passes the last argument. -/
theorem checkParameters_le {parameters : List Parameter} {site : Site} {index cursor : Nat}
    (hindex : index ≤ args.length)
    (h : grammar.checkParameters symbol args site index parameters = .ok cursor) :
    cursor ≤ args.length := by
  induction parameters generalizing index with
  | nil =>
      cases h
      exact hindex
  | cons parameter rest ih =>
      simp only [checkParameters] at h
      split at h
      · cases h
      split at h
      · cases h
      refine ih ?_ h
      have htaken := parameter.cardinality.take_le (args.length - index)
      omega

end Grammar

/-! ## Section 3: The positional contract -/

/-- Of the parameters past the given number of arguments, none asks for an argument. -/
def Parameter.Supplied (parameters : List Parameter) (available : Nat) : Prop :=
  ∀ index parameter, available ≤ index → parameters[index]? = some parameter →
    parameter.cardinality.minCount ≠ 1

theorem missing?_eq_none {parameters : List Parameter} {available : Nat}
    (h : Parameter.Supplied parameters available) : missing? parameters available = none := by
  apply List.find?_eq_none.2
  intro parameter hmem
  obtain ⟨offset, hoffset⟩ := List.mem_iff_getElem?.1 hmem
  rw [List.getElem?_drop] at hoffset
  simpa using h (available + offset) parameter (Nat.le_add_right _ _) hoffset

theorem supplied_of_missing? {parameters : List Parameter} {available : Nat}
    (h : missing? parameters available = none) : Parameter.Supplied parameters available := by
  intro index parameter hindex hparameter hmin
  obtain ⟨offset, rfl⟩ := Nat.exists_eq_add_of_le hindex
  rw [← List.getElem?_drop] at hparameter
  have hnone := List.find?_eq_none.1 h parameter (List.mem_of_getElem? hparameter)
  exact hnone (decide_eq_true hmin)

theorem missing?_eq_some {parameters : List Parameter} {available index : Nat}
    {parameter : Parameter} (hindex : available ≤ index)
    (hparameter : parameters[index]? = some parameter)
    (hmin : parameter.cardinality.minCount = 1)
    (hfirst : Parameter.Supplied (parameters.take index) available) :
    missing? parameters available = some parameter := by
  obtain ⟨hlt, hget⟩ := List.getElem?_eq_some_iff.1 hparameter
  -- Between the arguments and the parameter in question, the parameters ask for nothing.
  have hsplit : parameters.drop available =
      (parameters.take index).drop available ++ parameter :: parameters.drop (index + 1) := by
    rw [← hget, ← List.drop_eq_getElem_cons hlt,
      ← List.drop_append_of_le_length (by rw [List.length_take]; omega), List.take_append_drop]
  have hnone : ((parameters.take index).drop available).find?
      (fun parameter => parameter.cardinality.minCount = 1) = none := missing?_eq_none hfirst
  rw [missing?, hsplit, List.find?_append, hnone, Option.none_or]
  simp [hmin]

namespace Grammar

variable {schema : Schema} {grammar : Grammar} {symbol : String} {contract : SymbolContract}

/-- No argument is faulted by the parameter that it belongs to. -/
def Fits (grammar : Grammar) (symbol : String) (parameters : List Parameter)
    (args : List Node) : Prop :=
  ∀ index arg, args[index]? = some arg → grammar.faultAt? symbol parameters index arg = none

theorem Fits.take {parameters : List Parameter} {args : List Node}
    (h : grammar.Fits symbol parameters args) (count : Nat) :
    grammar.Fits symbol parameters (args.take count) := by
  intro index arg harg
  refine h index arg ?_
  rw [List.getElem?_take] at harg
  split at harg
  · exact harg
  · cases harg

/-- Arguments that fit are admitted as long as none is missing and none is too many. -/
theorem Fits.admits {args : List Node} (hfits : grammar.Fits symbol contract.parameters args)
    (hsymbol : grammar.symbol? symbol = some contract)
    (hlast : Parameter.VariadicLast contract.parameters)
    (hsupplied : Parameter.Supplied contract.parameters args.length)
    (henough : ¬ (contract.parameters.length < args.length ∧
      Parameter.takesRest contract.parameters = false)) : grammar.Admits symbol args := by
  intro site
  rw [checkInvocation_eq hsymbol hlast, firstFault?_eq_none hfits, missing?_eq_none hsupplied]
  simp only [if_neg henough]

/-- Arguments are admitted only if they fit, none is missing and none is too many. -/
theorem Admits.fits {args : List Node} (h : grammar.Admits symbol args)
    (hsymbol : grammar.symbol? symbol = some contract)
    (hlast : Parameter.VariadicLast contract.parameters) :
    grammar.Fits symbol contract.parameters args ∧
      Parameter.Supplied contract.parameters args.length ∧
      ¬ (contract.parameters.length < args.length ∧
        Parameter.takesRest contract.parameters = false) := by
  have hsite := h (.everywhere 0)
  rw [checkInvocation_eq hsymbol hlast] at hsite
  split at hsite
  · cases hsite
  rename_i hfits
  split at hsite
  · cases hsite
  rename_i hsupplied
  split at hsite
  · cases hsite
  rename_i henough
  exact ⟨fun _ _ harg => fault?_eq_none_of_firstFault? hfits harg,
    supplied_of_missing? hsupplied, henough⟩

/-- An invocation of a compiled symbol, decided by the indices of its arguments.  A faulty argument
comes first, then a missing one, then the first argument too many; and the walk over the parameters
behind this never takes more arguments than there are. -/
theorem checkInvocation_positional (hcompile : schema.compile = .ok grammar)
    (hsymbol : grammar.symbol? symbol = some contract) (args : List Node) (site : Site) :
    (∀ index arg fault, args[index]? = some arg →
      grammar.faultAt? symbol contract.parameters index arg = some fault →
      grammar.Fits symbol contract.parameters (args.take index) →
      grammar.checkInvocation symbol args site =
        .error (.contract fault (site.argsAt[index]?.getD site.openAt))) ∧
    (grammar.Fits symbol contract.parameters args →
      (∀ index parameter, args.length ≤ index → contract.parameters[index]? = some parameter →
        parameter.cardinality.minCount = 1 →
        Parameter.Supplied (contract.parameters.take index) args.length →
        grammar.checkInvocation symbol args site =
          .error (.contract
            (if parameter.cardinality = .oneOrMore then
              .missingRepeatedParameter symbol parameter.name
            else .missingParameter symbol parameter.name) site.openAt)) ∧
      (Parameter.Supplied contract.parameters args.length →
        if contract.parameters.length < args.length ∧
            Parameter.takesRest contract.parameters = false then
          grammar.checkInvocation symbol args site =
            .error (.contract (.tooManyArguments symbol contract.parameters.length args.length)
              (site.argAt contract.parameters.length)) ∧
          grammar.Admits symbol (args.take contract.parameters.length)
        else grammar.checkInvocation symbol args site = .ok ())) ∧
    (∀ done rest cursor, contract.parameters = done ++ rest →
      grammar.checkParameters symbol args site 0 done = .ok cursor →
      cursor ≤ args.length ∧
        grammar.checkParameters symbol args site 0 contract.parameters =
          grammar.checkParameters symbol args site cursor rest) := by
  -- Of the compilation, only the place of the variadic parameter matters.
  have hlast := variadicLast_of_compile hcompile hsymbol
  refine ⟨?_, ?_, ?_⟩
  · intro index arg fault harg hfault hfits
    rw [checkInvocation_eq hsymbol hlast, firstFault?_eq_some harg hfault hfits]
    rfl
  · intro hfits
    refine ⟨?_, ?_⟩
    · intro index parameter hindex hparameter hmin hfirst
      rw [checkInvocation_eq hsymbol hlast, firstFault?_eq_none hfits,
        missing?_eq_some hindex hparameter hmin hfirst]
      rfl
    · intro hsupplied
      split
      · rename_i htoomany
        refine ⟨?_, ?_⟩
        · rw [checkInvocation_eq hsymbol hlast, firstFault?_eq_none hfits,
            missing?_eq_none hsupplied]
          simp only [if_pos htoomany]
        · -- As many arguments as parameters leave none missing and none too many.
          have hlength : (args.take contract.parameters.length).length =
              contract.parameters.length :=
            List.length_take_of_le (Nat.le_of_lt htoomany.1)
          refine (hfits.take _).admits hsymbol hlast ?_ ?_
          · intro index parameter hindex hparameter
            have hlt := (List.getElem?_eq_some_iff.1 hparameter).1
            omega
          · omega
      · rename_i henough
        exact hfits.admits hsymbol hlast hsupplied henough site
  · intro done rest cursor hsplit hcursor
    refine ⟨checkParameters_le (Nat.zero_le _) hcursor, ?_⟩
    rw [hsplit, checkParameters_append, hcursor]

/-- The third argument of a query belongs to its second parameter, and without an offset of its own
it is reported at the opening parenthesis. -/
theorem checkInvocation_positional_query :
    ∃ grammar contract, querySchema.compile = .ok grammar ∧
      grammar.symbol? "Q" = some contract ∧
      grammar.checkInvocation "Q"
          [.symbolic "F" [.ident "sales"], .ident "S", .literal .number "42"] ⟨7, 8, [10, 20]⟩ =
        .error (.contract (.expectedNode "Q" "steps" "number literal 42") 7) := by
  obtain ⟨grammar, hcompile⟩ := querySchema_compiles
  have hsymbol : ∃ contract, grammar.symbol? "Q" = some contract ∧
      contract.parameters =
        [⟨"source", "", .node, ["F"], .required⟩, ⟨"steps", "", .node, [], .zeroOrMore⟩] := by
    rw [Grammar.symbol?, Schema.schema_of_compile hcompile]
    exact ⟨_, rfl, rfl⟩
  obtain ⟨contract, hcontract, hparameters⟩ := hsymbol
  refine ⟨grammar, contract, hcompile, hcontract, ?_⟩
  refine (checkInvocation_positional hcompile hcontract _ _).1 2 _ _ rfl ?_ ?_
  · rw [hparameters]
    rfl
  · rw [hparameters]
    intro index arg harg
    rcases index with _ | _ | index
    · cases harg
      rfl
    · cases harg
      rfl
    · cases harg

end Grammar

end SexpContract
