import SexpContract.Proofs.Descent

/-!
# Faults of the Nesting

Which fault is reported when the parentheses of a token sequence do not match, stand around nothing
or go too deep.  `nestingScan` passes over the tokens once, from left to right, and remembers the
open parentheses only; recursive descent, whose open parentheses are its calls, stops at the first
fault that the scan meets (`nestingScan_eq_readItems`).
-/

namespace SexpContract

/-! ## Section 1: The scan -/

/-- The fault of an opening parenthesis, by the token directly behind it.  A symbol belongs there;
that nothing follows shows at the end. -/
def openingFault? (next : Token) : Option StructuralFault :=
  match next.kind with
  | .identifier => none
  | .endOfInput => none
  | .rightParen => some .emptyExpression
  | _ => some (.expectedSymbol next.describe)

/-- The fault at a token, by the open parentheses before it and by the token directly behind it. -/
def nestingFault? (maxDepth : Nat) (stack : List Nat) (token : Token) (next? : Option Token) :
    Option StructuralFault :=
  match token.kind with
  | .rightParen => if stack.isEmpty then some .unexpectedCloseParen else none
  | .leftParen =>
      -- The limit comes before a look at the next token.
      if maxDepth ≤ stack.length then some (.maxDepthExceeded maxDepth)
      else next?.bind openingFault?
  | _ => none

/-- The offsets of the open parentheses behind a token, the innermost first. -/
def openAfter (stack : List Nat) (token : Token) : List Nat :=
  match token.kind with
  | .leftParen => token.start :: stack
  | .rightParen => stack.tail
  | _ => stack

/-- Passes over tokens up to the first fault.  The stack holds the offsets of the parentheses that
are open before them. -/
def nestingScan (maxDepth : Nat) (stack : List Nat) : List Token → Except Error Unit
  | [] =>
      match stack with
      | [] => .ok ()
      | innermost :: _ => .error (.structural .unmatchedOpenParen innermost)
  | token :: rest =>
      match nestingFault? maxDepth stack token rest.head? with
      | some fault => .error (.structural fault token.start)
      | none => nestingScan maxDepth (openAfter stack token) rest

/-! ## Section 2: Steps of the scan -/

section Steps

variable {maxDepth : Nat} {stack : List Nat} {token : Token} {rest : List Token}

theorem nestingScan_other (hopening : token.kind ≠ .leftParen)
    (hclosing : token.kind ≠ .rightParen) :
    nestingScan maxDepth stack (token :: rest) = nestingScan maxDepth stack rest := by
  have hfault : nestingFault? maxDepth stack token rest.head? = none := by
    unfold nestingFault?
    split <;> simp_all
  have hopen : openAfter stack token = stack := by
    unfold openAfter
    split <;> simp_all
  rw [nestingScan, hfault, hopen]

theorem nestingScan_closing (hkind : token.kind = .rightParen) (innermost : Nat) :
    nestingScan maxDepth (innermost :: stack) (token :: rest) =
      nestingScan maxDepth stack rest := by
  simp [nestingScan, nestingFault?, openAfter, hkind]

theorem nestingScan_deep (hkind : token.kind = .leftParen) (hdepth : maxDepth ≤ stack.length) :
    nestingScan maxDepth stack (token :: rest) =
      .error (.structural (.maxDepthExceeded maxDepth) token.start) := by
  simp [nestingScan, nestingFault?, hkind, hdepth]

theorem nestingScan_enter {name : Token} (hkind : token.kind = .leftParen)
    (hname : name.kind = .identifier) (hdepth : stack.length < maxDepth) :
    nestingScan maxDepth stack (token :: name :: rest) =
      nestingScan maxDepth (token.start :: stack) rest := by
  have hsymbol := @nestingScan_other maxDepth (token.start :: stack) name rest
    (by simp [hname]) (by simp [hname])
  rw [← hsymbol]
  simp [nestingScan, nestingFault?, openAfter, openingFault?, hkind, hname, Nat.not_le.2 hdepth]

theorem nestingScan_unnamed (hkind : token.kind = .leftParen) (hdepth : stack.length < maxDepth)
    (hname : ∀ name ∈ rest.head?, name.kind ≠ .identifier) :
    nestingScan maxDepth stack (token :: beforeEnd rest) =
      .error (.structural (symbolFault rest) token.start) := by
  cases rest with
  | nil =>
      simp [nestingScan, nestingFault?, openAfter, beforeEnd, symbolFault, hkind,
        Nat.not_le.2 hdepth]
  | cons name rest =>
      by_cases hend : name.kind = .endOfInput
      · -- Nothing stands behind the parenthesis, which is still open at the end.
        rw [beforeEnd_end rest hend]
        simp [nestingScan, nestingFault?, openAfter, symbolFault, hkind, hend,
          Nat.not_le.2 hdepth]
      · have hother := hname name rfl
        have hopening : openingFault? name = some (symbolFault (name :: rest)) := by
          cases hname' : name.kind <;> simp_all [openingFault?, symbolFault]
        have hfault : nestingFault? maxDepth stack token (some name) =
            some (symbolFault (name :: rest)) := by
          simp [nestingFault?, hkind, Nat.not_le.2 hdepth, hopening]
        rw [beforeEnd_cons rest hend, nestingScan, List.head?_cons, hfault]

end Steps

/-! ## Section 3: The scan and recursive descent -/

/-- The scan goes on where recursive descent has stopped, with the same parentheses open. -/
theorem nestingScan_eq_readItems {maxDepth depth : Nat} {tokens : List Token} (stack : List Nat)
    (hlength : stack.length = depth) :
    nestingScan maxDepth stack (beforeEnd tokens) =
      (readItems maxDepth depth tokens).bind fun reading =>
        nestingScan maxDepth stack (beforeEnd reading.rest) := by
  -- Along the calls: each call has one more parenthesis on the stack than the one around it.
  induction depth, tokens using readItems_induction maxDepth generalizing stack with
  | stop depth tokens hstop =>
      rw [readItems_stop hstop]
      rfl
  | comma depth token rest hkind ih =>
      rw [beforeEnd_cons rest (by simp [hkind]), readItems_comma hkind, Except.bind_map,
        nestingScan_other (by simp [hkind]) (by simp [hkind]), ih stack hlength]
      rfl
  | atom depth token rest expression hatom ih =>
      obtain ⟨_, hopening, hclosing, hend, _⟩ := Token.atom?_eq_some hatom
      rw [beforeEnd_cons rest hend, readItems_atom hatom, Except.bind_map,
        nestingScan_other hopening hclosing, ih stack hlength]
      rfl
  | deep depth token rest hkind hdepth =>
      rw [beforeEnd_cons rest (by simp [hkind]), readItems_deep hkind hdepth,
        nestingScan_deep hkind (hlength ▸ hdepth)]
      rfl
  | unnamed depth token rest hkind hdepth hname =>
      rw [beforeEnd_cons rest (by simp [hkind]), readItems_unnamed hkind hdepth hname,
        nestingScan_unnamed hkind (hlength ▸ hdepth) hname]
      rfl
  | call depth token name rest hkind hname hdepth ihinner ih =>
      rw [beforeEnd_cons _ (by simp [hkind]), beforeEnd_cons _ (by simp [hname]),
        nestingScan_enter hkind hname (hlength ▸ hdepth), readItems_call hkind hname hdepth,
        ihinner (token.start :: stack) (congrArg Nat.succ hlength)]
      cases hinner : readItems maxDepth (depth + 1) rest with
      | error error => rfl
      | ok inner =>
          have hstop := atStop_of_readItems hinner
          simp only [Except.bind]
          cases hclosed : inner.closed? with
          | none =>
              -- The parenthesis of this call is the innermost one that is left open.
              rw [beforeEnd_of_closed? hstop hclosed]
              rfl
          | some after =>
              obtain ⟨closing, hclosing, hrest⟩ := Reading.rest_of_closed? hclosed
              rw [hrest, beforeEnd_cons _ (by simp [hclosing]), nestingScan_closing hclosing,
                ih after.1 after.2 stack hlength]
              show _ = ((readItems maxDepth depth after.1).map _).bind _
              rw [Except.bind_map]
              rfl

theorem nestingScan_eq_readProgram (maxDepth : Nat) (tokens : List Token) :
    nestingScan maxDepth [] (beforeEnd tokens) =
      (readProgram maxDepth tokens).map fun _ => () := by
  rw [nestingScan_eq_readItems [] rfl, readProgram]
  cases hread : readItems maxDepth 0 tokens with
  | error error => rfl
  | ok reading =>
      have hstop := atStop_of_readItems hread
      simp only [Except.bind]
      cases hrest : reading.rest with
      | nil => rfl
      | cons token rest =>
          rw [hrest] at hstop
          rcases hstop token rfl with hkind | hkind
          · rw [beforeEnd_cons rest (by simp [hkind])]
            simp [nestingScan, nestingFault?, hkind, Except.map]
          · rw [beforeEnd_end rest hkind]
            simp [nestingScan, hkind, Except.map]

theorem readProgram_error_iff {maxDepth : Nat} {tokens : List Token} {error : Error} :
    readProgram maxDepth tokens = .error error ↔
      nestingScan maxDepth [] (beforeEnd tokens) = .error error := by
  rw [nestingScan_eq_readProgram]
  cases readProgram maxDepth tokens <;> simp [Except.map]

/-- Without a grammar a program is read by recursive descent.  It fails with the first fault that
the scan of the tokens before the first end mark meets, and succeeds when the scan meets none. -/
theorem parseTokens_eq_nestingScan (maxDepth : Nat) (tokens : List Token) :
    parseTokens none maxDepth tokens = (readProgram maxDepth tokens).map Expression.nodes ∧
    (∀ error, parseTokens none maxDepth tokens = .error error ↔
      nestingScan maxDepth [] (beforeEnd tokens) = .error error) ∧
    ((∃ nodes, parseTokens none maxDepth tokens = .ok nodes) ↔
      nestingScan maxDepth [] (beforeEnd tokens) = .ok ()) := by
  have hdescent := (parseTokens_eq_readProgram maxDepth tokens).1
  have hscan := nestingScan_eq_readProgram maxDepth tokens
  refine ⟨hdescent, ?_⟩
  rw [hdescent, hscan]
  cases readProgram maxDepth tokens with
  | error error => simp [Except.map]
  | ok program => simp [Except.map]

end SexpContract
