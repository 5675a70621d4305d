import SexpContract.Pattern.Automaton.ByteClass
import SexpContract.Pattern.Automaton.LiteralTrie
import SexpContract.Pattern.NormalForm

/-!
# The Size of an Automaton

A pattern is searched for with two automata, one that reads forward and one that reads backward.
The layout follows the normal form of the pattern; counted repetitions are spelled out.  A pattern
is small enough if both automata keep within the limit.
-/

namespace SexpContract.Automaton

open Text

/-! ## Section 1: Parts -/

/-- The direction in which an automaton reads.  Only the forward one records groups. -/
inductive Direction where
  | forward
  | backward
  deriving DecidableEq, Repr

/-- The bytes of a text in the order in which they are read; the text itself is given in that
order. -/
def Direction.bytes (direction : Direction) (text : List Char) : List UInt8 :=
  match direction with
  | .forward => text.flatMap String.utf8EncodeChar
  | .backward => text.flatMap fun c => (String.utf8EncodeChar c).reverse

/-- The states of a class. -/
def classStates (direction : Direction) (ranges : List CodeRange) : Layout End :=
  if isSingleByte ranges then byteClass ranges
  else
    match direction with
    | .forward => classTree ranges
    | .backward => classChains ranges

/-- A part whose beginning and end are recorded. -/
def recorded (part : Layout End) : Layout End := do
  let _ ← addState 0
  let last ← part
  let _ ← addState 0
  last.leadOn
  return .plain

/-- The branches behind the second one, each led on to the common end. -/
def furtherBranches : List (Layout End) → Layout Unit
  | [] => pure ()
  | branch :: rest => do
      let last ← branch
      addBranches 1
      last.leadOn
      furtherBranches rest

/-- One of several branches.  The state that branches and the common end come after the first two
branches. -/
def choice : List (Layout End) → Layout End
  | [] => point
  | [branch] => branch
  | first :: second :: rest => do
      let firstEnd ← first
      let secondEnd ← second
      let _ ← addState (2 * branchBytes)
      let _ ← addState 0
      firstEnd.leadOn
      secondEnd.leadOn
      furtherBranches rest
      return .plain

/-! ## Section 2: Repetitions -/

/-- A part at most once. -/
def optional (part : Layout End) : Layout End := do
  let _ ← addState (2 * branchBytes)
  let last ← part
  let _ ← addState 0
  last.leadOn
  return .plain

/-- A part any number of times.  Only a part that certainly spans some text may simply lead back to
the state before it. -/
def anyNumber (spansText : Bool) (part : Layout End) : Layout End := do
  if spansText then
    let _ ← addState branchBytes
    let last ← part
    last.leadOn
    return .branching
  else
    let last ← part
    let _ ← addState (2 * branchBytes)
    last.leadOn
    let _ ← addState (2 * branchBytes)
    let _ ← addState 0
    return .plain

/-- A part at least the given number of times, which is not zero: the last of them leads back to
itself. -/
def atLeast (part : Layout End) (least : Nat) : Layout End := do
  if least = 1 then
    let last ← part
    let _ ← addState branchBytes
    last.leadOn
    return .branching
  else
    let before ← power part (least - 1)
    let last ← part
    let _ ← addState branchBytes
    before.leadOn
    last.leadOn
    return .branching

/-- A part up to the given number of times, each behind a state that may leave instead. -/
def upToFrom (part : Layout End) : Nat → End → Layout End
  | 0, last => do
      last.leadOn
      return .plain
  | count + 1, last => do
      let _ ← addState (2 * branchBytes)
      let next ← part
      last.leadOn
      upToFrom part count next

/-- A part a number of times between two bounds. -/
def between (part : Layout End) (least most : Nat) : Layout End := do
  let before ← power part least
  let _ ← addState 0
  upToFrom part (most - least) before

/-- A part as often as the bounds of a repetition say. -/
def repetition (bounds : Bounds) (spansText : Bool) (part : Layout End) : Layout End :=
  match bounds.least, bounds.most? with
  | 0, some 1 => optional part
  | 0, none => anyNumber spansText part
  | least, none => atLeast part least
  | least, some most => if least = most then power part least else between part least most

/-! ## Section 3: Forms -/

/-- The texts of several forms that are all literals, if there are two or more. -/
def literals? (branches : List NormalForm) : Option (List (List Char)) :=
  let texts := branches.filterMap fun
    | .literal text => some text
    | _ => none
  if texts.length = branches.length ∧ 2 ≤ texts.length then some texts else none

mutual

/-- The states of a form.  A form for the backward direction is given reversed. -/
def states (direction : Direction) : NormalForm → Layout End
  | .empty => point
  | .literal text => sequence ((direction.bytes text).map fun _ => point)
  | .chars ranges => classStates direction ranges
  | .assertion _ => point
  | .repetition bounds _ body => repetition bounds body.spansText (states direction body)
  | .capture body =>
      match direction with
      | .forward => recorded (states direction body)
      | .backward => states direction body
  | .concat parts => sequence (statesOfEach direction parts)
  | .alternation branches =>
      match literals? branches with
      | some texts => LiteralTrie.states (texts.map direction.bytes)
      | none => choice (statesOfEach direction branches)

/-- The states of each of several forms. -/
def statesOfEach (direction : Direction) : List NormalForm → List (Layout End)
  | [] => []
  | form :: rest => states direction form :: statesOfEach direction rest

end

/-! ## Section 4: Whole automata -/

/-- The states of an automaton.  Unless all matches start at an end of the text, it starts with a
loop over any bytes; at last comes the state that accepts. -/
def whole (direction : Direction) (anchored : Bool) (form : NormalForm) : Layout Unit := do
  if anchored then
    let _ ← point
  else
    let _ ← anyNumber true (byteClass [(0, 0xFF)])
    addBranches 1
  let last ← match direction with
    | .forward => recorded (states direction form)
    | .backward => states direction form
  let _ ← addState 0
  last.leadOn

/-- Whether the automaton of a form in a direction keeps within the limit. -/
def fits (direction : Direction) (form : NormalForm) : Bool :=
  let form := match direction with
    | .forward => form
    | .backward => form.reversed
  let anchor : Assertion := match direction with
    | .forward => .textStart
    | .backward => .textEnd
  ((whole direction (form.startsWith anchor) form).run .start).isSome

end SexpContract.Automaton

namespace SexpContract

/-- Whether both automata of a form keep within the limit. -/
def NormalForm.isSmall (form : NormalForm) : Bool :=
  Automaton.fits .forward form && Automaton.fits .backward form

end SexpContract
