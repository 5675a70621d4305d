/-!
# Drafts of Automata

An automaton takes memory for its states and for the lists that some of them carry.  A draft keeps
count of both while the automaton is laid out, and the layout fails as soon as the memory exceeds
the limit.
-/

namespace SexpContract.Automaton

/-! ## Section 1: Memory -/

/-- The bytes that a state takes. -/
def stateBytes : Nat := 32

/-- The bytes that an edge takes in the list of its state. -/
def edgeBytes : Nat := 8

/-- The bytes that a branch takes in the list of its state. -/
def branchBytes : Nat := 4

/-- The bytes that an automaton may take. -/
def memoryLimit : Nat := 10 * 1048576

/-- The number of the states that are laid out, and the bytes that their lists take. -/
structure Draft where
  states : Nat
  listBytes : Nat
  deriving DecidableEq, Repr

namespace Draft

/-- Before the first state. -/
def start : Draft := ⟨0, 0⟩

/-- The bytes that the automaton takes so far. -/
def memory (draft : Draft) : Nat :=
  stateBytes * draft.states + draft.listBytes

end Draft

/-! ## Section 2: Steps -/

/-- A step of the layout. -/
abbrev Layout := StateT Draft Option

/-- Adds a state with a list of the given size, and returns its number. -/
def addState (listBytes : Nat) : Layout Nat := fun draft =>
  let next : Draft := ⟨draft.states + 1, draft.listBytes + listBytes⟩
  if next.memory ≤ memoryLimit then some (draft.states, next) else none

/-- Adds branches to the list of a state. -/
def addBranches (count : Nat) : Layout Unit := fun draft =>
  let next : Draft := ⟨draft.states, draft.listBytes + branchBytes * count⟩
  if next.memory ≤ memoryLimit then some ((), next) else none

/-! ## Section 3: Ends -/

/-- The last state of a part: one that can be led on without cost, or one with a list of branches,
to which each way on is added. -/
inductive End where
  | plain
  | branching
  deriving DecidableEq, Repr

/-- Leads the end of a part on to another state. -/
def End.leadOn : End → Layout Unit
  | .plain => pure ()
  | .branching => addBranches 1

/-- A single state without a list. -/
def point : Layout End := do
  let _ ← addState 0
  return .plain

/-- Lays a part out a number of times, each behind the end of the one before. -/
def chainFrom (part : Layout End) : Nat → End → Layout End
  | 0, last => pure last
  | count + 1, last => do
      let next ← part
      last.leadOn
      chainFrom part count next

/-- A part a number of times; a single state when that number is zero. -/
def power (part : Layout End) : Nat → Layout End
  | 0 => point
  | count + 1 => do chainFrom part count (← part)

/-- Parts one after the other. -/
def sequenceFrom (last : End) : List (Layout End) → Layout End
  | [] => pure last
  | part :: rest => do
      let next ← part
      last.leadOn
      sequenceFrom next rest

/-- Parts one after the other; a single state without any. -/
def sequence : List (Layout End) → Layout End
  | [] => point
  | part :: rest => do sequenceFrom (← part) rest

end SexpContract.Automaton
