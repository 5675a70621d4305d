import SexpContract.Pattern.Automaton.Draft

/-!
# Tries of Literals

An alternation of nothing but literals is laid out as a trie of their bytes.  Where a literal ends,
the bytes that continue it are cut into those added before and those added after, so that the order
of the literals is kept.
-/

namespace SexpContract.Automaton

/-! ## Section 1: Tries -/

/-- A trie: the runs of continuations that were cut off where a literal ends, and the run that may
still grow, in the order of the bytes. -/
inductive LiteralTrie where
  | node (closed : List (List (UInt8 × LiteralTrie))) (growing : List (UInt8 × LiteralTrie))

namespace LiteralTrie

/-- The trie without literals. -/
def empty : LiteralTrie := .node [] []

/-- Whether nothing continues at a trie. -/
def isLeaf : LiteralTrie → Bool
  | .node closed growing => closed.all List.isEmpty && growing.isEmpty

/-- The trie after a literal ends at it. -/
def close : LiteralTrie → LiteralTrie
  | .node closed growing =>
      if (LiteralTrie.node closed growing).isLeaf && !closed.isEmpty then .node closed growing
      else .node (closed ++ [growing]) []

/-- The trie that follows a byte in an ascending run, if there is one. -/
def following? (byte : UInt8) : List (UInt8 × LiteralTrie) → Option LiteralTrie
  | [] => none
  | (byte', trie) :: rest => if byte = byte' then some trie else following? byte rest

/-- An ascending run with a trie after a byte. -/
def putAfter (byte : UInt8) (trie : LiteralTrie) :
    List (UInt8 × LiteralTrie) → List (UInt8 × LiteralTrie)
  | [] => [(byte, trie)]
  | (byte', trie') :: rest =>
      if byte < byte' then (byte, trie) :: (byte', trie') :: rest
      else if byte = byte' then (byte, trie) :: rest
      else (byte', trie') :: putAfter byte trie rest

/-- The trie with one more literal. -/
def add : List UInt8 → LiteralTrie → LiteralTrie
  | [], trie => trie.close
  | byte :: rest, .node closed growing =>
      .node closed (putAfter byte (add rest ((following? byte growing).getD .empty)) growing)

/-- The trie of several literals. -/
def ofLiterals (literals : List (List UInt8)) : LiteralTrie :=
  literals.foldl (fun trie literal => trie.add literal) .empty

/-! ## Section 2: Layout -/

/-- Adds the state of a run, one without a list for a single byte, and returns how many branches
lead to it. -/
def addRun (length : Nat) : Layout Nat :=
  match length with
  | 0 => pure 0
  | 1 => do
      let _ ← addState 0
      return 1
  | length => do
      let _ ← addState (edgeBytes * length)
      return 1

mutual

/-- Lays a trie out: the states of its runs, and one that branches to them and, between two runs,
to the end of the literal. -/
def layOut : LiteralTrie → Layout Unit
  | .node closed growing => do
      let branches ← layOutRuns closed
      layOutRun growing
      let last ← addRun growing.length
      let _ ← addState (branchBytes * (branches + last))

/-- Lays closed runs out, and returns how many branches lead to them and to the ends behind
them. -/
def layOutRuns : List (List (UInt8 × LiteralTrie)) → Layout Nat
  | [] => pure 0
  | run :: rest => do
      layOutRun run
      let branches ← addRun run.length
      return branches + 1 + (← layOutRuns rest)

/-- Lays out what follows each byte of a run, unless it only ends a literal. -/
def layOutRun : List (UInt8 × LiteralTrie) → Layout Unit
  | [] => pure ()
  | (_, trie) :: rest => do
      if !trie.isLeaf then layOut trie
      layOutRun rest

end

/-- The states of an alternation of literals. -/
def states (literals : List (List UInt8)) : Layout End := do
  let _ ← addState 0
  layOut (ofLiterals literals)
  return .plain

end LiteralTrie

end SexpContract.Automaton
