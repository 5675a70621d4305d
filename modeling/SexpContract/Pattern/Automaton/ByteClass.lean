import Std.Data.HashMap
import SexpContract.Pattern.Automaton.Draft
import SexpContract.Text.ByteRange

/-!
# Classes in Automata

The states that read a character of a class, byte by byte.  Forward, the products of byte ranges
are laid out as a tree whose equal parts are shared; backward, each product is a chain of its own
that shares what it has in common with an earlier one.  Sharing goes through a cache with a fixed
number of slots, in which a newer part displaces an older one.
-/

namespace SexpContract.Automaton

open Text

/-! ## Section 1: Caches -/

/-- The hash of a list of numbers. -/
def hashOf (numbers : List Nat) : UInt64 :=
  numbers.foldl (fun hash number => (hash ^^^ number.toUInt64) * 1099511628211)
    14695981039346656037

/-- Parts of an automaton that were laid out before, with their states.  A part has one slot. -/
structure Cache (α : Type) where
  slots : Nat
  entries : Std.HashMap Nat (α × Nat)

namespace Cache

/-- The cache before the first part. -/
def empty {α : Type} (slots : Nat) : Cache α :=
  ⟨slots, {}⟩

/-- The slot of a part whose hash is made from the given numbers. -/
def slot {α : Type} (cache : Cache α) (numbers : List Nat) : Nat :=
  (hashOf numbers).toNat % cache.slots

/-- The state of a part, if it stands in its slot. -/
def find? {α : Type} [DecidableEq α] (cache : Cache α) (slot : Nat) (part : α) : Option Nat :=
  match cache.entries[slot]? with
  | some (part', state) => if part' = part then some state else none
  | none => none

/-- The cache with a part in its slot. -/
def insert {α : Type} (cache : Cache α) (slot : Nat) (part : α) (state : Nat) : Cache α :=
  { cache with entries := cache.entries.insert slot (part, state) }

end Cache

/-! ## Section 2: Forward -/

/-- An edge that reads a byte of a range. -/
structure Edge where
  range : ByteRange
  target : Nat
  deriving DecidableEq, Repr

/-- The numbers from which the hash of a list of edges is made. -/
def edgeNumbers (edges : List Edge) : List Nat :=
  edges.flatMap fun edge => [edge.range.low, edge.range.high, edge.target]

/-- A node on the path to the newest product: its finished edges, and the range of the edge that
leads on along the path. -/
structure OpenNode where
  edges : List Edge
  last? : Option ByteRange

/-- The edges of a node once the edge along the path leads to a state. -/
def OpenNode.finish (node : OpenNode) (target : Nat) : List Edge :=
  match node.last? with
  | some range => node.edges ++ [⟨range, target⟩]
  | none => node.edges

/-- The cache of a tree. -/
abbrev EdgeCache := Cache (List Edge)

/-- The state with the given edges, an earlier one if the cache still holds it. -/
def nodeState (edges : List Edge) (cache : EdgeCache) : Layout (Nat × EdgeCache) :=
  let slot := cache.slot (edgeNumbers edges)
  match cache.find? slot edges with
  | some state => pure (state, cache)
  | none => do
      let state ← addState (edgeBytes * edges.length)
      return (state, cache.insert slot edges state)

/-- Finishes the nodes of a path from its end on, and returns the state of the first.  The path
leads to the given state. -/
def finishPath (target : Nat) : List OpenNode → EdgeCache → Layout (Nat × EdgeCache)
  | [], cache => pure (target, cache)
  | node :: rest, cache => do
      let (next, cache) ← finishPath target rest cache
      nodeState (node.finish next) cache

/-- Adds a product to a tree whose newest path is given.  What the product has in common with the
path stays open, the rest of the path is finished. -/
def addProduct (target : Nat) :
    List ByteRange → List OpenNode → EdgeCache → Layout (List OpenNode × EdgeCache)
  | [], path, cache => pure (path, cache)
  | ranges, [], cache => pure (ranges.map fun range => ⟨[], some range⟩, cache)
  | range :: ranges, node :: rest, cache =>
      if node.last? = some range then do
        let (rest, cache) ← addProduct target ranges rest cache
        return (node :: rest, cache)
      else do
        let (next, cache) ← finishPath target rest cache
        return (⟨node.finish next, some range⟩ :: ranges.map fun range => ⟨[], some range⟩, cache)

/-- Adds products to a tree and finishes it. -/
def addProducts (target : Nat) :
    List (List ByteRange) → List OpenNode → EdgeCache → Layout Unit
  | [], path, cache => do
      let _ ← finishPath target path cache
  | product :: rest, path, cache => do
      let (path, cache) ← addProduct target product path cache
      addProducts target rest path cache

/-- The slots of the cache of a tree. -/
def treeSlots : Nat := 10000

/-- The states of a class, read forward. -/
def classTree (ranges : List CodeRange) : Layout End := do
  let target ← addState 0
  addProducts target (ByteRange.ofCodeRanges ranges) [⟨[], none⟩] (.empty treeSlots)
  return .plain

/-! ## Section 3: Backward -/

/-- The cache of chains: a range of bytes and the state that it leads to. -/
abbrev ChainCache := Cache (Nat × ByteRange)

/-- Lays the states of a product out from its first byte on, each leading to the one before, with
the state that the first one leads to. -/
def chainProduct (target : Nat) : List ByteRange → ChainCache → Layout ChainCache
  | [], cache => pure cache
  | range :: rest, cache => do
      let slot := cache.slot [target, range.low, range.high]
      match cache.find? slot (target, range) with
      | some state => chainProduct state rest cache
      | none =>
          let state ← addState 0
          chainProduct state rest (cache.insert slot (target, range) state)

/-- Lays products out as branches of one state. -/
def chainProducts (target : Nat) : List (List ByteRange) → ChainCache → Layout Unit
  | [], _ => pure ()
  | product :: rest, cache => do
      let cache ← chainProduct target product cache
      addBranches 1
      chainProducts target rest cache

/-- The slots of the cache of chains. -/
def chainSlots : Nat := 1000

/-- The states of a class, read backward. -/
def classChains (ranges : List CodeRange) : Layout End := do
  let _ ← addState 0
  let target ← addState 0
  chainProducts target (ByteRange.ofCodeRanges ranges) (.empty chainSlots)
  return .plain

/-! ## Section 4: Classes of single bytes -/

/-- Whether every character of some ascending ranges is a single byte. -/
def isSingleByte (ranges : List CodeRange) : Bool :=
  ranges.all fun range => range.2 < 0x80

/-- The states of a class whose characters are single bytes, in either direction. -/
def byteClass (ranges : List CodeRange) : Layout End := do
  let _ ← addState 0
  let _ ← addState (edgeBytes * ranges.length)
  return .plain

end SexpContract.Automaton
