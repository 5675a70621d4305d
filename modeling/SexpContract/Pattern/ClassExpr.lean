import SexpContract.Pattern.CharSet

/-!
# Class Expressions

What a character class says, before it is known whether case matters.  `ClassExpr.toSet` decides
that: where case is ignored, every part is closed under case before it is complemented.
-/

namespace SexpContract

/-- The operations that join two character classes. -/
inductive SetOperation where
  | intersection
  | difference
  | symmetricDifference
  deriving DecidableEq, Repr

/-- The set that an operation makes of two sets. -/
def SetOperation.apply : SetOperation → CharSet → CharSet → CharSet
  | .intersection, first, second => .inter first second
  | .difference, first, second => .diff first second
  | .symmetricDifference, first, second => .symmDiff first second

/-- A character class.  A fixed class is closed under case by itself; a named one is not. -/
inductive ClassExpr where
  | literal (c : Char)
  | range (low high : Char)
  | fixed (set : CharSet)
  | named (negated : Bool) (set : CharSet)
  | bracket (negated : Bool) (inner : ClassExpr)
  | union (items : List ClassExpr)
  | combined (operation : SetOperation) (first second : ClassExpr)
  deriving Repr

namespace ClassExpr

/-- The class of a list of items; a single item stands for itself. -/
def ofItems : List ClassExpr → ClassExpr
  | [item] => item
  | items => .union items

mutual

/-- The set of a class. -/
def toSet (ignoreCase : Bool) : ClassExpr → CharSet
  | .literal c => .single c
  | .range low high => .range low high
  | .fixed set => set
  | .named negated set => .complementIf negated (.closeCaseIf ignoreCase set)
  | .bracket negated inner =>
      .complementIf negated (.closeCaseIf ignoreCase (toSet ignoreCase inner))
  | .union items => .unions (toSets ignoreCase items)
  | .combined operation first second =>
      operation.apply (.closeCaseIf ignoreCase (toSet ignoreCase first))
        (.closeCaseIf ignoreCase (toSet ignoreCase second))

/-- The sets of a list of classes. -/
def toSets (ignoreCase : Bool) : List ClassExpr → List CharSet
  | [] => []
  | item :: rest => toSet ignoreCase item :: toSets ignoreCase rest

end

mutual

/-- How deep a class is nested: brackets, operations and lists of items each count one. -/
def nesting : ClassExpr → Nat
  | .literal _ => 0
  | .range _ _ => 0
  | .fixed _ => 0
  | .named _ _ => 0
  | .bracket _ inner => 1 + nesting inner
  | .union [] => 0
  | .union (item :: rest) => 1 + max (nesting item) (nestingList rest)
  | .combined _ first second => 1 + max (nesting first) (nesting second)

/-- How deep the deepest class of a list is nested. -/
def nestingList : List ClassExpr → Nat
  | [] => 0
  | item :: rest => max (nesting item) (nestingList rest)

end

end ClassExpr

end SexpContract
