/-!
# Cardinality

How many arguments a parameter takes.
-/

namespace SexpContract

/-- How many arguments a parameter takes. -/
inductive Cardinality where
  | required
  | optional
  | zeroOrMore
  | oneOrMore
  deriving DecidableEq, Repr

namespace Cardinality

instance : Inhabited Cardinality := ⟨.required⟩

/-- The written name of a cardinality. -/
def name : Cardinality → String
  | .required => "required"
  | .optional => "optional"
  | .zeroOrMore => "zeroOrMore"
  | .oneOrMore => "oneOrMore"

/-- The cardinality with the given written name. -/
def ofName? (text : String) : Option Cardinality :=
  [required, optional, zeroOrMore, oneOrMore].find? fun cardinality => cardinality.name = text

/-- The fewest arguments that a parameter accepts. -/
def minCount : Cardinality → Nat
  | .required => 1
  | .oneOrMore => 1
  | .optional => 0
  | .zeroOrMore => 0

/-- The most arguments that a parameter takes, when there is such a bound. -/
def maxCount? : Cardinality → Option Nat
  | .required => some 1
  | .optional => some 1
  | .zeroOrMore => none
  | .oneOrMore => none

/-- Whether a parameter takes every argument that is left. -/
def isVariadic (cardinality : Cardinality) : Bool :=
  cardinality.maxCount?.isNone

/-- How many of the available arguments a parameter takes. -/
def take (cardinality : Cardinality) (available : Nat) : Nat :=
  match cardinality.maxCount? with
  | some most => min available most
  | none => available

theorem take_le (cardinality : Cardinality) (available : Nat) :
    cardinality.take available ≤ available := by
  cases cardinality with
  | required => exact Nat.min_le_left available 1
  | optional => exact Nat.min_le_left available 1
  | zeroOrMore => exact Nat.le_refl available
  | oneOrMore => exact Nat.le_refl available

theorem ofName?_name (cardinality : Cardinality) : ofName? cardinality.name = some cardinality := by
  cases cardinality <;> decide

end Cardinality

end SexpContract
