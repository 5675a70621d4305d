/-!
# Literal Types

The subtypes that a literal parameter can ask for.
-/

namespace SexpContract

/-- A subtype of literal values. -/
inductive LiteralType where
  | string
  | number
  | boolean
  | null
  deriving DecidableEq, Repr

namespace LiteralType

/-- The literal types in the order in which their rules are compiled. -/
def all : List LiteralType :=
  [.string, .number, .boolean, .null]

/-- The written name of a literal type. -/
def name : LiteralType → String
  | .string => "string"
  | .number => "number"
  | .boolean => "boolean"
  | .null => "null"

/-- The literal type with the given written name. -/
def ofName? (text : String) : Option LiteralType :=
  all.find? fun type => type.name = text

theorem mem_all (type : LiteralType) : type ∈ all := by
  cases type <;> decide

theorem ofName?_name (type : LiteralType) : ofName? type.name = some type := by
  cases type <;> decide

theorem name_of_ofName? {text : String} {type : LiteralType} (h : ofName? text = some type) :
    type.name = text := by
  simpa using List.find?_some h

end LiteralType

end SexpContract
