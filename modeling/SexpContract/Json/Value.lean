/-!
# JSON Values

The data model of JSON.  An object keeps its fields as a list of pairs; writers list the fields in
ascending order of their names, so that a written value has one form.
-/

namespace SexpContract

/-- A JSON value.  A number is its digits as an integer and how many of them stand after the
decimal point. -/
inductive JsonValue where
  | null
  | bool (value : Bool)
  | number (digits : Int) (decimals : Nat)
  | string (value : String)
  | array (items : List JsonValue)
  | object (fields : List (String × JsonValue))
  deriving Repr

namespace JsonValue

instance : Inhabited JsonValue := ⟨.null⟩

/-! ## Section 1: Reading -/

/-- The first field with the given name in a list of fields. -/
def findField? (name : String) : List (String × JsonValue) → Option JsonValue
  | [] => none
  | (key, value) :: rest => if name = key then some value else findField? name rest

/-- The fields of an object. -/
def fields? : JsonValue → Option (List (String × JsonValue))
  | .object fields => some fields
  | _ => none

/-- The text of a string. -/
def string? : JsonValue → Option String
  | .string value => some value
  | _ => none

/-- The items of an array. -/
def array? : JsonValue → Option (List JsonValue)
  | .array items => some items
  | _ => none

/-- A whole number of at most the given width in bits. -/
def word? (bits : Nat) : JsonValue → Option Nat
  | .number (.ofNat value) 0 => if value < 1 <<< bits then some value else none
  | _ => none

/-- The reading of a required field. -/
def required {α : Type} (fields : List (String × JsonValue)) (name : String)
    (read : JsonValue → Option α) : Option α :=
  findField? name fields >>= read

/-- The reading of a field that stands for a default when it is absent. -/
def withDefault {α : Type} (fields : List (String × JsonValue)) (name : String) (default : α)
    (read : JsonValue → Option α) : Option α :=
  match findField? name fields with
  | none => some default
  | some value => read value

/-- The reading of a field that may be absent or null. -/
def optional {α : Type} (fields : List (String × JsonValue)) (name : String)
    (read : JsonValue → Option α) : Option (Option α) :=
  match findField? name fields with
  | none => some none
  | some .null => some none
  | some value => (read value).map some

/-! ## Section 2: Writing -/

/-- A whole number. -/
def nat (value : Nat) : JsonValue :=
  .number (.ofNat value) 0

/-- A list of strings. -/
def strings (values : List String) : JsonValue :=
  .array (values.map .string)

/-- A value or null. -/
def orNull {α : Type} (write : α → JsonValue) : Option α → JsonValue
  | none => .null
  | some value => write value

/-- A field that is left out when it has no value. -/
def unlessNone {α : Type} (name : String) (write : α → JsonValue) :
    Option α → List (String × JsonValue)
  | none => []
  | some value => [(name, write value)]

end JsonValue

end SexpContract
