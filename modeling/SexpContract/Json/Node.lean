import SexpContract.Json.Value
import SexpContract.Node.Basic

/-!
# Nodes as JSON

A node is an object whose field "type" tells its shape.  Reading demands every field of that shape
and passes over all others.
-/

namespace SexpContract

open JsonValue

/-! ## Section 1: Kinds of literal -/

namespace LiteralKind

/-- The written name of a kind of literal. -/
def name : LiteralKind → String
  | .string => "string"
  | .number => "number"

/-- The kind of literal with the given written name. -/
def ofName? (text : String) : Option LiteralKind :=
  [string, number].find? fun kind => kind.name = text

theorem ofName?_name (kind : LiteralKind) : ofName? kind.name = some kind := by
  cases kind <;> decide

end LiteralKind

/-! ## Section 2: Fields -/

theorem sizeOf_findField? {name : String} {fields : List (String × JsonValue)} {value : JsonValue}
    (h : findField? name fields = some value) : sizeOf value < sizeOf fields := by
  induction fields with
  | nil => simp [findField?] at h
  | cons field rest ih =>
      obtain ⟨key, first⟩ := field
      rw [findField?] at h
      split at h
      · simp_all
        omega
      · have := ih h
        simp
        omega

namespace Node

/-! ## Section 3: Writing -/

mutual

/-- The JSON form of a node. -/
def toJson : Node → JsonValue
  | .literal kind value =>
      .object [("kind", .string kind.name), ("type", .string "literal"), ("value", .string value)]
  | .symbolic symbol args =>
      .object [("args", .array (listToJson args)), ("symbol", .string symbol),
        ("type", .string "symbolic")]

/-- The JSON forms of a list of nodes. -/
def listToJson : List Node → List JsonValue
  | [] => []
  | node :: rest => toJson node :: listToJson rest

end

/-! ## Section 4: Reading -/

mutual

/-- The node that a JSON value stands for. -/
def ofJson? : JsonValue → Option Node
  | .object fields =>
      match findField? "type" fields with
      | some (.string "literal") => do
          let kind ← required fields "kind" string?
          let kind ← LiteralKind.ofName? kind
          let value ← required fields "value" string?
          return .literal kind value
      | some (.string "symbolic") => do
          let symbol ← required fields "symbol" string?
          match h : findField? "args" fields with
          | some (.array items) =>
              have := sizeOf_findField? h
              let args ← listOfJson? items
              return .symbolic symbol args
          | _ => none
      | _ => none
  | _ => none
termination_by value => sizeOf value
decreasing_by simp_all; omega

/-- The nodes that a list of JSON values stands for. -/
def listOfJson? : List JsonValue → Option (List Node)
  | [] => some []
  | item :: rest => do
      let node ← ofJson? item
      let nodes ← listOfJson? rest
      return node :: nodes
termination_by items => sizeOf items

end

end Node

end SexpContract
