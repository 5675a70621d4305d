import SexpContract.Grammar.LiteralType
import SexpContract.Text.WhiteSpace

/-!
# Parameter Types

What an argument has to look like, and the written form of that demand.  Reading is lenient about
white space at the ends and inside the parentheses; writing is not.
-/

namespace SexpContract

open Text

/-- What an argument has to look like. -/
inductive ParameterType where
  | identifier
  | node
  | literal (type : LiteralType)
  deriving DecidableEq, Repr

/-- Why a text names no type.  The text is kept as it was compared, after trimming. -/
inductive TypeNameFault where
  | unknownParameterType (text : String)
  | unknownLiteralType (text : String)
  deriving DecidableEq, Repr

/-- The wording of a fault in the name of a type. -/
def TypeNameFault.message : TypeNameFault → String
  | .unknownParameterType text => s!"unknown parameter type '{text}'"
  | .unknownLiteralType text => s!"unknown literal type '{text}'"

/-- The literal type with exactly the given name. -/
def LiteralType.parse (text : String) : Except TypeNameFault LiteralType :=
  match LiteralType.ofName? text with
  | some type => .ok type
  | none => .error (.unknownLiteralType text)

namespace ParameterType

/-- The normal form of a type's name. -/
def name : ParameterType → String
  | .identifier => "identifier"
  | .node => "node"
  | .literal type => "literal(" ++ type.name ++ ")"

/-- What stands between `literal(` at the start of a text and a closing parenthesis at its end. -/
def literalArgument? (text : List Char) : Option (List Char) :=
  if "literal(".toList.isPrefixOf text then
    let rest := text.drop "literal(".toList.length
    if rest.getLast? = some ')' then some rest.dropLast else none
  else none

/-- The type that a trimmed text names. -/
def ofTrimmed (text : List Char) : Except TypeNameFault ParameterType :=
  if text = "identifier".toList then .ok .identifier
  else if text = "node".toList then .ok .node
  else
    match literalArgument? text with
    | none => .error (.unknownParameterType (String.ofList text))
    | some argument => (LiteralType.parse (String.ofList (trim argument))).map .literal

/-- The type that a text names, white space around it and around its argument aside. -/
def parse (text : String) : Except TypeNameFault ParameterType :=
  ofTrimmed (trim text.toList)

theorem parse_name (type : ParameterType) : parse type.name = .ok type := by
  cases type with
  | identifier => rfl
  | node => rfl
  | literal type => cases type <;> rfl

end ParameterType

end SexpContract
