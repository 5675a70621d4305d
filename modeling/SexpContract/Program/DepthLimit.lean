import SexpContract.Text.WhiteSpace

/-!
# The Depth Limit

How deep parentheses may be nested, and the text form in which an environment sets that limit.
-/

namespace SexpContract

open Text

/-- The deepest nesting of parentheses unless another limit is set. -/
def defaultMaxDepth : Nat := 128

/-- The number of words of 64 bits. -/
def wordCount : Nat := 18446744073709551616

/-- The text after a plus sign, which a number may start with. -/
def dropPlus : List Char → List Char
  | '+' :: rest => rest
  | text => text

/-- The value of a text of decimal digits, of which there is at least one, as a word of 64 bits. -/
def decimalWord? (text : List Char) : Option Nat :=
  if text.isEmpty ∨ !text.all Char.isDigit then none
  else
    let value := text.foldl (fun value c => 10 * value + (c.toNat - '0'.toNat)) 0
    if value < wordCount then some value else none

/-- The depth limit that a setting gives: a positive number, with white space around it aside.  Any
other setting stands for the default. -/
def depthLimit (setting : Option String) : Nat :=
  match setting.bind fun text => decimalWord? (dropPlus (trim text.toList)) with
  | some limit => if limit = 0 then defaultMaxDepth else limit
  | none => defaultMaxDepth

end SexpContract
