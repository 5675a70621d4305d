import SexpContract.Error
import SexpContract.Text.Length
import SexpContract.Token.Lexeme

/-!
# Tokens of a Source

`tokenize` cuts a source into lexemes, skipping the blanks between them, and closes the sequence
with one end mark.
-/

namespace SexpContract

open Text

/-- The token that a lexeme becomes when it starts at a byte offset. -/
def Lexeme.toToken (start : Nat) (lexeme : Lexeme) : Token where
  kind := lexeme.kind
  text := String.ofList lexeme.text
  start := start
  stop := start + byteLength lexeme.source

/-- The end mark of a source of the given length in bytes. -/
def Token.endMark (position : Nat) : Token where
  kind := .endOfInput
  text := ""
  start := position
  stop := position

/-- The tokens of a text that starts at a byte offset of its source. -/
def tokensFrom (position : Nat) : List Char → Except Error (List Token)
  | [] => .ok [.endMark position]
  | c :: rest =>
      if isBlank c then tokensFrom (position + c.utf8Size) rest
      else
        match h : Lexeme.first c rest with
        | .error fault => .error (.lexical fault position)
        | .ok (lexeme, after) => do
            have := Lexeme.length_first h
            let tokens ← tokensFrom (position + byteLength lexeme.source) after
            .ok (lexeme.toToken position :: tokens)
termination_by text => text.length
decreasing_by all_goals simp only [List.length_cons] at *; omega

/-- The tokens of a source, closed by one end mark. -/
def tokenize (source : String) : Except Error (List Token) :=
  tokensFrom 0 source.toList

end SexpContract
