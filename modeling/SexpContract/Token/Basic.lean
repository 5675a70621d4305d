/-!
# Tokens

A token is one lexical unit with its decoded text and the bytes of the source that it covers.
-/

namespace SexpContract

/-- The kinds of token. -/
inductive TokenKind where
  | leftParen
  | rightParen
  | comma
  | identifier
  | string
  | number
  | endOfInput
  deriving DecidableEq, Repr

/-- How error messages name a kind of token. -/
def TokenKind.text : TokenKind → String
  | .leftParen => "'('"
  | .rightParen => "')'"
  | .comma => "','"
  | .identifier => "identifier"
  | .string => "string"
  | .number => "number"
  | .endOfInput => "end of input"

/-- One lexical unit, over the bytes from `start` up to but not including `stop`.  The text of a
string token is what the literal denotes, without quotes. -/
structure Token where
  kind : TokenKind
  text : String
  start : Nat
  stop : Nat
  deriving DecidableEq, Repr

namespace Token

/-- Whether a token marks the end of the input. -/
def isEnd (token : Token) : Bool :=
  token.kind = .endOfInput

/-- How error messages name a token. -/
def describe (token : Token) : String :=
  match token.kind with
  | .identifier => s!"identifier '{token.text}'"
  | .string => s!"string '{token.text}'"
  | .number => s!"number {token.text}"
  | kind => kind.text

end Token

end SexpContract
