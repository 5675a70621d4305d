import SexpContract.Program.State
import SexpContract.Token.Scan

/-!
# Programs

Reading a program from its tokens or from its source, with or without a grammar.  A fault in the
nesting, wherever it stands, comes before any broken contract.
-/

namespace SexpContract

/-- Reads the rest of a program.  Commas carry no meaning except right after an opening
parenthesis, where only a symbol may stand. -/
def parseFrom (grammar? : Option Grammar) (maxDepth : Nat) (state : State) :
    List Token → Except Error (List Node)
  | [] => state.finish grammar?
  | token :: rest =>
      match token.kind with
      -- Tokens after the end of input are ignored.
      | .endOfInput => state.finish grammar?
      | .comma => parseFrom grammar? maxDepth state rest
      | .identifier =>
          parseFrom grammar? maxDepth (state.add grammar? (.ident token.text) token.start) rest
      | .string =>
          parseFrom grammar? maxDepth
            (state.add grammar? (.literal .string token.text) token.start) rest
      | .number =>
          parseFrom grammar? maxDepth
            (state.add grammar? (.literal .number token.text) token.start) rest
      | .rightParen =>
          match state.close? grammar? with
          | some state => parseFrom grammar? maxDepth state rest
          | none => .error (.structural .unexpectedCloseParen token.start)
      | .leftParen =>
          -- The limit comes before a look at the symbol.
          if maxDepth ≤ state.frames.length then
            .error (.structural (.maxDepthExceeded maxDepth) token.start)
          else
            match rest with
            | [] => .error (.structural .unmatchedOpenParen token.start)
            | name :: rest =>
                match name.kind with
                | .identifier => parseFrom grammar? maxDepth (state.enter token.start name) rest
                | .rightParen => .error (.structural .emptyExpression token.start)
                | .endOfInput => .error (.structural .unmatchedOpenParen token.start)
                | _ => .error (.structural (.expectedSymbol name.describe) token.start)

/-- The program of a token sequence. -/
def parseTokens (grammar? : Option Grammar) (maxDepth : Nat) (tokens : List Token) :
    Except Error (List Node) :=
  parseFrom grammar? maxDepth .start tokens

/-- The program of a source. -/
def parse (grammar? : Option Grammar) (maxDepth : Nat) (source : String) :
    Except Error (List Node) :=
  (tokenize source).bind (parseTokens grammar? maxDepth)

end SexpContract
