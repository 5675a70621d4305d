import SexpContract.Grammar.Invocation
import SexpContract.Token.Basic

/-!
# States of Reading

What is known about a program after some of its tokens: the expressions that are still open, the
expressions that are complete, and the first broken contract.
-/

namespace SexpContract

/-- An expression whose closing parenthesis is still to come.  Its arguments and their offsets are
listed the last one first. -/
structure Frame where
  openAt : Nat
  symbolAt : Nat
  symbol : String
  args : List Node
  argsAt : List Nat
  deriving Repr

namespace Frame

/-- The frame with one more argument. -/
def add (frame : Frame) (node : Node) (position : Nat) : Frame :=
  { frame with args := node :: frame.args, argsAt := position :: frame.argsAt }

/-- The expression once it closes. -/
def node (frame : Frame) : Node :=
  .symbolic frame.symbol frame.args.reverse

/-- Where the expression stands. -/
def site (frame : Frame) : Site :=
  ⟨frame.openAt, frame.symbolAt, frame.argsAt.reverse⟩

end Frame

/-- A program that is being read.  The open expressions are listed from the inside out, the complete
ones the last one first.  A broken contract is held back until the nesting turns out sound. -/
structure State where
  frames : List Frame
  nodes : List Node
  rejection : Option Error
  deriving Repr

namespace State

/-- Before the first token. -/
def start : State :=
  ⟨[], [], none⟩

/-- The state after one more check.  Without a grammar nothing is checked, and after a broken
contract no check counts. -/
def check (state : State) (grammar? : Option Grammar) (test : Grammar → Except Error Unit) :
    State :=
  match state.rejection, grammar? with
  | none, some grammar =>
      match test grammar with
      | .error error => { state with rejection := some error }
      | .ok () => state
  | _, _ => state

/-- The state with one more complete expression, which starts at an offset. -/
def add (state : State) (grammar? : Option Grammar) (node : Node) (position : Nat) : State :=
  match state.frames with
  | frame :: outer => { state with frames := frame.add node position :: outer }
  | [] =>
      let checked := state.check grammar? fun grammar => grammar.checkTopLevel node position
      { checked with nodes := node :: state.nodes }

/-- The state after an opening parenthesis and the symbol behind it. -/
def enter (state : State) (openAt : Nat) (name : Token) : State :=
  { state with frames := ⟨openAt, name.start, name.text, [], []⟩ :: state.frames }

/-- The state after a closing parenthesis, if there is an expression to close. -/
def close? (state : State) (grammar? : Option Grammar) : Option State :=
  match state.frames with
  | [] => none
  | frame :: outer =>
      let checked := { state with frames := outer }.check grammar? fun grammar =>
        grammar.checkInvocation frame.symbol frame.args.reverse frame.site
      some (checked.add grammar? frame.node frame.openAt)

/-- The program, once no token is left. -/
def finish (state : State) (grammar? : Option Grammar) : Except Error (List Node) :=
  match state.frames with
  | frame :: _ => .error (.structural .unmatchedOpenParen frame.openAt)
  | [] =>
      let nodes := state.nodes.reverse
      let checked := state.check grammar? fun grammar => grammar.checkConstraints nodes
      match checked.rejection with
      | some error => .error error
      | none => .ok nodes

end State

end SexpContract
