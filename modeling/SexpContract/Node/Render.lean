import SexpContract.Node.Basic
import SexpContract.Text.Quoted

/-!
# Rendering

The canonical source of a node and of a program.  A symbol without arguments is written without
parentheses, and a program has one top-level expression on each line.
-/

namespace SexpContract

open Text

namespace Node

mutual

/-- The characters of the canonical source of a node. -/
def renderChars : Node → List Char
  | .literal .string value => '\'' :: Quoted.encode value.toList ++ ['\'']
  | .literal .number value => value.toList
  | .symbolic symbol [] => symbol.toList
  | .symbolic symbol (arg :: rest) =>
      '(' :: symbol.toList ++ renderArgs (arg :: rest) ++ [')']

/-- The characters of a list of arguments, each after a space. -/
def renderArgs : List Node → List Char
  | [] => []
  | arg :: rest => ' ' :: renderChars arg ++ renderArgs rest

end

theorem renderChars_call (symbol : String) {args : List Node} (h : args ≠ []) :
    (symbolic symbol args).renderChars =
      '(' :: symbol.toList ++ renderArgs args ++ [')'] := by
  cases args with
  | nil => exact absurd rfl h
  | cons arg rest => rw [renderChars]

/-- The canonical source of a node. -/
def render (node : Node) : String :=
  String.ofList node.renderChars

end Node

/-- The characters of the canonical source of a program. -/
def renderProgramChars : List Node → List Char
  | [] => []
  | [node] => node.renderChars
  | node :: next :: rest => node.renderChars ++ '\n' :: renderProgramChars (next :: rest)

/-- The canonical source of a program. -/
def renderProgram (nodes : List Node) : String :=
  String.ofList (renderProgramChars nodes)

end SexpContract
