/-!
# Nodes

A node is a literal, or a symbol with its arguments.  A bare identifier is a symbol without
arguments.  The functions over whole trees come in pairs, one for a node and one for a list of
arguments, so that both unfold by their equations.
-/

namespace SexpContract

/-- How a literal was written. -/
inductive LiteralKind where
  | string
  | number
  deriving DecidableEq, Repr

/-- A literal holds its decoded text, a symbolic node its symbol and its arguments in order. -/
inductive Node where
  | literal (kind : LiteralKind) (value : String)
  | symbolic (symbol : String) (args : List Node)
  deriving Repr

namespace Node

instance : Inhabited Node := ⟨.symbolic "" []⟩

/-! ## Section 1: Equality -/

mutual

/-- Equality of nodes is decided symbol by symbol. -/
def decEq : (first second : Node) → Decidable (first = second)
  | .literal kind value, .literal kind' value' =>
      decidable_of_iff (kind = kind' ∧ value = value') (by simp)
  | .symbolic symbol args, .symbolic symbol' args' =>
      match decEqList args args' with
      | .isTrue h => decidable_of_iff (symbol = symbol') (by simp [h])
      | .isFalse h => .isFalse (by simp [h])
  | .literal _ _, .symbolic _ _ => .isFalse (by simp)
  | .symbolic _ _, .literal _ _ => .isFalse (by simp)

/-- Equality of argument lists. -/
def decEqList : (first second : List Node) → Decidable (first = second)
  | [], [] => .isTrue rfl
  | node :: rest, node' :: rest' =>
      match decEq node node' with
      | .isTrue h =>
          match decEqList rest rest' with
          | .isTrue hrest => .isTrue (by rw [h, hrest])
          | .isFalse hrest => .isFalse (by simp [hrest])
      | .isFalse h => .isFalse (by simp [h])
  | [], _ :: _ => .isFalse (by simp)
  | _ :: _, [] => .isFalse (by simp)

end

instance : DecidableEq Node := decEq

/-! ## Section 2: Parts of a node -/

/-- A bare identifier. -/
def ident (symbol : String) : Node :=
  .symbolic symbol []

/-- Whether a node is a literal. -/
def isLiteral : Node → Bool
  | .literal _ _ => true
  | .symbolic _ _ => false

/-- Whether a node is a symbol without arguments. -/
def isLeafSymbol : Node → Bool
  | .symbolic _ [] => true
  | _ => false

/-- The symbol of a symbolic node. -/
def symbol? : Node → Option String
  | .literal _ _ => none
  | .symbolic symbol _ => some symbol

/-- The arguments of a symbolic node; a literal has none. -/
def args : Node → List Node
  | .literal _ _ => []
  | .symbolic _ args => args

/-- The decoded text of a literal. -/
def value? : Node → Option String
  | .literal _ value => some value
  | .symbolic _ _ => none

/-- How a literal was written. -/
def literalKind? : Node → Option LiteralKind
  | .literal kind _ => some kind
  | .symbolic _ _ => none

/-- The first argument with the given symbol. -/
def argWithSymbol? (node : Node) (symbol : String) : Option Node :=
  node.args.find? fun arg => arg.symbol? = some symbol

/-- How error messages name a node. -/
def describe : Node → String
  | .literal .string value => s!"string literal '{value}'"
  | .literal .number value => s!"number literal {value}"
  | .symbolic symbol [] => s!"identifier '{symbol}'"
  | .symbolic symbol (_ :: _) => s!"expression '({symbol} ...)'"

/-! ## Section 3: Whole trees -/

mutual

/-- The number of nodes on the longest way down; a leaf has depth one. -/
def depth : Node → Nat
  | .literal _ _ => 1
  | .symbolic _ args => 1 + depthList args

/-- The greatest depth in a list of nodes, zero for the empty list. -/
def depthList : List Node → Nat
  | [] => 0
  | node :: rest => max (depth node) (depthList rest)

end

mutual

/-- The number of nodes of a tree. -/
def count : Node → Nat
  | .literal _ _ => 1
  | .symbolic _ args => 1 + countList args

/-- The number of nodes of a list of trees. -/
def countList : List Node → Nat
  | [] => 0
  | node :: rest => count node + countList rest

end

mutual

/-- The nodes of a tree, each before its arguments. -/
def walk : Node → List Node
  | .literal kind value => [.literal kind value]
  | .symbolic symbol args => .symbolic symbol args :: walkList args

/-- The nodes of a list of trees, tree after tree. -/
def walkList : List Node → List Node
  | [] => []
  | node :: rest => walk node ++ walkList rest

end

/-- The nodes of a tree with the given symbol, in the order of the walk. -/
def findAll (node : Node) (symbol : String) : List Node :=
  node.walk.filter fun part => part.symbol? = some symbol

/-! ## Section 4: Lists of nodes, element by element -/

@[simp]
theorem walkList_eq_flatMap (nodes : List Node) : walkList nodes = nodes.flatMap walk := by
  induction nodes with
  | nil => rfl
  | cons node rest ih => simp [walkList, ih]

theorem depthList_le_iff {nodes : List Node} {limit : Nat} :
    depthList nodes ≤ limit ↔ ∀ node ∈ nodes, node.depth ≤ limit := by
  induction nodes with
  | nil => simp [depthList]
  | cons node rest ih => rw [depthList, Nat.max_le, List.forall_mem_cons, ih]

/-- Induction where the arguments of a symbolic node satisfy the statement already. -/
@[elab_as_elim]
theorem inductionOn {motive : Node → Prop} (node : Node)
    (hliteral : ∀ kind value, motive (.literal kind value))
    (hsymbolic : ∀ symbol args, (∀ arg ∈ args, motive arg) → motive (.symbolic symbol args)) :
    motive node :=
  match node with
  | .literal kind value => hliteral kind value
  | .symbolic symbol args =>
      hsymbolic symbol args fun arg _ => inductionOn arg hliteral hsymbolic

theorem length_walk (node : Node) : node.walk.length = node.count := by
  apply walk.induct (fun node => node.walk.length = node.count)
    (fun nodes => (walkList nodes).length = countList nodes)
  · intro kind value
    simp [walk, count]
  · intro symbol args ih
    rw [walk, count, List.length_cons, ih]
    omega
  · simp [walkList, countList]
  · intro node rest ih ihrest
    rw [walkList, countList, List.length_append, ih, ihrest]

end Node

end SexpContract
