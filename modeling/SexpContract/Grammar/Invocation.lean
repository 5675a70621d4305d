import SexpContract.Grammar.Basic

/-!
# Invocations

The checks of expressions against the contracts of their symbols.  Parameters take arguments from
the left, each as many as its cardinality allows; the first fault met on the way is reported.
-/

namespace SexpContract

/-! ## Section 1: Sites -/

/-- Where an invocation stands in the source: its opening parenthesis, its symbol and its
arguments.  An argument without an offset of its own is reported at the opening parenthesis. -/
structure Site where
  openAt : Nat
  symbolAt : Nat
  argsAt : List Nat
  deriving DecidableEq, Repr

namespace Site

/-- The site with a single offset. -/
def everywhere (position : Nat) : Site :=
  ⟨position, position, []⟩

/-- The offset of an argument. -/
def argAt (site : Site) (index : Nat) : Nat :=
  site.argsAt[index]?.getD site.openAt

end Site

namespace Grammar

/-! ## Section 2: Arguments -/

/-- What is wrong with an argument where an identifier is expected. -/
def identifierFault? (grammar : Grammar) (symbol : String) (parameter : Parameter) (arg : Node) :
    Option ContractFault :=
  match arg with
  | .symbolic name [] =>
      if grammar.matchesIdentifier name then none
      else some (.expectedIdentifier symbol parameter.name
        s!"'{name}', which does not match the identifier rule")
  | _ => some (.expectedIdentifier symbol parameter.name arg.describe)

/-- What is wrong with an argument where a symbolic node is expected. -/
def nodeFault? (symbol : String) (parameter : Parameter) (arg : Node) : Option ContractFault :=
  match arg.symbol? with
  | some child =>
      if parameter.allowedSymbols.isEmpty || parameter.allowedSymbols.contains child then none
      else some (.disallowedSymbol symbol parameter.name parameter.allowedSymbols child)
  | none => some (.expectedNode symbol parameter.name arg.describe)

/-- What is wrong with an argument where a literal is expected. -/
def literalFault? (grammar : Grammar) (symbol : String) (parameter : Parameter)
    (type : LiteralType) (arg : Node) : Option ContractFault :=
  match arg with
  | .literal kind value =>
      if grammar.acceptsLiteral type kind value then none
      else some (.expectedLiteral symbol parameter.name type arg.describe)
  | _ => some (.expectedLiteral symbol parameter.name type arg.describe)

/-- What is wrong with an argument of a parameter. -/
def argumentFault? (grammar : Grammar) (symbol : String) (parameter : Parameter) (arg : Node) :
    Option ContractFault :=
  match parameter.type with
  | .identifier => grammar.identifierFault? symbol parameter arg
  | .node => nodeFault? symbol parameter arg
  | .literal type => grammar.literalFault? symbol parameter type arg

/-- Checks the arguments that one parameter takes; the first of them has the given index. -/
def checkArguments (grammar : Grammar) (symbol : String) (parameter : Parameter) (site : Site)
    (index : Nat) : List Node → Except Error Unit
  | [] => .ok ()
  | arg :: rest =>
      match grammar.argumentFault? symbol parameter arg with
      | some fault => .error (.contract fault (site.argAt index))
      | none => grammar.checkArguments symbol parameter site (index + 1) rest

/-! ## Section 3: Parameters -/

/-- The fault of a parameter that finds too few arguments. -/
def missingFault (symbol : String) (parameter : Parameter) : ContractFault :=
  if parameter.cardinality = .oneOrMore then .missingRepeatedParameter symbol parameter.name
  else .missingParameter symbol parameter.name

/-- Checks parameters in order against the arguments from an index on, and returns the index of the
first argument that none of them takes. -/
def checkParameters (grammar : Grammar) (symbol : String) (args : List Node) (site : Site)
    (index : Nat) : List Parameter → Except Error Nat
  | [] => .ok index
  | parameter :: rest =>
      -- Repeated and optional parameters are greedy: nothing is given back to later ones.
      let taken := parameter.cardinality.take (args.length - index)
      if taken < parameter.cardinality.minCount then
        .error (.contract (missingFault symbol parameter) site.openAt)
      else
        match grammar.checkArguments symbol parameter site index
            ((args.drop index).take taken) with
        | .error error => .error error
        | .ok () => grammar.checkParameters symbol args site (index + taken) rest

/-! ## Section 4: Expressions -/

/-- Checks a symbol with its arguments against the contract of the symbol. -/
def checkInvocation (grammar : Grammar) (symbol : String) (args : List Node) (site : Site) :
    Except Error Unit :=
  match grammar.symbol? symbol with
  | none => .error (.contract (.unknownSymbol symbol (grammar.suggest? symbol)) site.symbolAt)
  | some contract =>
      match grammar.checkParameters symbol args site 0 contract.parameters with
      | .error error => .error error
      | .ok index =>
          if index < args.length then
            .error (.contract (.tooManyArguments symbol index args.length) (site.argAt index))
          else .ok ()

/-- Checks an expression at top level.  A bare identifier counts as an invocation without
arguments; an expression in parentheses is checked when it closes. -/
def checkTopLevel (grammar : Grammar) (node : Node) (position : Nat) : Except Error Unit :=
  match node with
  | .symbolic symbol [] => grammar.checkInvocation symbol [] (.everywhere position)
  | _ => .ok ()

/-- Checks a program against the roots that a list of constraints demands. -/
def checkRoots (nodes : List Node) : List RootConstraint → Except Error Unit
  | [] => .ok ()
  | constraint :: rest =>
      let found := nodes.head?.bind Node.symbol?
      if found = some constraint.root then checkRoots nodes rest
      else .error (.missingRoot constraint.root found)

/-- Checks a program against the constraints of the grammar. -/
def checkConstraints (grammar : Grammar) (nodes : List Node) : Except Error Unit :=
  checkRoots nodes grammar.schema.constraints

end Grammar

end SexpContract
