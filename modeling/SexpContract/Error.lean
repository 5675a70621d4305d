import SexpContract.Fault

/-!
# Errors

The one value that reading a program or compiling a grammar fails with: a fault and, where the
fault lies at a place of the source, its byte offset.
-/

namespace SexpContract

/-- The stage that raises an error. -/
inductive ErrorCategory where
  | lexical
  | syntactic
  | semantic
  | grammatical
  deriving DecidableEq, Repr

/-- The written name of a category. -/
def ErrorCategory.name : ErrorCategory → String
  | .lexical => "lexical"
  | .syntactic => "syntax"
  | .semantic => "semantic"
  | .grammatical => "grammar"

/-- Why a program or a grammar was rejected. -/
inductive Error where
  | lexical (fault : LexicalFault) (position : Nat)
  | structural (fault : StructuralFault) (position : Nat)
  | contract (fault : ContractFault) (position : Nat)
  | missingRoot (expected : String) (found : Option String)
  | grammar (fault : GrammarFault)
  deriving DecidableEq, Repr

namespace Error

/-- The byte offset of an error.  A missing root and a faulty grammar lie at no place of the
source. -/
def position? : Error → Option Nat
  | .lexical _ position => some position
  | .structural _ position => some position
  | .contract _ position => some position
  | .missingRoot _ _ => none
  | .grammar _ => none

/-- The stage that raises an error. -/
def category : Error → ErrorCategory
  | .lexical _ _ => .lexical
  | .structural _ _ => .syntactic
  | .contract _ _ => .semantic
  | .missingRoot _ _ => .semantic
  | .grammar _ => .grammatical

/-- What stands in the place of the required root. -/
def describeRoot : Option String → String
  | none => "found no symbolic root"
  | some symbol => s!"found '{symbol}'"

/-- The text shown to a reader. -/
def message : Error → String
  | .lexical fault position => fault.message position
  | .structural fault position => fault.message position
  | .contract fault position => fault.message position
  | .missingRoot expected found =>
      s!"program must have root symbol '{expected}' but " ++ describeRoot found
  | .grammar fault => fault.message

/-- Whether an error is a broken contract of a well-formed program. -/
def isSemantic (error : Error) : Bool :=
  error.category = .semantic

end Error

end SexpContract
