import SexpContract.Pattern.Token

/-!
# Pattern Trees

The nesting of a pattern, and the regular expression that it denotes.  A directive holds from its
place up to the end of the group around it, across bars.
-/

namespace SexpContract

/-! ## Section 1: Trees -/

/-- A pattern as it is nested. -/
inductive PatternTree where
  | empty
  | directive (change : FlagChange)
  | atom (atom : Atom)
  | repetition (bounds : Bounds) (isLazy : Bool) (body : PatternTree)
  | group (captures : Bool) (change : FlagChange) (body : PatternTree)
  | concat (parts : List PatternTree)
  | alternation (branches : List PatternTree)
  deriving Repr

namespace PatternTree

/-- Parts one after the other; a single part stands for itself. -/
def ofParts : List PatternTree → PatternTree
  | [] => .empty
  | [part] => part
  | parts => .concat parts

/-- Branches beside each other; a single branch stands for itself. -/
def ofBranches : List PatternTree → PatternTree
  | [branch] => branch
  | branches => .alternation branches

/-- Whether a repetition may follow a part. -/
def isRepeatable : PatternTree → Bool
  | .empty => false
  | .directive _ => false
  | _ => true

end PatternTree

/-! ## Section 2: Assembly -/

/-- A group whose end is still to come: its closed branches and the parts of the branch that is
being read, the last ones first. -/
structure OpenGroup where
  captures : Bool
  change : FlagChange
  branches : List PatternTree
  parts : List PatternTree

namespace OpenGroup

/-- The group before anything stands in it. -/
def start (captures : Bool) (change : FlagChange) : OpenGroup :=
  ⟨captures, change, [], []⟩

/-- The group with one more part. -/
def add (current : OpenGroup) (part : PatternTree) : OpenGroup :=
  { current with parts := part :: current.parts }

/-- The branch that is being read. -/
def branch (current : OpenGroup) : PatternTree :=
  .ofParts current.parts.reverse

/-- The group after a bar. -/
def nextBranch (current : OpenGroup) : OpenGroup :=
  { current with branches := current.branch :: current.branches, parts := [] }

/-- What stands in the group. -/
def body (current : OpenGroup) : PatternTree :=
  .ofBranches (current.branch :: current.branches).reverse

/-- The tree of the group once it closes. -/
def close (current : OpenGroup) : PatternTree :=
  .group current.captures current.change current.body

/-- The group with its last part repeated, if there is one that may be. -/
def repeatLast? (current : OpenGroup) (bounds : Bounds) (isLazy : Bool) : Option OpenGroup :=
  match current.parts with
  | [] => none
  | part :: before =>
      if part.isRepeatable then
        some { current with parts := .repetition bounds isLazy part :: before }
      else none

end OpenGroup

namespace PatternTree

/-- The tree of a sequence of tokens.  The groups around the current one are listed from the inside
out. -/
def assemble (current : OpenGroup) (outer : List OpenGroup) :
    List PatternToken → Option PatternTree
  | [] => if outer.isEmpty then some current.body else none
  | .atom part :: rest => assemble (current.add (.atom part)) outer rest
  | .directive change :: rest => assemble (current.add (.directive change)) outer rest
  | .bar :: rest => assemble current.nextBranch outer rest
  | .repetition bounds isLazy :: rest =>
      match current.repeatLast? bounds isLazy with
      | some current => assemble current outer rest
      | none => none
  -- Names of groups are checked for repetition beforehand and have no further meaning.
  | .groupStart kind change :: rest =>
      assemble (.start kind.captures change) (current :: outer) rest
  | .groupEnd :: rest =>
      match outer with
      | [] => none
      | parent :: outer => assemble (parent.add current.close) outer rest

/-! ## Section 3: Nesting -/

mutual

/-- How deep a pattern is nested. -/
def nesting : PatternTree → Nat
  | .empty => 0
  | .directive _ => 0
  | .atom (.set expr) => expr.nesting
  | .atom _ => 0
  | .repetition _ _ body => 1 + nesting body
  | .group _ _ body => 1 + nesting body
  | .concat parts => 1 + nestingList parts
  | .alternation branches => 1 + nestingList branches

/-- How deep the deepest of several patterns is nested. -/
def nestingList : List PatternTree → Nat
  | [] => 0
  | part :: rest => max (nesting part) (nestingList rest)

end

/-- The deepest nesting of a pattern. -/
def nestingLimit : Nat := 250

/-! ## Section 4: Reading -/

/-- The tree of a pattern, if it is well formed and not nested too deep. -/
def parse (text : List Char) : Option PatternTree := do
  let tokens ← PatternToken.all text
  guard (PatternToken.groupNames tokens).Nodup
  let tree ← assemble (.start false .keep) [] tokens
  guard (tree.nesting ≤ nestingLimit)
  return tree

end PatternTree

/-! ## Section 5: Denotation -/

/-- The flags in force at a place of a pattern. -/
structure Flags where
  ignoreCase : Bool
  multiLine : Bool
  dotAll : Bool
  deriving DecidableEq, Repr

/-- The flags in force at the start of a pattern. -/
def Flags.none : Flags := ⟨false, false, false⟩

/-- The flags after a directive. -/
def Flags.apply (flags : Flags) (change : FlagChange) : Flags where
  ignoreCase := change.ignoreCase.getD flags.ignoreCase
  multiLine := change.multiLine.getD flags.multiLine
  dotAll := change.dotAll.getD flags.dotAll

/-- What an atom asks for under the given flags: a character of a set, or that an assertion
holds. -/
def Atom.meaning (flags : Flags) : Atom → CharSet ⊕ Assertion
  | .literal c => .inl (.closeCaseIf flags.ignoreCase (.single c))
  | .dot => .inl (if flags.dotAll then .all else .diff .all (.single '\n'))
  | .lineStart => .inr (if flags.multiLine then .lineStart else .textStart)
  | .lineEnd => .inr (if flags.multiLine then .lineEnd else .textEnd)
  | .assertion condition => .inr condition
  | .set expr => .inl (expr.toSet flags.ignoreCase)

namespace PatternTree

mutual

/-- The regular expression of a pattern under the given flags, and the flags after it. -/
def toRegex (flags : Flags) : PatternTree → Regex × Flags
  | .empty => (.empty, flags)
  | .directive change => (.empty, flags.apply change)
  | .atom part => ((part.meaning flags).elim .chars .assert, flags)
  -- What is never repeated even once is not spelled out, however large its own bounds are.
  | .repetition ⟨_, some 0⟩ _ _ => (.empty, flags)
  | .repetition bounds _ body =>
      ((toRegex flags body).1.repeated bounds.least bounds.most?, flags)
  | .group _ change body => ((toRegex (flags.apply change) body).1, flags)
  | .concat parts =>
      let (regexes, after) := toRegexes flags parts
      (.seqAll regexes, after)
  | .alternation branches =>
      let (regexes, after) := toRegexes flags branches
      (.altAll regexes, after)

/-- The regular expressions of patterns one after the other, and the flags after them. -/
def toRegexes (flags : Flags) : List PatternTree → List Regex × Flags
  | [] => ([], flags)
  | part :: rest =>
      let (regex, between) := toRegex flags part
      let (regexes, after) := toRegexes between rest
      (regex :: regexes, after)

end

/-- The regular expression that a pattern denotes. -/
def regex (tree : PatternTree) : Regex :=
  (tree.toRegex .none).1

end PatternTree

end SexpContract
