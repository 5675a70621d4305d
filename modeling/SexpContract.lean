import SexpContract.Grammar.Summary
import SexpContract.Json.DepthLimit
import SexpContract.Json.Diagnostic
import SexpContract.Json.Node
import SexpContract.Json.Schema
import SexpContract.Node.Render
import SexpContract.Program.Parse
import SexpContract.Proofs.Acceptance
import SexpContract.Proofs.Anchors
import SexpContract.Proofs.Building
import SexpContract.Proofs.Concatenation
import SexpContract.Proofs.Conservation
import SexpContract.Proofs.Construction
import SexpContract.Proofs.DefaultIdentifiers
import SexpContract.Proofs.Derivation
import SexpContract.Proofs.Diagnostics
import SexpContract.Proofs.FaultPlaces
import SexpContract.Proofs.Fixes
import SexpContract.Proofs.Layout
import SexpContract.Proofs.LexicalFaults
import SexpContract.Proofs.Limits
import SexpContract.Proofs.Lines
import SexpContract.Proofs.Nesting
import SexpContract.Proofs.Parentheses
import SexpContract.Proofs.Passthrough
import SexpContract.Proofs.Positional
import SexpContract.Proofs.Relaxation
import SexpContract.Proofs.Search
import SexpContract.Proofs.Separators
import SexpContract.Proofs.Suggestions
import SexpContract.Proofs.Tiling
import SexpContract.Proofs.WrittenNodes
import SexpContract.Proofs.WrittenSchemas
