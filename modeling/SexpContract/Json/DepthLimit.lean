import SexpContract.Json.Value
import SexpContract.Program.DepthLimit

/-!
# The Depth Limit as JSON

A configuration is an object with the limit as its one field, which may be left out.
-/

namespace SexpContract

open JsonValue

/-- The depth limit of a configuration.  Zero is a limit like any other. -/
def depthLimitOfJson? (value : JsonValue) : Option Nat := do
  let fields ← value.fields?
  withDefault fields "maxDepth" defaultMaxDepth (word? 64)

end SexpContract
