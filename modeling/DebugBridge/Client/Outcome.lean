import DebugBridge.Json.Basic

/-!
How a command ends.
-/

namespace DebugBridge

/-- The result of a command, or the error that the server reports for it. -/
inductive Outcome where
  | complete (result : Json)
  | failed (error : String)
deriving DecidableEq, Repr

end DebugBridge
