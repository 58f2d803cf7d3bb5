import DebugBridge.Wire.Frame

/-!
Reports of failures.

A report says what went wrong and, behind it, what caused that, the nearest cause first. `wrap` puts
a statement in front of a report; `text` is the whole of it on one line.
-/

namespace DebugBridge

structure Report where
  message : String
  causes : List String := []
deriving DecidableEq, Repr, Inhabited

namespace Report

/-- What went wrong, in front of all that led to it. -/
def wrap (message : String) (report : Report) : Report :=
  ⟨message, report.message :: report.causes⟩

/-- Everything that the report says, from the outermost statement to the root. -/
def chain (report : Report) : List String :=
  report.message :: report.causes

def text (report : Report) : String :=
  String.intercalate ": " report.chain

/-- A fault between two peers, with its causes. -/
def ofTransport (fault : TransportFault) : Report :=
  ⟨fault.message, fault.chain.drop 1⟩

end Report
end DebugBridge
