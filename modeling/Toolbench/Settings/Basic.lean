/-! The settings of a bench. -/

namespace Toolbench

/-- The preamble stands before the text of every observation. -/
structure Settings where
  strictRegistration : Bool := false
  preamble : String := "Observation: "
  reportFallbacks : Bool := true
  logLevel : String := "INFO"
deriving DecidableEq, Repr

end Toolbench
