import EntityForge.Decimal.Fixed
import EntityForge.Text.Basic

/-!
# Stopwatches

A named measurement of elapsed seconds, as it is shown when a run is profiled.
-/

namespace EntityForge

/-- What is measured and how many seconds it took. -/
structure Stopwatch where
  label : Text := "operation"
  elapsed : Float := 0

/-- The measurement with four places. -/
def Stopwatch.describe (stopwatch : Stopwatch) : Text :=
  "<Timer " ++ stopwatch.label ++ ": " ++ Decimal.fixed 4 stopwatch.elapsed ++ "s>"

end EntityForge
