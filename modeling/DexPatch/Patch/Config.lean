/-!
# Patch configuration

## Main definitions

* `Config` — the parameters of the built-in patches, with their usual values
-/

namespace DexPatch

/-- The tunable parameters of the built-in patches. -/
structure Config where
  /-- How many instructions after the marker may hold the boolean read. -/
  lookaheadWindow : Nat := 15
  /-- The tier that accessors return. -/
  elevatedTier : Int32 := 2
  /-- The literals by which delay accessors are known. -/
  delayLiterals : List Int := [90, 1200]
  /-- The string loaded right before the telemetry flag is read. -/
  telemetryMarker : String := "Telemetry: "
deriving DecidableEq, Repr

end DexPatch
