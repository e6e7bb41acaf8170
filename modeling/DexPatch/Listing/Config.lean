import DexPatch.Listing.Record
import DexPatch.Patch.Config

/-!
# Configurations in listings

A configuration names the parameters that it changes; any other key is an error.

## Main definitions

* `Config.ofNode` — reads a configuration
-/

namespace DexPatch.Config

/-- The keys of a configuration. -/
def keys : List String :=
  ["lookahead_window", "elevated_tier", "delay_literals", "telemetry_marker"]

/-- Reads a configuration; a missing key has its usual value. -/
def ofNode : Node → Except ListingError Config :=
  let usual : Config := {}
  Record.ofNode keys <|
    .known keys *> (Config.mk
      <$> .defaulted "lookahead_window" usual.lookaheadWindow (Node.asNatural UInt64.size)
      <*> .defaulted "elevated_tier" usual.elevatedTier Node.asInt32
      <*> .defaulted "delay_literals" usual.delayLiterals (Node.asList Node.asInt64)
      <*> .defaulted "telemetry_marker" usual.telemetryMarker Node.asText)

end DexPatch.Config
