import DexPatch.EditPlan
import DexPatch.Fingerprint
import DexPatch.Patch
import DexPatch.Substitution

/-!
# The built-in patches

Both patches look for their targets by fingerprint, since names do not survive
obfuscation, and leave alone what they cannot find.

## Main definitions

* `Builtin.unlockPremium` — tier checks report the elevated tier, delays become zero
* `Builtin.disableTelemetry` — the crash reporter is disabled and the telemetry flag
  reads as false
* `Builtin.patches` — both, in the order in which they run
-/

namespace DexPatch.Builtin

/-- The packages that the patches are meant for. -/
def packages : List String := ["ch.protonvpn.android"]

/-- The class of the first method with a given fingerprint. -/
def matchedClass (f : Fingerprint) : Edit BlockError (ClassId × ClassDecl) := do
  let p ← Edit.program
  match (f.find? p).bind fun found => (p.class? found.owner).map (found.owner, ·) with
  | some target => return target
  | none => .fail (.skip (.noMatch f.name))

/-- A field that a search singled out; a block skips if it did not. -/
def resolved (what : String) : Except Unresolved FieldRef → Edit BlockError FieldRef
  | .ok f => return f
  | .error reason => .fail (.skip (.unresolved what reason))

/-- Known by the names of the accounts that it shows. -/
def vpnUser : Fingerprint where
  name := "VpnUser"
  strings := ["Proton VPN Account", "Proton Mail Account"]

/-- Known by the keys of the two delays. -/
def appConfigResponse : Fingerprint where
  name := "AppConfigResponse"
  strings := ["ChangeServerShortDelayInSeconds", "ChangeServerLongDelayInSeconds"]

/-- Known by the keys of its preferences. -/
def crashReporter : Fingerprint where
  name := "SentryIntegration"
  strings := ["sentry_installation_id", "sentry_is_enabled"]

/-- Known by the marker that precedes the flag. -/
def localUserSettings (marker : String) : Fingerprint where
  name := "LocalUserSettings"
  strings := [marker]

/-- Makes the tier checks of the user class report the elevated tier. -/
def subscriptionTier : Block where
  name := "subscription tier"
  edit config := do
    let (id, c) ← matchedClass vpnUser
    let field ← resolved "tier field" c.tierField
    let plan := (← Edit.program).planTier id field config.elevatedTier
    (applyPlan plan).mapError .fatal

/-- Zeroes the delays before a change of server. -/
def serverChangeDelay : Block where
  name := "server change delay"
  edit config := do
    let (id, _) ← matchedClass appConfigResponse
    let plan := (← Edit.program).planDelay id config.delayLiterals
    (applyPlan plan).mapError .fatal

/-- Disables the class of the crash reporter. -/
def crashReporterBlock : Block where
  name := "crash reporter"
  edit _ := do
    let (id, _) ← matchedClass crashReporter
    let plan := (← Edit.program).planDisable id
    (applyPlan plan).mapError .fatal

/-- Makes every read of the telemetry preference yield false. -/
def telemetryFlag : Block where
  name := "telemetry flag"
  edit config := do
    let (_, c) ← matchedClass (localUserSettings config.telemetryMarker)
    let field ← resolved "telemetry field"
      (c.fieldNearString config.telemetryMarker config.lookaheadWindow)
    let plan := SubstitutionPlan.collect (← Edit.program) field
    plan.apply.mapError .fatal

def unlockPremium : Patch where
  name := "Unlock Premium"
  description := "Unlocks premium features and removes server delays."
  packages
  blocks := [subscriptionTier, serverChangeDelay]

def disableTelemetry : Patch where
  name := "Disable telemetry"
  description := "Disables telemetry and crash reporting."
  packages
  blocks := [crashReporterBlock, telemetryFlag]

/-- The built-in patches in the order in which they run. -/
def patches : List Patch := [unlockPremium, disableTelemetry]

end DexPatch.Builtin
