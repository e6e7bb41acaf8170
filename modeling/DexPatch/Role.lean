import DexPatch.Evidence
import DexPatch.ReturnValue

/-!
# Roles

What a method is for, as far as the classifier can tell, and what it should return
because of that.

## Main definitions

* `Role` — the purposes that the classifier tells apart
* `Role.ofEvidence?` — the role of a boolean method, by its strongest signal
* `Role.forcedValue` — the value that a method of a role is made to return
-/

namespace DexPatch

/-- The inferred purpose of a method. -/
inductive Role
  /-- Checks for the highest tier. -/
  | teamExclusive
  /-- Checks for the elevated tier. -/
  | elevatedInclusion
  /-- Checks for the free tier. -/
  | freeTier
  /-- Checks for the middle tier. -/
  | midInclusion
  /-- Returns the tier itself. -/
  | tierAccessor
  /-- Returns the delay before a change of server. -/
  | serverDelay
  /-- A boolean switch of a component that is being disabled. -/
  | switch
  /-- An action of a component that is being disabled. -/
  | action
deriving DecidableEq, Repr

namespace Role

def text : Role → String
  | teamExclusive => "team-exclusive check"
  | elevatedInclusion => "elevated-tier check"
  | freeTier => "free-tier check"
  | midInclusion => "mid-tier check"
  | tierAccessor => "tier accessor"
  | serverDelay => "server delay"
  | switch => "switch"
  | action => "action"

/-- The value that a method of this role is made to return. -/
def forcedValue (elevatedTier : Int32) : Role → ReturnValue
  | teamExclusive | freeTier | switch => .boolean false
  | elevatedInclusion | midInclusion => .boolean true
  | tierAccessor => .integer elevatedTier
  | serverDelay => .integer 0
  | action => .void

/-- The role of a boolean method: literal three comes before literal two, that before a
zero test, and that before literal one. -/
def ofEvidence? (e : Evidence) : Option Role :=
  if e.literal3 then some teamExclusive
  else if e.literal2 then some elevatedInclusion
  else if e.zeroTest then some freeTier
  else if e.literal1 then some midInclusion
  else none

end Role

end DexPatch
