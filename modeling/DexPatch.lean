import DexPatch.Draft
import DexPatch.Main
import DexPatch.Proofs.EditHistory
import DexPatch.Proofs.ListingRoundTrip
import DexPatch.Proofs.BodyChanges
import DexPatch.Proofs.TrueReport
import DexPatch.Proofs.InPlace
import DexPatch.Proofs.SubstitutionFrame
import DexPatch.Proofs.SilencedMethod
import DexPatch.Proofs.RunLoop
import DexPatch.Proofs.ForceReturnLaws
import DexPatch.Proofs.SubstitutionOrder
import DexPatch.Proofs.PlanOrder
import DexPatch.Proofs.FirstMatch
import DexPatch.Proofs.MarkerSearch
import DexPatch.Proofs.TelemetryFlag
import DexPatch.Proofs.Signals
import DexPatch.Proofs.TierPlan
import DexPatch.Proofs.TallySums
import DexPatch.Proofs.TierField
import DexPatch.Proofs.NearestRead
import DexPatch.Proofs.MatchList
import DexPatch.Proofs.FirstDefect
import DexPatch.Proofs.FlatForm
import DexPatch.Proofs.Identity
import DexPatch.Proofs.ListingText
import DexPatch.Proofs.NarrowestLoad
import DexPatch.Proofs.FrameSize
import DexPatch.Proofs.PatchSelection
import DexPatch.Proofs.MethodIdentity
import DexPatch.Proofs.FlagScans
import DexPatch.Proofs.TallyOrder
