import PositionOverlay.Main
import PositionOverlay.Scene.Run
import PositionOverlay.Proofs.Replay.Safety
import PositionOverlay.Proofs.Scene.Rounds
import PositionOverlay.Proofs.Scene.Healing
import PositionOverlay.Proofs.Session.Visibility
import PositionOverlay.Proofs.Tracker.Executions
import PositionOverlay.Proofs.Session.Stutter
import PositionOverlay.Proofs.Replay.Stuttering
import PositionOverlay.Proofs.Decimal.Digits
import PositionOverlay.Proofs.Json.Numerals
import PositionOverlay.Proofs.Json.Printing
import PositionOverlay.Proofs.CommandLine
import PositionOverlay.Proofs.Chart.Hearing
import PositionOverlay.Proofs.Json.Strings
import PositionOverlay.Proofs.Json.Skipping
import PositionOverlay.Proofs.Json.Members
import PositionOverlay.Proofs.Schema.Documents
import PositionOverlay.Proofs.Uuid
import PositionOverlay.Proofs.Position.Wire
import PositionOverlay.Proofs.Session.Acts
import PositionOverlay.Proofs.Scene.Placement
import PositionOverlay.Proofs.Chart.Strangers
import PositionOverlay.Proofs.Template
import PositionOverlay.Proofs.Event.Grammar
import PositionOverlay.Proofs.Settings.Leaves
import PositionOverlay.Proofs.Scene.Rebuilding
import PositionOverlay.Proofs.Scene.Coherence
