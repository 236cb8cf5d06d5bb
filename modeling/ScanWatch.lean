import ScanWatch.Main
import ScanWatch.Proofs.Display.BackendTable
import ScanWatch.Proofs.Display.MatchLines
import ScanWatch.Proofs.Display.StatusLine
import ScanWatch.Proofs.Engine.Expiry
import ScanWatch.Proofs.Errand.CutShort
import ScanWatch.Proofs.Errand.Lines
import ScanWatch.Proofs.Errand.Outcome
import ScanWatch.Proofs.Payload.RoundTrip
import ScanWatch.Proofs.Program.Settings
import ScanWatch.Proofs.Program.Writing
import ScanWatch.Proofs.Pursuit.Progress
import ScanWatch.Proofs.Route
import ScanWatch.Proofs.Service.Chunking
import ScanWatch.Proofs.Service.Endpoint
import ScanWatch.Proofs.Service.QueryBody
import ScanWatch.Proofs.Service.Verdict
import ScanWatch.Proofs.Session.Location
import ScanWatch.Proofs.System.Delivery
import ScanWatch.Proofs.System.Timer
import ScanWatch.Proofs.Tracker.Commuting
import ScanWatch.Proofs.Tracker.Draining
import ScanWatch.Proofs.Tracker.Forgetting
import ScanWatch.Proofs.Tracker.Leaving
import ScanWatch.Proofs.Tracker.Paging
import ScanWatch.Proofs.Tracker.Receipts
import ScanWatch.Proofs.Tracker.Repeating
import ScanWatch.Proofs.Tracker.Taints
