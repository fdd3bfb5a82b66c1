import ServiceHarness.Main
import ServiceHarness.Proofs.Clock.Elapsed
import ServiceHarness.Proofs.CommandLine.Arrangement
import ServiceHarness.Proofs.CommandLine.ExitStatus
import ServiceHarness.Proofs.Environment.Replay
import ServiceHarness.Proofs.Http.Awaiting
import ServiceHarness.Proofs.Launcher.Table
import ServiceHarness.Proofs.Plan.StagePatches
import ServiceHarness.Proofs.Plan.Validation
import ServiceHarness.Proofs.Run.Afresh
import ServiceHarness.Proofs.Run.Closing
import ServiceHarness.Proofs.Run.Conservation
import ServiceHarness.Proofs.Run.Driving
import ServiceHarness.Proofs.Run.FailedStage
import ServiceHarness.Proofs.Run.Faithfulness
import ServiceHarness.Proofs.Run.Findings
import ServiceHarness.Proofs.Run.History
import ServiceHarness.Proofs.Run.Interruption
import ServiceHarness.Proofs.Run.LostSender
import ServiceHarness.Proofs.Run.OutputMode
import ServiceHarness.Proofs.Run.Success
import ServiceHarness.Proofs.Run.Supervision
import ServiceHarness.Proofs.Run.Truncation
import ServiceHarness.Proofs.Run.Waiting
import ServiceHarness.Proofs.Sequential.Refinement
import ServiceHarness.Proofs.Session.Abreast
import ServiceHarness.Proofs.Session.Maintaining
import ServiceHarness.Proofs.Settings.Obstacles
import ServiceHarness.Proofs.Settings.Precedence
import ServiceHarness.Proofs.Settings.Selection
import ServiceHarness.Proofs.Settings.WellFormed
import ServiceHarness.Proofs.StopSignal.Interleaving
import ServiceHarness.StopSignal
