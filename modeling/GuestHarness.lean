import GuestHarness.Bench
import GuestHarness.CommandLine.Request
import GuestHarness.EmulatorTest
import GuestHarness.ScriptedInput
import GuestHarness.Main
import GuestHarness.Proofs.Clock
import GuestHarness.Proofs.Target.Laws
import GuestHarness.Proofs.Target.Recorded
import GuestHarness.Proofs.Sequencing
import GuestHarness.Proofs.Target.Scripted
import GuestHarness.Proofs.Termination
import GuestHarness.Proofs.Output.Finish
import GuestHarness.Proofs.Session.Recording
import GuestHarness.Proofs.Session.Bounded
import GuestHarness.Proofs.Session.Consistent
import GuestHarness.Proofs.Output.Watch
import GuestHarness.Proofs.Output.Waiting
import GuestHarness.Proofs.Output.Order
import GuestHarness.Proofs.Session.Final
import GuestHarness.Proofs.Config.RoundTrip
import GuestHarness.Proofs.FileTree
import GuestHarness.Proofs.Output.Transcript
import GuestHarness.Proofs.Output.Wakeup
import GuestHarness.Proofs.Config.Building
import GuestHarness.Proofs.Session.SingleUse
import GuestHarness.Proofs.Observation
import GuestHarness.Proofs.Reaping
import GuestHarness.Proofs.Replay
import GuestHarness.Proofs.Completion
import GuestHarness.Proofs.Console.Typing
import GuestHarness.Proofs.Session.Transcript
import GuestHarness.Proofs.CommandLine.Outcome
import GuestHarness.Proofs.OutputLines
import GuestHarness.Proofs.Output.Calls
import GuestHarness.Proofs.Pacing
import GuestHarness.Proofs.Reuse
import GuestHarness.Proofs.Output.Isolation
import GuestHarness.Proofs.LineSearch
import GuestHarness.Proofs.Output.Verdict
import GuestHarness.Proofs.Output.Ending
import GuestHarness.Proofs.Session.ClockRange
import GuestHarness.Proofs.SplitText
import GuestHarness.Proofs.Config.Spans
import GuestHarness.Proofs.Config.Overrides
import GuestHarness.Proofs.Console.Standing
import GuestHarness.Proofs.Lifecycle
import GuestHarness.Proofs.ProcessNumber
import GuestHarness.Proofs.Timestamp
import GuestHarness.Proofs.Yaml.Kinds
import GuestHarness.Proofs.Report.RoundTrip
import GuestHarness.Proofs.Config.EmulatorArguments
import GuestHarness.Proofs.Output.Clones
