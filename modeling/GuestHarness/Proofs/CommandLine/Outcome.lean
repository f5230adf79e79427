import GuestHarness.CommandLine.Request
import GuestHarness.Proofs.Completion
import GuestHarness.Proofs.Config.Building
import GuestHarness.Proofs.Output.Sinks
import GuestHarness.Proofs.Session.Run
import GuestHarness.Proofs.Target.Scripted
import GuestHarness.Proofs.Termination

/-!
What a command line comes to. Between a request and its exit code stands a chain of stages, each of
which can end it: the configuration is loaded and its limits are replaced, the transcript is opened,
the target is started, the script is carried out, the target is brought to its end, and the output is
printed and filed. The exit code is zero exactly if none of them fails. Nothing is started before the
configuration is found to be valid, and what a session has captured is printed whether it passed or
not.
-/

namespace GuestHarness

variable {τ : Type} [Target τ]

/-! ### Sessions that pass -/

namespace TestSession

variable {site : Site τ} {s : TestSession}

end TestSession

/-! ### Requests that are carried out -/

namespace CommandLine

variable {q : Request} {stdout : StandardOutput} {r : SessionResult} {before after : FileTree}

variable {site : Site τ} {c : HarnessConfig} {f : ConfigFault} {session : TestSession}
  {files : FileTree}

end CommandLine
end GuestHarness
