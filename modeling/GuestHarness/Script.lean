import GuestHarness.Error
import GuestHarness.Text.Quoted

/-!
What a session writes to its target: steps, each of which sends some bytes and then lets time
pass. The escape of the monitor protocol switches the target's console to its monitor and back.
-/

namespace GuestHarness

/-! ### The monitor protocol -/

/-- The bytes that switch between console and monitor; there is at least one. -/
structure MonitorProtocol where
  escape : Bytes
  escape_ne_nil : escape ≠ []

namespace MonitorProtocol

/-- Control-A and the letter c. -/
def standard : MonitorProtocol := ⟨[0x01, 0x63], by decide⟩

/-- The protocol with the given escape. -/
def withEscape (escape : Bytes) : Except HarnessError MonitorProtocol :=
  if h : escape = [] then .error (.configuration "monitor escape sequence cannot be empty")
  else .ok ⟨escape, h⟩

end MonitorProtocol

/-! ### Steps -/

/-- One step of a script: the bytes that are sent, none for a pause, and the time to wait. -/
structure CommandStep where
  payload : Bytes
  settle : Duration
deriving DecidableEq

namespace CommandStep

/-- Only lets time pass. -/
def pause (d : Duration) : CommandStep := ⟨[], d⟩

/-- Sends bytes as they are. -/
def send (bs : Bytes) (settle : Duration) : CommandStep := ⟨bs, settle⟩

/-- Switches to the monitor or back. -/
def breakIntoMonitor (p : MonitorProtocol) (settle : Duration) : CommandStep := ⟨p.escape, settle⟩

/-- Sends a line of text. -/
def monitorCommand (text : String) (settle : Duration) : CommandStep :=
  ⟨Text.bytes text ++ [0x0A], settle⟩

/-- Nothing is sent. -/
def isPause (s : CommandStep) : Bool := s.payload.isEmpty

/-- A step as it is shown. -/
def render (s : CommandStep) : String :=
  if s.isPause then "pause " ++ s.settle.render
  else "send \"" ++ String.join (s.payload.map Text.escapedByte) ++ "\" then settle " ++
    s.settle.render

end CommandStep

/-- Waits for the guest to boot, breaks into the monitor and shows the registers. -/
def defaultScript (p : MonitorProtocol) : List CommandStep :=
  [.pause (.ofSeconds 2), .breakIntoMonitor p (.ofMillis 100),
    .monitorCommand "info registers" (.ofMillis 500)]

end GuestHarness
