import GuestHarness.Text.Blank
import GuestHarness.Text.Lossy

/-!
The console of an emulated guest, with a monitor behind it. Control-A and the letter c switch
between the two; a line goes to the side that is shown. Input is taken byte by byte, so it does
not matter in what pieces it arrives: what happened on a console is a list of events, and what is
shown is the reply to each of them.
-/

namespace GuestHarness

/-- A console: the side that is shown, whether the last byte was Control-A, and the bytes of the
line that is begun, latest first. -/
structure Console where
  inMonitor : Bool := false
  escapePending : Bool := false
  typed : Bytes := []
deriving DecidableEq

namespace Console

/-- The line that is begun. -/
def line (c : Console) : Bytes := c.typed.reverse

/-! ### Events -/

/-- What input comes to: a switch to a side, or a line given to a side. -/
inductive Event where
  | switched (toMonitor : Bool)
  | handled (inMonitor : Bool) (line : String)
deriving DecidableEq

/-- The command in a line: the line without the blanks around it. -/
def command (line : String) : String := String.ofList (Text.trim line.toList)

/-- Shown on the way into the monitor. -/
def banner : String := "\nQEMU 8.2.0 monitor - type 'help' for more information\n"

/-- Asks for a command of the monitor. -/
def prompt : String := "(qemu) "

/-- The registers of the guest. -/
def registers : String :=
  "pc       0000000080200000\n" ++
  "mhartid  0000000000000000\n" ++
  "mstatus  0000000a00000080\n" ++
  "hstatus  0000000200000000\n" ++
  "x0/zero  0000000000000000 x1/ra    0000000080200010 x2/sp    0000000080400000\n"

/-- A command that ends the emulator. -/
def isQuit (command : String) : Bool := command = "quit" || command = "q"

/-- What the guest says to a command. -/
def guestReply (command : String) : String :=
  if command = "" then ""
  else if command = "ping" then "pong\n"
  else "guest: " ++ command ++ "\n"

/-- What the monitor says to a command. It then asks for the next one. -/
def monitorReply (command : String) : String :=
  if command = "" then ""
  else if command = "ping" then "pong\n"
  else if command = "info registers" then registers
  else if command = "info status" then "VM status: running\n"
  else "unknown command: '" ++ command ++ "'\n"

namespace Event

/-- The event ends the emulator. -/
def quits : Event → Bool
  | handled true line => isQuit (command line)
  | _ => false

/-- What is shown after an event. -/
def reply : Event → String
  | switched true => banner ++ prompt
  | switched false => "\n"
  | handled false line => guestReply (command line)
  | handled true line =>
    if isQuit (command line) then "" else monitorReply (command line) ++ prompt

end Event

/-! ### Input -/

/-- Takes a byte that does not end an escape. -/
def plain (c : Console) (b : UInt8) : Console × Option Event :=
  if b = 0x01 then ({ c with escapePending := true }, none)
  else if b = 0x0D then (c, none)
  else if b = 0x0A then ({ c with typed := [] }, some (.handled c.inMonitor (Text.lossy c.line)))
  else ({ c with typed := b :: c.typed }, none)

/-- Takes a byte. A switch drops the line that is begun. -/
def take (c : Console) (b : UInt8) : Console × Option Event :=
  if c.escapePending && b = 0x63 then (⟨!c.inMonitor, false, []⟩, some (.switched !c.inMonitor))
  else { c with escapePending := false }.plain b

/-- Takes bytes until one of them ends the emulator. -/
def feed (c : Console) : Bytes → Console × List Event
  | [] => (c, [])
  | b :: rest =>
    match c.take b with
    | (c, none) => c.feed rest
    | (c, some e) =>
      if e.quits then (c, [e])
      else
        let (c, es) := c.feed rest
        (c, e :: es)

/-- What is shown after events. -/
def shown (es : List Event) : String := String.join (es.map Event.reply)

/-- One of the events ends the emulator. -/
def hasQuit (es : List Event) : Bool := es.any Event.quits

end Console
end GuestHarness
