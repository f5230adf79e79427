import GuestHarness.Text.Digits

/-!
Signals: their names and words, and what they do to a process that has made no arrangements.
-/

namespace GuestHarness

/-- The number of a signal. -/
abbrev Signal := Nat

namespace Signal

/-- The end of a terminal line. -/
def hup : Signal := 1

/-- An interruption from the keyboard. -/
def int : Signal := 2

/-- A dump from the keyboard. -/
def quit : Signal := 3

/-- The end that cannot be put off. -/
def kill : Signal := 9

/-- Output that nobody will read. -/
def pipe : Signal := 13

/-- The polite request to end. -/
def term : Signal := 15

/-- The end of a stop. -/
def cont : Signal := 18

/-- The names of the signals and their words. -/
def table : List (Signal × String × String) := [
  (1, "HUP", "Hangup"), (2, "INT", "Interrupt"), (3, "QUIT", "Quit"),
  (4, "ILL", "Illegal instruction"), (5, "TRAP", "Trace/breakpoint trap"),
  (6, "ABRT", "Aborted"), (7, "BUS", "Bus error"), (8, "FPE", "Floating point exception"),
  (9, "KILL", "Killed"), (10, "USR1", "User defined signal 1"),
  (11, "SEGV", "Segmentation fault"), (12, "USR2", "User defined signal 2"),
  (13, "PIPE", "Broken pipe"), (14, "ALRM", "Alarm clock"), (15, "TERM", "Terminated"),
  (16, "STKFLT", "Stack fault"), (17, "CHLD", "Child exited"), (18, "CONT", "Continued"),
  (19, "STOP", "Stopped (signal)"), (20, "TSTP", "Stopped"), (21, "TTIN", "Stopped (tty input)"),
  (22, "TTOU", "Stopped (tty output)"), (23, "URG", "Urgent I/O condition"),
  (24, "XCPU", "CPU time limit exceeded"), (25, "XFSZ", "File size limit exceeded"),
  (26, "VTALRM", "Virtual timer expired"), (27, "PROF", "Profiling timer expired"),
  (28, "WINCH", "Window changed"), (29, "POLL", "I/O possible"), (30, "PWR", "Power failure"),
  (31, "SYS", "Bad system call")]

/-- The last signal. -/
def last : Signal := 64

/-- The name of a signal. -/
def name (n : Signal) : String := ((table.lookup n).map (·.1)).getD ""

/-- The words for a signal. -/
def words (n : Signal) : String :=
  match table.lookup n with
  | some (_, words) => words
  | none => "Real-time signal " ++ Text.decimal (n - 34)

/-- The signal with a name, in capitals or not, or with a number. Zero is none of them but stands
for an end or a question. -/
def ofName? (s : String) : Option Signal :=
  let cs := s.toList
  if Text.isDigits cs then
    if Text.digitsValue cs ≤ last then some (Text.digitsValue cs) else none
  else
    let name := String.ofList (cs.map Char.toUpper)
    (table.find? fun r => r.2.1 = name).map (·.1)

/-- A process goes on as if nothing had happened. -/
def isHarmless (n : Signal) : Bool := [17, 18, 23, 28].contains n

/-- A process stops until it is told to go on. -/
def isStop (n : Signal) : Bool := [19, 20, 21, 22].contains n

/-- No arrangements can be made for it. -/
def isFirm (n : Signal) : Bool := n = 9 || n = 19

end Signal
end GuestHarness
