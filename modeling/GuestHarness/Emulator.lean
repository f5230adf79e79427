import GuestHarness.CommandLine.Options
import GuestHarness.Console
import GuestHarness.Text.Digits

/-!
An emulator without a guest: it boots, shows a console, and can be told to misbehave in the ways
that a harness has to cope with. The command line of a real emulator is accepted and ignored.
-/

namespace GuestHarness

/-- How an emulator behaves: whether it ignores the polite signal, the code with which it exits
right after booting, if it does, the number of lines after which it closes its input, if it does,
the number of bytes of output that follow the boot, and the milliseconds that booting takes. -/
structure Emulator where
  ignoresTerm : Bool := false
  exitCode : Option Nat := none
  closeAfter : Option Nat := none
  burst : Nat := 0
  bootDelay : Nat := 0
deriving DecidableEq

namespace Emulator

open CommandLine

/-- A number below a limit. A plus sign may stand before it. -/
def number? (limit : Nat) (s : String) : Option Nat := Text.parseBelow? limit s.toList

/-- The option that takes a number below a limit. -/
def numberOption (name : String) (limit : Nat) : OptionSpec :=
  { name := name, accepts := fun s => (number? limit s).isSome }

/-- The options of an emulator. -/
def options : List OptionSpec := [
  { name := "ignore-sigterm", takesValue := false },
  { name := "exit-immediately", takesValue := false },
  numberOption "exit-code" 256,
  numberOption "close-stdin-after" 0x10000000000000000,
  numberOption "burst-bytes" 0x10000000000000000,
  numberOption "boot-delay-ms" 0x10000000000000000,
  { name := "help", letter := some 'h', takesValue := false, isFinal := true }]

/-- The emulator that a command line asks for. -/
def ofArgs (args : List String) : Except Stop Emulator := do
  let o ← Options.read options true args
  let number := fun name => (o.value? name).bind (number? 0x10000000000000000)
  return {
    ignoresTerm := o.has "ignore-sigterm"
    exitCode := if o.has "exit-immediately" then some ((number "exit-code").getD 0) else none
    closeAfter := number "close-stdin-after"
    burst := (number "burst-bytes").getD 0
    bootDelay := (number "boot-delay-ms").getD 0 }

/-- Shown when the emulator starts. -/
def greeting : String := "OpenSBI v1.3 (testexe)\nHypervisor booting...\n"

/-- Shown when the guest has booted. -/
def ready : String := "READY\n"

/-- Shown when the emulator obeys the polite signal. -/
def farewell : String := "testexe: terminating\n"

/-- The digits that output without a meaning consists of. -/
def burstDigits : Bytes := Text.bytes "0123456789abcdef"

/-- Output without a meaning, of a given length, and the line behind it. -/
def burstOutput (n : Nat) : Bytes :=
  if n = 0 then []
  else ((List.replicate (n / 16 + 1) burstDigits).flatten.take n) ++ Text.bytes "\nBURST DONE\n"

end Emulator
end GuestHarness
