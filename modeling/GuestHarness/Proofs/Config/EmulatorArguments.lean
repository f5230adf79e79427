import GuestHarness.Config.Basic
import GuestHarness.Proofs.Text.Numeral
import Mathlib.Data.Option.Basic
import Mathlib.Tactic.MkIffOfInductiveProp

/-!
What the command line of an emulator tells about its configuration: everything but one spelling. Two
optional flags stand among the arguments, and before the last two any number of others, which may look
like options themselves. Yet the arguments are read in one way only: the first ten are always there,
the console comes right behind them and shows by its first word whether there is a flag before it, and
the kernel is at the end. What lies between is passed on, and of this alone the command line does not
tell whether its first word was asked for by the flag that forbids reboots or was given as it is.
-/

namespace GuestHarness

/-! ### Alike -/

/-- Two command lines are alike: all their parts are equal, where working directories are compared by a
relation, since one directory can be written in several ways. -/
@[mk_iff]
structure LaunchSpec.Alike (same : String → String → Prop) (s t : LaunchSpec) : Prop where
  executable : s.executable = t.executable
  args : s.args = t.args
  workingDirectory : Option.Rel same s.workingDirectory t.workingDirectory
  environment : s.environment = t.environment

lemma LaunchSpec.alike_eq_iff {s t : LaunchSpec} : s.Alike Eq t ↔ s = t := by
  obtain ⟨executable, args, dir, environment⟩ := s
  obtain ⟨executable', args', dir', environment'⟩ := t
  have hdir : Option.Rel Eq dir dir' ↔ dir = dir' := by
    cases dir <;> cases dir' <;> simp
  rw [LaunchSpec.alike_iff, LaunchSpec.mk.injEq, hdir]

namespace EmulatorConfig

/-- The arguments between the console and the kernel: the flag that forbids reboots, if it is asked for,
and those that are given as they are. -/
def passedOn (e : EmulatorConfig) : List String :=
  (if e.noReboot then ["--no-reboot"] else []) ++ e.extraArgs

/-- Two configurations are alike: they differ at most in whether reboots are forbidden by the flag or by
an argument that says the same. Working directories are compared by a relation. -/
structure Alike (same : String → String → Prop) (e f : EmulatorConfig) : Prop where
  executable : e.executable = f.executable
  machine : e.machine = f.machine
  cpu : e.cpu = f.cpu
  bios : e.bios = f.bios
  smp : e.smp = f.smp
  memory : e.memory = f.memory
  kernel : e.kernel = f.kernel
  nographic : e.nographic = f.nographic
  serial : e.serial = f.serial
  passedOn : e.passedOn = f.passedOn
  workingDirectory : Option.Rel same e.workingDirectory f.workingDirectory
  environment : e.environment = f.environment

variable {e f : EmulatorConfig} {same : String → String → Prop}

/-! ### The parts of the arguments -/

/-- The arguments that are always there, in the same places. -/
def hardwareArgs (e : EmulatorConfig) : List String :=
  ["-machine", e.machine, "-cpu", e.cpu, "-bios", e.bios, "-smp", Text.decimal e.smp, "-m", e.memory]

/-- The arguments that lead the console somewhere, behind the flag that there is no other screen. -/
def consoleArgs (e : EmulatorConfig) : List String :=
  (if e.nographic then ["-nographic"] else []) ++ ["-serial", e.serial]

lemma args_eq (e : EmulatorConfig) :
    e.args = e.hardwareArgs ++ (e.consoleArgs ++ (e.passedOn ++ ["-kernel", e.kernel])) := by
  simp [args, hardwareArgs, consoleArgs, passedOn]

lemma hardwareArgs_inj (h : e.hardwareArgs = f.hardwareArgs) :
    e.machine = f.machine ∧ e.cpu = f.cpu ∧ e.bios = f.bios ∧ e.smp = f.smp ∧ e.memory = f.memory := by
  simp only [hardwareArgs, List.cons.injEq, true_and, and_true] at h
  obtain ⟨hmachine, hcpu, hbios, hsmp, hmemory⟩ := h
  exact ⟨hmachine, hcpu, hbios, Text.decimal_injective hsmp, hmemory⟩

/-- The console can be split off whatever follows: it is two arguments long or three, and its first one
shows which. -/
lemma consoleArgs_inj {rest rest' : List String}
    (h : e.consoleArgs ++ rest = f.consoleArgs ++ rest') :
    e.nographic = f.nographic ∧ e.serial = f.serial ∧ rest = rest' := by
  have hflag : e.nographic = f.nographic := by
    have hfirst := congrArg List.head? h
    cases he : e.nographic <;> cases hf : f.nographic <;> simp [consoleArgs, he, hf] at hfirst ⊢
  rw [consoleArgs, consoleArgs, hflag, List.append_assoc, List.append_assoc,
    List.append_cancel_left_eq] at h
  simpa [hflag] using h

/-- The arguments tell all parts. -/
lemma args_inj (h : e.args = f.args) :
    e.hardwareArgs = f.hardwareArgs ∧ e.nographic = f.nographic ∧ e.serial = f.serial ∧
      e.passedOn = f.passedOn ∧ e.kernel = f.kernel := by
  rw [args_eq, args_eq] at h
  obtain ⟨hhardware, h⟩ := List.append_inj h rfl
  obtain ⟨hnographic, hserial, h⟩ := consoleArgs_inj h
  -- what is passed on has no fixed length, and is cut off from the end
  obtain ⟨hpassed, h⟩ := List.append_inj' h rfl
  have hkernel : e.kernel = f.kernel := by simpa using h
  exact ⟨hhardware, hnographic, hserial, hpassed, hkernel⟩

lemma Alike.args_eq (h : e.Alike same f) : e.args = f.args := by
  simp only [EmulatorConfig.args_eq, hardwareArgs, consoleArgs, h.machine, h.cpu, h.bios, h.smp,
    h.memory, h.nographic, h.serial, h.passedOn, h.kernel]

/-! ### Command lines -/

/-- **The command line determines the configuration.** Whatever texts stand in two configurations, their
command lines are equal if and only if the configurations differ in nothing but the spelling of the
flag that forbids reboots; and the same holds where working directories are compared by a relation,
whichever it is, and not by their texts. -/
theorem launchSpec_alike_iff (e f : EmulatorConfig) :
    (e.launchSpec = f.launchSpec ↔ e.Alike Eq f) ∧
      ∀ same : String → String → Prop, e.launchSpec.Alike same f.launchSpec ↔ e.Alike same f := by
  have hiff : ∀ same : String → String → Prop,
      e.launchSpec.Alike same f.launchSpec ↔ e.Alike same f := by
    intro same
    constructor
    · intro h
      obtain ⟨hhardware, hnographic, hserial, hpassed, hkernel⟩ := args_inj h.args
      obtain ⟨hmachine, hcpu, hbios, hsmp, hmemory⟩ := hardwareArgs_inj hhardware
      exact ⟨h.executable, hmachine, hcpu, hbios, hsmp, hmemory, hkernel, hnographic, hserial,
        hpassed, h.workingDirectory, h.environment⟩
    · intro h
      exact ⟨h.executable, h.args_eq, h.workingDirectory, h.environment⟩
  exact ⟨LaunchSpec.alike_eq_iff.symm.trans (hiff Eq), hiff⟩

/-- The flag and the argument are two spellings of one thing. -/
example : ({ kernel := "k", noReboot := true } : EmulatorConfig).launchSpec =
    ({ kernel := "k", noReboot := false, extraArgs := ["--no-reboot"] } : EmulatorConfig).launchSpec :=
  rfl

end EmulatorConfig
end GuestHarness
