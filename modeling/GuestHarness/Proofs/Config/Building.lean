import GuestHarness.Proofs.Clock
import GuestHarness.Proofs.Config.Validity
import GuestHarness.Proofs.Text.Utf8
import GuestHarness.Session

/-!
A session can be built from every valid configuration. The checks and the building of a session read
the same configuration separately; what the checks demand is what the building relies on. A valid
configuration has a command line, a protocol and a script, each step of the script is framed as its
configuration says, and nothing but the opening of the transcript stands between it and a session.
-/

namespace GuestHarness

/-! ### Steps -/

namespace StepConfig

/-- The time that a configured step waits. -/
def settle : StepConfig → Duration
  | pause duration => duration
  | escape settle => settle
  | command _ settle => settle
  | send _ settle => settle

/-- A step of a script is framed as it is configured: it waits as long, and it is a pause, the
escape, one line that ends in its only line feed, or a text that is sent as it is. Only a pause sends
nothing. -/
structure Framed (escape : Bytes) (c : StepConfig) (s : CommandStep) : Prop where
  settle : s.settle = c.settle
  pause : s.isPause ↔ ∃ duration, c = .pause duration
  escape : ∀ settle, c = .escape settle → s.payload = escape ∧ escape ≠ []
  command : ∀ text settle, c = .command text settle →
    s.payload = Text.bytes text ++ [0x0A] ∧ 0x0A ∉ Text.bytes text
  send : ∀ text settle, c = .send text settle → s.payload = Text.bytes text ∧ text ≠ ""

lemma IsValid.framed {c : StepConfig} (h : c.IsValid) (p : MonitorProtocol) :
    c.Framed p.escape (c.toStep p) := by
  cases c with
  | pause duration =>
    constructor <;> simp [toStep, CommandStep.pause, CommandStep.isPause, StepConfig.settle]
  | escape settle =>
    constructor <;> simp [toStep, CommandStep.breakIntoMonitor, CommandStep.isPause,
      StepConfig.settle, p.escape_ne_nil]
  | command text settle =>
    have hline : 0x0A ∉ Text.bytes text :=
      fun hb => h.2 ((Text.mem_bytes (c := '\n') (by decide)).1 hb)
    constructor <;> simp [toStep, CommandStep.monitorCommand, CommandStep.isPause,
      StepConfig.settle, hline]
  | send text settle =>
    have htext : text ≠ "" := h
    constructor <;> simp [toStep, CommandStep.send, CommandStep.isPause, StepConfig.settle, htext,
      Text.bytes_eq_nil]

end StepConfig

namespace HarnessConfig

/-- The default script as it would be configured. -/
def defaultSteps : List StepConfig :=
  [.pause (.ofSeconds 2), .escape (.ofMillis 100), .command "info registers" (.ofMillis 500)]

/-- The script that is configured, which is the default one if none is. -/
def script (c : HarnessConfig) : List StepConfig := c.steps.getD defaultSteps

variable {c : HarnessConfig}

lemma commandSteps_eq {p : MonitorProtocol} (h : c.monitorProtocol = .ok p) :
    c.commandSteps = .ok (c.script.map (·.toStep p)) := by
  unfold commandSteps script
  rw [h]
  cases c.steps <;> rfl

lemma isValid_of_mem_script (h : ∀ s ∈ c.steps.getD [], s.IsValid) :
    ∀ s ∈ c.script, s.IsValid := by
  unfold script
  cases hs : c.steps with
  | none => simp [defaultSteps, StepConfig.IsValid]
  | some steps => simpa [hs] using h

lemma monitorProtocol_of_ne (h : c.protocol.escape ≠ "") :
    ∃ p, c.monitorProtocol = .ok p ∧ p.escape = Text.bytes c.protocol.escape := by
  have hbytes : Text.bytes c.protocol.escape ≠ [] := mt Text.bytes_eq_nil.1 h
  exact ⟨⟨_, hbytes⟩, by simp [monitorProtocol, MonitorProtocol.withEscape, hbytes,
    Except.mapError], rfl⟩

lemma launchSpec_of_valid (h : c.validateLaunch = .ok ()) : ∃ spec, c.launchSpec = .ok spec := by
  unfold launchSpec
  obtain ⟨e, he, hl, -⟩ | ⟨l, he, hl, -⟩ := validateLaunch_cases h
  · exact ⟨e.launchSpec, by rw [he, hl]⟩
  · exact ⟨l, by rw [he, hl]⟩

end HarnessConfig

/-! ### Sessions -/

namespace TestSession

variable {c : HarnessConfig}

/-- The session of a configuration that has a command line and a script: it is fresh and runs them,
and only its transcript can be in the way. -/
lemma ofConfig_of_parts {spec : LaunchSpec} {steps : List CommandStep} (files : FileTree)
    (hspec : c.launchSpec = .ok spec) (hsteps : c.commandSteps = .ok steps) :
    (∀ f, ofConfig files c = .error f ↔ ∃ path e, c.capture.outputFile = some path ∧
      Output.Transcript.openAt files path = .error e ∧ f = .noTranscript e) ∧
    ∀ s files', ofConfig files c = .ok (s, files') →
      s = { id := c.session.id, spec := spec, steps := steps, timing := c.timing
            sinks := s.sinks } := by
  unfold ofConfig
  rw [hspec, hsteps]
  cases c.capture.outputFile with
  | none =>
    refine ⟨fun f => by simp [bind, Except.bind, pure, Except.pure], fun s files' h => ?_⟩
    cases h
    rfl
  | some path =>
    cases ho : Output.Transcript.openAt files path with
    | error e =>
      refine ⟨fun f => ?_, fun s files' h => ?_⟩
      · simp [bind, Except.bind, Except.mapError, ho, eq_comm]
      · simp [bind, Except.bind, Except.mapError, ho] at h
    | ok opened =>
      refine ⟨fun f => ?_, fun s files' h => ?_⟩
      · simp [bind, Except.bind, Except.mapError, ho, pure, Except.pure]
      · simp only [bind, Except.bind, Except.mapError, ho, pure, Except.pure] at h
        cases h
        rfl

/-- **What the checks demand is all that the building of a session relies on.** A valid configuration
has a command line, a protocol with the configured escape, and a script with a step for each
configured one, or those of the default script, each framed as it is configured. Its session fails to
be built only if its transcript cannot be opened, and is otherwise fresh and made of these parts. -/
theorem built_of_valid (c : HarnessConfig) (h : c.validate = .ok ()) :
    ∃ spec protocol steps, c.launchSpec = .ok spec ∧ c.monitorProtocol = .ok protocol ∧
      protocol.escape = Text.bytes c.protocol.escape ∧ c.commandSteps = .ok steps ∧
      steps.length = c.script.length ∧
      (∀ (i : Nat) (configured : StepConfig) (step : CommandStep), c.script[i]? = some configured →
        steps[i]? = some step → configured.Framed (Text.bytes c.protocol.escape) step) ∧
      ∀ files, (∀ f, ofConfig files c = .error f ↔ ∃ path e, c.capture.outputFile = some path ∧
          Output.Transcript.openAt files path = .error e ∧ f = .noTranscript e) ∧
        ∀ s files', ofConfig files c = .ok (s, files') →
          s = { id := c.session.id, spec := spec, steps := steps, timing := c.timing
                sinks := s.sinks } := by
  obtain ⟨-, hlaunch, hescape, hsteps⟩ := HarnessConfig.validate_eq_ok_iff.1 h
  obtain ⟨spec, hspec⟩ := HarnessConfig.launchSpec_of_valid hlaunch
  obtain ⟨p, hp, hbytes⟩ := HarnessConfig.monitorProtocol_of_ne hescape
  have hscript := HarnessConfig.commandSteps_eq hp
  refine ⟨spec, p, _, hspec, hp, hbytes, hscript, by rw [List.length_map], fun i s t hs ht => ?_,
    fun files => ofConfig_of_parts files hspec hscript⟩
  rw [List.getElem?_map, hs] at ht
  cases ht
  rw [← hbytes]
  exact (HarnessConfig.isValid_of_mem_script hsteps s (List.mem_of_getElem? hs)).framed p

/-- A configuration with a step of each kind and a transcript that cannot be opened, as there are no
directories. -/
theorem built_of_valid_steps :
    let c : HarnessConfig :=
      { session := { id := "s" }, launch := some { executable := "x" }
        steps := some [.pause (.ofSeconds 1), .escape (.ofMillis 5), .command "q" (.ofMillis 6),
          .send "y" (.ofMillis 7)]
        capture := { outputFile := some "f" } }
    c.validate = .ok () ∧
    ∃ steps, c.commandSteps = .ok steps ∧ steps.length = 4 ∧
      (∀ step, steps[2]? = some step → step.payload = [0x71, 0x0A] ∧ step.settle = .ofMillis 6) ∧
      ∀ f, ofConfig ⟨[], ["gone"]⟩ c = .error f → f = .noTranscript Errno.notFound := by
  intro c
  have hvalid : c.validate = .ok () := toOption_eq_some_iff.1 (by decide +kernel)
  obtain ⟨spec, p, steps, -, -, -, hsteps, hlength, hframed, hbuilt⟩ := built_of_valid c hvalid
  refine ⟨hvalid, steps, hsteps, hlength, fun step hs => ?_, fun f hf => ?_⟩
  · have hf := hframed 2 _ step rfl hs
    exact ⟨(hf.command _ _ rfl).1, hf.settle⟩
  · obtain ⟨path, e, hpath, he, rfl⟩ := ((hbuilt _).1 f).1 hf
    cases hpath
    cases he
    rfl

end TestSession
end GuestHarness
