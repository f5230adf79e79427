import GuestHarness.Config.Data
import GuestHarness.Proofs.Clock
import Mathlib.Tactic.Common

/-!
What a valid configuration is like. The checks are made one after the other and the first that fails
is the fault, so a configuration is valid if and only if each of its parts passes its own checks; for
the script this says something of every step, whatever its number.
-/

namespace GuestHarness

/-! ### Checks in a row -/

lemma demand_eq_ok_iff {b : Bool} {f : ConfigFault} : demand b f = .ok () ↔ b = true := by
  cases b <;> simp [demand]

lemma seq_eq_ok_iff {ε : Type} {x y : Except ε Unit} :
    (x >>= fun _ => y) = .ok () ↔ x = .ok () ∧ y = .ok () := by
  cases x <;> simp [bind, Except.bind]

lemma EmulatorConfig.smp_pos_of_validate {e : EmulatorConfig} (h : e.validate = .ok ()) :
    0 < e.smp := by
  simp only [validate, seq_eq_ok_iff, demand_eq_ok_iff, decide_eq_true_eq] at h
  exact Nat.pos_of_ne_zero h.2.2.1

/-! ### Scripts -/

namespace StepConfig

/-- A command is one line, and what is sent is not empty. -/
def IsValid : StepConfig → Prop
  | command text _ => text ≠ "" ∧ '\n' ∉ text.toList
  | send text _ => text ≠ ""
  | _ => True

lemma validate_eq_ok_iff (index : Nat) (s : StepConfig) : s.validate index = .ok () ↔ s.IsValid := by
  cases s with
  | command text settle => simp [validate, seq_eq_ok_iff, demand_eq_ok_iff, IsValid]
  | send text settle => simp [validate, demand_eq_ok_iff, IsValid]
  | pause duration => simp [validate, IsValid]
  | escape settle => simp [validate, IsValid]

end StepConfig

lemma validateSteps_eq_ok_iff {steps : List StepConfig} : ∀ {index : Nat},
    validateSteps index steps = .ok () ↔ ∀ s ∈ steps, s.IsValid := by
  induction steps with
  | nil => simp [validateSteps]
  | cons s steps ih =>
    intro index
    rw [validateSteps, seq_eq_ok_iff, StepConfig.validate_eq_ok_iff, ih, List.forall_mem_cons]

/-! ### Configurations -/

namespace HarnessConfig

variable {c : HarnessConfig}

/-- A configuration is valid if its parts are. -/
lemma validate_eq_ok_iff : c.validate = .ok () ↔ c.session.validate = .ok () ∧
    c.validateLaunch = .ok () ∧ c.protocol.escape ≠ "" ∧ ∀ s ∈ c.steps.getD [], s.IsValid := by
  simp only [validate, seq_eq_ok_iff, demand_eq_ok_iff, validateSteps_eq_ok_iff, decide_eq_true_eq]

/-- What is loaded is what is read, if it is valid. -/
lemma load_eq_ok_iff {s : String} :
    load s = .ok c ↔ Yaml.readText read s = .ok c ∧ c.validate = .ok () := by
  constructor
  · intro h
    obtain ⟨c', hread, h⟩ := bind_eq_ok_iff.1 h
    obtain ⟨_, hvalid, h⟩ := bind_eq_ok_iff.1 h
    cases h
    exact ⟨mapError_eq_ok_iff.1 hread, hvalid⟩
  · rintro ⟨hread, hvalid⟩
    simp only [load, hread, Except.mapError, bind, Except.bind, hvalid]
    rfl

/-- Of a valid launch there is one section, and this section is valid. -/
lemma validateLaunch_cases (h : c.validateLaunch = .ok ()) :
    (∃ e, c.emulator = some e ∧ c.launch = none ∧ e.validate = .ok ()) ∨
    ∃ l, c.emulator = none ∧ c.launch = some l ∧ Text.isBlankText l.executable = false := by
  unfold validateLaunch at h
  split at h
  · next e he hl => exact .inl ⟨e, he, hl, h⟩
  · next l he hl => exact .inr ⟨l, he, hl, by simpa using demand_eq_ok_iff.1 h⟩
  · cases h
  · cases h

end HarnessConfig
end GuestHarness
