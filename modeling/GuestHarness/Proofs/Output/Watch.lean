import GuestHarness.Output.Buffer
import GuestHarness.Proofs.Clock
import GuestHarness.Proofs.Search
import Mathlib.Data.List.Induction

/-!
Waiting for a pattern while others write. The waiter and the writers share a buffer, and each of
them touches it in one small step at a time: the waiter has itself registered for the next
announcement, looks for the pattern, asks whether the buffer is closed, and is suspended; a writer
adds bytes or closes the buffer, and announces it afterwards. Time passes between the steps, and any
order of the steps is a run.

The look and the question are two steps. What is written and closed between them is not seen by the
look, and the question then finds the buffer closed; so a pattern that had arrived before the
buffer was closed can be reported as absent. This is the only way in which that happens.
-/

namespace GuestHarness.OutputBuffer

/-! ### Scenes -/

/-- Where a waiter stands: it has not been called, it is about to register, to look or to ask, it is
suspended, its time is up, or it has returned a verdict at some moment. -/
inductive WaitPoint where
  | calling
  | registering
  | looking
  | asking
  | suspended
  | expired
  | returned (found : Bool) (moment : Instant)
deriving DecidableEq

/-- A buffer with a waiter and writers: the moment, the buffer, how many changes of it are still to
be announced, where the waiter stands, whether it has heard an announcement since it registered, and
its deadline. -/
structure Scene where
  now : Instant := 0
  buffer : OutputBuffer := .empty
  owed : Nat := 0
  point : WaitPoint := .calling
  heard : Bool := false
  deadline : Instant := 0
deriving DecidableEq

/-- A step: time passes, a writer adds bytes, closes the buffer or announces a change, or the waiter
takes its next step. -/
inductive WaitStep where
  | pass (nanos : Nat)
  | write (chunk : Bytes)
  | shut
  | announce
  | turn
deriving DecidableEq

namespace WaitStep

/-- The bytes that a step adds. -/
def written : WaitStep → Bytes
  | write chunk => chunk
  | _ => []

@[simp] lemma written_write (chunk : Bytes) : (write chunk).written = chunk := rfl
@[simp] lemma written_turn : turn.written = [] := rfl
@[simp] lemma written_shut : shut.written = [] := rfl

end WaitStep

namespace Scene

variable (pattern : Bytes) (timeout : Duration)

/-- The next step of the waiter. One that is suspended goes on when it has heard an announcement or
its time is up. -/
def turn (s : Scene) : Option Scene :=
  match s.point with
  | .calling =>
    match Clock.deadline s.now timeout with
    | .ok deadline => some { s with point := .registering, deadline := deadline }
    | .error _ => none
  | .registering => some { s with point := .looking, heard := false }
  | .looking =>
    some { s with point := if s.buffer.contains pattern then .returned true s.now else .asking }
  | .asking =>
    some { s with point := if s.buffer.closed then .returned false s.now else .suspended }
  | .suspended =>
    if s.heard then some { s with point := .registering }
    else if s.deadline ≤ s.now then some { s with point := .expired }
    else none
  | .expired => some { s with point := .returned (s.buffer.contains pattern) s.now }
  | .returned _ _ => none

/-- The scene after a step, if the step can be taken. To add no bytes is no step. -/
def step (s : Scene) : WaitStep → Option Scene
  | .pass nanos => some { s with now := s.now + nanos }
  | .write chunk =>
    if chunk = [] then none
    else some { s with buffer := s.buffer.append chunk, owed := s.owed + 1 }
  | .shut => some { s with buffer := s.buffer.close, owed := s.owed + 1 }
  | .announce => if s.owed = 0 then none else some { s with owed := s.owed - 1, heard := true }
  | .turn => s.turn pattern timeout

/-- The scene after some steps, if they can be taken in this order. -/
def run (s : Scene) : List WaitStep → Option Scene
  | [] => some s
  | l :: ls => (s.step pattern timeout l).bind fun s' => s'.run ls

variable {pattern timeout} {s s' : Scene} {l : WaitStep} {ls ls' : List WaitStep}

lemma run_append :
    s.run pattern timeout (ls ++ ls') =
      (s.run pattern timeout ls).bind fun s' => s'.run pattern timeout ls' := by
  induction ls generalizing s with
  | nil => rfl
  | cons l ls ih =>
    simp only [List.cons_append, run]
    cases s.step pattern timeout l with
    | none => rfl
    | some s' => exact ih

lemma run_snoc_eq_some (h : s.run pattern timeout (ls ++ [l]) = some s') :
    ∃ t, s.run pattern timeout ls = some t ∧ t.step pattern timeout l = some s' := by
  rw [run_append] at h
  cases hr : s.run pattern timeout ls with
  | none => rw [hr] at h; cases h
  | some t =>
    rw [hr] at h
    refine ⟨t, rfl, ?_⟩
    simpa [run] using h

/-! ### What a step changes -/

/-- A step of the waiter changes nothing but where it stands, what it has heard and its deadline. -/
lemma turn_frame (h : s.turn pattern timeout = some s') :
    s' = { s with point := s'.point, heard := s'.heard, deadline := s'.deadline } := by
  unfold turn at h
  split at h
  · split at h <;> cases h
    rfl
  · cases h; rfl
  · cases h; rfl
  · cases h; rfl
  · split at h
    · cases h; rfl
    · split at h <;> cases h
      rfl
  · cases h; rfl
  · cases h

lemma turn_buffer (h : s.turn pattern timeout = some s') : s'.buffer = s.buffer := by
  rw [turn_frame h]

/-- A step adds its bytes, and closes the buffer if it is the closing one. -/
lemma step_buffer (h : s.step pattern timeout l = some s') :
    s'.buffer.data = s.buffer.data ++ l.written ∧
      (s'.buffer.closed ↔ s.buffer.closed ∨ l = .shut) := by
  cases l with
  | pass nanos => cases h; simp [WaitStep.written]
  | write chunk =>
    simp only [step] at h
    split at h
    · cases h
    · cases h; simp [append]
  | shut => cases h; simp [close]
  | announce =>
    simp only [step] at h
    split at h
    · cases h
    · cases h; simp [WaitStep.written]
  | turn => simp [turn_buffer h]

/-- Only the waiter's own steps move it. -/
lemma step_point (h : s.step pattern timeout l = some s') (hl : l ≠ .turn) :
    s'.point = s.point ∧ s'.deadline = s.deadline ∧ s.now ≤ s'.now := by
  cases l with
  | pass nanos => cases h; exact ⟨rfl, rfl, Nat.le_add_right _ _⟩
  | write chunk =>
    simp only [step] at h
    split at h
    · cases h
    · cases h; exact ⟨rfl, rfl, Nat.le_refl _⟩
  | shut => cases h; exact ⟨rfl, rfl, Nat.le_refl _⟩
  | announce =>
    simp only [step] at h
    split at h
    · cases h
    · cases h; exact ⟨rfl, rfl, Nat.le_refl _⟩
  | turn => exact absurd rfl hl

/-- The bytes that some steps add. -/
def written (ls : List WaitStep) : Bytes := ls.flatMap WaitStep.written

@[simp] lemma written_nil : written [] = [] := rfl

@[simp] lemma written_cons (l : WaitStep) (ls : List WaitStep) :
    written (l :: ls) = l.written ++ written ls := rfl

@[simp] lemma written_append (ls ls' : List WaitStep) :
    written (ls ++ ls') = written ls ++ written ls' := by
  simp [written]

/-- **The buffer holds what was written**, and it is closed if somebody closed it. -/
theorem run_buffer (h : s.run pattern timeout ls = some s') :
    s'.buffer.data = s.buffer.data ++ written ls ∧
      (s'.buffer.closed ↔ s.buffer.closed ∨ .shut ∈ ls) := by
  induction ls generalizing s with
  | nil => cases h; simp
  | cons l ls ih =>
    obtain ⟨t, hl, ht⟩ := Option.bind_eq_some_iff.1 h
    obtain ⟨hd, hc⟩ := step_buffer hl
    obtain ⟨hd', hc'⟩ := ih ht
    refine ⟨by rw [hd', hd, written_cons, List.append_assoc], ?_⟩
    rw [hc', hc, List.mem_cons, or_assoc, @eq_comm _ l]

/-! ### What the waiter has seen -/

/-- The waiter has looked in vain, between some steps and others at which it did not move. -/
def LookedInVain (pattern : Bytes) (timeout : Duration) (before between : List WaitStep) : Prop :=
  .turn ∉ between ∧ ¬ pattern <:+: written before ∧
    ∃ s, ({} : Scene).run pattern timeout before = some s ∧ s.point = .looking

/-- What is known of a scene that some steps have led to: the waiter asks after it has looked in
vain, a waiter whose time is up is late, and one that gives up early has looked in vain and found
the buffer closed when it asked. -/
def Explained (pattern : Bytes) (timeout : Duration) (ls : List WaitStep) (s : Scene) : Prop :=
  match s.point with
  | .asking => ∃ before between, ls = before ++ .turn :: between ∧
      LookedInVain pattern timeout before between
  | .expired => s.deadline ≤ s.now
  | .returned false moment => moment < s.deadline → ∃ before between after,
      ls = before ++ .turn :: between ++ .turn :: after ∧
      LookedInVain pattern timeout before between ∧ .shut ∈ before ++ between
  | _ => True

lemma explained_step_other {t : Scene} (ht : Explained pattern timeout ls t)
    (h : t.step pattern timeout l = some s) (hl : l ≠ .turn) :
    Explained pattern timeout (ls ++ [l]) s := by
  obtain ⟨hpoint, hdeadline, hnow⟩ := step_point h hl
  unfold Explained at *
  rw [hpoint]
  split
  · next hp =>
    rw [hp] at ht
    obtain ⟨before, between, rfl, hb, hv⟩ := ht
    exact ⟨before, between ++ [l], by simp, by simpa [hb] using hl.symm, hv⟩
  · next hp =>
    rw [hp] at ht
    rw [hdeadline]
    exact Nat.le_trans ht hnow
  · next moment hp =>
    rw [hp] at ht
    rw [hdeadline]
    intro hm
    obtain ⟨before, between, after, rfl, hv⟩ := ht hm
    exact ⟨before, between, after ++ [l], by simp, hv⟩
  · trivial

lemma explained_step_turn {t : Scene} (hr : ({} : Scene).run pattern timeout ls = some t)
    (ht : Explained pattern timeout ls t) (h : t.turn pattern timeout = some s) :
    Explained pattern timeout (ls ++ [.turn]) s := by
  obtain ⟨hdata, hclosed⟩ := run_buffer hr
  simp only [OutputBuffer.empty, List.nil_append, Bool.false_eq_true, false_or] at hdata hclosed
  unfold turn at h
  split at h
  · split at h <;> cases h
    trivial
  · cases h
    trivial
  · next hp =>
    cases h
    by_cases hc : t.buffer.contains pattern
    · simp [Explained, hc]
    · -- the look is the last step so far: nothing stands between it and the question yet
      simp only [Explained, hc]
      refine ⟨ls, [], by simp, by simp, ?_, t, hr, hp⟩
      rwa [contains, occurs_iff, hdata] at hc
  · next hp =>
    cases h
    simp only [Explained, hp] at ht
    obtain ⟨before, between, rfl, hv⟩ := ht
    by_cases hc : t.buffer.closed
    · simp only [Explained, hc]
      refine fun _ => ⟨before, between, [], by simp, hv, ?_⟩
      simpa using hclosed.1 hc
    · simp [Explained, hc]
  · split at h
    · cases h
      trivial
    · split at h
      · next hd => cases h; exact hd
      · cases h
  · next hp =>
    cases h
    simp only [Explained, hp] at ht
    unfold Explained
    split
    · trivial
    · trivial
    · next hpoint =>
      -- a verdict at the end of the time is not early
      obtain ⟨-, rfl⟩ := WaitPoint.returned.inj hpoint
      exact fun hm => absurd ht (Nat.not_le.2 hm)
    · trivial
  · cases h

lemma explained_run (h : ({} : Scene).run pattern timeout ls = some s) :
    Explained pattern timeout ls s := by
  induction ls using List.reverseRecOn generalizing s with
  | nil => cases h; trivial
  | append_singleton ls l ih =>
    obtain ⟨t, hr, hs⟩ := run_snoc_eq_some h
    by_cases hl : l = .turn
    · subst hl
      exact explained_step_turn hr (ih hr) hs
    · exact explained_step_other (ih hr) hs hl

/-! ### A pattern that is reported as absent -/

/-- What is written before the buffer is closed. -/
def closingData (ls : List WaitStep) : Bytes := written (ls.takeWhile (· ≠ .shut))

@[simp] lemma closingData_shut_cons : closingData (.shut :: ls) = [] := rfl

lemma closingData_cons (h : l ≠ .shut) : closingData (l :: ls) = l.written ++ closingData ls := by
  simp [closingData, h]

lemma closingData_append_of_mem (h : .shut ∈ ls) : closingData (ls ++ ls') = closingData ls := by
  induction ls with
  | nil => cases h
  | cons l ls ih =>
    by_cases hl : l = .shut
    · subst hl
      rfl
    · rw [List.cons_append, closingData_cons hl, closingData_cons hl,
        ih ((List.mem_cons.1 h).resolve_left (Ne.symm hl))]

lemma closingData_append_of_not_mem (h : .shut ∉ ls) :
    closingData (ls ++ ls') = written ls ++ closingData ls' := by
  induction ls with
  | nil => rfl
  | cons l ls ih =>
    rw [List.mem_cons, not_or] at h
    rw [List.cons_append, closingData_cons (Ne.symm h.1), ih h.2, written_cons, List.append_assoc]

lemma closingData_prefix_written (ls : List WaitStep) : closingData ls <+: written ls := by
  obtain ⟨rest, hr⟩ := List.takeWhile_prefix (fun l => decide (l ≠ .shut)) (l := ls)
  refine ⟨written rest, ?_⟩
  rw [closingData, ← written_append, hr]

/-- **When a pattern is reported as absent.** A waiter that gives up early has looked in vain, and
found the buffer closed when it asked. The pattern had arrived when the buffer was closed if and
only if both, its last bytes and the closing, fall between the look and the question. -/
theorem absent_at_closing_iff (pattern : Bytes) (timeout : Duration) (pre post : List WaitStep)
    {s atClosing : Scene} {moment : Instant}
    (h : ({} : Scene).run pattern timeout (pre ++ .shut :: post) = some s)
    (hpoint : s.point = .returned false moment) (hearly : moment < s.deadline)
    (hfirst : .shut ∉ pre)
    (hclosing : ({} : Scene).run pattern timeout pre = some atClosing) :
    ∃ before between after, pre ++ .shut :: post = before ++ .turn :: between ++ .turn :: after ∧
      LookedInVain pattern timeout before between ∧ .shut ∈ before ++ between ∧
      (pattern <:+: atClosing.buffer.data ↔
        .shut ∉ before ∧ pattern <:+: written before ++ closingData between) := by
  have hx := explained_run h
  simp only [Explained, hpoint] at hx
  obtain ⟨before, between, after, hls, hvain, hshut⟩ := hx hearly
  refine ⟨before, between, after, hls, hvain, hshut, ?_⟩
  have hdata : atClosing.buffer.data = closingData (pre ++ .shut :: post) := by
    rw [(run_buffer hclosing).1, closingData_append_of_not_mem hfirst]
    simp [closingData, OutputBuffer.empty]
  rw [hdata, hls]
  by_cases hb : .shut ∈ before
  · -- closed before the look: the look has seen all that was there at the closing
    rw [List.append_assoc, closingData_append_of_mem hb]
    simp only [hb, not_true_eq_false, false_and, iff_false]
    exact fun hp => hvain.2.1 (hp.trans (closingData_prefix_written before).isInfix)
  · have hin : .shut ∈ between := (List.mem_append.1 hshut).resolve_left hb
    rw [List.append_assoc, closingData_append_of_not_mem hb, List.cons_append,
      closingData_cons (by simp), closingData_append_of_mem hin]
    simp [hb]

/-- One byte arrives and the buffer is closed between the look and the question: the byte was there
when the buffer was closed, and it is reported as absent well before the deadline. -/
theorem reported_absent_at_closing : ¬ ∀ (pattern : Bytes) (timeout : Duration)
    (pre post : List WaitStep) (atClosing s : Scene) (moment : Instant), .shut ∉ pre →
    ({} : Scene).run pattern timeout pre = some atClosing →
    ({} : Scene).run pattern timeout (pre ++ .shut :: post) = some s →
    s.point = .returned false moment → moment < s.deadline →
    ¬ pattern <:+: atClosing.buffer.data := by
  intro h
  exact h [0x41] (.ofSeconds 1) [.turn, .turn, .turn, .write [0x41]] [.turn] _ _ 0 (by decide)
    rfl rfl rfl (by decide) (by decide)

/-- In that run the condition is met. -/
theorem absent_at_closing_iff_byte : ∃ before between after,
    [.turn, .turn, .turn, .write [0x41], .shut, .turn] =
      before ++ .turn :: between ++ .turn :: after ∧
    LookedInVain [0x41] (.ofSeconds 1) before between ∧ .shut ∉ before ∧
    [0x41] <:+: written before ++ closingData between := by
  obtain ⟨before, between, after, hls, hvain, -, hiff⟩ :=
    absent_at_closing_iff [0x41] (.ofSeconds 1) [.turn, .turn, .turn, .write [0x41]] [.turn]
      rfl rfl (by decide) (by decide) rfl
  exact ⟨before, between, after, hls, hvain, hiff.1 (by decide)⟩

end Scene
end GuestHarness.OutputBuffer
