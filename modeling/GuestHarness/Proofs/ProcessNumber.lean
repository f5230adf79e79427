import GuestHarness.Host
import Mathlib.Tactic.Common

/-!
Whom a process number addresses. The upper half of the numbers of 32 bits comes to the operating
system with a minus sign, and there it means a group of processes or, at the very end, everyone;
zero means the group of the caller. A signal to a number addresses the process that it counts for
the numbers in between and for no others, whatever the operating system answers.
-/

namespace GuestHarness

/-! ### The sign of a number -/

/-- A number of the lower half is given as it is, and one of the upper half with a minus sign. -/
lemma signalArgument_eq (pid : UInt32) : signalArgument pid =
    if pid.toNat < 0x80000000 then (pid.toNat : Int) else (pid.toNat : Int) - 0x100000000 := by
  have hlt : pid.toNat < 0x100000000 := pid.toNat_lt
  unfold signalArgument
  rw [Int.bmod_def]
  split <;> split <;> omega

/-- **Whom a process number addresses.** -/
lemma ofPid_eq (pid : UInt32) : Addressee.ofPid pid =
    if pid.toNat = 0 then .ownGroup
    else if pid.toNat < 0x80000000 then .process pid.toNat
    else if pid.toNat = 0xFFFFFFFF then .everyone
    else .group (0x100000000 - pid.toNat) := by
  have hlt : pid.toNat < 0x100000000 := pid.toNat_lt
  unfold Addressee.ofPid Addressee.ofInt
  rw [signalArgument_eq]
  by_cases hzero : pid.toNat = 0
  · simp [hzero]
  by_cases hlow : pid.toNat < 0x80000000
  · have hpos : ¬ ((pid.toNat : Int) < 0) := by omega
    have hone : (pid.toNat : Int) ≠ -1 := by omega
    simp [hzero, hlow, hpos, hone]
  have hne : (pid.toNat : Int) - 0x100000000 ≠ 0 := by omega
  have hneg : (pid.toNat : Int) - 0x100000000 < 0 := by omega
  simp only [hzero, hlow, if_false, hne, hneg, if_true]
  by_cases hlast : pid.toNat = 0xFFFFFFFF
  · simp [hlast]
  · have hone : (pid.toNat : Int) - 0x100000000 ≠ -1 := by omega
    simp only [hlast, hone, if_false]
    congr 1
    omega

/-! ### Requests -/

/-- A request to end is one call, and what it comes to depends on the reply only. -/
lemma run_requestEnd {σ : Type} (call : SignalCall (StateM σ)) (pid : UInt32) (s : σ) :
    (requestEnd call pid).run s =
      Prod.map (fun reply => (requestEnd (fun _ _ => pure reply : SignalCall Id) pid).run) id
        ((call (signalArgument pid) (some Signal.term)).run s) := by
  unfold requestEnd
  rw [StateT.run_bind]
  obtain ⟨reply, s'⟩ := (call (signalArgument pid) (some Signal.term)).run s
  cases reply with
  | ok _ => rfl
  | error e =>
    dsimp only [Prod.map, bind, id, pure]
    split <;> rfl

/-- So is the question whether there is a process. -/
lemma run_requestExistence {σ : Type} (call : SignalCall (StateM σ)) (pid : UInt32) (s : σ) :
    (requestExistence call pid).run s =
      Prod.map (fun reply => (requestExistence (fun _ _ => pure reply : SignalCall Id) pid).run) id
        ((call (signalArgument pid) none).run s) := by
  unfold requestExistence
  rw [StateT.run_bind]
  obtain ⟨reply, s'⟩ := (call (signalArgument pid) none).run s
  cases reply with
  | ok _ => rfl
  | error e =>
    dsimp only [Prod.map, bind, id, pure]
    split
    · rfl
    · split <;> rfl

/-- An operating system that gives fixed answers, and keeps a record of who is addressed. -/
def recordingCall (reply : Int → Option Signal → Except SignalError Unit) :
    SignalCall (StateM (List Addressee)) := fun n s => do
  modify (· ++ [Addressee.ofInt n])
  return reply n s

/-- Whom a request addresses when the operating system gives these answers. -/
def addressedBy (request : SignalCall (StateM (List Addressee)) → UInt32 →
      StateM (List Addressee) (Except HarnessError Bool))
    (reply : Int → Option Signal → Except SignalError Unit) (pid : UInt32) : List Addressee :=
  ((request (recordingCall reply) pid).run []).2

variable (reply : Int → Option Signal → Except SignalError Unit) (pid : UInt32)

/-- Whatever the operating system answers, it is called once. -/
lemma addressedBy_requestEnd : addressedBy requestEnd reply pid = [Addressee.ofPid pid] := by
  unfold addressedBy
  rw [run_requestEnd]
  rfl

lemma addressedBy_requestExistence :
    addressedBy requestExistence reply pid = [Addressee.ofPid pid] := by
  unfold addressedBy
  rw [run_requestExistence]
  rfl

lemma requestExistence_of_ok {call : SignalCall Id} {pid : UInt32}
    (h : call (signalArgument pid) none = .ok ()) : requestExistence call pid = .ok true := by
  unfold requestExistence
  rw [h]
  rfl

/-- A process is taken to be there where a signal to its number reaches somebody. -/
lemma processExists_of_reaches {t : ProcessTable} {pid : UInt32}
    (h : t.reaches (Addressee.ofPid pid) = true) : t.processExists pid = true := by
  have hcall : t.deliver (signalArgument pid) none = .ok () := if_pos h
  unfold ProcessTable.processExists
  rw [requestExistence_of_ok hcall]
  rfl

/-! ### Who is addressed -/

/-- **A signal to a process number addresses one process for the positive numbers of 31 bits only.**
Whatever the operating system answers, to ask a process to end and to ask whether there is one is a
single call, and both address the same: the group of the caller for zero, the process with this
number below the upper half, a group counted down from the end in the upper half, and everyone for
the last number. -/
theorem one_process_addressed_iff :
    let addressee : Addressee :=
      if pid.toNat = 0 then .ownGroup
      else if pid.toNat < 0x80000000 then .process pid.toNat
      else if pid.toNat = 0xFFFFFFFF then .everyone
      else .group (0x100000000 - pid.toNat)
    addressedBy requestEnd reply pid = [addressee] ∧
      addressedBy requestExistence reply pid = [addressee] ∧
      (addressee = .process pid.toNat ↔ 0 < pid.toNat ∧ pid.toNat < 0x80000000) := by
  intro addressee
  have haddressee : Addressee.ofPid pid = addressee := ofPid_eq pid
  refine ⟨?_, ?_, ?_⟩
  · rw [addressedBy_requestEnd, haddressee]
  · rw [addressedBy_requestExistence, haddressee]
  · constructor
    · intro h
      by_contra hout
      simp only [addressee] at h
      split at h
      · cases h
      · split at h
        · omega
        · split at h <;> cases h
    · rintro ⟨hpos, hlow⟩
      simp only [addressee, Nat.ne_of_gt hpos, hlow, if_false, if_true]

/-- Zero addresses the group of the caller, the last number everyone and the one before it the group
with the number two. So zero is taken for a process that is there, where there is none. -/
theorem zero_addresses_own_group :
    let granted : Int → Option Signal → Except SignalError Unit := fun _ _ => .ok ()
    addressedBy requestEnd granted 0 = [.ownGroup] ∧
      addressedBy requestExistence granted 0 = [.ownGroup] ∧
      addressedBy requestEnd granted 0xFFFFFFFF = [.everyone] ∧
      addressedBy requestExistence granted 0xFFFFFFFE = [.group 2] ∧
      0 ∉ Host.processes.processes ∧ Host.processes.processExists 0 = true := by
  intro granted
  have hzero : Addressee.ofPid 0 = .ownGroup := by rw [ofPid_eq]; rfl
  have hlast : Addressee.ofPid 0xFFFFFFFF = .everyone := by rw [ofPid_eq]; rfl
  have hbefore : Addressee.ofPid 0xFFFFFFFE = .group 2 := by rw [ofPid_eq]; rfl
  refine ⟨?_, ?_, ?_, ?_, by decide, ?_⟩
  · rw [addressedBy_requestEnd, hzero]
  · rw [addressedBy_requestExistence, hzero]
  · rw [addressedBy_requestEnd, hlast]
  · rw [addressedBy_requestExistence, hbefore]
  · apply processExists_of_reaches
    rw [hzero]
    rfl

end GuestHarness
