import GuestHarness.Proofs.Target.Erasure
import GuestHarness.ScriptedInput
import GuestHarness.Session

/-!
A target whose behaviour is given: what it does with its input, when it ends by itself, how long
after a signal or after the end of its input it ends, if at all, what it says, and whether the system
sends it signals. Such a target obeys the laws of the clock, and its end is told; so whatever is
shown of all targets that do holds of targets that do not read, do not end, ignore what they are
told, cannot be told anything, or outlive being killed. A lost target is one that the system cannot
even wait for.
-/

namespace GuestHarness

/-! ### Scripted streams -/

namespace ScriptedInput

@[simp] lemma now_begin (s : ScriptedInput) : s.begin.now = max s.now s.ready.1 := rfl

lemma le_afterWaits (t : Instant) (rs : List WriteReply) : t ≤ (afterWaits t rs).1 := by
  fun_induction afterWaits t rs with
  | case1 t nanos rest ih => exact Nat.le_trans (Nat.le_add_right t nanos) ih
  | case2 => exact Nat.le_refl _

lemma le_ready (s : ScriptedInput) : s.now ≤ s.ready.1 := by
  unfold ready
  split
  · exact Nat.le_max_left _ _
  · exact le_afterWaits _ _

lemma now_reply (bs : Bytes) (s : ScriptedInput) : (reply bs s).2.now = s.now := by
  unfold reply
  split <;> rfl

lemma now_write (limit : Option Instant) (bs : Bytes) (s : ScriptedInput) :
    (write limit bs s).2.now =
      if limit.any (· < s.ready.1) then max s.now (limit.getD 0) else s.ready.1 := by
  unfold write
  split
  · rfl
  · rw [now_reply, now_begin]
    exact Nat.max_eq_right s.le_ready

lemma reply_ne_cut (bs : Bytes) (s : ScriptedInput) : (reply bs s).1 ≠ .cut := by
  unfold reply
  split <;> simp

lemma le_flushEnd (s : ScriptedInput) : s.now ≤ s.flushEnd := Nat.le_add_right _ _

lemma now_replyToFlush (s : ScriptedInput) : (replyToFlush s).2.now = s.now := by
  unfold replyToFlush
  split <;> rfl

lemma replyToFlush_ne_cut (s : ScriptedInput) : (replyToFlush s).1 ≠ .cut := by
  unfold replyToFlush
  split <;> simp

lemma now_flush (limit : Option Instant) (s : ScriptedInput) :
    (flush limit s).2.now =
      if limit.any (· < s.flushEnd) then max s.now (limit.getD 0) else s.flushEnd := by
  unfold flush
  split
  · rfl
  · rw [now_replyToFlush]
    exact Nat.max_eq_right s.le_flushEnd

/-- A call that replies at a given moment, unless it is dropped before. -/
lemma timedCall_of_ready {α : Type} {call : Option Instant → ScriptedInput → Reply α × ScriptedInput}
    {ready : ScriptedInput → Instant} (hready : ∀ s, s.now ≤ ready s)
    (hnow : ∀ limit s, (call limit s).2.now =
      if limit.any (· < ready s) then max s.now (limit.getD 0) else ready s)
    (hcut : ∀ limit s, (call limit s).1 = .cut → limit.any (· < ready s)) : TimedCall call where
  le_now limit s := by
    change s.now ≤ (call limit s).2.now
    rw [hnow]
    split
    · exact Nat.le_max_left _ _
    · exact hready s
  now_le m s := by
    change (call (some m) s).2.now ≤ max s.now m
    rw [hnow]
    split
    · exact Nat.le_refl _
    · next h => exact Nat.le_trans (by simpa using h) (Nat.le_max_right _ _)
  le_now_of_cut m s h := by
    change m ≤ (call (some m) s).2.now
    rw [hnow, if_pos (hcut _ s h)]
    exact Nat.le_max_right _ _

instance : TimedInput ScriptedInput where
  write bs := by
    refine timedCall_of_ready le_ready (fun limit s => now_write limit bs s) fun limit s h => ?_
    change (write limit bs s).1 = .cut at h
    unfold write at h
    split at h
    · assumption
    · exact absurd h (reply_ne_cut _ _)
  flush := by
    refine timedCall_of_ready le_flushEnd now_flush fun limit s h => ?_
    change (flush limit s).1 = .cut at h
    unfold flush at h
    split at h
    · assumption
    · exact absurd h (replyToFlush_ne_cut _)
  now_sleep _ _ := rfl

end ScriptedInput

/-! ### Scripted targets -/

/-- A target with given behaviour: its input, the earliest end that is arranged for it, the time
that passes and the end that comes when it is asked to end, when its input is closed and when it is
killed, why signals to its number are refused, if they are, and the events of its output. -/
structure ScriptedTarget where
  input : ScriptedInput := {}
  ending : Option (Instant × ExitInfo) := none
  onTerm : Option (Nat × ExitInfo) := none
  onClose : Option (Nat × ExitInfo) := none
  onKill : Option Nat := none
  refusal : Option SignalError := none
  output : List Output.Trace := []
  pid : UInt32 := 1000
  files : FileTree := ⟨[], []⟩

namespace ScriptedTarget

/-- Arranges an end after some time, unless an earlier one is arranged. -/
def arrange (t : ScriptedTarget) : Option (Nat × ExitInfo) → ScriptedTarget
  | none => t
  | some (delay, e) =>
    match t.ending with
    | none => { t with ending := some (t.input.now + delay, e) }
    | some (m, _) =>
      if m ≤ t.input.now + delay then t else { t with ending := some (t.input.now + delay, e) }

@[simp] lemma input_arrange (t : ScriptedTarget) (r : Option (Nat × ExitInfo)) :
    (t.arrange r).input = t.input := by
  unfold arrange
  split
  · rfl
  · split
    · rfl
    · split <;> rfl

/-- The end that has come by a moment. -/
def exitBy (t : ScriptedTarget) (m : Instant) : Option ExitInfo :=
  t.ending.bind fun e => if e.1 ≤ m then some e.2 else none

/-- The moment at which somebody has waited for the end until a given moment at most. -/
def endOr (t : ScriptedTarget) (m : Instant) : Instant := (t.ending.map fun e => min m e.1).getD m

/-- The target when its clock has moved. -/
def advance (t : ScriptedTarget) (m : Instant) : ScriptedTarget :=
  { t with input := t.input.advance m }

/-- What a signal does to the target. -/
def react (t : ScriptedTarget) (n : Signal) : ScriptedTarget :=
  if n = Signal.term then t.arrange t.onTerm
  else if n = Signal.kill then t.arrange (t.onKill.map fun delay => (delay, .killed Signal.kill))
  else t

/-- A signal to the number of the target, or the question whether it would go out. -/
def answer (k : Option Signal) (t : ScriptedTarget) : Except SignalError Unit × ScriptedTarget :=
  match t.refusal, k with
  | some e, _ => (.error e, t)
  | none, some n => (.ok (), t.react n)
  | none, none => (.ok (), t)

instance : Target ScriptedTarget where
  now t := t.input.now
  captured t := InputStream.captured t.input
  write limit bs t := ((t.input.write limit bs).1, { t with input := (t.input.write limit bs).2 })
  flush limit t := ((t.input.flush limit).1, { t with input := (t.input.flush limit).2 })
  sleep m t := t.advance m
  interruptions t := InputStream.interruptions t.input
  interrupted_lt limit bs t e t' h hi := by
    cases h' : t.input.write limit bs with
    | mk reply input =>
      rw [h'] at h
      cases h
      exact InputStream.interrupted_lt limit bs t.input e input h' hi
  pid t := t.pid
  exit? t := t.exitBy t.input.now
  pollExit t := (.ok (t.exitBy t.input.now), t)
  awaitExit m t :=
    let t := t.advance (t.endOr m)
    (.ok (t.exitBy t.input.now), t)
  signal _ k t := t.answer k
  kill t := (.ok (), t.react Signal.kill)
  closeInput t := t.arrange t.onClose
  traces t := t.output.map fun events => events.filter (·.1 ≤ t.input.now)
  stopReading t := t
  files t := t.files

lemma endOr_le (t : ScriptedTarget) (m : Instant) : t.endOr m ≤ m := by
  unfold endOr
  cases t.ending with
  | none => exact Nat.le_refl _
  | some e => exact Nat.min_le_left _ _

/-- Waiting for the end finds what sleeping would. -/
lemma exitBy_endOr (t : ScriptedTarget) (now m : Instant) :
    t.exitBy (max now (t.endOr m)) = t.exitBy (max now m) := by
  unfold exitBy endOr
  cases t.ending with
  | none => rfl
  | some e =>
    simp only [Option.map_some, Option.getD_some, Option.bind_some]
    congr 1
    grind

lemma le_endOr_of_running (t : ScriptedTarget) (now m : Instant)
    (h : t.exitBy (max now (t.endOr m)) = none) : m ≤ t.endOr m := by
  unfold exitBy endOr at *
  cases he : t.ending with
  | none => exact Nat.le_refl _
  | some e =>
    simp only [he, Option.map_some, Option.getD_some, Option.bind_some] at h ⊢
    split at h
    · cases h
    · grind

@[simp] lemma input_react (t : ScriptedTarget) (n : Signal) : (t.react n).input = t.input := by
  unfold react
  split
  · exact input_arrange _ _
  · split
    · exact input_arrange _ _
    · rfl

@[simp] lemma input_answer (t : ScriptedTarget) (k : Option Signal) :
    (t.answer k).2.input = t.input := by
  unfold answer
  split <;> simp

lemma isErasure_input : InputStream.IsErasure ScriptedTarget.input where
  now _ := rfl
  captured _ := rfl
  write _ _ _ := rfl
  flush _ _ := rfl
  sleep _ _ := rfl

instance : ReapableTarget ScriptedTarget where
  toTimedInput := isErasure_input.timedInput
  now_pollExit _ := rfl
  le_now_awaitExit _ _ := Nat.le_max_left _ _
  now_awaitExit_le m t := by
    change max t.input.now (t.endOr m) ≤ max t.input.now m
    have := t.endOr_le m
    grind
  now_signal _ k t := congrArg ScriptedInput.now (t.input_answer k)
  now_kill t := congrArg ScriptedInput.now (t.input_react Signal.kill)
  now_closeInput t := congrArg ScriptedInput.now (input_arrange t t.onClose)
  pollExit_fst _ := rfl
  exit?_pollExit _ := rfl
  awaitExit_fst _ _ := rfl
  exit?_awaitExit m t := t.exitBy_endOr t.input.now m
  le_now_of_running m t h := by
    have := t.le_endOr_of_running t.input.now m h
    exact Nat.le_trans this (Nat.le_max_right _ _)

end ScriptedTarget

/-! ### Lost targets -/

/-- A target for whose end nobody can wait: whoever tries gets an error, at once. -/
structure LostTarget where
  inner : ScriptedTarget
  error : IoError

namespace LostTarget

instance : Target LostTarget where
  now t := InputStream.now t.inner
  captured t := InputStream.captured t.inner
  write limit bs t :=
    let w := InputStream.write limit bs t.inner
    (w.1, { t with inner := w.2 })
  flush limit t :=
    let w := InputStream.flush limit t.inner
    (w.1, { t with inner := w.2 })
  sleep m t := { t with inner := InputStream.sleep m t.inner }
  interruptions t := InputStream.interruptions t.inner
  interrupted_lt limit bs t e t' h hi := by
    simp only [Prod.mk.injEq] at h
    obtain ⟨h, rfl⟩ := h
    exact InputStream.interrupted_lt limit bs t.inner e _ (Prod.ext h rfl) hi
  pid t := Target.pid t.inner
  exit? t := Target.exit? t.inner
  pollExit t := (.error t.error, t)
  awaitExit _ t := (.error t.error, t)
  signal n k t :=
    let w := (Target.signal n k).run t.inner
    (w.1, { t with inner := w.2 })
  kill t :=
    let w := Target.kill t.inner
    (w.1, { t with inner := w.2 })
  closeInput t := { t with inner := Target.closeInput t.inner }
  traces t := Target.traces t.inner
  stopReading t := t
  files t := Target.files t.inner

lemma isErasure_inner : InputStream.IsErasure LostTarget.inner where
  now _ := rfl
  captured _ := rfl
  write _ _ _ := rfl
  flush _ _ := rfl
  sleep _ _ := rfl

instance : TimedTarget LostTarget where
  toTimedInput := isErasure_inner.timedInput
  now_pollExit _ := rfl
  le_now_awaitExit _ _ := Nat.le_refl _
  now_awaitExit_le _ _ := Nat.le_max_left _ _
  now_signal n k t := TimedTarget.now_signal n k t.inner
  now_kill t := TimedTarget.now_kill t.inner
  now_closeInput t := TimedTarget.now_closeInput t.inner

end LostTarget

/-! ### Sites -/

/-- A site at which every command line starts the same target. -/
def Site.hosting (target : ScriptedTarget) : Site ScriptedTarget :=
  { now := target.input.now, calendar := fun _ => .epoch, files := target.files
    launch := fun _ _ _ => .ok target }

end GuestHarness
