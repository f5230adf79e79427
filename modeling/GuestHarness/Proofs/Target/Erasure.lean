import GuestHarness.Proofs.Target.Laws
import Mathlib.Tactic.Common

/-!
Streams and targets under observation. What is observed is a stream or target with notes, and to
erase the notes is a map that respects all calls: what is done to the observed one is done to the
other, and what the one shows is what the other shows. So the observed one obeys whatever laws the
other obeys.
-/

namespace GuestHarness

/-! ### Maps that respect calls -/

/-- A map that erases what is noted of an observed stream. -/
structure InputStream.IsErasure {σ τ : Type} [InputStream σ] [InputStream τ] (f : σ → τ) :
    Prop where
  now (s : σ) : InputStream.now (f s) = InputStream.now s
  captured (s : σ) : InputStream.captured (f s) = InputStream.captured s
  write (limit : Option Instant) (bs : Bytes) (s : σ) :
    Prod.map id f (InputStream.write limit bs s) = InputStream.write limit bs (f s)
  flush (limit : Option Instant) (s : σ) :
    Prod.map id f (InputStream.flush limit s) = InputStream.flush limit (f s)
  sleep (m : Instant) (s : σ) : f (InputStream.sleep m s) = InputStream.sleep m (f s)

/-- A map that erases what is noted of an observed target. -/
structure Target.IsErasure {σ τ : Type} [Target σ] [Target τ] (f : σ → τ) : Prop
    extends InputStream.IsErasure f where
  pid (s : σ) : Target.pid (f s) = Target.pid s
  exit? (s : σ) : Target.exit? (f s) = Target.exit? s
  pollExit (s : σ) : Prod.map id f (Target.pollExit s) = Target.pollExit (f s)
  awaitExit (m : Instant) (s : σ) : Prod.map id f (Target.awaitExit m s) = Target.awaitExit m (f s)
  signal (n : Int) (k : Option Signal) (s : σ) :
    Prod.map id f ((Target.signal n k).run s) = (Target.signal n k).run (f s)
  kill (s : σ) : Prod.map id f (Target.kill s) = Target.kill (f s)
  closeInput (s : σ) : f (Target.closeInput s) = Target.closeInput (f s)

/-! ### Laws -/

section Streams

variable {σ τ : Type} [InputStream σ] [InputStream τ] {f : σ → τ}

lemma TimedCall.of_erasure {α : Type} {call : Option Instant → σ → Reply α × σ}
    {call' : Option Instant → τ → Reply α × τ} (h : TimedCall call')
    (hnow : ∀ s, InputStream.now (f s) = InputStream.now s)
    (hcall : ∀ limit s, Prod.map id f (call limit s) = call' limit (f s)) : TimedCall call := by
  have hreply : ∀ limit s, (call' limit (f s)).1 = (call limit s).1 := fun limit s => by
    rw [← hcall]
    rfl
  have hafter : ∀ limit s, InputStream.now (call' limit (f s)).2 =
      InputStream.now (call limit s).2 := fun limit s => by
    rw [← hcall, ← hnow]
    rfl
  refine ⟨fun limit s => ?_, fun m s => ?_, fun m s hcut => ?_⟩
  · rw [← hafter, ← hnow]
    exact h.le_now limit (f s)
  · rw [← hafter, ← hnow]
    exact h.now_le m (f s)
  · rw [← hafter]
    exact h.le_now_of_cut m (f s) (by rwa [hreply])

lemma InputStream.IsErasure.timedInput [TimedInput τ] (h : InputStream.IsErasure f) :
    TimedInput σ where
  write bs := (TimedInput.write bs).of_erasure h.now fun limit s => h.write limit bs s
  flush := TimedInput.flush.of_erasure h.now h.flush
  now_sleep m s := by
    rw [← h.now, h.sleep, TimedInput.now_sleep, h.now]

end Streams

section Targets

variable {σ τ : Type} [Target σ] [Target τ] {f : σ → τ}

/-- The clock after a call that an erasure respects. -/
lemma InputStream.IsErasure.now_snd (h : InputStream.IsErasure f) {α : Type} {x : α × σ}
    {y : α × τ} (hx : Prod.map id f x = y) : InputStream.now x.2 = InputStream.now y.2 := by
  subst hx
  exact (h.now x.2).symm

/-- The end after a call that an erasure respects. -/
lemma Target.IsErasure.exit?_snd (h : Target.IsErasure f) {α : Type} {x : α × σ}
    {y : α × τ} (hx : Prod.map id f x = y) : Target.exit? x.2 = Target.exit? y.2 := by
  subst hx
  exact (h.exit? x.2).symm

lemma Target.IsErasure.timedTarget [TimedTarget τ] (h : Target.IsErasure f) : TimedTarget σ where
  toTimedInput := h.timedInput
  now_pollExit s := by
    rw [h.now_snd (h.pollExit s), TimedTarget.now_pollExit, h.now]
  le_now_awaitExit m s := by
    rw [h.now_snd (h.awaitExit m s), ← h.now]
    exact TimedTarget.le_now_awaitExit m (f s)
  now_awaitExit_le m s := by
    rw [h.now_snd (h.awaitExit m s), ← h.now]
    exact TimedTarget.now_awaitExit_le m (f s)
  now_signal n k s := by
    rw [h.now_snd (h.signal n k s), TimedTarget.now_signal, h.now]
  now_kill s := by
    rw [h.now_snd (h.kill s), TimedTarget.now_kill, h.now]
  now_closeInput s := by
    rw [← h.now, h.closeInput, TimedTarget.now_closeInput, h.now]

lemma Target.IsErasure.reapableTarget [ReapableTarget τ] (h : Target.IsErasure f) :
    ReapableTarget σ where
  toTimedTarget := h.timedTarget
  pollExit_fst s := by
    rw [← h.exit?, ← ReapableTarget.pollExit_fst, ← h.pollExit]
    rfl
  exit?_pollExit s := by
    rw [h.exit?_snd (h.pollExit s), ReapableTarget.exit?_pollExit, h.exit?]
  awaitExit_fst m s := by
    rw [h.exit?_snd (h.awaitExit m s), ← ReapableTarget.awaitExit_fst, ← h.awaitExit]
    rfl
  exit?_awaitExit m s := by
    rw [h.exit?_snd (h.awaitExit m s), ReapableTarget.exit?_awaitExit, ← h.sleep, h.exit?]
  le_now_of_running m s hrunning := by
    rw [h.exit?_snd (h.awaitExit m s)] at hrunning
    rw [h.now_snd (h.awaitExit m s)]
    exact ReapableTarget.le_now_of_running m (f s) hrunning

end Targets

end GuestHarness
