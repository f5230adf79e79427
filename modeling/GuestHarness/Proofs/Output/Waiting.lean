import GuestHarness.Proofs.Output.Watch

/-!
Waits on one thread are runs. When the writers can act only while the waiter is suspended, what is
known of all runs is known of a wait that is looked at as a whole.
-/

namespace GuestHarness.OutputBuffer

/-! ### Reaching a scene -/

namespace Scene

variable {pattern : Bytes} {timeout : Duration} {s t u : Scene} {l : WaitStep}

/-- Some steps lead from one scene to another. -/
def Reaches (pattern : Bytes) (timeout : Duration) (s t : Scene) : Prop :=
  ∃ ls, s.run pattern timeout ls = some t

lemma Reaches.refl (s : Scene) : s.Reaches pattern timeout s := ⟨[], rfl⟩

lemma Reaches.trans (h : s.Reaches pattern timeout t) (h' : t.Reaches pattern timeout u) :
    s.Reaches pattern timeout u := by
  obtain ⟨ls, hs⟩ := h
  obtain ⟨ls', ht⟩ := h'
  exact ⟨ls ++ ls', by rw [run_append, hs]; exact ht⟩

lemma Reaches.of_step (h : s.step pattern timeout l = some t) : s.Reaches pattern timeout t :=
  ⟨[l], by simp [run, h]⟩

variable (pattern timeout)

lemma reaches_pass (s : Scene) (m : Instant) (h : s.now ≤ m) :
    s.Reaches pattern timeout { s with now := m } :=
  .of_step (l := .pass (m - s.now)) (by simp [step, Nat.add_sub_cancel' h])

/-- The waiter is about to begin a round, or it is suspended and there is nothing to wake it for. -/
def IsWaiting (pattern : Bytes) (s : Scene) : Prop :=
  s.point = .registering ∨ s.point = .suspended ∧ s.heard = false ∧
    s.buffer.contains pattern = false ∧ s.buffer.closed = false

/-- A round ends with a verdict, or with the waiter suspended for a reason. -/
lemma reaches_round (h : s.IsWaiting pattern) :
    s.Reaches pattern timeout { s with
      heard := false
      point :=
        if s.buffer.contains pattern then .returned true s.now
        else if s.buffer.closed then .returned false s.now
        else .suspended } := by
  obtain hp | ⟨hp, hh, hc, hcl⟩ := h
  · have hreg : s.Reaches pattern timeout { s with point := .looking, heard := false } :=
      .of_step (l := .turn) (by simp [step, turn, hp])
    have hlook : Reaches pattern timeout { s with point := .looking, heard := false }
        { s with
          heard := false
          point := if s.buffer.contains pattern then .returned true s.now else .asking } :=
      .of_step (l := .turn) rfl
    refine hreg.trans (hlook.trans ?_)
    split
    · exact .refl _
    · exact .of_step (l := .turn) rfl
  · rw [if_neg (by simp [hc]), if_neg (by simp [hcl]), ← hp, ← hh]
    exact .refl s

/-- A waiter that is suspended for a reason gives up when its time is up. -/
lemma reaches_expiry (hp : s.point = .suspended) (hh : s.heard = false) :
    s.Reaches pattern timeout { s with
      now := max s.now s.deadline
      point := .returned (s.buffer.contains pattern) (max s.now s.deadline) } := by
  refine (reaches_pass pattern timeout s (max s.now s.deadline) (Nat.le_max_left _ _)).trans ?_
  refine (Reaches.of_step (l := .turn) (t := { s with
    now := max s.now s.deadline, point := .expired }) ?_).trans (.of_step (l := .turn) rfl)
  simp only [step, turn, hp, hh, Bool.false_eq_true, if_false,
    if_pos (Nat.le_max_right s.now s.deadline)]

/-! ### Writers that are not interrupted -/

/-- Somebody adds bytes or closes the buffer, and announces it. -/
lemma reaches_action (s : Scene) (a : Action) : ∃ heard,
    s.Reaches pattern timeout { s with buffer := s.buffer.apply a, heard := heard } ∧
      (heard = false → s.heard = false ∧ s.buffer.apply a = s.buffer) := by
  cases a with
  | append chunk =>
    by_cases hc : chunk = []
    · subst hc
      have hb : s.buffer.apply (.append []) = s.buffer := by simp [apply, append]
      exact ⟨s.heard, by rw [hb]; exact .refl s, fun h => ⟨h, hb⟩⟩
    · refine ⟨true, ?_, by simp⟩
      exact (Reaches.of_step (l := .write chunk) (if_neg hc)).trans
        (.of_step (l := .announce) (by simp [step, apply]))
  | close =>
    refine ⟨true, ?_, by simp⟩
    exact (Reaches.of_step (l := .shut) rfl).trans
      (.of_step (l := .announce) (by simp [step, apply]))

lemma reaches_actions (actions : List Action) : ∀ s : Scene, ∃ heard,
    s.Reaches pattern timeout { s with buffer := actions.foldl apply s.buffer, heard := heard } ∧
      (heard = false → s.heard = false ∧ actions.foldl apply s.buffer = s.buffer) := by
  induction actions with
  | nil => exact fun s => ⟨s.heard, .refl s, fun h => ⟨h, rfl⟩⟩
  | cons a rest ih =>
    intro s
    obtain ⟨heard, ha, hsame⟩ := reaches_action pattern timeout s a
    obtain ⟨heard', hr, hsame'⟩ := ih { s with buffer := s.buffer.apply a, heard := heard }
    refine ⟨heard', ha.trans hr, fun h => ?_⟩
    obtain ⟨h1, h2⟩ := hsame' h
    obtain ⟨h3, h4⟩ := hsame h1
    exact ⟨h3, h2.trans h4⟩

end Scene

/-! ### The whole wait -/

/-- The moments of a schedule do not go back. -/
def Schedule.From : Instant → Schedule → Prop
  | _, [] => True
  | now, (t, _) :: rest => now ≤ t ∧ Schedule.From t rest

/-- After the actions of a moment the waiter begins another round, if it was woken, or there is
still nothing to wake it for. -/
lemma Scene.reaches_moment (pattern : Bytes) (timeout : Duration) {s : Scene} (t : Instant)
    (actions : List Action) (ht : s.now ≤ t) (hp : s.point = .suspended)
    (hc : s.buffer.contains pattern = false) (hcl : s.buffer.closed = false) :
    ∃ u, s.Reaches pattern timeout u ∧ u.IsWaiting pattern ∧ u.now = t ∧
      u.deadline = s.deadline ∧ u.buffer = actions.foldl apply s.buffer := by
  obtain ⟨heard, hact, hsame⟩ := Scene.reaches_actions pattern timeout actions { s with now := t }
  have hall := (Scene.reaches_pass pattern timeout s t ht).trans hact
  cases heard with
  | true =>
    have hwake := hall.trans (.of_step (l := .turn) (by simp only [step, turn, hp]; rfl))
    exact ⟨_, hwake, .inl rfl, rfl, rfl, rfl⟩
  | false =>
    have hb : actions.foldl apply s.buffer = s.buffer := (hsame rfl).2
    exact ⟨_, hall, .inr ⟨hp, rfl, by simpa [hb] using hc, by simpa [hb] using hcl⟩, rfl, rfl, rfl⟩

/-- **A wait on one thread is a run.** -/
theorem reaches_waitUntil (pattern : Bytes) (timeout : Duration) (schedule : Schedule) :
    ∀ s : Scene, s.IsWaiting pattern → schedule.From s.now →
      let w := waitUntil pattern s.deadline s.now s.buffer schedule
      ∃ t, s.Reaches pattern timeout t ∧ t.point = .returned w.found w.moment ∧
        t.buffer = w.buffer := by
  induction schedule with
  | nil =>
    intro s hs _
    have hround := Scene.reaches_round pattern timeout hs
    unfold waitUntil
    split
    · next hc =>
      rw [if_pos hc] at hround
      exact ⟨_, hround, rfl, rfl⟩
    · next hc =>
      split
      · next hcl =>
        rw [if_neg hc, if_pos hcl] at hround
        exact ⟨_, hround, rfl, rfl⟩
      · next hcl =>
        rw [if_neg hc, if_neg hcl] at hround
        exact ⟨_, hround.trans (Scene.reaches_expiry pattern timeout rfl rfl), by simp [hc], rfl⟩
  | cons group rest ih =>
    obtain ⟨t, actions⟩ := group
    intro s hs hfrom
    have hround := Scene.reaches_round pattern timeout hs
    unfold waitUntil
    split
    · next hc =>
      rw [if_pos hc] at hround
      exact ⟨_, hround, rfl, rfl⟩
    · next hc =>
      split
      · next hcl =>
        rw [if_neg hc, if_pos hcl] at hround
        exact ⟨_, hround, rfl, rfl⟩
      · next hcl =>
        rw [if_neg hc, if_neg hcl] at hround
        split
        · exact ⟨_, hround.trans (Scene.reaches_expiry pattern timeout rfl rfl), by simp [hc], rfl⟩
        · -- the actions of the moment either wake the waiter or change nothing
          obtain ⟨u, hu, hwaiting, hnow, hdeadline, hbuffer⟩ :=
            Scene.reaches_moment pattern timeout
              (s := { s with point := .suspended, heard := false }) t actions hfrom.1 rfl
              (by simpa using hc) (by simpa using hcl)
          obtain ⟨v, hv, hpoint, hlast⟩ := ih u hwaiting (by rw [hnow]; exact hfrom.2)
          rw [hnow, hdeadline, hbuffer] at hpoint hlast
          exact ⟨v, hround.trans (hu.trans hv), hpoint, hlast⟩

/-- A wait that is called on a buffer is a run from that call. -/
theorem reaches_waitFor {b : OutputBuffer} {pattern : Bytes} {timeout : Duration} {now : Instant}
    {schedule : Schedule} {w : Waited} (hs : schedule.From now)
    (h : b.waitFor pattern timeout now schedule = .ok w) :
    ∃ t, Scene.Reaches pattern timeout { now := now, buffer := b } t ∧
      t.point = .returned w.found w.moment ∧ t.buffer = w.buffer := by
  obtain ⟨deadline, hd, hw⟩ := bind_eq_ok_iff.1 h
  cases hw
  have hcall : Scene.Reaches pattern timeout { now := now, buffer := b }
      { now := now, buffer := b, point := .registering, deadline := deadline } :=
    .of_step (l := .turn) (by simp [Scene.step, Scene.turn, hd])
  obtain ⟨t, ht, hv⟩ := reaches_waitUntil pattern timeout schedule
    { now := now, buffer := b, point := .registering, deadline := deadline } (.inl rfl) hs
  exact ⟨t, hcall.trans ht, hv⟩

/-- **On one thread the verdict is right.** A waiter that gives up early has found the buffer
closed, and what it holds then does not contain the pattern. -/
theorem absent_of_waitUntil {pattern : Bytes} {deadline now : Instant} {b : OutputBuffer}
    {schedule : Schedule} (hfound : (waitUntil pattern deadline now b schedule).found = false)
    (hearly : (waitUntil pattern deadline now b schedule).moment < deadline) :
    (waitUntil pattern deadline now b schedule).buffer.closed ∧
      ¬ pattern <:+: (waitUntil pattern deadline now b schedule).buffer.data := by
  have habsent : ∀ b : OutputBuffer, ¬ b.contains pattern → ¬ pattern <:+: b.data :=
    fun b hc => mt occurs_iff.2 hc
  have hlate : ∀ m, ¬ max m deadline < deadline := fun m => Nat.not_lt.2 (Nat.le_max_right _ _)
  induction schedule generalizing now b with
  | nil =>
    unfold waitUntil at hfound hearly ⊢
    split at hfound
    · cases hfound
    · next hc =>
      split at hfound
      · next hcl => simpa [hc, hcl] using habsent b hc
      · next hcl =>
        rw [if_neg hc, if_neg hcl] at hearly
        exact absurd hearly (hlate now)
  | cons group rest ih =>
    obtain ⟨t, actions⟩ := group
    unfold waitUntil at hfound hearly ⊢
    split at hfound
    · cases hfound
    · next hc =>
      split at hfound
      · next hcl => simpa [hc, hcl] using habsent b hc
      · next hcl =>
        split at hfound
        · next ht =>
          rw [if_neg hc, if_neg hcl, if_pos ht] at hearly
          exact absurd hearly (hlate now)
        · next ht =>
          simp only [if_neg hc, if_neg hcl, if_neg ht] at hearly ⊢
          exact ih hfound hearly

end GuestHarness.OutputBuffer
