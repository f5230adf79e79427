import GuestHarness.Proofs.Interleaving
import GuestHarness.Proofs.Output.Watch

/-!
No wake-up is lost. A writer changes the buffer and announces the change afterwards, to whoever is
registered then; an announcement that finds nobody registered is gone. But the waiter registers
before it looks. What its look and its question did not see came after the registration, and is
announced later still. So a suspended waiter that has something to see has heard of it, or one of
the writers stands between a change and its announcement.

Any number of writers take part, each with a list of things to do, and any order of the steps is a
run. The announcements that a scene owes are those of the writers who have yet to announce.
-/

namespace GuestHarness.OutputBuffer

/-! ### The waiter -/

namespace Scene

variable {pattern : Bytes} {timeout : Duration} {s s' : Scene} {l : WaitStep}

/-- What the waiter did not see will be announced: if the pattern is there and it has looked, or if
the buffer is closed and it has asked, then it has heard an announcement since it registered, or one
is owed. -/
def Attentive (pattern : Bytes) (s : Scene) : Prop :=
  s.heard = false →
    (s.point = .asking ∨ s.point = .suspended → pattern <:+: s.buffer.data → 0 < s.owed) ∧
    (s.point = .suspended → s.buffer.closed → 0 < s.owed)

lemma attentive_turn (hs : s.Attentive pattern) (h : s.turn pattern timeout = some s') :
    s'.Attentive pattern := by
  unfold turn at h
  split at h
  · split at h <;> cases h
    simp [Attentive]
  · cases h
    simp [Attentive]
  · cases h
    -- whoever goes on to ask has looked at this buffer in vain
    intro _
    by_cases hc : s.buffer.contains pattern
    · simp [hc]
    · have habsent : ¬ pattern <:+: s.buffer.data := mt occurs_iff.2 hc
      simp [hc, habsent]
  · next hp =>
    cases h
    intro hh
    by_cases hc : s.buffer.closed
    · simp [hc]
    · simpa [hc] using (hs hh).1 (.inl hp)
  · split at h
    · cases h
      simp [Attentive]
    · split at h <;> cases h
      simp [Attentive]
  · cases h
    simp [Attentive]
  · cases h

lemma turn_owed (h : s.turn pattern timeout = some s') : s'.owed = s.owed := by
  rw [turn_frame h]

lemma attentive_step (hs : s.Attentive pattern) (h : s.step pattern timeout l = some s') :
    s'.Attentive pattern := by
  cases l with
  | pass nanos => cases h; exact hs
  | write chunk =>
    simp only [step] at h
    split at h <;> cases h
    simp [Attentive]
  | shut => cases h; simp [Attentive]
  | announce =>
    simp only [step] at h
    split at h <;> cases h
    simp [Attentive]
  | turn => exact attentive_turn hs h

/-- The steps that a waiter who has heard of something takes before it returns that the pattern is
there, if it is. -/
def turnsToFind (s : Scene) : Option Nat :=
  match s.point with
  | .suspended => if s.heard then some 3 else none
  | .registering => some 2
  | .looking => some 1
  | .returned true _ => some 0
  | _ => none

/-- The pattern is there, and the waiter will find it with so many steps. -/
def Finds (pattern : Bytes) (turns : Nat) (s : Scene) : Prop :=
  pattern <:+: s.buffer.data ∧ s.turnsToFind = some turns

variable {n : Nat}

/-- What others do and the time that passes take nothing away from the waiter. -/
lemma Finds.step_other (hs : s.Finds pattern n) (h : s.step pattern timeout l = some s')
    (hl : l ≠ .turn) : s'.Finds pattern n := by
  obtain ⟨hin, hn⟩ := hs
  refine ⟨hin.trans ⟨[], l.written, by simpa using (step_buffer h).1.symm⟩, ?_⟩
  cases l with
  | pass nanos => cases h; exact hn
  | write chunk =>
    simp only [step] at h
    split at h <;> cases h
    exact hn
  | shut => cases h; exact hn
  | announce =>
    simp only [step] at h
    split at h <;> cases h
    unfold turnsToFind at hn ⊢
    dsimp only
    split at hn
    · split at hn
      · simpa using hn
      · cases hn
    all_goals exact hn
  | turn => exact absurd rfl hl

/-- Each step of the waiter brings it nearer, and can be taken. -/
lemma Finds.turn (timeout : Duration) (hs : s.Finds pattern (n + 1)) :
    ∃ s', s.turn pattern timeout = some s' ∧ s'.Finds pattern n := by
  obtain ⟨hin, hn⟩ := hs
  unfold turnsToFind at hn
  split at hn
  · next hp =>
    split at hn
    · next hh =>
      cases hn
      exact ⟨{ s with point := .registering }, by simp [Scene.turn, hp, hh], hin, rfl⟩
    · cases hn
  · next hp =>
    cases hn
    exact ⟨{ s with point := .looking, heard := false }, by simp [Scene.turn, hp], hin, rfl⟩
  · next hp =>
    cases hn
    have hc : s.buffer.contains pattern := occurs_iff.2 hin
    exact ⟨{ s with point := .returned true s.now }, by simp [Scene.turn, hp, hc], hin, rfl⟩
  · cases hn
  · cases hn

lemma Finds.returned (hs : s.Finds pattern 0) : ∃ moment, s.point = .returned true moment := by
  have hn := hs.2
  unfold turnsToFind at hn
  split at hn
  · split at hn <;> cases hn
  · cases hn
  · cases hn
  · next moment hp => exact ⟨moment, hp⟩
  · cases hn

end Scene

/-! ### The writers -/

/-- Somebody who writes: what he has yet to do to the buffer, and whether he has changed it and not
announced it yet. -/
structure Writer where
  todo : List Action
  announcing : Bool := false
deriving DecidableEq

namespace Writer

/-- The next step of a writer, and what is left of him. Each change is announced before the next one
is made. To add no bytes is no change, and is passed over. -/
def next? : Writer → Option (Option WaitStep × Writer)
  | ⟨todo, true⟩ => some (some .announce, ⟨todo, false⟩)
  | ⟨[], false⟩ => none
  | ⟨.append [] :: rest, false⟩ => some (none, ⟨rest, false⟩)
  | ⟨.append (a :: chunk) :: rest, false⟩ => some (some (.write (a :: chunk)), ⟨rest, true⟩)
  | ⟨.close :: rest, false⟩ => some (some .shut, ⟨rest, true⟩)

variable {pattern : Bytes} {timeout : Duration} {w w' : Writer} {l : Option WaitStep} {s s' : Scene}

/-- A writer owes the scene an announcement from his change to the announcement of it. -/
lemma owed_of_next? (hn : w.next? = some (l, w'))
    (hs : l.elim (some s) (s.step pattern timeout) = some s') :
    s'.owed + (if w.announcing then 1 else 0) = s.owed + (if w'.announcing then 1 else 0) := by
  unfold next? at hn
  split at hn
  · cases hn
    simp only [Option.elim_some, Scene.step] at hs
    split at hs
    · cases hs
    · next hpos =>
      cases hs
      simpa using Nat.sub_add_cancel (Nat.pos_of_ne_zero hpos)
  · cases hn
  · cases hn
    cases hs
    rfl
  · cases hn
    simp only [Option.elim_some, Scene.step] at hs
    split at hs <;> cases hs
    rfl
  · cases hn
    cases hs
    rfl

/-- Writers take no steps for the waiter. -/
lemma next?_ne_turn {l : WaitStep} (h : w.next? = some (some l, w')) : l ≠ .turn := by
  unfold next? at h
  split at h <;> cases h <;> simp

lemma next?_of_announcing (h : w.announcing) :
    w.next? = some (some .announce, { w with announcing := false }) := by
  obtain ⟨todo, announcing⟩ := w
  cases h
  rfl

end Writer

/-- A waiter and some writers around a buffer. -/
structure Company where
  scene : Scene
  writers : List Writer
deriving DecidableEq

/-- What happens next: time passes, or one of the company takes its next step. -/
inductive Move where
  | pass (nanos : Nat)
  | waiter
  | writer (i : Nat)
deriving DecidableEq

namespace Company

/-- A buffer at some moment, somebody who is about to wait, and writers with all their work before
them. -/
def start (buffer : OutputBuffer) (now : Instant) (work : List (List Action)) : Company :=
  { scene := { now := now, buffer := buffer }, writers := work.map fun todo => { todo := todo } }

/-- The step of the scene that a move is, if it is one, and the writers after it. -/
def label? (c : Company) : Move → Option (Option WaitStep × List Writer)
  | .pass nanos => some (some (.pass nanos), c.writers)
  | .waiter => some (some .turn, c.writers)
  | .writer i => do
    let w ← c.writers[i]?
    let (l, w') ← w.next?
    return (l, c.writers.set i w')

variable (pattern : Bytes) (timeout : Duration)

/-- The company after a move, if it can be made. -/
def step (c : Company) (m : Move) : Option Company := do
  let (l, writers) ← c.label? m
  let scene ← l.elim (some c.scene) (c.scene.step pattern timeout)
  return ⟨scene, writers⟩

/-- The company after some moves, if they can be made in this order. -/
def run (c : Company) (ms : List Move) : Option Company := ms.foldlM (step pattern timeout) c

/-- The number of writers who stand between a change and its announcement. -/
def announcing (c : Company) : Nat := c.writers.countP Writer.announcing

variable {pattern timeout} {c c' : Company} {m : Move} {ms : List Move}

lemma step_eq_some : c.step pattern timeout m = some c' ↔ ∃ l, c.label? m = some (l, c'.writers) ∧
    l.elim (some c.scene) (c.scene.step pattern timeout) = some c'.scene := by
  obtain ⟨scene', writers'⟩ := c'
  simp only [step, bind, Option.bind_eq_some_iff, pure, Option.some.injEq, mk.injEq, Prod.exists]
  constructor
  · rintro ⟨l, writers, hl, scene, hs, rfl, rfl⟩
    exact ⟨l, hl, hs⟩
  · rintro ⟨l, hl, hs⟩
    exact ⟨l, writers', hl, scene', hs, rfl, rfl⟩

/-- What a move is: time passes or the waiter takes a step, or a writer takes his. -/
lemma label?_cases {l : Option WaitStep} {writers : List Writer}
    (h : c.label? m = some (l, writers)) :
    (∃ nanos, m = .pass nanos ∧ l = some (.pass nanos) ∧ writers = c.writers) ∨
    (m = .waiter ∧ l = some .turn ∧ writers = c.writers) ∨
    ∃ i w w', m = .writer i ∧ c.writers[i]? = some w ∧ w.next? = some (l, w') ∧
      writers = c.writers.set i w' := by
  cases m with
  | pass nanos => cases h; exact .inl ⟨nanos, rfl, rfl, rfl⟩
  | waiter => cases h; exact .inr (.inl ⟨rfl, rfl, rfl⟩)
  | writer i =>
    simp only [label?, bind, Option.bind_eq_some_iff, pure, Option.some.injEq, Prod.mk.injEq,
      Prod.exists] at h
    obtain ⟨w, hw, l', w', hn, rfl, rfl⟩ := h
    exact .inr (.inr ⟨i, w, w', rfl, hw, hn, rfl⟩)

/-! ### What all moves keep -/

/-- The waiter misses nothing, and the writers know what they owe. -/
structure Sound (pattern : Bytes) (c : Company) : Prop where
  attentive : c.scene.Attentive pattern
  owed : c.scene.owed = c.announcing

lemma sound_start (buffer : OutputBuffer) (now : Instant) (work : List (List Action)) :
    (start buffer now work).Sound pattern := by
  constructor
  · simp [start, Scene.Attentive]
  · simp [start, announcing, List.countP_map, Function.comp_def]

lemma Sound.step (hc : c.Sound pattern) (h : c.step pattern timeout m = some c') :
    c'.Sound pattern := by
  obtain ⟨l, hl, hs⟩ := step_eq_some.1 h
  obtain ⟨s', writers'⟩ := c'
  constructor
  · cases l with
    | none => cases hs; exact hc.attentive
    | some l => exact Scene.attentive_step hc.attentive hs
  · have howed := hc.owed
    unfold announcing at howed ⊢
    obtain ⟨nanos, -, rfl, hw⟩ | ⟨-, rfl, hw⟩ | ⟨i, w, w', -, hi, hn, hw⟩ := label?_cases hl
    · cases hs
      rw [hw]
      exact howed
    · rw [hw, ← howed]
      exact Scene.turn_owed hs
    · have hscene := Writer.owed_of_next? hn hs
      have hcount := countP_set_add (p := Writer.announcing) hi w'
      rw [hw]
      omega

lemma sound_run (hc : c.Sound pattern) (h : c.run pattern timeout ms = some c') :
    c'.Sound pattern := by
  induction ms generalizing c with
  | nil => cases h; exact hc
  | cons m ms ih =>
    obtain ⟨d, hm, hr⟩ := Option.bind_eq_some_iff.1 h
    exact ih (hc.step hm) hr

/-- A waiter who will find the pattern is nearer to it after each of its own moves, and as near as
before after any other. -/
lemma finds_step {n : Nat} (hc : c.scene.Finds pattern n)
    (h : c.step pattern timeout m = some c') :
    ∃ k, k + [m].count .waiter = n ∧ c'.scene.Finds pattern k := by
  obtain ⟨l, hl, hs⟩ := step_eq_some.1 h
  obtain ⟨s', writers'⟩ := c'
  obtain ⟨nanos, rfl, rfl, -⟩ | ⟨rfl, rfl, -⟩ | ⟨i, w, w', rfl, -, hn, -⟩ := label?_cases hl
  · have hpass : c.scene.step pattern timeout (.pass nanos) = some s' := hs
    exact ⟨n, rfl, hc.step_other hpass (by simp)⟩
  · cases n with
    | zero =>
      obtain ⟨moment, hp⟩ := hc.returned
      simp [Scene.step, Scene.turn, hp] at hs
    | succ n =>
      obtain ⟨s, ht, hf⟩ := hc.turn timeout
      obtain rfl := Option.some.inj (ht.symm.trans hs)
      exact ⟨n, rfl, hf⟩
  · refine ⟨n, rfl, ?_⟩
    cases l with
    | none => cases hs; exact hc
    | some l => exact hc.step_other hs (Writer.next?_ne_turn hn)

lemma finds_run {n : Nat} (hc : c.scene.Finds pattern n)
    (h : c.run pattern timeout ms = some c') :
    ∃ k, k + ms.count .waiter = n ∧ c'.scene.Finds pattern k := by
  induction ms generalizing c n with
  | nil => cases h; exact ⟨n, rfl, hc⟩
  | cons m ms ih =>
    obtain ⟨d, hm, hr⟩ := Option.bind_eq_some_iff.1 h
    obtain ⟨j, hj, hd⟩ := finds_step hc hm
    obtain ⟨k, hk, hf⟩ := ih hd hr
    refine ⟨k, ?_, hf⟩
    rw [← List.singleton_append, List.count_append]
    omega

/-! ### No wake-up is lost -/

/-- **No wake-up is lost.** Whenever the waiter is suspended and has not heard anything, there is
nothing for it to see, or a writer stands between a change and its announcement, and can make it,
which wakes the waiter. A waiter who was woken when the pattern was there returns that it is there,
at the third of its steps from then on, each of which it can take at once; nothing that others do
meanwhile, and no time that passes, stands in the way. -/
theorem no_lost_wakeup (pattern : Bytes) (timeout : Duration) (buffer : OutputBuffer)
    (now : Instant) (work : List (List Action)) {ms : List Move} {c : Company}
    (h : (start buffer now work).run pattern timeout ms = some c)
    (hpoint : c.scene.point = .suspended) :
    (c.scene.heard = false →
      (¬ pattern <:+: c.scene.buffer.data ∧ c.scene.buffer.closed = false) ∨
        ∃ w ∈ c.writers, w.announcing) ∧
    (∀ i w, c.writers[i]? = some w → w.announcing → ∃ c',
      c.step pattern timeout (.writer i) = some c' ∧
      c'.scene = { c.scene with owed := c'.scene.owed, heard := true }) ∧
    (c.scene.heard → pattern <:+: c.scene.buffer.data →
      ∀ ms' c', c.run pattern timeout ms' = some c' →
        (ms'.count .waiter < 3 ∧ ∃ c'', c'.step pattern timeout .waiter = some c'') ∨
        (ms'.count .waiter = 3 ∧ ∃ moment, c'.scene.point = .returned true moment)) := by
  have hc := sound_run (sound_start buffer now work) h
  refine ⟨fun hh => ?_, fun i w hi hw => ?_, fun hh hin ms' c' hr => ?_⟩
  · by_cases howed : 0 < c.scene.owed
    · rw [hc.owed] at howed
      exact .inr (List.countP_pos_iff.1 howed)
    · obtain ⟨hdata, hclosed⟩ := hc.attentive hh
      refine .inl ⟨fun hin => howed (hdata (.inr hpoint) hin), ?_⟩
      exact Bool.eq_false_iff.2 fun hcl => howed (hclosed hpoint hcl)
  · have howed : c.scene.owed ≠ 0 := by
      rw [hc.owed]
      exact Nat.pos_iff_ne_zero.1 (List.countP_pos_iff.2 ⟨w, List.mem_of_getElem? hi, hw⟩)
    refine ⟨⟨{ c.scene with owed := c.scene.owed - 1, heard := true },
      c.writers.set i { w with announcing := false }⟩, step_eq_some.2 ⟨some .announce, ?_, ?_⟩, rfl⟩
    · simp [label?, hi, Writer.next?_of_announcing hw]
    · simp [Scene.step, howed]
  · have hf : c.scene.Finds pattern 3 := ⟨hin, by simp [Scene.turnsToFind, hpoint, hh]⟩
    obtain ⟨k, hk, hf'⟩ := finds_run hf hr
    cases k with
    | zero => exact .inr ⟨by omega, hf'.returned⟩
    | succ k =>
      obtain ⟨s, hs, -⟩ := hf'.turn timeout
      exact .inl ⟨by omega, ⟨s, c'.writers⟩, step_eq_some.2 ⟨some .turn, rfl, hs⟩⟩

/-- Two writers add a byte each while the waiter is suspended; the two bytes together are what it
waits for. Both have yet to announce it. The announcement of the first is enough, even if the
deadline passes before the waiter looks. -/
theorem no_lost_wakeup_split :
    let opening := start .empty 0 [[.append [0x41]], [.append [0x42]]]
    let both : Scene :=
      { buffer := ⟨[0x41, 0x42], false⟩, owed := 2, point := .suspended, deadline := 1000000000 }
    let woken : Company := ⟨{ both with owed := 1, heard := true }, [⟨[], false⟩, ⟨[], true⟩]⟩
    opening.run [0x41, 0x42] (.ofSeconds 1)
        [.waiter, .waiter, .waiter, .waiter, .writer 0, .writer 1] =
      some ⟨both, [⟨[], true⟩, ⟨[], true⟩]⟩ ∧
    (∃ w ∈ [(⟨[], true⟩ : Writer), ⟨[], true⟩], w.announcing) ∧
    step [0x41, 0x42] (.ofSeconds 1) ⟨both, [⟨[], true⟩, ⟨[], true⟩]⟩ (.writer 0) = some woken ∧
    ∃ last moment, woken.run [0x41, 0x42] (.ofSeconds 1)
        [.waiter, .pass 5000000000, .waiter, .writer 1, .waiter] = some last ∧
      last.scene.point = .returned true moment := by
  intro opening both woken
  have hboth : opening.run [0x41, 0x42] (.ofSeconds 1)
      [.waiter, .waiter, .waiter, .waiter, .writer 0, .writer 1] =
      some ⟨both, [⟨[], true⟩, ⟨[], true⟩]⟩ := by decide
  have hwoken : opening.run [0x41, 0x42] (.ofSeconds 1)
      [.waiter, .waiter, .waiter, .waiter, .writer 0, .writer 1, .writer 0] = some woken := by
    decide
  obtain ⟨last, hlast⟩ : ∃ last, woken.run [0x41, 0x42] (.ofSeconds 1)
      [.waiter, .pass 5000000000, .waiter, .writer 1, .waiter] = some last :=
    Option.isSome_iff_exists.1 (by decide)
  obtain ⟨howed, -, -⟩ := no_lost_wakeup [0x41, 0x42] (.ofSeconds 1) _ _ _ hboth rfl
  obtain ⟨-, -, hfound⟩ := no_lost_wakeup [0x41, 0x42] (.ofSeconds 1) _ _ _ hwoken rfl
  refine ⟨hboth, (howed rfl).resolve_left (by decide), by decide, last, ?_⟩
  obtain ⟨hfew, -⟩ | ⟨-, moment, hreturned⟩ := hfound rfl (by decide) _ last hlast
  · exact absurd hfew (by decide)
  · exact ⟨moment, hlast, hreturned⟩

end Company

end GuestHarness.OutputBuffer
