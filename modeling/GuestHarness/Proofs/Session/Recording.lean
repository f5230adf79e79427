import GuestHarness.Proofs.Observation
import GuestHarness.Proofs.Session.Run

/-!
To record what is done to a target changes nothing: a run of a session with recorded targets is a
run of the session, of which besides it is known what was done to the target and when.
-/

namespace GuestHarness

/-! ### The end of the target -/

namespace Child

variable {τ : Type} [Target τ]

/-- The child without the record. -/
def plain (c : Child (Recorded τ)) : Child τ := ⟨c.target.inner, c.exit, c.inputOpen⟩

/-- The outcome of a termination, without the record. -/
def plainOutcome (x : SessionStatus × Child (Recorded τ)) : SessionStatus × Child τ :=
  (x.1, x.2.plain)

lemma plain_terminate (c : Child (Recorded τ)) (grace : Duration) (deadline : Instant) :
    plainOutcome <$> c.terminate grace deadline = c.plain.terminate grace deadline :=
  erase_terminate Recorded.isErasure_inner c grace deadline

end Child

/-! ### The session -/

variable {τ : Type} [Target τ]

/-- A site at which everything that is done to targets is recorded. -/
def Site.recorded (site : Site τ) : Site (Recorded τ) :=
  { now := site.now, calendar := site.calendar, files := site.files
    launch := fun now files spec => (⟨·, []⟩) <$> site.launch now files spec }

omit [Target τ] in
/-- Of a target that was just launched nothing is recorded. -/
lemma Site.launch_recorded {site : Site τ} {now : Instant} {files : FileTree} {spec : LaunchSpec}
    {r : Recorded τ} (h : site.recorded.launch now files spec = .ok r) :
    r.log = [] ∧ site.launch now files spec = .ok r.inner := by
  obtain ⟨target, hl, rfl⟩ := map_eq_ok_iff.1 h
  exact ⟨rfl, hl⟩

/-- The run without the record. -/
def SessionRun.plain (run : SessionRun (Recorded τ)) : SessionRun τ :=
  { run with child := run.child.map Child.plain }

namespace TestSession

lemma plain_runTarget (site : Site τ) (s : TestSession) (deadline : Instant) (r : Recorded τ) :
    SessionRun.plain <$> s.runTarget site.recorded deadline r =
      s.runTarget site deadline r.inner := by
  unfold runTarget
  rw [← Sequencer.erase_run Recorded.isErasure_stream]
  generalize ({} : Sequencer).run (some deadline) s.steps r = x
  obtain ⟨outcome, q, w⟩ := x
  dsimp only [Prod.map, id]
  rw [show ({ target := w.inner } : Child τ) = Child.plain { target := w } from rfl,
    ← Child.plain_terminate, map_bind, bind_map_left]
  refine bind_congr fun x => ?_
  obtain ⟨status, c⟩ := x
  rw [map_bind]
  exact bind_congr fun m => rfl

/-- **To record what is done to a target changes nothing.** -/
theorem plain_run (site : Site τ) (s : TestSession) :
    SessionRun.plain <$> s.run site.recorded = s.run site := by
  unfold run
  dsimp only
  split
  · rfl
  · rw [map_bind]
    refine bind_congr fun deadline => ?_
    dsimp only [Site.recorded]
    cases site.launch site.now site.files s.spec with
    | error e =>
      dsimp only [Functor.map, Except.map]
      generalize s.lifecycle.toFailed (site.calendar site.now) e.message = moved
      cases moved <;> rfl
    | ok target => exact plain_runTarget site s deadline ⟨target, []⟩

end TestSession
end GuestHarness
