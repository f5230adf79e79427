import GuestHarness.Guest
import GuestHarness.Proofs.Output.Turns
import GuestHarness.Proofs.Session.Bounded
import Mathlib.Logic.Relation

/-!
What becomes of a session's output when its run is over. A run that has a result leaves the buffer
closed and its readers at their ends, so nothing is added any more and no observer waits in vain. A
run whose target could not be started returns before there is a pump, and leaves the buffer as it was:
open, so that an observer who waits for something waits for as long as he asked to.
-/

namespace GuestHarness

/-! ### Waits on a buffer that nobody writes to -/

namespace OutputBuffer

variable {b : OutputBuffer} {pattern : Bytes} {timeout : Duration} {now : Instant}
  {schedule : Schedule} {w : Waited}

lemma waitFor_of_closed (hclosed : b.closed = true)
    (h : b.waitFor pattern timeout now schedule = .ok w) :
    w = ⟨b.contains pattern, now, b, schedule⟩ := by
  obtain ⟨deadline, -, hw⟩ := bind_eq_ok_iff.1 h
  cases hw
  cases hc : b.contains pattern <;> cases schedule <;> simp [waitUntil, hc, hclosed]

lemma waitFor_of_open (hclosed : b.closed = false) (hc : b.contains pattern = false)
    (h : b.waitFor pattern timeout now [] = .ok w) : w = ⟨false, now + timeout.nanos, b, []⟩ := by
  obtain ⟨deadline, hd, hw⟩ := bind_eq_ok_iff.1 h
  cases hw
  obtain ⟨-, rfl⟩ := Clock.deadline_eq_ok_iff.1 hd
  simp [waitUntil, hc, hclosed]

end OutputBuffer

namespace TestSession

variable {τ : Type} [Target τ] {site : Site τ} {s : TestSession} {run : SessionRun τ}

/-! ### What a run leaves behind -/

/-- A run with a target leaves the buffer as its pump did, and the session at its end. -/
lemma runTarget_leaves {deadline : Instant} {target : τ}
    (h : s.runTarget site deadline target = .ok run) (hcan : s.lifecycle.canRun) :
    run.session.lifecycle.canRun = false ∧
    ∃ traces worker called drain, run.session.buffer =
      (Output.finishBy s.buffer traces worker called drain site.calendar).state.buffer := by
  obtain ⟨x, -, -, hbuffer⟩ := runTarget_pump h
  refine ⟨?_, _, _, _, _, hbuffer⟩
  unfold runTarget at h
  dsimp only at h
  obtain ⟨⟨status, child⟩, -, h⟩ := bind_eq_ok_iff.1 h
  obtain ⟨drain, -, h⟩ := bind_eq_ok_iff.1 h
  cases h
  dsimp only
  rw [Lifecycle.moves_of_canRun hcan]
  rfl

/-- The ways of a call of a fresh session's run: the target cannot be started, which leaves the
buffer as it was, or the run has a result. -/
lemma run_leaves (h : s.run site = .ok run) (hcan : s.lifecycle.canRun) :
    run.session.lifecycle.canRun = false ∧
    ((∃ e, site.launch site.now site.files s.spec = .error e ∧ run.result = .error e ∧
        run.session.buffer = s.buffer ∧ run.child = none) ∨
      ∃ result traces worker called drain, run.result = .ok result ∧
        result.output = run.session.buffer.data ∧ run.session.buffer =
          (Output.finishBy s.buffer traces worker called drain site.calendar).state.buffer) := by
  obtain ⟨e, hl, rfl⟩ | ⟨deadline, target, hl, hr⟩ := run_of_canRun h hcan
  · exact ⟨rfl, .inl ⟨e, hl, rfl, rfl, rfl⟩⟩
  · obtain ⟨x, hx⟩ := runTarget_course hr
    obtain ⟨result, hresult⟩ := hx.result_ok hcan
    obtain ⟨hover, traces, worker, called, drain, hbuffer⟩ := runTarget_leaves hr hcan
    exact ⟨hover, .inr ⟨result, traces, worker, called, drain, hresult,
      (hx.of_result result hresult).2.2.2, hbuffer⟩⟩

/-- A session that has run is refused, and stays as it is. -/
lemma run_again (h : s.run site = .ok run) (hcan : s.lifecycle.canRun = false) :
    run.session = s := by
  rw [run_of_used site hcan] at h
  cases h
  rfl

/-- A call of `run` leads from one session to another. -/
def Rerun (τ : Type) [Target τ] (s t : TestSession) : Prop :=
  ∃ (site : Site τ) (run : SessionRun τ), s.run site = .ok run ∧ t = run.session

lemma eq_of_reruns {t : TestSession} (h : Relation.ReflTransGen (Rerun τ) s t)
    (hcan : s.lifecycle.canRun = false) : t = s := by
  induction h with
  | refl => rfl
  | tail _ hstep ih =>
    obtain ⟨site, run, hrun, rfl⟩ := hstep
    subst ih
    exact run_again hrun hcan

/-! ### Finality -/

/-- **Output is final once a run has a result, and only then.** When the run of a fresh session has a
result, this holds the content of the buffer, the buffer is closed, and the readers of the pump that
filled it have all come to their ends, so that none of them can add anything. When the target cannot
be started, the buffer is what it was before, and if that was open, an observer who waits for what it
does not hold waits for his whole timeout. Either way no later call of `run` changes the session,
and on a closed buffer every wait is over at once. -/
theorem output_final (site : Site τ) (s : TestSession) (hcan : s.lifecycle.canRun)
    {run : SessionRun τ} (h : s.run site = .ok run) :
    (∀ result, run.result = .ok result →
      result.output = run.session.buffer.data ∧ run.session.buffer.closed ∧
      ∃ traces ls c, (Output.Crew.start s.buffer traces).run ls = some c ∧
        run.session.buffer = c.state.buffer.close ∧
        ∀ ls' c', c.run ls' = some c' → c'.state.buffer = c.state.buffer) ∧
    (∀ e, run.result = .error e → site.launch site.now site.files s.spec = .error e ∧
      run.session.buffer = s.buffer ∧
      (s.buffer.closed = false → ∀ pattern timeout now w, s.buffer.contains pattern = false →
        run.session.buffer.waitFor pattern timeout now [] = .ok w →
        w.found = false ∧ w.moment = now + timeout.nanos)) ∧
    (∀ t, Relation.ReflTransGen (Rerun τ) run.session t → t = run.session) ∧
    (run.session.buffer.closed → ∀ pattern timeout now schedule w,
      run.session.buffer.waitFor pattern timeout now schedule = .ok w →
      w = ⟨run.session.buffer.contains pattern, now, run.session.buffer, schedule⟩) := by
  obtain ⟨hover, hways⟩ := run_leaves h hcan
  refine ⟨fun result hresult => ?_, fun e he => ?_, fun t ht => eq_of_reruns ht hover,
    fun hclosed pattern timeout now schedule w hw => OutputBuffer.waitFor_of_closed hclosed hw⟩
  · obtain ⟨e, -, he, -, -⟩ | ⟨result', traces, worker, called, drain, hr, hout, hbuffer⟩ := hways
    · rw [he] at hresult
      cases hresult
    · obtain rfl := Except.ok.inj (hr.symm.trans hresult)
      obtain ⟨ls, c, errors, hc, hend, hstate, -⟩ :=
        Output.finishBy_run s.buffer traces worker called drain site.calendar
      rw [hstate] at hbuffer
      refine ⟨hout, by rw [hbuffer]; rfl, traces, ls, c, hc, hbuffer, fun ls' c' hc' => ?_⟩
      rw [Output.Crew.run_of_ended hend hc']
  · obtain ⟨e', hl, he', hbuffer, -⟩ | ⟨result', traces, worker, called, drain, hr, -, -⟩ := hways
    · obtain rfl := Except.error.inj (he'.symm.trans he)
      refine ⟨hl, hbuffer, fun hopen pattern timeout now w hc hw => ?_⟩
      rw [hbuffer] at hw
      rw [OutputBuffer.waitFor_of_open hopen hc hw]
      exact ⟨rfl, rfl⟩
    · rw [hr] at he
      cases he

/-- A session with a target that says something and ends when it is asked to. -/
theorem output_final_polite :
    let s : TestSession := { id := "polite", spec := { executable := "polite" } }
    let site := Site.hosting
      { onTerm := some (0, .exited 0), output := [[(0, .chunk [0x52]), (5, .ended)]] }
    ∃ run result, s.run site.recorded = .ok run ∧ run.result = .ok result ∧
      run.session.buffer.closed ∧ result.output = run.session.buffer.data ∧
      ∀ pattern timeout now schedule w,
        run.session.buffer.waitFor pattern timeout now schedule = .ok w →
        w = ⟨run.session.buffer.contains pattern, now, run.session.buffer, schedule⟩ := by
  intro s site
  obtain ⟨run, hrun⟩ : ∃ run, s.run site.recorded = .ok run :=
    run_exists (fun _ _ _ h => by cases h; rfl) (by decide)
  obtain ⟨⟨result, hresult⟩, -⟩ := course_of_launch hrun rfl rfl
  obtain ⟨hfinal, -, -, hwait⟩ := output_final site.recorded s rfl hrun
  obtain ⟨hout, hclosed, -⟩ := hfinal result hresult
  exact ⟨run, result, hrun, hresult, hclosed, hout, hwait hclosed⟩

/-- **A run can return and leave its observers waiting.** The program of this session does not exist;
the run has returned the error, and somebody who waits for output waits for his whole five seconds. -/
theorem run_leaves_open :
    let s : TestSession := { id := "absent", spec := { executable := "/nonexistent/program" } }
    let site : Site Guest :=
      { now := 0, calendar := fun _ => .epoch, files := ⟨[], []⟩, launch := Guest.launch }
    ∃ run reason w, s.run site = .ok run ∧
      run.result = .error (.spawn "/nonexistent/program" reason) ∧
      run.session.buffer.closed = false ∧
      run.session.buffer.waitFor [0x52] (.ofSeconds 5) 0 [] = .ok w ∧
      w.found = false ∧ w.moment = 5000000000 := by
  intro s site
  have hrun : (s.run site).toOption.map (fun run =>
      (run.session.buffer, match run.result with | .ok _ => none | .error e => some e)) =
      some (.empty, some (.spawn "/nonexistent/program"
        "Configuration error: Executable not found: /nonexistent/program")) := by decide +kernel
  cases hr : s.run site with
  | error e => simp [hr, Except.toOption] at hrun
  | ok run =>
    rw [hr] at hrun
    obtain ⟨hbuffer, hresult⟩ := Prod.mk.inj (Option.some.inj hrun)
    split at hresult
    · cases hresult
    · next e he =>
      obtain rfl := Option.some.inj hresult
      exact ⟨run, _, ⟨false, 5000000000, .empty, []⟩, rfl, he, by rw [hbuffer]; rfl,
        by rw [hbuffer]; rfl, rfl, rfl⟩

end TestSession
end GuestHarness
