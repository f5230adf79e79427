import GuestHarness.Guest
import GuestHarness.Proofs.Session.Bounded

/-!
A session runs once. Its moves are spread over the run, and each of them could be refused; none of
them is. A run that starts a target goes through all the states of a session, whatever comes of the
script, of the target and of the last output, and a run that cannot start one goes to the failed
state. Either way the session has left its first state, and every later call of `run` is refused
before anything is done.
-/

namespace GuestHarness

/-- The states that were left and entered, one move after the other. -/
def Lifecycle.path (l : Lifecycle) : List (SessionState × SessionState) :=
  l.history.map fun t => (t.source, t.target)

/-- At a site the only error of a launch is that the target cannot be started. -/
def Site.FailsToSpawn {τ : Type} (site : Site τ) : Prop :=
  ∀ now files spec e, site.launch now files spec = .error e →
    ∃ reason, e = .spawn spec.executable reason

/-- The only error of a guest's launch is that it cannot be started. -/
lemma Guest.failsToSpawn (now : Instant) (calendar : Instant → Timestamp) (files : FileTree) :
    Site.FailsToSpawn ⟨now, calendar, files, Guest.launch⟩ := by
  intro now files spec e h
  change Guest.launch now files spec = .error e at h
  unfold Guest.launch at h
  cases hs : startable files spec with
  | error reason =>
    rw [hs] at h
    cases h
    exact ⟨reason, rfl⟩
  | ok _ =>
    rw [hs] at h
    cases h

namespace TestSession

variable {τ : Type} [Target τ] {site : Site τ} {s : TestSession} {run : SessionRun τ}

/-! ### The first call -/

/-- A run with a target goes through all the states, and its result tells of them. -/
lemma runTarget_path {deadline : Instant} {target : τ}
    (h : s.runTarget site deadline target = .ok run) (hfresh : s.lifecycle = .fresh) :
    run.session.lifecycle.state = .done ∧
    run.session.lifecycle.path = [(.created, .launched), (.launched, .sequencing),
      (.sequencing, .terminating), (.terminating, .done)] ∧
    ∃ result, run.result = .ok result ∧ result.transitions = run.session.lifecycle.history := by
  have hcan : s.lifecycle.canRun := by rw [hfresh]; rfl
  unfold runTarget at h
  dsimp only at h
  obtain ⟨⟨status, child⟩, -, h⟩ := bind_eq_ok_iff.1 h
  obtain ⟨drain, -, h⟩ := bind_eq_ok_iff.1 h
  cases h
  dsimp only
  rw [Lifecycle.moves_of_canRun hcan, hfresh]
  exact ⟨rfl, rfl, _, rfl, rfl⟩

/-- The two ways of a fresh session: its target is started and it is done, or it has failed. -/
lemma run_path (h : s.run site = .ok run) (hfresh : s.lifecycle = .fresh) :
    (run.session.lifecycle.state = .done ∧
      run.session.lifecycle.path = [(.created, .launched), (.launched, .sequencing),
        (.sequencing, .terminating), (.terminating, .done)] ∧
      ∃ result, run.result = .ok result ∧ result.transitions = run.session.lifecycle.history) ∨
    ∃ e, site.launch site.now site.files s.spec = .error e ∧ run.result = .error e ∧
      run.child = none ∧ run.session.lifecycle.state = .failed ∧
      run.session.lifecycle.path = [(.created, .failed)] := by
  have hcan : s.lifecycle.canRun := by rw [hfresh]; rfl
  obtain ⟨e, hl, rfl⟩ | ⟨deadline, target, -, hr⟩ := run_of_canRun h hcan
  · refine .inr ⟨e, hl, rfl, rfl, rfl, ?_⟩
    simp [unstarted, Lifecycle.path, hfresh, Lifecycle.fresh]
  · exact .inl (runTarget_path hr hfresh)

/-! ### All calls -/

/-- Calls `run` at each of some sites, one after the other. -/
def runs (s : TestSession) : List (Site τ) → Except Clock.Overflow (List (SessionRun τ))
  | [] => .ok []
  | site :: later => do
    let run ← s.run site
    return run :: (← run.session.runs later)

lemma runs_of_used (later : List (Site τ)) (h : s.lifecycle.canRun = false) :
    s.runs later = .ok (later.map s.refused) := by
  induction later with
  | nil => rfl
  | cons site later ih =>
    have hsame : (s.refused site).session = s := rfl
    rw [runs, run_of_used site h]
    simp only [bind, Except.bind, hsame, ih]
    rfl

/-- **A session is used once.** At a site where a launch can fail only because the target cannot be
started, the first call of `run` takes a new session either through all its states to the end, and
its result holds these moves, or to the failed state because of the error of the launch. None of the
moves inside the run is refused. Whatever the sites of the calls that come after it are, each of them
answers that the session was to be in its first state: it leaves the session as the first call left
it, asks for no launch, whatever this would give, and has no target that it could send a signal. -/
theorem used_once (site : Site τ) (hsite : site.FailsToSpawn) (s : TestSession)
    (hfresh : s.lifecycle = .fresh) {first : SessionRun τ} (h : s.run site = .ok first) :
    ((first.session.lifecycle.state = .done ∧
        first.session.lifecycle.path = [(.created, .launched), (.launched, .sequencing),
          (.sequencing, .terminating), (.terminating, .done)] ∧
        ∃ result, first.result = .ok result ∧
          result.transitions = first.session.lifecycle.history) ∨
      ∃ e, site.launch site.now site.files s.spec = .error e ∧ first.result = .error e ∧
        first.child = none ∧ first.session.lifecycle.state = .failed ∧
        first.session.lifecycle.path = [(.created, .failed)]) ∧
    (∀ expected actual, first.result ≠ .error (.invalidState expected actual)) ∧
    ∀ later : List (Site τ), s.runs (site :: later) = .ok (first :: later.map fun site =>
      { session := first.session
        result := .error (.invalidState SessionState.created.name
          first.session.lifecycle.state.name)
        moment := site.now, files := site.files, sinks := first.session.sinks, child := none }) := by
  have hways := run_path h hfresh
  refine ⟨hways, fun expected actual hr => ?_, fun later => ?_⟩
  · obtain ⟨-, -, result, hresult, -⟩ | ⟨e, hl, he, -⟩ := hways
    · rw [hresult] at hr
      cases hr
    · obtain ⟨reason, rfl⟩ := hsite _ _ _ _ hl
      rw [he] at hr
      cases hr
  · have hused : first.session.lifecycle.canRun = false := by
      obtain ⟨hstate, -⟩ | ⟨e, -, -, -, hstate, -⟩ := hways <;> simp [Lifecycle.canRun, hstate]
    rw [runs, h]
    simp only [bind, Except.bind, runs_of_used later hused]
    rfl

/-- The program of one session does not exist, also when it is asked for again; the target of another
one ends when it is asked to, and this session is done when it is called again. -/
theorem used_once_absent :
    let absent : TestSession := { id := "absent", spec := { executable := "/nonexistent/program" } }
    let site : Site Guest :=
      { now := 0, calendar := fun _ => .epoch, files := ⟨[], []⟩, launch := Guest.launch }
    let polite : TestSession :=
      { id := "polite", spec := { executable := "polite" }, steps := [⟨[0x41], .ofSeconds 1⟩] }
    let host := (Site.hosting { onTerm := some (0, .exited 0) }).recorded
    (∃ first again, absent.runs [site, site] = .ok [first, again] ∧
      first.session.lifecycle.path = [(.created, .failed)] ∧
      again.session = first.session ∧ again.child.isNone ∧
      again.result =
        .error (.invalidState SessionState.created.name SessionState.failed.name)) ∧
    ∃ first again, polite.runs [host, host] = .ok [first, again] ∧
      first.session.lifecycle.path = [(.created, .launched), (.launched, .sequencing),
        (.sequencing, .terminating), (.terminating, .done)] ∧
      (∃ result, first.result = .ok result ∧
        result.transitions = first.session.lifecycle.history) ∧
      again.session = first.session ∧ again.child.isNone ∧
      again.result = .error (.invalidState SessionState.created.name SessionState.done.name) := by
  intro absent site polite host
  constructor
  · have hfails : (absent.run site).toOption.map (fun run =>
        (run.session.lifecycle.state, run.session.lifecycle.path)) =
        some (.failed, [(.created, .failed)]) := by decide +kernel
    obtain ⟨first, hfirst, hends⟩ := Option.map_eq_some_iff.1 hfails
    obtain ⟨hstate, hpath⟩ := Prod.mk.inj hends
    obtain ⟨-, -, hlater⟩ := used_once site (Guest.failsToSpawn _ _ _) absent rfl
      (toOption_eq_some_iff.1 hfirst)
    exact ⟨first, _, hlater [site], hpath, rfl, rfl, by rw [hstate]⟩
  · have hstarts : host.FailsToSpawn := fun _ _ _ _ h => by cases h
    obtain ⟨first, hfirst⟩ : ∃ first, polite.run host = .ok first :=
      run_exists (fun _ _ _ h => by cases h; rfl) (by decide)
    obtain ⟨hways, -, hlater⟩ := used_once host hstarts polite rfl hfirst
    obtain ⟨hstate, hpath, hresult⟩ | ⟨e, hl, -⟩ := hways
    · exact ⟨first, _, hlater [host], hpath, hresult, rfl, rfl, by rw [hstate]⟩
    · cases hl

end TestSession
end GuestHarness
