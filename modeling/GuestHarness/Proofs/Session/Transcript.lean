import GuestHarness.Proofs.Output.Transcript
import GuestHarness.Proofs.Session.Run
import GuestHarness.Proofs.Target.Scripted

/-!
The transcript of a session. The pump of a run moves the target's output to the sinks, among them the
transcript that was opened with the session; so if the pump has nothing to say against it, the file
holds what it held before, followed by what the run has captured.
-/

namespace GuestHarness
namespace TestSession

variable {τ : Type} [Target τ] {site : Site τ} {s : TestSession} {run : SessionRun τ}

/-- **A transcript is complete.** A session's sinks have a transcript among them that was opened by some
path, whatever its file held then and however it fails, and none of the others writes to this file.
When the session has run and its pump has captured one stream and says nothing against the
transcript, the file holds what it held before, followed by all that was captured and nothing else.
The target itself must have left the file alone. -/
theorem transcript_complete (h : s.run site = .ok run) {result : SessionResult}
    (hresult : run.result = .ok result) {files opened : FileTree} {path : String}
    {t : Output.Transcript} (hopen : Output.Transcript.openAt files path = .ok (t, opened))
    {before after : List Output.Sink} {replies : List Output.FileReply}
    (hsinks : s.sinks = before ++ .transcript { t with replies := replies } :: after)
    (hothers : ∀ sink ∈ before ++ after, sink.Spares t.place) :
    ∃ (deadline : Instant) (target : τ) (x : Course τ),
      Clock.deadline site.now s.timing.timeout = .ok deadline ∧
      site.launch site.now site.files s.spec = .ok target ∧
      x.Taken site s deadline target run ∧
      run.files = (x.pump site s).worker.files ∧
      run.session.buffer = (x.pump site s).state.buffer ∧
      ((Target.traces x.late).length = 1 →
        (Target.files x.late).entryAt t.place = opened.entryAt t.place →
        (x.pump site s).status.Clears ("file:" ++ path) →
        ∃ captured executable, result.output = s.buffer.data ++ captured ∧
          run.files.entryAt t.place =
            some (.file (files.contentAt t.place ++ captured) executable)) := by
  obtain ⟨-, -, e, he⟩ | ⟨deadline, target, hd, hl, hr⟩ := run_cases h
  · rw [he] at hresult
    cases hresult
  · obtain ⟨x, hx, hfiles, hbuffer⟩ := runTarget_pump hr
    refine ⟨deadline, target, x, hd, hl, hx, hfiles, hbuffer, fun hone hsame hclear => ?_⟩
    obtain ⟨rfl, hpending, executable, hholds⟩ := Output.Transcript.openAt_holds hopen
    -- the worker begins with what was there when the transcript was opened
    obtain ⟨written, hwritten, hcontent⟩ := hholds
    rw [hpending, List.append_nil] at hcontent
    subst hcontent
    have hw : Output.SinkWorker.Transcribes
        { now := site.now, sinks := s.sinks, files := Target.files x.late } t.path t.place
        (files.contentAt t.place) executable :=
      ⟨before, _, after, hsinks, hothers, rfl, rfl, files.contentAt t.place,
        hsame.trans hwritten, by rw [hpending, List.append_nil]⟩
    obtain ⟨captured, hdata, hfile⟩ :=
      Output.finishBy_transcribed (Nat.le_of_eq hone) rfl hw hclear
    refine ⟨captured, executable, ?_, ?_⟩
    · rw [(hx.of_result result hresult).2.2.2, hbuffer]
      exact hdata
    · rw [hfiles]
      exact hfile

/-- A transcript on a file with one byte in it that takes few bytes at a time, beside a sink that fails
with every chunk. -/
theorem transcript_complete_beside_failures :
    let files : FileTree := ⟨[(["log"], .file [0x41] false)], []⟩
    let broken : Output.ScriptedSink :=
      ⟨"broken", fun _ => .failed (.io (.plain .brokenPipe)), .ok, 0, 0, []⟩
    let t : Output.Transcript :=
      { path := "log", place := ["log"], replies := [.takes 1, .fails (.os 4), .takes 1] }
    let s : TestSession :=
      { id := "kept", spec := { executable := "kept" }
        sinks := [.scripted broken, .transcript t] }
    let site := Site.hosting
      { onTerm := some (0, .exited 0), files := files
        output := [[(0, .chunk [0x52, 0x53]), (3, .chunk [0x54]), (5, .ended)]] }
    ∃ run result executable, s.run site = .ok run ∧ run.result = .ok result ∧
      run.files.entryAt ["log"] = some (.file ([0x41] ++ result.output) executable) := by
  intro files broken t s site
  -- the target says its three bytes and leaves the file alone
  have hrun : (s.run site).toOption.bind (fun run => run.child.map fun c =>
      (c.target.output, c.target.files, c.now)) =
      some ([[(0, .chunk [0x52, 0x53]), (3, .chunk [0x54]), (5, .ended)]], files, 0) := by
    decide +kernel
  obtain ⟨run, hr, hrun⟩ := Option.bind_eq_some_iff.1 hrun
  obtain ⟨c, hc, hrun⟩ := Option.map_eq_some_iff.1 hrun
  obtain ⟨houtput, hfiles, hnow⟩ : _ ∧ _ ∧ _ := by simpa using hrun
  have h : s.run site = .ok run := by
    cases hs : s.run site with
    | error e =>
      rw [hs] at hr
      cases hr
    | ok run' =>
      rw [hs] at hr
      obtain rfl := Option.some.inj hr
      rfl
  obtain ⟨⟨result, hresult⟩, -⟩ := course_of_launch h rfl rfl
  have hopen : Output.Transcript.openAt files "log" = .ok ({ t with replies := [] }, files) := by
    decide +kernel
  have hsinks : s.sinks = [.scripted broken] ++ .transcript { t with replies := t.replies } :: [] :=
    rfl
  obtain ⟨deadline, target, x, hd, -, hx, -, -, hcomplete⟩ :=
    transcript_complete h hresult hopen hsinks (by simp [Output.Sink.Spares])
  obtain rfl : x.child = c := Option.some.inj (hx.child_eq.symm.trans hc)
  have hdrain : x.drain = 1000000000 := by
    obtain ⟨-, rfl⟩ := Clock.deadline_eq_ok_iff.1 hd
    obtain ⟨-, hdrain⟩ := Clock.deadline_eq_ok_iff.1 hx.drained
    rw [hdrain, hnow]
    decide +kernel
  have htraces : Target.traces x.late =
      [[(0, .chunk [0x52, 0x53]), (3, .chunk [0x54]), (5, .ended)]] := by
    change (x.child.target.output.map fun events => events.filter (·.1 ≤ max x.child.now x.drain)) = _
    rw [houtput, hnow, hdrain]
    decide +kernel
  have hleft : Target.files x.late = files := hfiles
  have herrors : (x.pump site s).status.sinkErrors =
      ["broken: I/O error: broken pipe", "broken: I/O error: broken pipe"] := by
    have hjoins : Output.joinErrors (Output.joinMoments 0 [Output.cancelAt 1000000000
        [(0, .chunk [0x52, 0x53]), (3, .chunk [0x54]), (5, .ended)]]) = [] := rfl
    rw [Course.pump, htraces, hleft, hnow, hdrain, Output.finishBy]
    simp only [Output.mergeFrom, Output.merge_nil, List.map_cons, List.map_nil, hjoins]
    decide +kernel
  -- all errors are of the broken sink
  have hbroken : ∀ text ∈ (x.pump site s).status.sinkErrors, text.toList.head? = some 'b' := by
    rw [herrors]
    decide
  obtain ⟨captured, executable, hout, hfile⟩ := hcomplete (by rw [htraces]; rfl) (by rw [hleft])
    ⟨fun e he => absurd (hbroken _ he) (by simp), fun message hm => absurd (hbroken _ hm) (by simp),
      fun hlate => absurd (hbroken _ hlate) (by decide)⟩
  refine ⟨run, result, executable, h, hresult, ?_⟩
  rw [hout]
  exact hfile

end TestSession
end GuestHarness
