import GuestHarness.Proofs.Output.Calls

/-!
A pump and the worker of its sinks, side by side. The readers send chunks into a channel while the
worker takes them out of it and hands them to the sinks, and the reader that ends last closes it. When
no stream is counted as open any more, no reader has a step left, so all that was read is in the
channel by then and nothing is lost; and whatever the sinks do, the readers and what they share are as
they would be without sinks.
-/

namespace GuestHarness.Output

/-! ### Pump and worker -/

/-- A pump with its sinks: the readers and what they share, the worker of the sinks, how many chunks
the worker has received, and whether it has ended. -/
structure Relay where
  crew : Crew
  worker : SinkWorker
  received : Nat := 0
  ended : Bool := false

/-- A step: the readers take one; the channel is closed when all of them have ended, for those that
came down; the worker receives a chunk and hands it to the sinks; or it finds the channel closed and
empty, and flushes them. -/
inductive RelayStep where
  | crew (l : CrewStep)
  | close
  | receive
  | finish (moment : Instant)
deriving DecidableEq

/-- The step is taken by the worker. -/
def RelayStep.isWorker : RelayStep → Bool
  | crew _ => false
  | close => false
  | receive => true
  | finish _ => true

namespace Relay

/-- A pump that is started with sinks on streams with the given traces. -/
def start (buffer : OutputBuffer) (traces : List Trace) (now : Instant) (sinks : List Sink)
    (files : FileTree) : Relay :=
  { crew := .start buffer traces, worker := { now := now, sinks := sinks, files := files } }

/-- The pump after a step, if it can be taken. -/
def step (p : Relay) : RelayStep → Option Relay
  | .crew l => (p.crew.step l).map fun c => { p with crew := c }
  | .close =>
    if p.crew.readers.all (·.ended) then
      some { p with crew := { p.crew with state := p.crew.state.allClosed } }
    else none
  | .receive =>
    if p.ended then none
    else p.crew.state.sent[p.received]?.map fun c =>
      { p with worker := p.worker.takeChunk c.1 c.2, received := p.received + 1 }
  | .finish moment =>
    if p.ended || p.crew.state.channelOpen || p.received < p.crew.state.sent.length then none
    else some { p with worker := p.worker.finish moment, ended := true }

/-- The pump after some steps, if they can be taken in this order. -/
def run (p : Relay) (ls : List RelayStep) : Option Relay := ls.foldlM step p

/-- The steps of the readers. -/
def crewSteps (ls : List RelayStep) : List CrewStep :=
  ls.filterMap fun
    | .crew l => some l
    | _ => none

variable {p p' : Relay} {l : RelayStep} {ls ls' : List RelayStep}

lemma run_snoc_eq_some :
    p.run (ls ++ [l]) = some p' ↔ ∃ q, p.run ls = some q ∧ q.step l = some p' := by
  simp [Option.bind_eq_some_iff, run]

lemma crewSteps_append : crewSteps (ls ++ ls') = crewSteps ls ++ crewSteps ls' :=
  List.filterMap_append

/-- What a step of a pump with sinks can be. -/
lemma step_cases (h : p.step l = some p') :
    (∃ m c, l = .crew m ∧ p.crew.step m = some c ∧ p' = { p with crew := c }) ∨
    (l = .close ∧ (∀ r ∈ p.crew.readers, r.ended) ∧
      p' = { p with crew := { p.crew with state := p.crew.state.allClosed } }) ∨
    (l = .receive ∧ p.ended = false ∧ ∃ c, p.crew.state.sent[p.received]? = some c ∧
      p' = { p with worker := p.worker.takeChunk c.1 c.2, received := p.received + 1 }) ∨
    (∃ moment, l = .finish moment ∧ p.ended = false ∧ p.crew.state.channelOpen = false ∧
      p.crew.state.sent.length ≤ p.received ∧
      p' = { p with worker := p.worker.finish moment, ended := true }) := by
  cases l with
  | crew m =>
    obtain ⟨c, hc, rfl⟩ := Option.map_eq_some_iff.1 h
    exact .inl ⟨m, c, rfl, hc, rfl⟩
  | close =>
    simp only [step] at h
    split at h
    · next hall =>
      cases h
      exact .inr (.inl ⟨rfl, by simpa using hall, rfl⟩)
    · cases h
  | receive =>
    simp only [step] at h
    split at h
    · cases h
    · next ho =>
      obtain ⟨c, hc, rfl⟩ := Option.map_eq_some_iff.1 h
      exact .inr (.inr (.inl ⟨rfl, by simpa using ho, c, hc, rfl⟩))
  | finish moment =>
    simp only [step] at h
    split at h
    · cases h
    · next ho =>
      cases h
      simp only [Bool.or_eq_true, decide_eq_true_eq, not_or, Bool.not_eq_true, Nat.not_lt] at ho
      exact .inr (.inr (.inr ⟨moment, rfl, ho.1.1, ho.1.2, ho.2, rfl⟩))

end Relay

/-! ### The channel -/

namespace Crew

variable {c c' d : Crew} {l : CrewStep} {ls : List CrewStep}

/-- All readers have ended, and all chunks are sent. -/
def Done (c : Crew) : Prop := ∀ r ∈ c.readers, r.ended ∧ r.owed = none

lemma Open.done (hc : c.Open) (hend : ∀ r ∈ c.readers, r.ended) : c.Done := by
  intro r hr
  refine ⟨hend r hr, ?_⟩
  by_contra howed
  have hopen : r.ended = false := hc.owing r hr (Option.isSome_iff_ne_none.2 howed)
  rw [hend r hr] at hopen
  cases hopen

/-- **The channel is not closed too early**: when it is, no reader has anything left to send. -/
lemma Open.done_of_closed (hc : c.Open) (hclosed : c.state.channelOpen = false) : c.Done := by
  refine hc.done ?_
  have hnone : c.state.openStreams = 0 := by
    by_contra hpos
    rw [hc.channel (Nat.pos_of_ne_zero hpos)] at hclosed
    cases hclosed
  have hcount : c.readers.countP (fun r => !r.ended) = 0 := Nat.le_zero.1 (hnone ▸ hc.count)
  simpa using List.countP_eq_zero.1 hcount

/-- What the readers do does not depend on what they share. -/
lemma step_alike (h : c.step l = some c') (hreaders : d.readers = c.readers)
    (hstopped : d.stopped = c.stopped) :
    ∃ d', d.step l = some d' ∧ d'.readers = c'.readers ∧ d'.stopped = c'.stopped := by
  cases l with
  | stop =>
    obtain rfl := step_stop_eq_some.1 h
    exact ⟨_, rfl, hreaders, rfl⟩
  | move i s =>
    obtain ⟨hq, r, r', hr, hs, rfl⟩ := step_move_eq_some.1 h
    refine ⟨_, step_move_eq_some.2 ⟨?_, r, r', ?_, hs, rfl⟩, ?_, hstopped⟩
    · rwa [hstopped]
    · rwa [hreaders]
    · rw [hreaders]

lemma sent_move (s : PumpState) (m : ReaderStep) : s.sent <+: (s.move m).sent := by
  cases m with
  | take e =>
    cases e with
    | ended => exact (streamClosed_channel s).2.1 ▸ List.prefix_refl _
    | cancelled =>
      exact (streamClosed_channel { s with cancelled := true }).2.1 ▸ List.prefix_refl _
    | _ => exact List.prefix_refl _
  | send chunk moment =>
    rw [PumpState.move_send, PumpState.send]
    split
    · exact List.prefix_append _ _
    · exact List.prefix_refl _
  | quit => exact (streamClosed_channel { s with cancelled := true }).2.1 ▸ List.prefix_refl _

/-- Nothing is taken out of the channel but by the worker. -/
lemma sent_step (h : c.step l = some c') : c.state.sent <+: c'.state.sent := by
  cases l with
  | stop =>
    obtain rfl := step_stop_eq_some.1 h
    exact List.prefix_refl _
  | move i s =>
    obtain ⟨-, r, r', -, -, rfl⟩ := step_move_eq_some.1 h
    exact sent_move c.state s

end Crew

namespace Relay

variable {p p' : Relay} {l : RelayStep} {ls : List RelayStep} {buffer : OutputBuffer}
  {traces : List Trace} {worker : SinkWorker}

/-- The state of a pump with sinks after some steps: the readers are where their own steps bring
them, what they have sent is in the channel, and the worker has handed on what it received, and
has ended only when nothing can come any more. -/
structure Sound (buffer : OutputBuffer) (traces : List Trace) (worker : SinkWorker)
    (ls : List RelayStep) (p : Relay) : Prop where
  channel : p.crew.Open ∨ p.crew.Done
  readers : ∃ c, (Crew.start buffer traces).run (crewSteps ls) = some c ∧
    c.readers = p.crew.readers ∧ c.stopped = p.crew.stopped
  sent : p.crew.state.sent.map Prod.snd = (Crew.sends (crewSteps ls)).map Prod.snd
  working : p.ended = false → p.received ≤ p.crew.state.sent.length ∧
    p.worker = (p.crew.state.sent.take p.received).foldl (fun w c => w.takeChunk c.1 c.2) worker
  ended : p.ended → p.crew.Done ∧ ∃ closed, p.worker = worker.run p.crew.state.sent closed

/-- A pump that is started with sinks. -/
lemma sound_start (buffer : OutputBuffer) (traces : List Trace) (now : Instant) (sinks : List Sink)
    (files : FileTree) :
    Sound buffer traces { now := now, sinks := sinks, files := files } []
      (start buffer traces now sinks files) := by
  refine ⟨.inl (Crew.open_start buffer traces), ⟨_, rfl, rfl, rfl⟩, ?_, fun _ => ⟨?_, rfl⟩, nofun⟩
  · simp only [start, Crew.start, PumpState.start]
    split <;> rfl
  · exact Nat.zero_le _

lemma Sound.step_crew (hp : Sound buffer traces worker ls p) {m : CrewStep} {c : Crew}
    (h : p.crew.step m = some c) :
    Sound buffer traces worker (ls ++ [.crew m]) { p with crew := c } := by
  obtain ⟨d, hd, hreaders, hstopped⟩ := hp.readers
  obtain ⟨d', hd', hreaders', hstopped'⟩ := Crew.step_alike h hreaders hstopped
  have hsteps : crewSteps (ls ++ [.crew m]) = crewSteps ls ++ [m] := crewSteps_append
  have hsends : Crew.sends (crewSteps ls ++ [m]) = Crew.sends (crewSteps ls) ++ Crew.sends [m] := by
    rw [Crew.sends, Crew.moves_append, pick_append]
    rfl
  have hchannel : (c.Open ∨ c.Done) ∧ c.state.sent.map Prod.snd =
      p.crew.state.sent.map Prod.snd ++ (Crew.sends [m]).map Prod.snd := by
    obtain hopen | hdone := hp.channel
    · exact ⟨.inl (hopen.step h).1, (hopen.step h).2⟩
    · obtain ⟨rfl, rfl⟩ := Crew.step_of_ended hdone h
      exact ⟨.inr hdone, (List.append_nil _).symm⟩
  refine ⟨hchannel.1, ⟨d', ?_, hreaders', hstopped'⟩, ?_, fun ho => ?_, fun ho => ?_⟩
  · rw [hsteps]
    exact Crew.run_append_eq_some.2 ⟨d, hd, by simp [Crew.run, hd']⟩
  · rw [hsteps, hsends, List.map_append, ← hp.sent]
    exact hchannel.2
  · -- the chunks that were received are still the first ones
    obtain ⟨hle, hworker⟩ := hp.working ho
    obtain ⟨more, hmore⟩ := Crew.sent_step h
    dsimp only
    rw [← hmore, List.take_append_of_le_length hle, List.length_append]
    exact ⟨Nat.le_add_right_of_le hle, hworker⟩
  · obtain ⟨hdone, closed, hworker⟩ := hp.ended ho
    obtain ⟨-, rfl⟩ := Crew.step_of_ended hdone h
    exact ⟨hdone, closed, hworker⟩

lemma Sound.step (hp : Sound buffer traces worker ls p) (h : p.step l = some p') :
    Sound buffer traces worker (ls ++ [l]) p' := by
  obtain ⟨m, c, rfl, hc, rfl⟩ | ⟨rfl, hend, rfl⟩ | ⟨rfl, ho, c, hc, rfl⟩ |
    ⟨moment, rfl, ho, hclosed, hall, rfl⟩ := step_cases h
  · exact hp.step_crew hc
  · have hsteps : crewSteps (ls ++ [.close]) = crewSteps ls :=
      crewSteps_append.trans (List.append_nil _)
    have hdone : p.crew.Done := hp.channel.elim (fun hopen => hopen.done hend) id
    refine ⟨.inr hdone, hsteps ▸ hp.readers, hsteps ▸ hp.sent, hp.working, hp.ended⟩
  · have hsteps : crewSteps (ls ++ [.receive]) = crewSteps ls :=
      crewSteps_append.trans (List.append_nil _)
    obtain ⟨hle, hworker⟩ := hp.working ho
    obtain ⟨hlt, rfl⟩ := List.getElem?_eq_some_iff.1 hc
    refine ⟨hp.channel, hsteps ▸ hp.readers, hsteps ▸ hp.sent, fun _ => ⟨hlt, ?_⟩, fun ho' => ?_⟩
    · dsimp only
      rw [List.take_add_one, hc, Option.toList_some, List.foldl_append, ← hworker]
      rfl
    · exact absurd ho' (by simp [ho])
  · have hsteps : crewSteps (ls ++ [.finish moment]) = crewSteps ls :=
      crewSteps_append.trans (List.append_nil _)
    obtain ⟨hle, hworker⟩ := hp.working ho
    have hdone : p.crew.Done := hp.channel.elim (fun hopen => hopen.done_of_closed hclosed) id
    refine ⟨hp.channel, hsteps ▸ hp.readers, hsteps ▸ hp.sent, nofun, fun _ => ⟨hdone, moment, ?_⟩⟩
    dsimp only
    rw [hworker, List.take_of_length_le hall]
    rfl

lemma sound_run {now : Instant} {sinks : List Sink} {files : FileTree}
    (h : (start buffer traces now sinks files).run ls = some p) :
    Sound buffer traces { now := now, sinks := sinks, files := files } ls p := by
  induction ls using List.reverseRecOn generalizing p with
  | nil =>
    cases h
    exact sound_start buffer traces now sinks files
  | append_singleton ls l ih =>
    obtain ⟨q, hq, hl⟩ := run_snoc_eq_some.1 h
    exact (ih hq).step hl

/-- **Sinks that do not panic let the worker come through**, whatever errors they give. -/
theorem isOut_of_steady {now : Instant} {sinks : List Sink} {files : FileTree}
    (h : (start buffer traces now sinks files).run ls = some p) (hs : ∀ s ∈ sinks, s.Steady) :
    p.worker.isOut = false := by
  have hsteady : p.worker.isOut = false ∧ ∀ s ∈ p.worker.sinks, s.Steady := by
    induction ls using List.reverseRecOn generalizing p with
    | nil =>
      cases h
      exact ⟨rfl, hs⟩
    | append_singleton ls l ih =>
      obtain ⟨q, hq, hl⟩ := run_snoc_eq_some.1 h
      obtain ⟨hw, hall⟩ := ih hq
      obtain ⟨m, c, -, -, rfl⟩ | ⟨-, -, rfl⟩ | ⟨-, -, c, -, rfl⟩ | ⟨moment, -, -, -, -, rfl⟩ :=
        step_cases hl
      · exact ⟨hw, hall⟩
      · exact ⟨hw, hall⟩
      · exact SinkWorker.takeChunk_steady hall hw c.1 c.2
      · exact SinkWorker.finish_steady hall hw moment
  exact hsteady.1

/-- A worker that has not ended can receive what is in the channel. -/
lemma receive_all (k : Nat) (p : Relay) (ho : p.ended = false)
    (hk : p.received + k = p.crew.state.sent.length) :
    ∃ q, p.run (List.replicate k .receive) = some q ∧ q.ended = false ∧ q.crew = p.crew ∧
      q.received = p.crew.state.sent.length := by
  induction k generalizing p with
  | zero => exact ⟨p, rfl, ho, rfl, hk⟩
  | succ k ih =>
    have hlt : p.received < p.crew.state.sent.length := by omega
    let p₁ : Relay :=
      { p with
        worker := p.worker.takeChunk p.crew.state.sent[p.received].1 p.crew.state.sent[p.received].2
        received := p.received + 1 }
    have hstep : p.step .receive = some p₁ := by
      rw [step, if_neg (by simp [ho]), List.getElem?_eq_getElem hlt, Option.map_some]
    have hk₁ : p₁.received + k = p₁.crew.state.sent.length := by
      rw [← hk, Nat.add_assoc, Nat.add_comm 1 k]
    obtain ⟨q, hq, hrest⟩ := ih p₁ ho hk₁
    exact ⟨q, Option.bind_eq_some_iff.2 ⟨p₁, hstep, hq⟩, hrest⟩

/-- **Once the readers have ended, the worker can come to its end.** -/
theorem can_end {now : Instant} {sinks : List Sink} {files : FileTree}
    (h : (start buffer traces now sinks files).run ls = some p)
    (hend : ∀ r ∈ p.crew.readers, r.ended) : ∃ ls' q, p.run ls' = some q ∧ q.ended := by
  cases ho : p.ended with
  | true => exact ⟨[], p, rfl, ho⟩
  | false =>
    let p₁ : Relay := { p with crew := { p.crew with state := p.crew.state.allClosed } }
    have hclose : p.step .close = some p₁ := by
      rw [step, if_pos (by simpa using hend)]
    obtain ⟨k, hk⟩ := Nat.exists_eq_add_of_le ((sound_run h).working ho).1
    obtain ⟨q, hq, hended, hcrew, hall⟩ := receive_all k p₁ ho hk.symm
    have hfinish : q.step (.finish 0) =
        some { q with worker := q.worker.finish 0, ended := true } := by
      rw [step, if_neg (by simp [hended, hcrew, hall, p₁, PumpState.allClosed])]
    have hreceived : p.run (.close :: List.replicate k .receive) = some q :=
      Option.bind_eq_some_iff.2 ⟨p₁, hclose, hq⟩
    exact ⟨_, _, run_snoc_eq_some.2 ⟨q, hreceived, hfinish⟩, rfl⟩

end Relay

/-! ### Without sinks -/

/-- What the readers share if there is no channel. -/
def PumpState.mute (s : PumpState) : PumpState := { s with sent := [], channelOpen := false }

/-- The readers of a pump that has no sinks. -/
def Crew.mute (c : Crew) : Crew := { c with state := c.state.mute }

section Mute

variable (s : PumpState)

lemma PumpState.mute_streamClosed : s.mute.streamClosed = s.streamClosed.mute := by
  unfold streamClosed mute
  dsimp only
  split <;> rfl

lemma PumpState.mute_send (moment : Instant) (chunk : Bytes) :
    s.mute.send moment chunk = (s.send moment chunk).mute := by
  have hclosed : s.mute.send moment chunk = s.mute := rfl
  rw [hclosed, send]
  split <;> rfl

/-- The channel has no part in what the readers share besides it. -/
lemma PumpState.mute_move (m : ReaderStep) : s.mute.move m = (s.move m).mute := by
  cases m with
  | take e =>
    cases e with
    | ended => exact s.mute_streamClosed
    | cancelled => exact mute_streamClosed { s with cancelled := true }
    | _ => rfl
  | send chunk moment => exact s.mute_send moment chunk
  | quit => exact mute_streamClosed { s with cancelled := true }

lemma Crew.mute_step {c c' : Crew} {l : CrewStep} (h : c.step l = some c') :
    c.mute.step l = some c'.mute := by
  cases l with
  | stop =>
    obtain rfl := step_stop_eq_some.1 h
    rfl
  | move i s =>
    obtain ⟨hq, r, r', hr, hs, rfl⟩ := step_move_eq_some.1 h
    refine step_move_eq_some.2 ⟨hq, r, r', hr, hs, ?_⟩
    rw [mute, mute, PumpState.mute_move]

end Mute

namespace Relay

variable {p p' q : Relay} {l : RelayStep} {ls : List RelayStep}

/-- A pump that is started without sinks has no channel, and there is nobody to receive from it. -/
def silent (buffer : OutputBuffer) (traces : List Trace) : Relay :=
  { crew := (Crew.start buffer traces).mute
    worker := { now := 0, sinks := [], files := ⟨[], []⟩ }
    ended := true }

lemma mute_step (h : p.step l = some p') (hq : q.crew = p.crew.mute) :
    l.isWorker ∧ p'.crew = p.crew ∨
      l.isWorker = false ∧ ∃ q', q.step l = some q' ∧ q'.crew = p'.crew.mute := by
  obtain ⟨m, c, rfl, hc, rfl⟩ | ⟨rfl, hend, rfl⟩ | ⟨rfl, -, c, -, rfl⟩ |
    ⟨moment, rfl, -, -, -, rfl⟩ := step_cases h
  · refine .inr ⟨rfl, { q with crew := c.mute }, ?_, rfl⟩
    rw [step, hq, Crew.mute_step hc]
    rfl
  · refine .inr ⟨rfl, { q with crew := { q.crew with state := q.crew.state.allClosed } }, ?_, ?_⟩
    · rw [step, if_pos (by simpa [hq, Crew.mute] using hend)]
    · rw [hq]
      rfl
  · exact .inl ⟨rfl, rfl⟩
  · exact .inl ⟨rfl, rfl⟩

/-- **What the sinks do is nothing to the readers**: without sinks they can take the same steps. -/
lemma mute_run (h : p.run ls = some p') (hq : q.crew = p.crew.mute) :
    ∃ q', q.run (ls.filter (!·.isWorker)) = some q' ∧ q'.crew = p'.crew.mute := by
  induction ls generalizing p q with
  | nil =>
    cases h
    exact ⟨q, rfl, hq⟩
  | cons l ls ih =>
    obtain ⟨p₁, hp₁, hrun⟩ := Option.bind_eq_some_iff.1 h
    obtain ⟨hl, hcrew⟩ | ⟨hl, q₁, hq₁, hcrew⟩ := mute_step hp₁ hq
    · rw [List.filter_cons_of_neg (by simp [hl])]
      exact ih hrun (by rw [hq, hcrew])
    · obtain ⟨q', hq', hend⟩ := ih hrun hcrew
      rw [List.filter_cons_of_pos (by simp [hl])]
      exact ⟨q', Option.bind_eq_some_iff.2 ⟨q₁, hq₁, hq'⟩, hend⟩

/-- **The sinks of a pump are isolated** from each other and from what the pump captures. When the
worker has ended, and no sink has brought it down or holds it: the readers have sent all that they
read, each its chunks in their order; whatever the sinks replied, each of them was given each chunk
once, in the order in which the chunks were sent, and was then flushed once, chunk by chunk and one
sink after the other; the errors are the failures among these calls, in their order; and without
sinks the readers can take the same steps, which come to the same buffer and the same counters. -/
theorem sinks_isolated (buffer : OutputBuffer) (traces : List Trace) (now : Instant)
    (sinks : List Sink) (files : FileTree) (ls : List RelayStep) (p : Relay)
    (h : (start buffer traces now sinks files).run ls = some p) (hended : p.ended)
    (hout : p.worker.isOut = false) :
    (∀ i, part i (Crew.sends (crewSteps ls)) = part i (Crew.reads (crewSteps ls))) ∧
    (∃ log : CallLog, Performed sinks files log p.worker.sinks p.worker.files ∧
      log.calls = agenda sinks.length ((Crew.sends (crewSteps ls)).map Prod.snd) ∧
      (∀ i < sinks.length, part i log.calls =
        (Crew.sends (crewSteps ls)).map (fun sent => .write sent.2) ++ [.flush]) ∧
      p.worker.errors.map Prod.snd = log.filterMap (complaint? (sinks.map Sink.name)) ∧
      ∀ deadline, p.worker.now ≤ deadline →
        sinkErrorsAt deadline p.worker = log.filterMap (complaint? (sinks.map Sink.name))) ∧
    ∃ q, (silent buffer traces).run (ls.filter (!·.isWorker)) = some q ∧
      q.crew.readers = p.crew.readers ∧ q.crew.state.buffer = p.crew.state.buffer ∧
      ∀ sinkErrors lastActivity, q.crew.state.status sinkErrors lastActivity =
        p.crew.state.status sinkErrors lastActivity := by
  have hsound := sound_run h
  obtain ⟨hdone, closed, hworker⟩ := hsound.ended hended
  obtain ⟨c, hc, hreaders, -⟩ := hsound.readers
  refine ⟨Crew.part_sends hc fun r hr => (hdone r (hreaders ▸ hr)).2, ?_, ?_⟩
  · rw [hworker] at hout ⊢
    obtain ⟨log, hcalls, hmade⟩ := SinkWorker.run_made hout
    obtain ⟨-, -, htimely⟩ := SinkWorker.run_errors hout
    rw [hsound.sent] at hcalls
    have herrors := hmade.errors
    rw [List.map_nil, List.nil_append] at herrors
    refine ⟨log, hmade.performed, hcalls, fun i hi => ?_, herrors, fun deadline hlate => ?_⟩
    · rw [hcalls, part_agenda hi, List.map_map]
      rfl
    · rw [← herrors]
      exact sinkErrorsAt_of_ended hout (htimely nofun) hlate
  · obtain ⟨q, hq, hcrew⟩ := mute_run h (q := silent buffer traces) rfl
    exact ⟨q, hq, by rw [hcrew]; rfl, by rw [hcrew]; rfl, fun _ _ => by rw [hcrew]; rfl⟩

/-- One sink fails when it is given the first chunk, the other one when it is flushed; the second
reader overtakes the first one and ends while that has a chunk to send. -/
theorem sinks_isolated_failing :
    let traces : List Trace := [[(0, .chunk [97]), (3, .ended)], [(0, .chunk [98]), (1, .ended)]]
    let flaky : Sink := .scripted
      { name := "flaky", onFlush := .ok, delay := 2
        onWrite := fun n => if n = 0 then .failed (.io (.plain .brokenPipe)) else .ok }
    let full : Sink := .scripted
      { name := "full", onFlush := .failed (.io (.custom .other "disk full")), delay := 0
        onWrite := fun _ => .ok }
    let ls : List RelayStep :=
      [.crew (.move 0 (.take (.chunk [97]))), .crew (.move 1 (.take (.chunk [98]))),
        .crew (.move 1 (.send [98] 1)), .receive, .crew (.move 1 (.take .ended)),
        .crew (.move 0 (.send [97] 2)), .crew (.move 0 (.take .ended)), .receive, .finish 3]
    ∃ p, (start .empty traces 0 [flaky, full] ⟨[], []⟩).run ls = some p ∧ p.ended ∧
      p.worker.isOut = false ∧
      p.worker.errors.map Prod.snd =
        ["flaky: I/O error: broken pipe", "full: I/O error: disk full"] ∧
      ∃ log : CallLog, Performed [flaky, full] ⟨[], []⟩ log p.worker.sinks p.worker.files ∧
        log.calls = [(0, .write [98]), (1, .write [98]), (0, .write [97]), (1, .write [97]),
          (0, .flush), (1, .flush)] := by
  intro traces flaky full ls
  have hrun : ((start .empty traces 0 [flaky, full] ⟨[], []⟩).run ls).map
      (fun p => (p.ended, p.worker.isOut, p.worker.errors.map Prod.snd)) =
      some (true, false, ["flaky: I/O error: broken pipe", "full: I/O error: disk full"]) := by
    decide +kernel
  obtain ⟨p, hp, hfacts⟩ := Option.map_eq_some_iff.1 hrun
  obtain ⟨hended, hout, herrors⟩ : _ ∧ _ ∧ _ := by simpa using hfacts
  obtain ⟨-, ⟨log, hperformed, hcalls, -⟩, -⟩ :=
    sinks_isolated .empty traces 0 [flaky, full] ⟨[], []⟩ ls p hp hended hout
  exact ⟨p, hp, hended, hout, herrors, log, hperformed, hcalls⟩

end Relay
end GuestHarness.Output
