import GuestHarness.Proofs.Clock
import GuestHarness.Proofs.Output.Cutoff
import GuestHarness.Proofs.Output.Isolation

/-!
The end of a pump is in time, and its status is true. Whatever its streams do, and whether or not the
pump is cancelled by others, a finished pump has come to its end by its deadline; it says either that
all streams were read to their ends or that it was cancelled, and the former exactly if it is so. When
the readers have ended, in whatever order they took their steps, the buffer is closed and stays as it
is; and readers that are told to stop can do so without any help of their streams.
-/

namespace GuestHarness.Output

/-! ### One reader -/

section Reader

variable {r r' : Reader} {s : ReaderStep} {ss : List ReaderStep} {whole : List ReadEvent}

/-- How a reader stands with its end, if it cannot come down: it has met the end of its stream or has
stopped, one of the two, or it has not ended. -/
structure Reader.Ends (ss : List ReaderStep) (r : Reader) : Prop where
  goes : r.ended = false → .take .ended ∉ ss ∧ .quit ∉ ss
  ended : r.ended → (.quit ∈ ss ↔ .take .ended ∉ ss)

/-- The events end no reader but at the end of its stream. -/
def EndsOnlyAtEof (whole : List ReadEvent) : Prop := ∀ e ∈ whole, e.isFinal → e = .ended

lemma Reader.Ends.step (hends : r.Ends ss) (hwhole : r.ended = false → EndsOnlyAtEof r.ahead)
    (h : r.step s = some r') : r'.Ends (ss ++ [s]) := by
  obtain ⟨e, rest, rfl, rfl, rfl⟩ | ⟨chunk, m, rfl, -, rfl⟩ | ⟨rfl, -, he, rfl⟩ :=
    Reader.step_cases h
  · obtain ⟨hended, hquit⟩ := hends.goes rfl
    have hfinal := hwhole rfl e List.mem_cons_self
    constructor
    · intro hgoes
      have hne : e ≠ .ended := by rintro rfl; cases hgoes
      simp [hended, hquit, hne.symm]
    · intro hend
      obtain rfl := hfinal hend
      simp [hquit]
  · exact ⟨by simpa using hends.goes, by simpa using hends.ended⟩
  · obtain ⟨hended, hquit⟩ := hends.goes he
    exact ⟨nofun, by simp [hended]⟩

lemma Reader.ends_run (hwhole : EndsOnlyAtEof whole)
    (h : ({ ahead := whole } : Reader).run ss = some r) : r.Ends ss := by
  induction ss using List.reverseRecOn generalizing r with
  | nil =>
    cases h
    exact ⟨by simp, nofun⟩
  | append_singleton ss s ih =>
    obtain ⟨t, ht, hs⟩ := Reader.run_snoc_eq_some.1 h
    refine (ih ht).step (fun hgoes e he => ?_) hs
    obtain hahead | ⟨hended, -⟩ := (Reader.came_run ht).taken
    · exact hwhole e (hahead ▸ List.mem_append_right _ he)
    · rw [hgoes] at hended
      cases hended

/-- The reader has ended and owes nothing. -/
def Reader.isDone (r : Reader) : Bool := r.ended && r.owed.isNone

/-- A reader can end wherever it stands: what it owes it sends, and then it stops. -/
lemma Reader.exists_steps_isDone (r : Reader) :
    ∃ ss r', r.run ss = some r' ∧ r'.isDone ∧ ∀ s ∈ ss, s.read? = none := by
  obtain ⟨ahead, owed, ended⟩ := r
  cases owed with
  | none =>
    cases ended with
    | true => exact ⟨[], _, rfl, rfl, nofun⟩
    | false => exact ⟨[.quit], _, rfl, rfl, by simp [ReaderStep.read?]⟩
  | some chunk =>
    have hsend : Reader.step ⟨ahead, some chunk, ended⟩ (.send chunk 0) =
        some ⟨ahead, none, ended⟩ := if_pos rfl
    cases ended with
    | true =>
      refine ⟨[.send chunk 0], ⟨ahead, none, true⟩, ?_, rfl, by simp [ReaderStep.read?]⟩
      simp [Reader.run, hsend]
    | false =>
      refine ⟨[.send chunk 0, .quit], ⟨[], none, true⟩, ?_, rfl, by simp [ReaderStep.read?]⟩
      simp [Reader.run, Reader.step]

end Reader

/-! ### What the readers share -/

namespace PumpState

variable {s : PumpState} {ms : List ReaderStep} {events : List Tagged}

@[simp] lemma cancelled_streamClosed : s.streamClosed.cancelled = s.cancelled := by
  unfold streamClosed
  dsimp only
  split <;> rfl

@[simp] lemma cancelled_send (moment : Instant) (chunk : Bytes) :
    (s.send moment chunk).cancelled = s.cancelled := by
  unfold send
  split <;> rfl

/-- A pump is cancelled when a reader stops because it was told to. -/
lemma cancelled_move (m : ReaderStep) (hm : m ≠ .take .cancelled) :
    (s.move m).cancelled ↔ s.cancelled ∨ m = .quit := by
  cases m with
  | take e =>
    cases e with
    | cancelled => exact absurd rfl hm
    | _ => simp [append, addError]
  | send chunk moment => simp
  | quit => simp

lemma cancelled_foldl (hms : .take .cancelled ∉ ms) :
    (ms.foldl move s).cancelled ↔ s.cancelled ∨ .quit ∈ ms := by
  induction ms generalizing s with
  | nil => simp
  | cons m ms ih =>
    obtain ⟨hm, hms⟩ : _ ∧ _ := by simpa using hms
    rw [List.foldl_cons, ih hms, cancelled_move m (Ne.symm hm), or_assoc, List.mem_cons,
      eq_comm (a := m)]

lemma cancelled_record (moment : Instant) (e : ReadEvent) :
    (s.record moment e).cancelled ↔ s.cancelled ∨ e = .cancelled := by
  cases e <;> simp [record, append, addError]

lemma cancelled_recordAll :
    (s.recordAll events).cancelled ↔ s.cancelled ∨ ∃ e ∈ events, e.event = .cancelled := by
  induction events generalizing s with
  | nil => simp [recordAll]
  | cons e events ih =>
    rw [recordAll_cons, ih, cancelled_record, or_assoc]
    simp

lemma cancelled_start (buffer : OutputBuffer) (n : Nat) : (start buffer n).cancelled = false := by
  unfold start
  dsimp only
  split <;> rfl

end PumpState


/-! ### All readers -/

namespace Crew

variable {c c' : Crew} {l : CrewStep} {ls : List CrewStep} {buffer : OutputBuffer}
  {traces : List Trace}

/-- The streams that are counted as open are those whose readers have not ended, and the buffer is
closed when there are none. -/
structure Tallied (c : Crew) : Prop where
  count : c.state.openStreams = c.readers.countP (fun r => !r.ended)
  closed : c.state.openStreams = 0 → c.state.buffer.closed
  ahead : ∀ r ∈ c.readers, EndsOnlyAtEof r.ahead

lemma closed_streamClosed {s : PumpState} (hpos : 0 < s.openStreams) :
    s.streamClosed.openStreams = 0 → s.streamClosed.buffer.closed := by
  unfold PumpState.streamClosed
  dsimp only
  split
  · exact fun _ => rfl
  · intro hzero
    dsimp only at hzero
    omega

/-- A reader that goes on, while the others stand still. -/
lemma Tallied.set (hc : c.Tallied) {i : Nat} {r r' : Reader} {state : PumpState}
    (hr : c.readers[i]? = some r)
    (hcount : state.openStreams + (if r.ended then 0 else 1) =
      c.state.openStreams + (if r'.ended then 0 else 1))
    (hclosed : state.openStreams = 0 → state.buffer.closed) (hahead : r'.ahead <:+ r.ahead) :
    Tallied { c with readers := c.readers.set i r', state := state } := by
  refine ⟨?_, hclosed, fun q hq e he => ?_⟩
  · have hset := countP_set hr r'
    have heq := hc.count
    dsimp only
    omega
  · obtain hq | rfl := List.mem_or_eq_of_mem_set hq
    · exact hc.ahead q hq e he
    · exact hc.ahead r (List.mem_of_getElem? hr) e (hahead.subset he)

lemma Tallied.step (hc : c.Tallied) (h : c.step l = some c') : c'.Tallied := by
  cases l with
  | stop =>
    obtain rfl := step_stop_eq_some.1 h
    exact ⟨hc.count, hc.closed, hc.ahead⟩
  | move i s =>
    obtain ⟨-, r, r', hr, hs, rfl⟩ := step_move_eq_some.1 h
    -- a reader that has not ended is counted
    have hpos : r.ended = false → 0 < c.state.openStreams := fun he => by
      rw [hc.count]
      exact List.countP_pos_iff.2 ⟨r, List.mem_of_getElem? hr, by simp [he]⟩
    have hends : ∀ state : PumpState, state.openStreams = c.state.openStreams →
        r.ended = false → r'.ended = true → r'.ahead <:+ r.ahead →
        Tallied { c with readers := c.readers.set i r', state := state.streamClosed } :=
      fun state hopen he he' hahead => by
        have hlt : 0 < state.openStreams := hopen ▸ hpos he
        refine hc.set hr ?_ (closed_streamClosed hlt) hahead
        rw [(streamClosed_channel state).1, he, he', if_neg Bool.false_ne_true, if_pos rfl]
        omega
    obtain ⟨e, rest, rfl, rfl, rfl⟩ | ⟨chunk, m, rfl, ho, rfl⟩ | ⟨rfl, -, he, rfl⟩ :=
      Reader.step_cases hs
    · have hfinal := hc.ahead _ (List.mem_of_getElem? hr) e List.mem_cons_self
      have hsuffix : rest <:+ e :: rest := List.suffix_cons e rest
      cases e with
      | chunk bs => exact hc.set hr rfl hc.closed hsuffix
      | failed text => exact hc.set hr rfl hc.closed hsuffix
      | ended => exact hends c.state rfl rfl rfl hsuffix
      | cancelled => cases hfinal rfl
      | crashed text => cases hfinal rfl
    · refine hc.set hr ?_ ?_ (List.suffix_refl _)
      · rw [PumpState.move_send, PumpState.send]
        split <;> rfl
      · rw [PumpState.move_send, PumpState.send]
        split <;> exact hc.closed
    · exact hends { c.state with cancelled := true } rfl he rfl List.nil_suffix

lemma tallied_start (hends : ∀ t ∈ traces, EndsOnlyAtEof (t.map Prod.snd)) :
    (start buffer traces).Tallied := by
  have hcount : (start buffer traces).readers.countP (fun r => !r.ended) = traces.length := by
    rw [List.countP_eq_length.2]
    · simp [start]
    · intro r hr
      obtain ⟨t, -, rfl⟩ := List.mem_map.1 hr
      rfl
  refine ⟨?_, fun hnone => ?_, fun r hr => ?_⟩
  · rw [hcount, start, PumpState.start]
    dsimp only
    split <;> rfl
  · cases traces with
    | nil => rfl
    | cons t ts => cases hnone
  · obtain ⟨t, ht, rfl⟩ := List.mem_map.1 hr
    exact hends t ht

lemma Tallied.run (hc : c.Tallied) (h : c.run ls = some c') : c'.Tallied := by
  induction ls generalizing c with
  | nil => cases h; exact hc
  | cons l ls ih =>
    obtain ⟨t, ht, hrun⟩ := run_cons_eq_some.1 h
    exact ih (hc.step ht) hrun

/-- What a pump says when its readers have ended, and what becomes of it then. -/
structure Reported (count : Nat) (ls : List CrewStep) (c : Crew) : Prop where
  either : c.state.reachedEof = !c.state.cancelled
  reachedEof : c.state.reachedEof ↔ ∀ i < count, .ended ∈ taken i ls
  closed : c.state.buffer.closed
  final : ∀ ls' c', c.run ls' = some c' → c'.state = c.state

lemma mem_taken {i : Nat} {e : ReadEvent} : e ∈ taken i ls ↔ .take e ∈ part i (moves ls) := by
  rw [taken, List.mem_filterMap]
  constructor
  · rintro ⟨s, hs, he⟩
    cases s with
    | take e' =>
      obtain rfl : e' = e := Option.some.inj he
      exact hs
    | send chunk moment => cases he
    | quit => cases he
  · intro h
    exact ⟨_, h, rfl⟩

/-- Each reader has ended in one way: it has stopped, or it has met the end of its stream. -/
lemma quit_iff_of_done (hends : ∀ t ∈ traces, EndsOnlyAtEof (t.map Prod.snd))
    (h : (start buffer traces).run ls = some c) (hdone : c.Done) {i : Nat}
    (hi : i < traces.length) : .quit ∈ part i (moves ls) ↔ .ended ∉ taken i ls := by
  obtain ⟨r, hr, hrun⟩ := reader_run h (i := i) (r := { ahead := traces[i].map Prod.snd }) (by
    simp [start, hi])
  have hended := (hdone r (List.mem_of_getElem? hr)).1
  rw [mem_taken]
  exact (Reader.ends_run (hends _ (List.getElem_mem hi)) hrun).ended hended

/-- The pump is cancelled exactly if one of its readers has stopped. -/
lemma cancelled_run (hends : ∀ t ∈ traces, EndsOnlyAtEof (t.map Prod.snd))
    (h : (start buffer traces).run ls = some c) :
    c.state.cancelled ↔ ∃ i < traces.length, .quit ∈ part i (moves ls) := by
  have hlt : ∀ {i : Nat} {s : ReaderStep}, (i, s) ∈ moves ls → i < traces.length := fun hp => by
    simpa [start] using lt_length_of_run h hp
  have hnone : .take .cancelled ∉ (moves ls).map Prod.snd := by
    intro hmem
    obtain ⟨⟨i, s⟩, hp, rfl⟩ := List.mem_map.1 hmem
    have htaken : .cancelled ∈ taken i ls := mem_taken.2 (mem_part.2 hp)
    have hi := hlt hp
    have hwhole := (taken_isPrefix h (List.getElem?_eq_getElem hi)).subset htaken
    cases hends _ (List.getElem_mem hi) _ hwhole rfl
  rw [state_run h, PumpState.cancelled_foldl hnone]
  simp only [start, PumpState.cancelled_start, Bool.false_eq_true, false_or, List.mem_map,
    Prod.exists, exists_eq_right, mem_part]
  constructor
  · rintro ⟨i, hp⟩
    exact ⟨i, hlt hp, hp⟩
  · rintro ⟨i, -, hp⟩
    exact ⟨i, hp⟩

/-- **When all readers have ended, the pump's status is true**, in whatever order they came to this and
whenever they were told to stop. -/
theorem reported_of_done (hends : ∀ t ∈ traces, EndsOnlyAtEof (t.map Prod.snd))
    (h : (start buffer traces).run ls = some c) (hdone : c.Done) :
    Reported traces.length ls c := by
  obtain ⟨hcount, hclosed, -⟩ := (tallied_start hends).run h
  have hnone : c.state.openStreams = 0 := by
    rw [hcount]
    exact List.countP_eq_zero.2 fun r hr => by simp [(hdone r hr).1]
  have heither : c.state.reachedEof = !c.state.cancelled := by
    simp [PumpState.reachedEof, hnone]
  refine ⟨heither, ?_, hclosed hnone, fun ls' c' h' => run_of_ended hdone h'⟩
  rw [heither, Bool.not_eq_true', ← Bool.not_eq_true, cancelled_run hends h]
  constructor
  · intro hno i hi
    by_contra hnot
    exact hno ⟨i, hi, (quit_iff_of_done hends h hdone hi).2 hnot⟩
  · rintro hall ⟨i, hi, hquit⟩
    exact (quit_iff_of_done hends h hdone hi).1 hquit (hall i hi)

/-! ### Readers that are told to stop -/

/-- One reader moves and the others stand still. -/
lemma run_moves (hstop : c.stopped) {i : Nat} {r r' : Reader} {ss : List ReaderStep}
    (hr : c.readers[i]? = some r) (hrun : r.run ss = some r') :
    c.run (ss.map (.move i)) =
      some { c with readers := c.readers.set i r', state := ss.foldl PumpState.move c.state } := by
  induction ss generalizing c r with
  | nil =>
    cases hrun
    obtain ⟨hi, rfl⟩ := List.getElem?_eq_some_iff.1 hr
    rw [List.set_getElem_self]
    rfl
  | cons s ss ih =>
    obtain ⟨q, hq, hrest⟩ := Option.bind_eq_some_iff.1 hrun
    have hi : i < c.readers.length := (List.getElem?_eq_some_iff.1 hr).1
    refine run_cons_eq_some.2 ⟨_, step_move_eq_some.2 ⟨fun _ => hstop, r, q, hr, hq, rfl⟩, ?_⟩
    rw [ih (c := { c with readers := c.readers.set i q, state := c.state.move s }) hstop
      (by simp [hi]) hrest]
    simp

/-- **Readers that are told to stop can end**, wherever they stand, and without a step of their
streams; so nothing more is added to the buffer. -/
theorem exists_run_done (hstop : c.stopped) :
    ∃ ls c', c.run ls = some c' ∧ c'.Done ∧ c'.state.buffer.data = c.state.buffer.data := by
  -- the readers end one after the other
  induction hn : c.readers.countP (fun r => !r.isDone) generalizing c with
  | zero =>
    refine ⟨[], c, rfl, fun r hr => ?_, rfl⟩
    simpa [Reader.isDone] using List.countP_eq_zero.1 hn r hr
  | succ n ih =>
    have hpos : 0 < c.readers.countP (fun r => !r.isDone) := by omega
    obtain ⟨r, hr, hnot⟩ := List.countP_pos_iff.1 hpos
    obtain ⟨i, hi⟩ := List.getElem?_of_mem hr
    obtain ⟨ss, r', hrun, hdone, hreads⟩ := r.exists_steps_isDone
    have hone := run_moves hstop hi hrun
    have hset := countP_set_add (p := fun r => !r.isDone) hi r'
    have hfewer : (c.readers.set i r').countP (fun r => !r.isDone) = n := by
      rw [if_pos hnot, hdone] at hset
      simpa [hn] using hset
    obtain ⟨ls, c', hrest, hend, hdata⟩ :=
      ih (c := ⟨c.readers.set i r', ss.foldl PumpState.move c.state, c.stopped⟩) hstop hfewer
    refine ⟨_, c', run_append_eq_some.2 ⟨_, hone, hrest⟩, hend, hdata.trans ?_⟩
    have hgrew := (PumpState.grew_foldl c.state ss).data
    rwa [List.filterMap_eq_nil_iff.2 hreads, List.flatten_nil, List.append_nil] at hgrew

end Crew

/-! ### A finished pump -/

section Finish

variable {now called deadline : Instant} {scripts : List StreamScript} {cancel : Option Instant}
  {buffer : OutputBuffer} {traces : List Trace} {worker : SinkWorker}
  {wallClock : Instant → Timestamp}

lemma exists_mem_mergeFrom {P : ReadEvent → Prop} {k : Nat} :
    (∃ e ∈ mergeFrom k traces, P e.event) ↔ ∃ t ∈ traces, ∃ e ∈ t, P e.2 := by
  induction traces generalizing k with
  | nil => simp [mergeFrom]
  | cons t rest ih =>
    simp only [mergeFrom, mem_merge, or_and_right, exists_or, ih, List.mem_cons]
    refine or_congr_left ?_
    simp [tag]

/-- Readers that do not come down end at the ends of their streams. -/
lemma endsOnlyAtEof_traces
    (hcrash : ∀ script ∈ scripts, ∀ e ∈ trace now script, ∀ text, e.2 ≠ .crashed text) :
    ∀ t ∈ scripts.map (trace now), EndsOnlyAtEof (t.map Prod.snd) := by
  intro t ht event hevent hfinal
  obtain ⟨script, hscript, rfl⟩ := List.mem_map.1 ht
  obtain ⟨e, he, rfl⟩ := List.mem_map.1 hevent
  cases hcase : e.2 with
  | ended => rfl
  | cancelled => exact absurd hcase (mem_trace he).2
  | crashed text => exact absurd hcase (hcrash script hscript e he text)
  | chunk bs => rw [hcase] at hfinal; cases hfinal
  | failed text => rw [hcase] at hfinal; cases hfinal

/-- A finished pump is left by its readers as they are when they are cut off. -/
lemma finishBy_state (hcrash : ∀ t ∈ traces, ∀ e ∈ t, ∀ text, e.2 ≠ .crashed text) :
    (finishBy buffer traces worker called deadline wallClock).state =
      ((PumpState.start buffer traces.length).recordAll
        (mergeFrom 0 (traces.map (cancelAt deadline)))).allClosed := by
  simp only [finishBy, joinErrors_cancelAt hcrash, merge_nil, List.length_map]

/-- What a finished pump has to say is true: it has ended by its deadline, with all streams read to
their ends or cancelled, and no step that its readers can still take changes anything. -/
structure PumpEnd.Truthful (buffer : OutputBuffer) (scripts : List StreamScript) (now : Instant)
    (cancel : Option Instant) (deadline : Instant) (e : PumpEnd) : Prop where
  inTime : e.moment ≤ deadline
  either : e.status.reachedEof = !e.status.cancelled
  reachedEof : e.status.reachedEof ↔
    ∀ script ∈ scripts, (trace now script).EndsBefore (cutoff cancel deadline)
  closed : e.state.buffer.closed
  final : ∃ ls c, (Crew.start buffer (scripts.map (trace now))).run ls = some c ∧ c.Done ∧
    ∀ ls' c', c.run ls' = some c' → c'.state.allClosed = e.state

/-- The readers of the streams, cut off at the deadline or before, are cancelled exactly if one of them
does not come to the end of its stream. -/
lemma cancelled_cutoff {m : Instant}
    (hcrash : ∀ script ∈ scripts, ∀ e ∈ trace now script, ∀ text, e.2 ≠ .crashed text) :
    ((PumpState.start buffer scripts.length).recordAll
      (mergeFrom 0 ((scripts.map (trace now)).map (cancelAt m)))).cancelled ↔
      ¬ ∀ script ∈ scripts, (trace now script).EndsBefore m := by
  rw [PumpState.cancelled_recordAll, PumpState.cancelled_start,
    exists_mem_mergeFrom (P := (· = .cancelled))]
  simp only [Bool.false_eq_true, false_or, List.map_map, List.mem_map, Function.comp_apply,
    exists_exists_and_eq_and, not_forall, exists_prop]
  refine exists_congr fun script => and_congr_right fun hscript => ?_
  exact cancelled_mem_cancelAt_trace (hcrash script hscript)

variable (worker wallClock) in
lemma finishBy_truthful (hcalled : called ≤ deadline)
    (hcrash : ∀ script ∈ scripts, ∀ e ∈ trace now script, ∀ text, e.2 ≠ .crashed text) :
    (finishBy buffer (scripts.map fun script => stopAt cancel (trace now script)) worker called
      deadline wallClock).Truthful buffer scripts now cancel deadline := by
  set e := finishBy buffer (scripts.map fun script => stopAt cancel (trace now script)) worker called
    deadline wallClock with he
  have hcut : (scripts.map fun script => stopAt cancel (trace now script)).map (cancelAt deadline) =
      (scripts.map (trace now)).map (cancelAt (cutoff cancel deadline)) := by
    simp [cancelAt_stopAt]
  obtain ⟨ls, c, hrun, hc, hdone⟩ :=
    exists_run_turns buffer (scripts.map (trace now)) (cutoff cancel deadline)
  have hstate : e.state = c.state.allClosed := by
    rw [he, finishBy_state, hcut, hc, List.length_map, List.length_map]
    intro t ht event hevent text htext
    obtain ⟨script, hscript, rfl⟩ := List.mem_map.1 ht
    cases cancel with
    | none => exact hcrash script hscript event hevent text htext
    | some m =>
      obtain hevent | hevent := mem_cancelAt hevent
      · exact hcrash script hscript event hevent text htext
      · rw [hevent] at htext
        cases htext
  have hreported : c.Reported (scripts.map (trace now)).length ls :=
    Crew.reported_of_done (endsOnlyAtEof_traces hcrash) hrun hdone
  have heof : e.status.reachedEof = c.state.reachedEof := by
    have hstatus : e.status.reachedEof = e.state.reachedEof := rfl
    rw [hstatus, hstate]
    rfl
  have hcancelled : e.status.cancelled = c.state.cancelled := by
    have hstatus : e.status.cancelled = e.state.cancelled := rfl
    rw [hstatus, hstate]
    rfl
  refine ⟨finishBy_moment_le _ _ _ _ hcalled, ?_, ?_, by rw [hstate]; rfl, ls, c, hrun, hdone, ?_⟩
  · rw [heof, hcancelled]
    exact hreported.either
  · rw [heof, hreported.either, Bool.not_eq_true', ← Bool.not_eq_true, hc, List.length_map,
      cancelled_cutoff hcrash, not_not]
  · intro ls' c' h'
    rw [hstate, hreported.final ls' c' h']

/-- What the readers would do from the deadline on makes no difference. -/
lemma finish_congr {traces' : List Trace} {drain : Duration}
    (h : traces.map (·.takeWhile (·.1 < called + drain.nanos)) =
      traces'.map (·.takeWhile (·.1 < called + drain.nanos))) :
    finish buffer traces worker called drain wallClock =
      finish buffer traces' worker called drain wallClock := by
  unfold finish
  cases hd : Clock.deadline called drain with
  | error _ => rfl
  | ok deadline =>
    obtain ⟨-, rfl⟩ := Clock.deadline_eq_ok_iff.1 hd
    have hcut : ∀ ts : List Trace, ts.map (cancelAt (called + drain.nanos)) =
        (ts.map (·.takeWhile (·.1 < called + drain.nanos))).map
          (cancelAt (called + drain.nanos)) := fun ts => by
      rw [List.map_map]
      exact List.map_congr_left fun t _ => (cancelAt_takeWhile _ t).symm
    have hsame : traces.map (cancelAt (called + drain.nanos)) =
        traces'.map (cancelAt (called + drain.nanos)) := by
      rw [hcut traces, hcut traces', h]
    have hend : finishBy buffer traces worker called (called + drain.nanos) wallClock =
        finishBy buffer traces' worker called (called + drain.nanos) wallClock := by
      unfold finishBy
      rw [hsame]
    exact congrArg Except.ok hend

end Finish

/-- **A pump is finished in time, and its status is true**, whatever its streams and its sinks do and
whether or not others have cancelled it. Only what the readers do before the deadline counts, so that
the streams may go on failing for ever. And whatever the order in which the readers take their steps,
the status is true when all of them have ended, and they can end when they are told to stop. -/
theorem finish_truthful (buffer : OutputBuffer) (scripts : List StreamScript) (now : Instant)
    (cancel : Option Instant) (worker : SinkWorker) (called : Instant) (drain : Duration)
    (wallClock : Instant → Timestamp)
    (hcrash : ∀ script ∈ scripts, ∀ e ∈ trace now script, ∀ text, e.2 ≠ .crashed text)
    (hclock : called + drain.nanos < Clock.limit) :
    let traces := scripts.map fun script => stopAt cancel (trace now script)
    let before := fun t : Trace => t.takeWhile (·.1 < called + drain.nanos)
    (∃ e, finish buffer traces worker called drain wallClock = .ok e ∧
      e.Truthful buffer scripts now cancel (called + drain.nanos) ∧
      ∀ traces' : List Trace, traces'.map before = traces.map before →
        finish buffer traces' worker called drain wallClock = .ok e) ∧
    ∀ ls c, (Crew.start buffer (scripts.map (trace now))).run ls = some c →
      (c.Done → c.Reported scripts.length ls) ∧
      (c.stopped → ∃ ls' c', c.run ls' = some c' ∧ c'.Done ∧
        c'.state.buffer.data = c.state.buffer.data) := by
  intro traces before
  have hfinish : finish buffer traces worker called drain wallClock =
      .ok (finishBy buffer traces worker called (called + drain.nanos) wallClock) := by
    rw [finish, Clock.deadline_of_lt hclock]
    rfl
  have htrue : (finishBy buffer traces worker called (called + drain.nanos) wallClock).Truthful
      buffer scripts now cancel (called + drain.nanos) :=
    finishBy_truthful worker wallClock (Nat.le_add_right called drain.nanos) hcrash
  refine ⟨⟨_, hfinish, htrue, fun traces' h => (finish_congr h).trans hfinish⟩,
    fun ls c hrun => ⟨fun hdone => ?_, fun hstop => Crew.exists_run_done hstop⟩⟩
  have hreported := Crew.reported_of_done (endsOnlyAtEof_traces hcrash) hrun hdone
  rwa [List.length_map] at hreported

/-- One stream is never ready, one fails for ever, and the sink does not come back: the pump is
cancelled, and has ended by its deadline. -/
theorem finish_truthful_failing :
    let failing := fun n => List.replicate n (StreamItem.failure (.plain .connectionReset))
    let stuck : Sink := .scripted
      { name := "stuck", onWrite := fun _ => .hangs, onFlush := .hangs, delay := 0 }
    ∃ e, (∀ n, 2 ≤ n → finish .empty ([[.hang], failing n].map (trace 0))
        { now := 0, sinks := [stuck], files := ⟨[], []⟩ } 0 (.ofMillis 20) (fun _ => .epoch) = .ok e) ∧
      e.moment ≤ 20000000 ∧ e.status.cancelled ∧ e.status.reachedEof = false ∧
      e.state.buffer.closed := by
  intro failing stuck
  have hcrash : ∀ script ∈ [[.hang], failing 2], ∀ e ∈ trace 0 script, ∀ text,
      e.2 ≠ .crashed text := fun script hscript e he text htext => by
    have hmem := crash_of_mem_trace he htext
    obtain rfl | rfl : script = [.hang] ∨ script = failing 2 := by simpa using hscript
    · simp at hmem
    · simp [failing] at hmem
  obtain ⟨⟨e, -, htrue, hsame⟩, -⟩ := finish_truthful .empty [[.hang], failing 2] 0 none
    { now := 0, sinks := [stuck], files := ⟨[], []⟩ } 0 (.ofMillis 20) (fun _ => .epoch) hcrash
    (by decide)
  have hnot : e.status.reachedEof = false := by
    rw [← Bool.not_eq_true, htrue.reachedEof]
    intro hall
    obtain ⟨moment, -, hended⟩ := hall [.hang] List.mem_cons_self
    cases hended
  refine ⟨e, fun n hn => hsame _ ?_, htrue.inTime, ?_, hnot, htrue.closed⟩
  · -- the first two failures take all the time there is
    obtain ⟨k, rfl⟩ := Nat.exists_eq_add_of_le hn
    have htwo : (trace 0 (failing 2 ++ failing k)).takeWhile (·.1 < 20000000) =
        (trace 0 (failing 2 ++ [])).takeWhile (·.1 < 20000000) :=
      takeWhile_trace_append (by decide) (failing k) []
    have hfailing : failing (2 + k) = failing 2 ++ failing k := List.replicate_add ..
    rw [List.append_nil, ← hfailing] at htwo
    exact congrArg (fun t => [[], t]) htwo
  · have heither := htrue.either
    rw [hnot] at heither
    simpa using heither.symm

end GuestHarness.Output
