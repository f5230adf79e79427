import GuestHarness.Proofs.Output.Capture
import GuestHarness.Proofs.Output.Sinks

/-!
The order in which chunks reach the sinks. A reader adds a chunk to the buffer in one step and sends
it on in another, and what other readers do may come between. So the chunks of one stream reach the
sinks in the order in which they were read, but those of two streams may change places: they do so
exactly if a reader overtakes another one between these steps. Where none is overtaken, the sinks are
given what was added to the buffer, byte for byte.
-/

namespace GuestHarness.Output

/-! ### Overtaking -/

/-- A reader is overtaken: it has taken a chunk and not yet sent it when another one sends a chunk
that it took later. -/
def Overtaken (ms : List (Nat × ReaderStep)) : Prop :=
  ∃ (pre mid post : List (Nat × ReaderStep)) (i j : Nat) (first second : Bytes) (moment : Instant),
    ms = pre ++ (i, .take (.chunk first)) :: mid ++ (j, .send second moment) :: post ∧ i ≠ j ∧
      part i (pick ReaderStep.sent? mid) = [] ∧ part j (pick ReaderStep.read? mid) ≠ []

/-- Each reader sends what it reads, in its order and one chunk at a time. -/
def Kept (ms : List (Nat × ReaderStep)) : Prop :=
  ∀ pre, pre <+: ms → ∀ i, ∃ owed : Option Bytes,
    part i (pick ReaderStep.read? pre) = part i (pick ReaderStep.sent? pre) ++ owed.toList

section Kept

variable {ms ms' pre : List (Nat × ReaderStep)} {i j : Nat} {chunk : Bytes} {moment : Instant}

lemma read?_chunk (chunk : Bytes) : ReaderStep.read? (.take (.chunk chunk)) = some chunk := rfl

lemma sent?_take (e : ReadEvent) : ReaderStep.sent? (.take e) = none := rfl

lemma sent?_send (chunk : Bytes) (moment : Instant) :
    ReaderStep.sent? (.send chunk moment) = some chunk := rfl

lemma read?_send (chunk : Bytes) (moment : Instant) :
    ReaderStep.read? (.send chunk moment) = none := rfl

lemma eq_take_of_read? {s : ReaderStep} (h : s.read? = some chunk) :
    s = .take (.chunk chunk) := by
  cases s with
  | take e =>
    cases e with
    | chunk bs => obtain rfl := Option.some.inj h; rfl
    | _ => cases h
  | _ => cases h

lemma Kept.of_isPrefix (h : Kept ms) (hp : ms' <+: ms) : Kept ms' :=
  fun pre hpre => h pre (hpre.trans hp)

lemma Overtaken.append (h : Overtaken ms) (ms' : List (Nat × ReaderStep)) :
    Overtaken (ms ++ ms') := by
  obtain ⟨pre, mid, post, i, j, first, second, moment, rfl, h⟩ := h
  exact ⟨pre, mid, post ++ ms', i, j, first, second, moment, by simp, h⟩

/-- A reader that takes a chunk has sent all before it. -/
lemma Kept.at_take (h : Kept ms) (hp : pre ++ [(i, .take (.chunk chunk))] <+: ms) :
    part i (pick ReaderStep.sent? pre) = part i (pick ReaderStep.read? pre) := by
  obtain ⟨owed, howed⟩ := h pre ((List.prefix_append pre _).trans hp) i
  obtain ⟨owed', howed'⟩ := h _ hp i
  rw [pick_append, pick_append, pick_cons_some i [] (read?_chunk chunk),
    pick_cons_none i [] (sent?_take _), part_append, part_append] at howed'
  have hlen := congrArg List.length howed
  have hlen' := congrArg List.length howed'
  have hle : owed'.toList.length ≤ 1 := by cases owed' <;> simp
  simp only [part_cons_self, List.length_append, List.length_cons, pick, List.filterMap_nil,
    part_nil, List.length_nil] at hlen hlen' hle
  have hnil : owed.toList = [] := List.length_eq_zero_iff.1 (by omega)
  rw [howed, hnil, List.append_nil]

/-- A reader that sends a chunk has sent all others. -/
lemma Kept.at_send (h : Kept ms) (hp : pre ++ [(j, .send chunk moment)] <+: ms) :
    part j (pick ReaderStep.read? pre) = part j (pick ReaderStep.sent? pre) ++ [chunk] := by
  obtain ⟨owed, howed⟩ := h pre ((List.prefix_append pre _).trans hp) j
  obtain ⟨owed', howed'⟩ := h _ hp j
  rw [pick_append, pick_append, pick_cons_none j [] (read?_send chunk moment),
    pick_cons_some j [] (sent?_send chunk moment), part_append, part_append, howed] at howed'
  simp only [pick, List.filterMap_nil, part_nil, List.append_nil, part_cons_self,
    List.append_assoc, List.append_cancel_left_eq, List.cons_append, List.nil_append] at howed'
  rw [howed]
  cases owed with
  | none => cases howed'
  | some chunk' =>
    obtain ⟨rfl, -⟩ := List.cons.inj howed'
    rfl

/-- A reader that is overtaken sends a chunk too late. -/
lemma Kept.not_overtaken (h : Kept ms)
    (hpre : pick ReaderStep.sent? ms <+: pick ReaderStep.read? ms) : ¬ Overtaken ms := by
  rintro ⟨pre, mid, post, i, j, first, second, moment, rfl, hij, hi, hj⟩
  have hfirst : pre ++ [(i, .take (.chunk first))] <+:
      pre ++ (i, .take (.chunk first)) :: mid ++ (j, .send second moment) :: post :=
    ⟨mid ++ (j, .send second moment) :: post, by simp⟩
  have hsecond : pre ++ (i, .take (.chunk first)) :: mid ++ [(j, .send second moment)] <+:
      pre ++ (i, .take (.chunk first)) :: mid ++ (j, .send second moment) :: post :=
    ⟨post, by simp⟩
  have htake := h.at_take hfirst
  have hsend := h.at_send hsecond
  simp only [pick_append, pick_cons_some i _ (read?_chunk first), pick_cons_none i _ (sent?_take _),
    pick_cons_some j _ (sent?_send second moment), pick_cons_none j _ (read?_send second moment),
    part_append, part_cons_ne _ hij] at hpre hsend
  -- the sends up to the overtaking one, and the reads up to the chunk that is overtaken
  have hsends : pick ReaderStep.sent? pre ++ pick ReaderStep.sent? mid ++ [(j, second)] <+:
      pick ReaderStep.read? pre ++ (i, first) :: pick ReaderStep.read? mid ++
        pick ReaderStep.read? post :=
    .trans ⟨pick ReaderStep.sent? post, by simp⟩ hpre
  have hreads : pick ReaderStep.read? pre ++ [(i, first)] <+:
      pick ReaderStep.read? pre ++ (i, first) :: pick ReaderStep.read? mid ++
        pick ReaderStep.read? post := ⟨pick ReaderStep.read? mid ++ pick ReaderStep.read? post, by simp⟩
  have hlate : ¬ pick ReaderStep.read? pre ++ [(i, first)] <+:
      pick ReaderStep.sent? pre ++ pick ReaderStep.sent? mid ++ [(j, second)] := fun hle => by
    have hlen : (part i _).length ≤ (part i _).length := (hle.filterMap _).length_le
    simp only [part_append, part_cons_self, hi, part_cons_ne _ (Ne.symm hij), part_nil, htake,
      List.append_nil, List.length_append, List.length_cons, List.length_nil] at hlen
    omega
  have hearly : ¬ pick ReaderStep.sent? pre ++ pick ReaderStep.sent? mid ++ [(j, second)] <+:
      pick ReaderStep.read? pre := fun hle => by
    have hlen : (part j _).length ≤ (part j _).length := (hle.filterMap _).length_le
    have hpos := List.length_pos_of_ne_nil hj
    simp only [part_append, part_cons_self, part_nil, ← hsend, List.length_append] at hlen
    omega
  obtain hle | hle := List.prefix_or_prefix_of_prefix hsends hreads
  · obtain heq | hle := List.prefix_concat_iff.1 hle
    · exact hlate (heq ▸ List.prefix_refl _)
    · exact hearly hle
  · exact hlate hle

/-- Where none is overtaken, the chunks are sent in the order in which they were read. -/
lemma Kept.prefix_of_not_overtaken (h : Kept ms) (hno : ¬ Overtaken ms) :
    pick ReaderStep.sent? ms <+: pick ReaderStep.read? ms := by
  induction ms using List.reverseRecOn with
  | nil => exact List.nil_prefix
  | append_singleton ms p ih =>
    have hprefix := ih (h.of_isPrefix (List.prefix_append _ _)) fun ho => hno (ho.append _)
    obtain ⟨j, s⟩ := p
    cases s with
    | take e =>
      rw [pick_append, pick_append, pick_cons_none j [] (sent?_take e)]
      exact (by simpa [pick] using hprefix.trans (List.prefix_append _ _))
    | quit =>
      rw [pick_append, pick_append, pick_cons_none j [] rfl, pick_cons_none j [] rfl]
      simpa [pick] using hprefix
    | send chunk moment =>
      have hsend := h.at_send (List.prefix_refl _)
      obtain ⟨queue, hqueue⟩ := hprefix
      rw [← hqueue, part_append, List.append_cancel_left_eq] at hsend
      rw [pick_append, pick_append, pick_cons_some j [] (sent?_send chunk moment),
        pick_cons_none j [] (read?_send chunk moment), ← hqueue]
      obtain _ | ⟨⟨i, first⟩, queue⟩ := queue
      · cases hsend
      by_cases hij : i = j
      · subst hij
        rw [part_cons_self] at hsend
        obtain ⟨rfl, -⟩ := List.cons.inj hsend
        exact ⟨queue, by simp [pick]⟩
      · -- the chunk that has waited longest is another reader's
        refine absurd ?_ hno
        obtain ⟨pre, s, mid, rfl, hs, hpre, hmid⟩ := exists_of_pick_eq hqueue.symm
        obtain rfl := eq_take_of_read? hs
        have hfirst : pre ++ [(i, .take (.chunk first))] <+:
            pre ++ (i, .take (.chunk first)) :: mid ++ [(j, .send chunk moment)] :=
          ⟨mid ++ [(j, .send chunk moment)], by simp⟩
        have htake := h.at_take hfirst
        refine ⟨pre, mid, [], i, j, first, chunk, moment, rfl, hij, ?_, ?_⟩
        · rw [hpre, pick_append, pick_cons_none i mid (sent?_take _), part_append] at htake
          simpa using htake
        · rw [hmid, ← part_cons_ne queue hij first, hsend]
          exact List.cons_ne_nil _ _

end Kept

/-! ### The channel to the sinks -/

namespace Crew

variable {c c' : Crew} {l : CrewStep} {ls : List CrewStep}

/-- The chunks that are sent, in their order, each marked with its reader. -/
def sends (ls : List CrewStep) : List (Nat × Bytes) := pick ReaderStep.sent? (moves ls)

/-- The channel is open as long as a reader can have something to send. -/
structure Open (c : Crew) : Prop where
  count : c.readers.countP (fun r => !r.ended) ≤ c.state.openStreams
  channel : 0 < c.state.openStreams → c.state.channelOpen
  owing : ∀ r ∈ c.readers, r.owed.isSome → r.ended = false

lemma open_start (buffer : OutputBuffer) (traces : List Trace) : (start buffer traces).Open := by
  constructor
  · have hopen : (PumpState.start buffer traces.length).openStreams = traces.length := by
      unfold PumpState.start
      dsimp only
      split <;> rfl
    have hle : (start buffer traces).readers.countP (fun r => !r.ended) ≤
        (start buffer traces).readers.length := List.countP_le_length
    rw [start] at hle ⊢
    simpa [hopen] using hle
  · intro hpos
    cases traces with
    | nil => simp [start, PumpState.start, PumpState.allClosed] at hpos
    | cons t ts => rfl
  · intro r hr ho
    obtain ⟨t, -, rfl⟩ := List.mem_map.1 hr
    rfl

/-- The number of readers that have not ended, after a step of one of them. -/
lemma countP_set {readers : List Reader} {i : Nat} {r : Reader} (h : readers[i]? = some r)
    (r' : Reader) :
    (readers.set i r').countP (fun r => !r.ended) + (if r.ended then 0 else 1) =
      readers.countP (fun r => !r.ended) + (if r'.ended then 0 else 1) := by
  have hset := countP_set_add (p := fun r => !r.ended) h r'
  cases he : r.ended <;> cases he' : r'.ended <;> simpa [he, he'] using hset

/-- A reader that goes on leaves the channel open for the others. -/
lemma Open.set (hc : c.Open) {i : Nat} {r r' : Reader} {state : PumpState}
    (hr : c.readers[i]? = some r)
    (hcount : c.state.openStreams + (if r'.ended then 0 else 1) ≤
      state.openStreams + (if r.ended then 0 else 1))
    (hchannel : 0 < state.openStreams → state.channelOpen)
    (howing : r'.owed.isSome → r'.ended = false) :
    Open { c with readers := c.readers.set i r', state := state } := by
  refine ⟨?_, hchannel, fun q hq => ?_⟩
  · have hset := countP_set hr r'
    have hle := hc.count
    dsimp only
    omega
  · obtain hq | rfl := List.mem_or_eq_of_mem_set hq
    · exact hc.owing q hq
    · exact howing

lemma streamClosed_channel (s : PumpState) :
    s.streamClosed.openStreams = s.openStreams - 1 ∧ s.streamClosed.sent = s.sent ∧
      (0 < s.streamClosed.openStreams → s.streamClosed.channelOpen = s.channelOpen) := by
  unfold PumpState.streamClosed
  dsimp only
  split
  · next h => exact ⟨rfl, rfl, fun hpos => by simp [PumpState.allClosed, h] at hpos⟩
  · exact ⟨rfl, rfl, fun _ => rfl⟩

/-- **No chunk is sent in vain**: while a reader owes one, the channel is open. -/
lemma Open.step (hc : c.Open) (h : c.step l = some c') :
    c'.Open ∧ c'.state.sent.map Prod.snd =
      c.state.sent.map Prod.snd ++ (sends [l]).map Prod.snd := by
  cases l with
  | stop =>
    obtain rfl := step_stop_eq_some.1 h
    exact ⟨⟨hc.count, hc.channel, hc.owing⟩, (List.append_nil _).symm⟩
  | move i s =>
    obtain ⟨-, r, r', hr, hs, rfl⟩ := step_move_eq_some.1 h
    -- an end of a stream closes the channel only if no other stream is open
    have hclosed : ∀ state : PumpState, state.openStreams = c.state.openStreams →
        state.sent = c.state.sent → state.channelOpen = c.state.channelOpen → r.ended = false →
        r' = ⟨r'.ahead, none, true⟩ → s.sent? = none →
        Open { c with readers := c.readers.set i r', state := state.streamClosed } ∧
          state.streamClosed.sent.map Prod.snd =
            c.state.sent.map Prod.snd ++ (sends [.move i s]).map Prod.snd :=
      fun state hopen hsent hchannel he hr' hnone => by
        obtain ⟨hopen', hsent', hchannel'⟩ := streamClosed_channel state
        refine ⟨hc.set hr ?_ (fun hpos => ?_) (by rw [hr']; simp), ?_⟩
        · rw [hopen', hopen, hr', he]
          simp
          omega
        · rw [hchannel' hpos, hchannel]
          exact hc.channel (by omega)
        · rw [hsent', hsent, sends, moves_move_cons, pick_cons_none i _ hnone]
          simp [pick]
    obtain ⟨e, rest, rfl, rfl, rfl⟩ | ⟨chunk, m, rfl, ho, rfl⟩ | ⟨rfl, ho, he, rfl⟩ :=
      Reader.step_cases hs
    · cases e with
      | chunk bs =>
        exact ⟨hc.set hr (by simp [ReadEvent.isFinal, PumpState.append]) hc.channel
          (by simp [ReadEvent.isFinal]), (List.append_nil _).symm⟩
      | failed text =>
        exact ⟨hc.set hr (by simp [ReadEvent.isFinal, PumpState.addError]) hc.channel
          (by simp [ReadEvent.isFinal]), (List.append_nil _).symm⟩
      | ended => exact hclosed c.state rfl rfl rfl rfl rfl rfl
      | cancelled => exact hclosed { c.state with cancelled := true } rfl rfl rfl rfl rfl rfl
      | crashed text =>
        exact ⟨hc.set hr (by simp [ReadEvent.isFinal]) hc.channel (by simp [ReadEvent.chunk?]),
          (List.append_nil _).symm⟩
    · have he : r.ended = false := hc.owing r (List.mem_of_getElem? hr) (by simp [ho])
      have hpos : 0 < c.readers.countP fun r => !r.ended :=
        List.countP_pos_iff.2 ⟨r, List.mem_of_getElem? hr, by simp [he]⟩
      have hopen : c.state.channelOpen = true := hc.channel (Nat.lt_of_lt_of_le hpos hc.count)
      refine ⟨hc.set hr ?_ (fun _ => ?_) (by simp), ?_⟩
      · simp [PumpState.send, hopen]
      · simp [PumpState.send, hopen]
      · simp [PumpState.send, hopen, sends, pick, ReaderStep.sent?]
    · exact hclosed { c.state with cancelled := true } rfl rfl rfl he rfl rfl

lemma sends_cons (l : CrewStep) (ls : List CrewStep) : sends (l :: ls) = sends [l] ++ sends ls := by
  cases l with
  | stop => rfl
  | move i s => exact pick_append [(i, s)] (moves ls) ReaderStep.sent?

/-- What has gone into the channel is what the readers have sent. -/
lemma Open.sent_run (hc : c.Open) (h : c.run ls = some c') :
    c'.state.sent.map Prod.snd = c.state.sent.map Prod.snd ++ (sends ls).map Prod.snd := by
  induction ls generalizing c with
  | nil => cases h; exact (List.append_nil _).symm
  | cons l ls ih =>
    obtain ⟨t, ht, hrun⟩ := run_cons_eq_some.1 h
    obtain ⟨hopen, hsent⟩ := hc.step ht
    rw [ih hopen hrun, hsent, sends_cons l ls, List.map_append, List.append_assoc]

/-! ### Order -/

lemma kept_run {buffer : OutputBuffer} {traces : List Trace}
    (h : (start buffer traces).run ls = some c) : Kept (moves ls) := by
  rintro pre ⟨post, hpost⟩ i
  obtain ⟨ls, ls', rfl, hpre, -⟩ := List.filterMap_eq_append_iff.1 hpost.symm
  obtain rfl : moves ls = pre := hpre
  obtain ⟨t, ht, -⟩ := run_append_eq_some.1 h
  rw [part_pick, part_pick]
  cases hr : traces[i]? with
  | some trace =>
    obtain ⟨r, -, hrun⟩ := reader_run ht (i := i) (r := { ahead := trace.map (·.2) }) (by
      simp [start, hr])
    exact ⟨r.owed, (Reader.came_run hrun).sent⟩
  | none =>
    -- there is no such reader
    have hnil : part i (moves ls) = [] := List.eq_nil_iff_forall_not_mem.2 fun s hs => by
      have hlt := lt_length_of_run ht (mem_part.1 hs)
      have hle := List.getElem?_eq_none_iff.1 hr
      simp only [start, List.length_map] at hlt
      omega
    exact ⟨none, by simp [hnil]⟩

/-- Readers that owe nothing have sent all chunks, those of each stream in their order. -/
lemma part_sends {buffer : OutputBuffer} {traces : List Trace}
    (h : (start buffer traces).run ls = some c) (hdone : ∀ r ∈ c.readers, r.owed = none) (i : Nat) :
    part i (sends ls) = part i (reads ls) := by
  rw [sends, reads, part_pick, part_pick]
  cases hr : (start buffer traces).readers[i]? with
  | some r =>
    obtain ⟨r', hr', hrun⟩ := reader_run h hr
    obtain ⟨trace, -, rfl⟩ : ∃ trace, trace ∈ traces ∧ ({ ahead := trace.map (·.2) } : Reader) = r :=
      List.mem_map.1 (List.mem_of_getElem? hr)
    have hsent := (Reader.came_run hrun).sent
    rw [hdone r' (List.mem_of_getElem? hr'), Option.toList_none, List.append_nil] at hsent
    exact hsent.symm
  | none =>
    have hnil : part i (moves ls) = [] := List.eq_nil_iff_forall_not_mem.2 fun s hs =>
      absurd (lt_length_of_run h (mem_part.1 hs)) (by
        simpa using List.getElem?_eq_none_iff.1 hr)
    simp [hnil]

lemma eq_of_prefix_of_part {α : Type} {l l' : List (Nat × α)} (h : l <+: l')
    (hpart : ∀ i, part i l = part i l') : l = l' := by
  obtain ⟨rest, rfl⟩ := h
  obtain _ | ⟨⟨i, a⟩, rest⟩ := rest
  · exact (List.append_nil l).symm
  · have hi := hpart i
    simp at hi

/-- **The order in which chunks reach the sinks.** Once the readers have come to their ends: what was
added to the buffer is what they read, in the order of their reads; every sink has been given what
they sent, in the order of their sends; both are the same chunks, for each stream in the same order;
and the orders are the same as a whole exactly if no reader was overtaken between a read and its
send, which cannot be where there is one stream only. -/
theorem sent_in_order (scripts : List StreamScript) (now : Instant) (buffer : OutputBuffer)
    (ls : List CrewStep) (c : Crew)
    (h : (start buffer (scripts.map (trace now))).run ls = some c)
    (hdone : ∀ r ∈ c.readers, r.ended ∧ r.owed = none) :
    c.state.buffer.data = buffer.data ++ ((reads ls).map Prod.snd).flatten ∧
    (∀ (worker : SinkWorker) (closed : Instant), (worker.run c.state.sent closed).isOut = false →
      List.Forall₂ (Sink.Served ((sends ls).map Prod.snd)) worker.sinks
        (worker.run c.state.sent closed).sinks) ∧
    (∀ i, part i (sends ls) = part i (reads ls)) ∧
    (sends ls = reads ls ↔ ¬ Overtaken (moves ls)) ∧
    (scripts.length ≤ 1 → sends ls = reads ls) := by
  have hkept := kept_run h
  have hparts := part_sends h fun r hr => (hdone r hr).2
  have hiff : sends ls = reads ls ↔ ¬ Overtaken (moves ls) := by
    constructor
    · intro heq
      have hprefix : sends ls <+: reads ls := heq ▸ List.prefix_refl _
      exact hkept.not_overtaken hprefix
    · intro hno
      exact eq_of_prefix_of_part (hkept.prefix_of_not_overtaken hno) hparts
  refine ⟨?_, fun worker closed hout => ?_, hparts, hiff, fun hone => hiff.2 ?_⟩
  · have hdata := (grew_run h).data
    rw [← map_snd_pick, start, (PumpState.start_fresh _ _).1] at hdata
    exact hdata
  · have hsent := (open_start _ _).sent_run h
    have hfresh : (start buffer (scripts.map (trace now))).state.sent = [] := by
      simp only [start, PumpState.start]
      split <;> rfl
    rw [hfresh, List.map_nil, List.nil_append] at hsent
    rw [← hsent]
    exact SinkWorker.run_served hout
  · -- two readers take part in an overtaking
    rintro ⟨pre, mid, post, i, j, first, second, moment, hmoves, hij, -, -⟩
    have hi := lt_length_of_run h (p := (i, .take (.chunk first))) (by rw [hmoves]; simp)
    have hj := lt_length_of_run h (p := (j, .send second moment)) (by rw [hmoves]; simp)
    simp only [start, List.length_map] at hi hj
    omega

/-- The first reader is overtaken by the second one, and all the same each stream's chunks are sent in
their order. -/
theorem sent_in_order_overtaken :
    let scripts : List StreamScript := [[.data [65], .wait 5, .data [67]], [.data [66]]]
    let ls : List CrewStep :=
      [.move 0 (.take (.chunk [65])), .move 1 (.take (.chunk [66])), .move 1 (.send [66] 0),
        .move 0 (.send [65] 0), .move 1 (.take .ended), .move 0 (.take (.chunk [67])),
        .move 0 (.send [67] 5), .move 0 (.take .ended)]
    ∃ c, (start .empty (scripts.map (trace 0))).run ls = some c ∧
      (∀ r ∈ c.readers, r.ended ∧ r.owed = none) ∧
      (∀ i, part i (sends ls) = part i (reads ls)) ∧ Overtaken (moves ls) ∧
      ∀ (worker : SinkWorker) (closed : Instant), (worker.run c.state.sent closed).isOut = false →
        List.Forall₂ (Sink.Served [[66], [65], [67]]) worker.sinks
          (worker.run c.state.sent closed).sinks := by
  intro scripts ls
  have hrun : (((start .empty (scripts.map (trace 0))).run ls).map fun c => c.readers) =
      some [⟨[], none, true⟩, ⟨[], none, true⟩] := by decide +kernel
  obtain ⟨c, hc, hreaders⟩ := Option.map_eq_some_iff.1 hrun
  have hdone : ∀ r ∈ c.readers, r.ended ∧ r.owed = none := by simp [hreaders]
  obtain ⟨-, hserved, hparts, hiff, -⟩ := sent_in_order scripts 0 .empty ls c hc hdone
  refine ⟨c, hc, hdone, hparts, ?_, hserved⟩
  by_contra hno
  exact absurd (hiff.2 hno) (by decide)

/-- **The sinks can be given other bytes than the buffer.** Two streams deliver one byte each; the
reader of the second one adds its byte last and sends it first. -/
theorem sent_out_of_order :
    let scripts : List StreamScript := [[.data [65]], [.data [66]]]
    let ls : List CrewStep :=
      [.move 0 (.take (.chunk [65])), .move 1 (.take (.chunk [66])), .move 1 (.send [66] 0),
        .move 0 (.send [65] 0), .move 0 (.take .ended), .move 1 (.take .ended)]
    let worker : SinkWorker := { now := 0, sinks := [.echo []], files := ⟨[], []⟩ }
    ∃ c, (start .empty (scripts.map (trace 0))).run ls = some c ∧
      (∀ r ∈ c.readers, r.ended ∧ r.owed = none) ∧ c.state.buffer.data = [65, 66] ∧
      (worker.run c.state.sent 0).sinks = [.echo [66, 65]] := by
  intro scripts ls worker
  have hrun : (((start .empty (scripts.map (trace 0))).run ls).map fun c =>
      (c.readers, c.state.buffer.data, c.state.sent)) =
      some ([⟨[], none, true⟩, ⟨[], none, true⟩], [65, 66], [(0, [66]), (0, [65])]) := by
    decide +kernel
  obtain ⟨c, hc, hfacts⟩ := Option.map_eq_some_iff.1 hrun
  obtain ⟨hreaders, hdata, hsent⟩ : _ ∧ _ ∧ _ := by simpa using hfacts
  refine ⟨c, hc, by simp [hreaders], hdata, ?_⟩
  rw [hsent]
  rfl

end Crew

end GuestHarness.Output
