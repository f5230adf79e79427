import GuestHarness.Proofs.Output.Readers

/-!
What a pump captures. However the readers of several streams take turns, and whenever they are told
to stop, the bytes that reach the buffer are the bytes that each stream has delivered up to some
point, run together without a loss; and the counters and the list of errors tell the same story.
-/

namespace GuestHarness.Output

/-! ### Streams -/

/-- The bytes that a stream delivers up to its end. -/
def delivered : StreamScript → Bytes
  | .data bs :: rest => bs ++ delivered rest
  | .failure _ :: rest => delivered rest
  | .wait _ :: rest => delivered rest
  | _ => []

/-- The failures of a stream up to its end, less the interruptions. -/
def faults : StreamScript → List String
  | .data _ :: rest => faults rest
  | .failure e :: rest => if e.isInterrupted then faults rest else e.message :: faults rest
  | .wait _ :: rest => faults rest
  | _ => []

/-- The bytes that some events bring. -/
def bytesOf (es : List ReadEvent) : Bytes := (es.filterMap ReadEvent.chunk?).flatten

/-- The failures that some events tell of. -/
def faultsOf (es : List ReadEvent) : List String := es.filterMap ReadEvent.fault?

section Events

variable {es es' : List ReadEvent} (bs : Bytes) (now : Instant) (script : StreamScript)

lemma bytesOf_append : bytesOf (es ++ es') = bytesOf es ++ bytesOf es' := by simp [bytesOf]

lemma faultsOf_append : faultsOf (es ++ es') = faultsOf es ++ faultsOf es' :=
  List.filterMap_append

lemma flatten_chunksOf : (chunksOf bs).flatten = bs := by
  fun_induction chunksOf bs with
  | case1 => rfl
  | case2 bs _ ih => rw [List.flatten_cons, ih, List.take_append_drop]

lemma ne_nil_of_mem_chunksOf {c : Bytes} (h : c ∈ chunksOf bs) : c ≠ [] := by
  fun_induction chunksOf bs with
  | case1 => cases h
  | case2 bs hbs ih =>
    obtain rfl | h := List.mem_cons.1 h
    · simp [List.take_eq_nil_iff, readChunkSize, hbs]
    · exact ih h

lemma trace_data (rest : StreamScript) : trace now (.data bs :: rest) =
    (chunksOf bs).map (fun c => (now, .chunk c)) ++ trace now rest := rfl

lemma trace_failure (e : IoError) (rest : StreamScript) : trace now (.failure e :: rest) =
    if e.isInterrupted then trace now rest
    else (now, .failed e.message) :: trace (now + readErrorBackoff) rest := rfl

lemma map_snd_trace_data (rest : StreamScript) :
    (trace now (.data bs :: rest)).map Prod.snd =
      (chunksOf bs).map ReadEvent.chunk ++ (trace now rest).map Prod.snd := by
  rw [trace_data, List.map_append, List.map_map]
  rfl

lemma filterMap_chunk?_map (cs : List Bytes) :
    (cs.map ReadEvent.chunk).filterMap ReadEvent.chunk? = cs := by
  simp [List.filterMap_map, Function.comp_def, ReadEvent.chunk?]

lemma filterMap_fault?_map (cs : List Bytes) :
    (cs.map ReadEvent.chunk).filterMap ReadEvent.fault? = [] := by
  simp [List.filterMap_map, Function.comp_def, ReadEvent.fault?]

/-- A reader that is left alone gets all bytes of its stream. -/
lemma bytesOf_trace : bytesOf ((trace now script).map Prod.snd) = delivered script := by
  induction script generalizing now with
  | nil => rfl
  | cons item rest ih =>
    cases item with
    | data bs =>
      rw [map_snd_trace_data, bytesOf_append, ih, bytesOf, filterMap_chunk?_map, flatten_chunksOf]
      rfl
    | failure e =>
      rw [trace_failure, delivered]
      split
      · exact ih now
      · exact ih _
    | wait nanos => exact ih _
    | hang => rfl
    | eof => rfl
    | crash message => rfl

/-- A reader that is left alone meets all failures of its stream. -/
lemma faultsOf_trace : faultsOf ((trace now script).map Prod.snd) = faults script := by
  induction script generalizing now with
  | nil => rfl
  | cons item rest ih =>
    cases item with
    | data bs =>
      rw [map_snd_trace_data, faultsOf_append, ih, faultsOf, filterMap_fault?_map]
      rfl
    | failure e =>
      rw [trace_failure, faults]
      split
      · exact ih now
      · exact congrArg (e.message :: ·) (ih _)
    | wait nanos => exact ih _
    | hang => rfl
    | eof => rfl
    | crash message => rfl

lemma mem_dropLast_append {α : Type} {a : α} {l l' : List α} (h : a ∈ (l ++ l').dropLast) :
    a ∈ l ∨ a ∈ l'.dropLast := by
  rw [List.dropLast_append] at h
  split at h
  · exact .inl (List.dropLast_subset l h)
  · exact List.mem_append.1 h

/-- Only the last event of a reader ends it. -/
lemma isFinal_of_mem_dropLast {e : ReadEvent}
    (h : e ∈ ((trace now script).map Prod.snd).dropLast) : e.isFinal = false := by
  induction script generalizing now with
  | nil => cases h
  | cons item rest ih =>
    cases item with
    | data bs =>
      rw [map_snd_trace_data] at h
      obtain h | h := mem_dropLast_append h
      · obtain ⟨c, -, rfl⟩ := List.mem_map.1 h
        rfl
      · exact ih now h
    | failure e' =>
      rw [trace_failure] at h
      split at h
      · exact ih now h
      · obtain h | h := mem_dropLast_append (l := [ReadEvent.failed e'.message]) h
        · obtain rfl := List.mem_singleton.1 h
          rfl
        · exact ih _ h
    | wait nanos => exact ih _ h
    | hang => cases h
    | eof => cases h
    | crash message => cases h

lemma ne_nil_of_chunk_mem {c : Bytes} (h : .chunk c ∈ (trace now script).map Prod.snd) :
    c ≠ [] := by
  induction script generalizing now with
  | nil => cases List.mem_singleton.1 h
  | cons item rest ih =>
    cases item with
    | data bs =>
      rw [map_snd_trace_data] at h
      obtain h | h := List.mem_append.1 h
      · obtain ⟨c', hc, he⟩ := List.mem_map.1 h
        obtain rfl := ReadEvent.chunk.inj he
        exact ne_nil_of_mem_chunksOf bs hc
      · exact ih now h
    | failure e =>
      rw [trace_failure] at h
      split at h
      · exact ih now h
      · exact ih (now + readErrorBackoff) (by simpa using h)
    | wait nanos => exact ih _ h
    | hang => cases h
    | eof => cases List.mem_singleton.1 h
    | crash message => cases List.mem_singleton.1 h

end Events

/-! ### The shared state -/

/-- The failure that a step records. -/
def ReaderStep.fault? : ReaderStep → Option String
  | .take e => e.fault?
  | _ => none

/-- What some steps leave behind in the shared state: the bytes that they add, in their order, and
as many bytes, chunks and errors counted. -/
structure PumpState.Grew (ms : List ReaderStep) (s s' : PumpState) : Prop where
  data : s'.buffer.data = s.buffer.data ++ (ms.filterMap ReaderStep.read?).flatten
  bytes : s'.bytes = s.bytes + (ms.filterMap ReaderStep.read?).flatten.length
  chunks : s'.chunks = s.chunks + (ms.filterMap ReaderStep.read?).length
  readErrors : s'.readErrors =
    s.readErrors ++ (ms.filterMap ReaderStep.fault?).map ("Output read error: " ++ ·)

namespace PumpState

variable {s s' s'' : PumpState} {ms : List ReaderStep}

lemma Grew.of_same {m : ReaderStep} (hread : m.read? = none) (hfault : m.fault? = none)
    (hdata : s'.buffer.data = s.buffer.data) (hbytes : s'.bytes = s.bytes)
    (hchunks : s'.chunks = s.chunks) (herrors : s'.readErrors = s.readErrors) : Grew [m] s s' := by
  constructor <;> simp [hread, hfault, hdata, hbytes, hchunks, herrors]

lemma grew_streamClosed {m : ReaderStep} (hread : m.read? = none) (hfault : m.fault? = none) :
    Grew [m] s s.streamClosed := by
  refine .of_same hread hfault ?_ ?_ ?_ ?_ <;> simp only [streamClosed] <;> split <;> rfl

lemma grew_cancelled {m : ReaderStep} (hread : m.read? = none) (hfault : m.fault? = none) :
    Grew [m] s { s with cancelled := true }.streamClosed := by
  refine .of_same hread hfault ?_ ?_ ?_ ?_ <;> simp only [streamClosed] <;> split <;> rfl

lemma readErrors_addError (reason : String) :
    (s.addError reason).readErrors = s.readErrors ++ ["Output read error: " ++ reason] := by
  have hm : (HarnessError.read reason).message = "Output read error: " ++ reason := rfl
  rw [addError, hm]

/-- Each step leaves behind what it reads and no more. -/
lemma grew_move (s : PumpState) (m : ReaderStep) : Grew [m] s (s.move m) := by
  cases m with
  | take e =>
    cases e with
    | chunk bs =>
      have hr : ReaderStep.read? (.take (.chunk bs)) = some bs := rfl
      have hf : ReaderStep.fault? (.take (.chunk bs)) = none := rfl
      rw [move_chunk]
      constructor <;> simp [hr, hf, append, OutputBuffer.append]
    | failed reason =>
      have hr : ReaderStep.read? (.take (.failed reason)) = none := rfl
      have hf : ReaderStep.fault? (.take (.failed reason)) = some reason := rfl
      rw [move_failed]
      constructor
      case readErrors => rw [readErrors_addError]; simp [hf]
      all_goals simp [hr, addError]
    | ended => rw [move_ended]; exact grew_streamClosed (by rfl) (by rfl)
    | cancelled => rw [move_cancelled]; exact grew_cancelled (by rfl) (by rfl)
    | crashed text =>
      rw [move_crashed]
      exact .of_same (by rfl) (by rfl) rfl rfl rfl rfl
  | send chunk moment =>
    rw [move_send]
    refine .of_same (by rfl) (by rfl) ?_ ?_ ?_ ?_ <;> simp only [send] <;> split <;> rfl
  | quit => rw [move_quit]; exact grew_cancelled (by rfl) (by rfl)

lemma Grew.append {ms' : List ReaderStep} (h : Grew ms s s') (h' : Grew ms' s' s'') :
    Grew (ms ++ ms') s s'' where
  data := by simp [h'.data, h.data]
  bytes := by simp [h'.bytes, h.bytes, Nat.add_assoc]
  chunks := by simp [h'.chunks, h.chunks, Nat.add_assoc]
  readErrors := by simp [h'.readErrors, h.readErrors]

lemma grew_foldl (s : PumpState) (ms : List ReaderStep) : Grew ms s (ms.foldl move s) := by
  induction ms generalizing s with
  | nil => constructor <;> simp
  | cons m ms ih => exact (grew_move s m).append (ih (s.move m))

/-- A pump that starts has counted nothing and adds nothing. -/
lemma start_fresh (buffer : OutputBuffer) (n : Nat) :
    (start buffer n).buffer.data = buffer.data ∧ (start buffer n).bytes = 0 ∧
      (start buffer n).chunks = 0 ∧ (start buffer n).readErrors = [] := by
  unfold start
  dsimp only
  split <;> exact ⟨rfl, rfl, rfl, rfl⟩

end PumpState

/-! ### Whole runs -/

namespace Crew

variable {ls : List CrewStep} {c : Crew}

/-- The events that a reader takes. -/
def taken (i : Nat) (ls : List CrewStep) : List ReadEvent :=
  (part i (moves ls)).filterMap ReaderStep.event?

/-- The reads that bring something, in their order, each marked with its reader. -/
def reads (ls : List CrewStep) : List (Nat × Bytes) := pick ReaderStep.read? (moves ls)

lemma part_reads (i : Nat) (ls : List CrewStep) :
    part i (reads ls) = (taken i ls).filterMap ReadEvent.chunk? := by
  rw [reads, part_pick, taken, List.filterMap_filterMap]
  congr 1
  funext s
  cases s <;> rfl

lemma chunk_mem_taken {i : Nat} {bs : Bytes} (h : (i, bs) ∈ reads ls) :
    .chunk bs ∈ taken i ls := by
  have hpart : bs ∈ (taken i ls).filterMap ReadEvent.chunk? := by
    rw [← part_reads]
    exact mem_part.2 h
  obtain ⟨e, he, hc⟩ := List.mem_filterMap.1 hpart
  cases e with
  | chunk bs' => obtain rfl := Option.some.inj hc; exact he
  | _ => cases hc

lemma filterMap_fault?_part (i : Nat) (ls : List CrewStep) :
    (part i (moves ls)).filterMap ReaderStep.fault? = faultsOf (taken i ls) := by
  rw [taken, faultsOf, List.filterMap_filterMap]
  congr 1
  funext s
  cases s <;> rfl

lemma grew_run {c' : Crew} (h : c.run ls = some c') :
    PumpState.Grew ((moves ls).map Prod.snd) c.state c'.state := by
  rw [state_run h]
  exact PumpState.grew_foldl _ _

/-- The events that a reader has taken are those that it would have met alone, up to some point. -/
lemma taken_isPrefix {buffer : OutputBuffer} {traces : List Trace}
    (h : (start buffer traces).run ls = some c) {i : Nat} {t : Trace} (ht : traces[i]? = some t) :
    taken i ls <+: t.map Prod.snd := by
  obtain ⟨r, -, hr⟩ := reader_run h (i := i) (r := { ahead := t.map Prod.snd }) (by
    simp [start, ht])
  exact (Reader.came_run hr).isPrefix

lemma exists_script_of_mem_reads {buffer : OutputBuffer} {scripts : List StreamScript}
    {now : Instant} (h : (start buffer (scripts.map (trace now))).run ls = some c)
    {p : Nat × Bytes} (hp : p ∈ reads ls) : ∃ script, scripts[p.1]? = some script := by
  obtain ⟨⟨i, s⟩, hs, hread⟩ := List.mem_filterMap.1 hp
  obtain ⟨bs, -, rfl⟩ := Option.map_eq_some_iff.1 hread
  have hlt : i < scripts.length := by simpa [start] using lt_length_of_run h hs
  exact ⟨scripts[i], List.getElem?_eq_getElem hlt⟩

end Crew

/-- What a reader has got from its stream: the bytes and the failures up to some point, and all of
them if it has met the end of the stream. -/
structure Got (script : StreamScript) (es : List ReadEvent) : Prop where
  data : bytesOf es <+: delivered script
  faults : faultsOf es <+: faults script
  all : .ended ∈ es → bytesOf es = delivered script ∧ faultsOf es = Output.faults script

lemma got_of_isPrefix {script : StreamScript} {es : List ReadEvent} {now : Instant}
    (h : es <+: (trace now script).map Prod.snd) : Got script es := by
  obtain ⟨rest, hrest⟩ := h
  refine ⟨⟨bytesOf rest, ?_⟩, ⟨faultsOf rest, ?_⟩, fun hmem => ?_⟩
  · rw [← bytesOf_append, hrest, bytesOf_trace]
  · rw [← faultsOf_append, hrest, faultsOf_trace]
  · -- the end of the stream is the last event, so nothing is left
    have hnil : rest = [] := by
      by_contra hne
      have hin : .ended ∈ ((trace now script).map Prod.snd).dropLast := by
        rw [← hrest, List.dropLast_append_of_ne_nil hne]
        exact List.mem_append_left _ hmem
      exact absurd (isFinal_of_mem_dropLast now script hin) (by decide)
    subst hnil
    rw [List.append_nil] at hrest
    rw [hrest]
    exact ⟨bytesOf_trace now script, faultsOf_trace now script⟩

namespace Crew

/-- What the readers of some streams have made of the state that they share: what was added to the
buffer is what they have read, interleaved, the counters agree with it, and their failures are
listed, interleaved. -/
structure Captured (scripts : List StreamScript) (buffer : OutputBuffer) (ls : List CrewStep)
    (s : PumpState) : Prop where
  data : ∃ added, s.buffer.data = buffer.data ++ added ∧
    Interleaved (fun i => bytesOf (taken i ls)) added ∧ s.bytes = added.length
  chunks : s.chunks = (reads ls).length
  reads : ∀ r ∈ reads ls, r.2 ≠ []
  readErrors : Interleaved (fun i => (faultsOf (taken i ls)).map ("Output read error: " ++ ·))
    s.readErrors
  got : ∀ i script, scripts[i]? = some script → Got script (taken i ls)

lemma captured_run {scripts : List StreamScript} {now : Instant} {buffer : OutputBuffer}
    (h : (start buffer (scripts.map (trace now))).run ls = some c) :
    Captured scripts buffer ls c.state := by
  obtain ⟨hdata, hbytes, hchunks, herrors⟩ := grew_run h
  obtain ⟨hdata₀, hbytes₀, hchunks₀, herrors₀⟩ :=
    PumpState.start_fresh buffer (scripts.map (trace now)).length
  have hreads : (reads ls).map Prod.snd =
      ((moves ls).map Prod.snd).filterMap ReaderStep.read? := map_snd_pick _ _
  rw [← hreads] at hdata hbytes hchunks
  simp only [start, hdata₀, hbytes₀, hchunks₀, herrors₀, Nat.zero_add, List.nil_append]
    at hdata hbytes hchunks herrors
  refine ⟨⟨_, hdata, ?_, hbytes⟩, hchunks.trans (List.length_map _), ?_, ?_, ?_⟩
  · -- the reads of each reader make up what it has got
    have hparts := interleaved_flatten (reads ls)
    simpa only [part_reads, bytesOf] using hparts
  · rintro ⟨i, bs⟩ hmem
    obtain ⟨script, hscript⟩ := exists_script_of_mem_reads h hmem
    have htrace : (scripts.map (trace now))[i]? = some (trace now script) := by simp [hscript]
    have htaken : .chunk bs ∈ taken i ls := chunk_mem_taken hmem
    exact ne_nil_of_chunk_mem now script ((taken_isPrefix h htrace).subset htaken)
  · have hparts := interleaved_pick
      (fun s => (ReaderStep.fault? s).map ("Output read error: " ++ ·)) (moves ls)
    have hmap : ∀ ss : List ReaderStep,
        ss.filterMap (fun s => (ReaderStep.fault? s).map ("Output read error: " ++ ·)) =
          (ss.filterMap ReaderStep.fault?).map ("Output read error: " ++ ·) := fun ss => by
      rw [List.map_filterMap]
    simpa only [hmap, filterMap_fault?_part, herrors] using hparts
  · intro i script hscript
    have htrace : (scripts.map (trace now))[i]? = some (trace now script) := by simp [hscript]
    exact got_of_isPrefix (taken_isPrefix h htrace)

/-- **A pump captures without a loss, and in order.** In whatever order its readers take their
steps, and whether or not they have been told to stop: what was added to the buffer is what the
readers have read, interleaved; each of them has got what its stream delivers up to some point, and
all of it if it has met the end of the stream; and the pump counts the bytes and the reads, and
lists the failures of all readers, interleaved. -/
theorem run_captures (scripts : List StreamScript) (now : Instant) (buffer : OutputBuffer)
    (ls : List CrewStep) (c : Crew) (sinkErrors : List String) (lastActivity : Option Timestamp)
    (h : (start buffer (scripts.map (trace now))).run ls = some c) :
    (∃ added, c.state.buffer.data = buffer.data ++ added ∧
      Interleaved (fun i => bytesOf (taken i ls)) added ∧
      (c.state.status sinkErrors lastActivity).bytesCaptured = added.length) ∧
    (c.state.status sinkErrors lastActivity).chunks = (reads ls).length ∧
    (∀ r ∈ reads ls, r.2 ≠ []) ∧
    Interleaved (fun i => (faultsOf (taken i ls)).map ("Output read error: " ++ ·))
      (c.state.status sinkErrors lastActivity).readErrors ∧
    ∀ i script, scripts[i]? = some script → Got script (taken i ls) := by
  have hcaptured := captured_run h
  exact ⟨hcaptured.data, hcaptured.chunks, hcaptured.reads, hcaptured.readErrors, hcaptured.got⟩

/-- One stream fails once between its bytes, the other is interrupted and never ends; its reader is
told to stop while the first one has a chunk to send on. -/
theorem run_captures_two_streams :
    let scripts : List StreamScript :=
      [[.data [97], .failure (.plain .brokenPipe), .data [98]],
        [.failure (.plain .interrupted), .data [99], .hang]]
    let ls : List CrewStep :=
      [.move 1 (.take (.chunk [99])), .move 0 (.take (.chunk [97])), .move 0 (.send [97] 1),
        .move 0 (.take (.failed "broken pipe")), .move 1 (.send [99] 2), .move 0 (.take (.chunk [98])),
        .stop, .move 1 .quit, .move 0 (.send [98] 3), .move 0 (.take .ended)]
    ∃ c, (start .empty (scripts.map (trace 0))).run ls = some c ∧
      c.state.buffer.data = [99, 97, 98] ∧
      (c.state.status [] none).bytesCaptured = 3 ∧
      (c.state.status [] none).readErrors = ["Output read error: broken pipe"] ∧
      (∃ added, c.state.buffer.data = [] ++ added ∧
        Interleaved (fun i => bytesOf (taken i ls)) added ∧
        (c.state.status [] none).bytesCaptured = added.length) ∧
      ∀ i script, scripts[i]? = some script → Got script (taken i ls) := by
  intro scripts ls
  have hrun : ((start .empty (scripts.map (trace 0))).run ls).map
      (fun c => (c.state.buffer.data, c.state.bytes, c.state.readErrors)) =
      some ([99, 97, 98], 3, ["Output read error: broken pipe"]) := by decide +kernel
  obtain ⟨c, hc, hfacts⟩ := Option.map_eq_some_iff.1 hrun
  obtain ⟨hdata, hbytes, herrors⟩ : _ ∧ _ ∧ _ := by simpa using hfacts
  obtain ⟨hadded, -, -, -, hgot⟩ := run_captures scripts 0 .empty ls c [] none hc
  exact ⟨c, hc, hdata, hbytes, herrors, hadded, hgot⟩

end Crew
end GuestHarness.Output
