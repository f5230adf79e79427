import GuestHarness.Output.Pump
import GuestHarness.Proofs.Interleaving
import Mathlib.Data.List.Induction

/-!
The readers of a pump at work, side by side. A reader takes the events of its trace one after the
other, adds the chunks among them to the buffer, and sends each chunk on to the sinks in a step of
its own; when the readers have been told to stop, it may end instead. A run is any order of such
steps.

A run of all readers is a run of each of them on its own steps, and what the readers share has gone
through all the steps in their order. Conversely, steps of which each reader can take its own are a
run of all. So a pump that is finished, whose readers take turns by their moments, has gone through
one of the runs.
-/

namespace GuestHarness.Output

/-! ### One reader -/

/-- The chunk that an event adds. -/
def ReadEvent.chunk? : ReadEvent → Option Bytes
  | .chunk bs => some bs
  | _ => none

/-- The failure that an event tells of. -/
def ReadEvent.fault? : ReadEvent → Option String
  | .failed reason => some reason
  | _ => none

/-- A reader at work: the events that are before it if it is left alone, the chunk that it has added
to the buffer and not sent on yet, and whether it has ended. -/
structure Reader where
  ahead : List ReadEvent
  owed : Option Bytes := none
  ended : Bool := false
deriving DecidableEq

/-- What a reader does: it takes its next event, sends on the chunk that it took last, or stops. -/
inductive ReaderStep where
  | take (e : ReadEvent)
  | send (chunk : Bytes) (moment : Instant)
  | quit
deriving DecidableEq

namespace ReaderStep

/-- The event that a step takes. -/
def event? : ReaderStep → Option ReadEvent
  | take e => some e
  | _ => none

/-- The chunk that a step adds to the buffer. -/
def read? : ReaderStep → Option Bytes
  | take e => e.chunk?
  | _ => none

/-- The chunk that a step sends on. -/
def sent? : ReaderStep → Option Bytes
  | send chunk _ => some chunk
  | _ => none

end ReaderStep

namespace Reader

/-- The reader after a step, if it can take it. -/
def step (r : Reader) : ReaderStep → Option Reader
  | .take e =>
    if r.ended || r.owed.isSome || r.ahead.head? ≠ some e then none
    else some { ahead := r.ahead.tail, owed := e.chunk?, ended := e.isFinal }
  | .send chunk _ => if r.owed = some chunk then some { r with owed := none } else none
  | .quit => if r.ended || r.owed.isSome then none else some { ahead := [], ended := true }

/-- The reader after some steps, if it can take them in this order. -/
def run (r : Reader) (ss : List ReaderStep) : Option Reader := ss.foldlM step r

variable {r r' : Reader} {s : ReaderStep} {ss ss' : List ReaderStep}

lemma run_append : r.run (ss ++ ss') = (r.run ss).bind fun r' => r'.run ss' := List.foldlM_append

lemma run_snoc_eq_some :
    r.run (ss ++ [s]) = some r' ↔ ∃ t, r.run ss = some t ∧ t.step s = some r' := by
  simp [Option.bind_eq_some_iff, run]

/-- What a step of a reader can be. -/
lemma step_cases (h : r.step s = some r') :
    (∃ e rest, s = .take e ∧ r = ⟨e :: rest, none, false⟩ ∧ r' = ⟨rest, e.chunk?, e.isFinal⟩) ∨
    (∃ chunk m, s = .send chunk m ∧ r.owed = some chunk ∧ r' = { r with owed := none }) ∨
    (s = .quit ∧ r.owed = none ∧ r.ended = false ∧ r' = ⟨[], none, true⟩) := by
  obtain ⟨ahead, owed, ended⟩ := r
  cases s with
  | take e =>
    simp only [step] at h
    split at h
    · cases h
    · next hc =>
      simp only [Bool.or_eq_true, decide_eq_true_eq, not_or, Option.isSome_iff_ne_none, ne_eq,
        not_not, Bool.not_eq_true] at hc
      obtain ⟨⟨rfl, rfl⟩, hh⟩ := hc
      obtain ⟨rest, rfl⟩ := List.head?_eq_some_iff.1 hh
      cases h
      exact .inl ⟨e, rest, rfl, rfl, rfl⟩
  | send chunk m =>
    simp only [step] at h
    split at h
    · next hc =>
      cases h
      exact .inr (.inl ⟨chunk, m, rfl, hc, rfl⟩)
    · cases h
  | quit =>
    simp only [step] at h
    split at h
    · cases h
    · next hc =>
      simp only [Bool.or_eq_true, not_or, Option.isSome_iff_ne_none, ne_eq, not_not,
        Bool.not_eq_true] at hc
      cases h
      exact .inr (.inr ⟨rfl, hc.2, hc.1, rfl⟩)

/-- What is known of a reader that has gone through some steps with the given events before it: it
has taken them up to where it stands, and sent on all chunks among them but the one that it owes. -/
structure Came (whole : List ReadEvent) (ss : List ReaderStep) (r : Reader) : Prop where
  taken : ss.filterMap ReaderStep.event? ++ r.ahead = whole ∨
    r.ended ∧ ss.filterMap ReaderStep.event? <+: whole
  sent : ss.filterMap ReaderStep.read? = ss.filterMap ReaderStep.sent? ++ r.owed.toList
  owing : r.owed.isSome → r.ended = false

lemma Came.step {whole : List ReadEvent} (hr : Came whole ss r) (h : r.step s = some r') :
    Came whole (ss ++ [s]) r' := by
  have hsent := hr.sent
  obtain ⟨e, rest, rfl, rfl, rfl⟩ | ⟨chunk, m, rfl, ho, rfl⟩ | ⟨rfl, ho, he, rfl⟩ := step_cases h
  · refine ⟨.inl ?_, ?_, ?_⟩
    · obtain h | ⟨h, -⟩ := hr.taken
      · simpa [List.filterMap_cons, ReaderStep.event?] using h
      · cases h
    · simp only [Option.toList_none, List.append_nil] at hsent
      cases e <;> simp [List.filterMap_cons, ReaderStep.read?, ReaderStep.sent?, ReadEvent.chunk?,
        hsent]
    · cases e <;> simp [ReadEvent.chunk?, ReadEvent.isFinal]
  · refine ⟨?_, ?_, by simp⟩
    · simpa [List.filterMap_cons, ReaderStep.event?] using hr.taken
    · simp [List.filterMap_cons, ReaderStep.read?, ReaderStep.sent?, hsent, ho]
  · refine ⟨.inr ⟨rfl, ?_⟩, ?_, by simp⟩
    · have hp : ss.filterMap ReaderStep.event? <+: whole := by
        obtain h | ⟨-, h⟩ := hr.taken
        · exact ⟨r.ahead, h⟩
        · exact h
      simpa [List.filterMap_cons, ReaderStep.event?] using hp
    · simp [List.filterMap_cons, ReaderStep.read?, ReaderStep.sent?, hsent, ho]

/-- Whatever a reader does, it keeps to its events and sends on what it adds. -/
theorem came_run {whole : List ReadEvent} (h : ({ ahead := whole } : Reader).run ss = some r) :
    Came whole ss r := by
  induction ss using List.reverseRecOn generalizing r with
  | nil =>
    cases h
    exact ⟨.inl rfl, rfl, by simp⟩
  | append_singleton ss s ih =>
    obtain ⟨t, ht, hs⟩ := run_snoc_eq_some.1 h
    exact (ih ht).step hs

lemma Came.isPrefix {whole : List ReadEvent} (h : Came whole ss r) :
    ss.filterMap ReaderStep.event? <+: whole := by
  obtain h | ⟨-, h⟩ := h.taken
  · exact ⟨r.ahead, h⟩
  · exact h

end Reader

/-! ### All readers -/

/-- The state that the readers share after a step of one of them. -/
def PumpState.move (s : PumpState) : ReaderStep → PumpState
  | .take (.chunk bs) => s.append bs
  | .take e => s.record 0 e
  | .send chunk moment => s.send moment chunk
  | .quit => s.record 0 .cancelled

section Move

variable (s : PumpState) (chunk : Bytes) (moment : Instant) (text : String)

@[simp] lemma PumpState.move_chunk : s.move (.take (.chunk chunk)) = s.append chunk := rfl

@[simp] lemma PumpState.move_failed : s.move (.take (.failed text)) = s.addError text := rfl

@[simp] lemma PumpState.move_ended : s.move (.take .ended) = s.streamClosed := rfl

@[simp] lemma PumpState.move_cancelled :
    s.move (.take .cancelled) = { s with cancelled := true }.streamClosed := rfl

@[simp] lemma PumpState.move_crashed : s.move (.take (.crashed text)) = s := rfl

@[simp] lemma PumpState.move_send : s.move (.send chunk moment) = s.send moment chunk := rfl

@[simp] lemma PumpState.move_quit :
    s.move .quit = { s with cancelled := true }.streamClosed := rfl

end Move

/-- The readers of a pump, what they share, and whether they have been told to stop. -/
structure Crew where
  readers : List Reader
  state : PumpState
  stopped : Bool := false
deriving DecidableEq

/-- A step: the readers are told to stop, or one of them does something. -/
inductive CrewStep where
  | stop
  | move (i : Nat) (s : ReaderStep)
deriving DecidableEq

namespace Crew

/-- The readers of a pump that is started on streams with the given traces. -/
def start (buffer : OutputBuffer) (traces : List Trace) : Crew :=
  { readers := traces.map fun t => { ahead := t.map (·.2) }
    state := .start buffer traces.length }

/-- The crew after a step, if it can be taken. No reader stops unless it was told to. -/
def step (c : Crew) : CrewStep → Option Crew
  | .stop => some { c with stopped := true }
  | .move i s =>
    if s = .quit ∧ c.stopped = false then none
    else do
      let r ← c.readers[i]?
      let r' ← r.step s
      return { c with readers := c.readers.set i r', state := c.state.move s }

/-- The crew after some steps, if they can be taken in this order. -/
def run (c : Crew) (ls : List CrewStep) : Option Crew := ls.foldlM step c

/-- The steps of the readers, each marked with its reader. -/
def moves (ls : List CrewStep) : List (Nat × ReaderStep) :=
  ls.filterMap fun
    | .stop => none
    | .move i s => some (i, s)

variable {c c' : Crew} {l : CrewStep} {ls ls' : List CrewStep} {i : Nat} {r r' : Reader}
  {s : ReaderStep}

@[simp] lemma moves_nil : moves [] = [] := rfl

@[simp] lemma moves_append : moves (ls ++ ls') = moves ls ++ moves ls' := List.filterMap_append

@[simp] lemma moves_stop_cons : moves (.stop :: ls) = moves ls := rfl

@[simp] lemma moves_move_cons : moves (.move i s :: ls) = (i, s) :: moves ls := rfl

lemma run_cons : c.run (l :: ls) = (c.step l).bind fun c' => c'.run ls := rfl

lemma run_append_eq_some :
    c.run (ls ++ ls') = some c' ↔ ∃ t, c.run ls = some t ∧ t.run ls' = some c' := by
  simp [run, List.foldlM_append, Option.bind_eq_some_iff]

lemma run_cons_eq_some :
    c.run (l :: ls) = some c' ↔ ∃ t, c.step l = some t ∧ t.run ls = some c' := by
  rw [run_cons, Option.bind_eq_some_iff]

lemma step_move_eq_some : c.step (.move i s) = some c' ↔ (s = .quit → c.stopped) ∧
    ∃ r r', c.readers[i]? = some r ∧ r.step s = some r' ∧
      c' = { c with readers := c.readers.set i r', state := c.state.move s } := by
  simp only [step]
  split
  · next hs => simp [hs]
  · next hs =>
    have hq : s = .quit → c.stopped = true := fun h => by simpa [h] using hs
    rw [and_iff_right hq]
    simp only [Option.bind_eq_bind, Option.bind_eq_some_iff, Option.pure_def, Option.some.injEq,
      eq_comm (b := c')]
    exact ⟨fun ⟨r, hr, r', hs, h⟩ => ⟨r, r', hr, hs, h⟩,
      fun ⟨r, r', hr, hs, h⟩ => ⟨r, hr, r', hs, h⟩⟩

/-! ### What a run is for each reader, and for what they share -/

lemma step_stop_eq_some : c.step .stop = some c' ↔ c' = { c with stopped := true } := by
  simp [step, eq_comm]

lemma length_step (h : c.step l = some c') : c'.readers.length = c.readers.length := by
  cases l with
  | stop => rw [step_stop_eq_some.1 h]
  | move i s =>
    obtain ⟨-, r, r', -, -, rfl⟩ := step_move_eq_some.1 h
    simp

lemma length_run (h : c.run ls = some c') : c'.readers.length = c.readers.length := by
  induction ls generalizing c with
  | nil => cases h; rfl
  | cons l ls ih =>
    obtain ⟨t, ht, hr⟩ := run_cons_eq_some.1 h
    rw [ih hr, length_step ht]

/-- **The shared state has gone through all steps in their order.** -/
theorem state_run (h : c.run ls = some c') :
    c'.state = ((moves ls).map Prod.snd).foldl PumpState.move c.state := by
  induction ls generalizing c with
  | nil => cases h; rfl
  | cons l ls ih =>
    obtain ⟨t, ht, hr⟩ := run_cons_eq_some.1 h
    rw [ih hr]
    cases l with
    | stop => rw [step_stop_eq_some.1 ht]; rfl
    | move i s =>
      obtain ⟨-, r, r', -, -, rfl⟩ := step_move_eq_some.1 ht
      rfl

/-- **Each reader has gone through its own steps.** -/
theorem reader_run (h : c.run ls = some c') (hr : c.readers[i]? = some r) :
    ∃ r', c'.readers[i]? = some r' ∧ r.run (part i (moves ls)) = some r' := by
  induction ls generalizing c r with
  | nil => cases h; exact ⟨r, hr, rfl⟩
  | cons l ls ih =>
    obtain ⟨t, ht, hrun⟩ := run_cons_eq_some.1 h
    cases l with
    | stop =>
      rw [step_stop_eq_some.1 ht] at hrun
      exact ih hrun hr
    | move j s =>
      obtain ⟨-, q, q', hq, hs, rfl⟩ := step_move_eq_some.1 ht
      by_cases hj : j = i
      · subst hj
        obtain rfl : q = r := Option.some.inj (hq.symm.trans hr)
        have hlt : j < c.readers.length := (List.getElem?_eq_some_iff.1 hq).1
        obtain ⟨r', hr', hrest⟩ := ih hrun (r := q') (by simp [hlt])
        exact ⟨r', hr', by simpa [Reader.run, hs] using hrest⟩
      · obtain ⟨r', hr', hrest⟩ := ih hrun (r := r) (by simpa [List.getElem?_set, hj] using hr)
        exact ⟨r', hr', by simpa [part_cons_ne _ hj] using hrest⟩

lemma lt_length_of_run (h : c.run ls = some c') {p : Nat × ReaderStep} (hp : p ∈ moves ls) :
    p.1 < c.readers.length := by
  induction ls generalizing c with
  | nil => cases hp
  | cons l ls ih =>
    obtain ⟨t, ht, hrun⟩ := run_cons_eq_some.1 h
    rw [← length_step ht]
    cases l with
    | stop => exact ih hrun hp
    | move j s =>
      obtain rfl | hp := List.mem_cons.1 hp
      · obtain ⟨-, q, q', hq, -, -⟩ := step_move_eq_some.1 ht
        rw [length_step ht]
        exact (List.getElem?_eq_some_iff.1 hq).1
      · exact ih hrun hp

/-- **Steps of which each reader can take its own are a run**, once the readers have been told to
stop. -/
theorem exists_run (hstop : c.stopped) (hlt : ∀ p ∈ moves ls, p.1 < c.readers.length)
    (hr : ∀ (i : Nat) (r : Reader), c.readers[i]? = some r →
      ∃ r', r.run (part i (moves ls)) = some r') :
    ∃ c', c.run ls = some c' := by
  induction ls generalizing c with
  | nil => exact ⟨c, rfl⟩
  | cons l ls ih =>
    cases l with
    | stop =>
      obtain ⟨c', h⟩ := ih (c := { c with stopped := true }) rfl hlt hr
      exact ⟨c', run_cons_eq_some.2 ⟨_, rfl, h⟩⟩
    | move j s =>
      have hj : j < c.readers.length := hlt (j, s) (by simp)
      have hget : c.readers[j]? = some c.readers[j] := List.getElem?_eq_getElem hj
      obtain ⟨rj, hrj⟩ := hr j _ hget
      simp only [moves_move_cons, part_cons_self, Reader.run, List.foldlM_cons] at hrj
      obtain ⟨q, hq, -⟩ := Option.bind_eq_some_iff.1 hrj
      have hstep : c.step (.move j s) =
          some { c with readers := c.readers.set j q, state := c.state.move s } :=
        step_move_eq_some.2 ⟨fun _ => hstop, _, _, hget, hq, rfl⟩
      obtain ⟨c', h⟩ := ih (c := { c with readers := c.readers.set j q, state := c.state.move s })
        hstop (fun p hp => by simpa using hlt p (by simp [hp])) fun i r hri => by
          by_cases hij : j = i
          · subst hij
            obtain rfl : q = r := by simpa [hj] using hri
            exact ⟨rj, by simpa [Reader.run, hq] using hrj⟩
          · obtain ⟨r', hr'⟩ := hr i r (by simpa [List.getElem?_set, hij] using hri)
            exact ⟨r', by simpa [part_cons_ne _ hij] using hr'⟩
      exact ⟨c', run_cons_eq_some.2 ⟨_, hstep, h⟩⟩

end Crew

end GuestHarness.Output
