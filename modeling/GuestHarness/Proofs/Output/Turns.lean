import GuestHarness.Proofs.Output.Capture

/-!
Readers that take turns. A finished pump lets its readers take their events by the moments of these,
each chunk being sent on at once, and cancels those that have not ended by the deadline. That is one
of the runs of the readers, and it leaves all of them at their ends; what the pump adds are only the
errors of readers that came down.
-/

namespace GuestHarness.Output

/-! ### Merged events -/

section Merge

variable {xs ys : List Tagged} {p : Tagged → Bool} {traces : List Trace}

@[simp] lemma merge_nil (xs : List Tagged) : merge xs [] = xs := by cases xs <;> simp [merge]

lemma mem_merge {e : Tagged} : e ∈ merge xs ys ↔ e ∈ xs ∨ e ∈ ys := by
  fun_induction merge xs ys with
  | case1 ys => simp
  | case2 xs => simp
  | case3 x xs y ys hle ih => simp [ih, or_assoc]
  | case4 x xs y ys hle ih =>
    simp only [List.mem_cons, ih]
    tauto

/-- Events that are merged in leave the others in their order. -/
lemma filter_merge_left (h : ∀ y ∈ ys, p y = false) : (merge xs ys).filter p = xs.filter p := by
  fun_induction merge xs ys with
  | case1 ys => simpa using h
  | case2 xs => rfl
  | case3 x xs y ys hle ih => rw [List.filter_cons, List.filter_cons, ih h]
  | case4 x xs y ys hle ih =>
    rw [List.filter_cons, h y (by simp), ih fun z hz => h z (by simp [hz])]
    rfl

lemma filter_merge_right (h : ∀ x ∈ xs, p x = false) : (merge xs ys).filter p = ys.filter p := by
  fun_induction merge xs ys with
  | case1 ys => rfl
  | case2 xs => simpa using h
  | case3 x xs y ys hle ih =>
    rw [List.filter_cons, h x (by simp), ih fun z hz => h z (by simp [hz])]
    rfl
  | case4 x xs y ys hle ih => rw [List.filter_cons, List.filter_cons, ih h]

lemma stream_tag {k : Nat} {t : Trace} {e : Tagged} (h : e ∈ tag k t) : e.stream = k := by
  obtain ⟨_, -, rfl⟩ := List.mem_map.1 h
  rfl

lemma stream_mergeFrom {k : Nat} {e : Tagged} (h : e ∈ mergeFrom k traces) :
    k ≤ e.stream ∧ e.stream < k + traces.length := by
  induction traces generalizing k with
  | nil => cases h
  | cons t rest ih =>
    rw [List.length_cons]
    obtain h | h := mem_merge.1 h
    · have := stream_tag h
      omega
    · have := ih h
      omega

/-- The merged events of one stream are those of its trace. -/
lemma filter_mergeFrom (k : Nat) {i : Nat} {t : Trace} (h : traces[i]? = some t) :
    (mergeFrom k traces).filter (fun e => e.stream = k + i) = tag (k + i) t := by
  induction traces generalizing k i with
  | nil => cases h
  | cons t' rest ih =>
    rw [mergeFrom]
    cases i with
    | zero =>
      obtain rfl := Option.some.inj h
      rw [filter_merge_left fun e he => by have := stream_mergeFrom he; simp; omega]
      exact List.filter_eq_self.2 fun e he => by simp [stream_tag he]
    | succ i =>
      rw [filter_merge_right fun e he => by simp [stream_tag he]]
      have heq : k + (i + 1) = k + 1 + i := by omega
      simpa only [heq] using ih (k + 1) (by simpa using h)

end Merge

/-! ### Turns -/

/-- What a reader does at an event, if nobody comes between. -/
def ReadEvent.steps (moment : Instant) : ReadEvent → List ReaderStep
  | .chunk bs => [.take (.chunk bs), .send bs moment]
  | .cancelled => [.quit]
  | e => [.take e]

/-- The steps of readers that take turns event by event. -/
def turns (events : List Tagged) : List CrewStep :=
  events.flatMap fun e => (e.event.steps e.moment).map (.move e.stream)

lemma foldl_steps (s : PumpState) (moment : Instant) (e : ReadEvent) :
    (e.steps moment).foldl PumpState.move s = s.record moment e := by
  cases e <;> rfl

namespace Crew

variable (events : List Tagged)

lemma moves_turns :
    moves (turns events) =
      events.flatMap fun e => (e.event.steps e.moment).map fun s => (e.stream, s) := by
  induction events with
  | nil => rfl
  | cons e events ih =>
    have hmoves : ∀ ss : List ReaderStep,
        moves (ss.map (.move e.stream)) = ss.map fun s => (e.stream, s) := fun ss => by
      induction ss with
      | nil => rfl
      | cons s ss ih => simp [ih]
    rw [turns, List.flatMap_cons, moves_append, hmoves, List.flatMap_cons, ← ih, turns]

lemma part_turns (i : Nat) :
    part i (moves (turns events)) =
      (events.filter fun e => e.stream = i).flatMap fun e => e.event.steps e.moment := by
  rw [moves_turns]
  induction events with
  | nil => rfl
  | cons e events ih =>
    rw [List.flatMap_cons, part_append, ih, part_map_mk, List.filter_cons]
    by_cases h : e.stream = i <;> simp [h]

lemma foldl_turns (s : PumpState) :
    ((moves (turns events)).map Prod.snd).foldl PumpState.move s = s.recordAll events := by
  induction events generalizing s with
  | nil => rfl
  | cons e events ih =>
    rw [moves_turns] at ih ⊢
    rw [List.flatMap_cons, List.map_append, List.foldl_append, ih, List.map_map]
    simp only [Function.comp_def, List.map_id_fun', id_eq, foldl_steps]
    rfl

end Crew

/-! ### Readers that are cancelled -/

/-- A reader that is told to stop at some moment comes to its end. -/
lemma run_cancelAt (m : Instant) (t : Trace) :
    ∃ r, ({ ahead := t.map (·.2) } : Reader).run
        ((cancelAt m t).flatMap fun e => e.2.steps e.1) = some r ∧ r.ended ∧ r.owed = none := by
  induction t with
  | nil => exact ⟨_, rfl, rfl, rfl⟩
  | cons e rest ih =>
    obtain ⟨moment, event⟩ := e
    obtain ⟨r, hr, hend⟩ := ih
    rw [cancelAt]
    split
    · cases event with
      | chunk bs =>
        refine ⟨r, ?_, hend⟩
        simpa [ReadEvent.steps, Reader.run, Reader.step, ReadEvent.isFinal, ReadEvent.chunk?]
          using hr
      | failed text =>
        refine ⟨r, ?_, hend⟩
        simpa [ReadEvent.steps, Reader.run, Reader.step, ReadEvent.isFinal, ReadEvent.chunk?]
          using hr
      | ended =>
        refine ⟨⟨rest.map (·.2), none, true⟩, ?_, rfl, rfl⟩
        simp [ReadEvent.steps, Reader.run, Reader.step, ReadEvent.isFinal, ReadEvent.chunk?]
      | cancelled => exact ⟨_, rfl, rfl, rfl⟩
      | crashed text =>
        refine ⟨⟨rest.map (·.2), none, true⟩, ?_, rfl, rfl⟩
        simp [ReadEvent.steps, Reader.run, Reader.step, ReadEvent.isFinal, ReadEvent.chunk?]
    · exact ⟨_, rfl, rfl, rfl⟩

lemma mem_cancelAt {m : Instant} {t : Trace} {e : Instant × ReadEvent} (h : e ∈ cancelAt m t) :
    e ∈ t ∨ e.2 = .cancelled := by
  induction t with
  | nil => obtain rfl := List.mem_singleton.1 h; exact .inr rfl
  | cons e' rest ih =>
    rw [cancelAt] at h
    split at h
    · split at h
      · obtain rfl := List.mem_singleton.1 h
        exact .inl List.mem_cons_self
      · obtain rfl | h := List.mem_cons.1 h
        · exact .inl List.mem_cons_self
        · exact (ih h).imp (List.mem_cons_of_mem _) id
    · obtain rfl := List.mem_singleton.1 h
      exact .inr rfl

/-! ### A finished pump -/

section Errors

variable {xs ys : List Tagged} (s : PumpState)

lemma record_readErrors (errors : List String) (moment : Instant) (e : ReadEvent) :
    ∃ errors', { s with readErrors := errors }.record moment e =
      { s.record moment e with readErrors := errors' } := by
  cases e with
  | chunk bs =>
    refine ⟨errors, ?_⟩
    cases ho : s.channelOpen <;> simp [PumpState.record, PumpState.append, PumpState.send, ho]
  | failed text => exact ⟨_, rfl⟩
  | ended =>
    refine ⟨errors, ?_⟩
    by_cases ho : s.openStreams = 1 <;>
      simp [PumpState.record, PumpState.streamClosed, PumpState.allClosed, ho]
  | cancelled =>
    refine ⟨errors, ?_⟩
    by_cases ho : s.openStreams = 1 <;>
      simp [PumpState.record, PumpState.streamClosed, PumpState.allClosed, ho]
  | crashed text => exact ⟨errors, rfl⟩

lemma recordAll_cons (e : Tagged) (es : List Tagged) :
    s.recordAll (e :: es) = (s.record e.moment e.event).recordAll es := rfl

lemma recordAll_readErrors (errors : List String) :
    ∃ errors', { s with readErrors := errors }.recordAll xs =
      { s.recordAll xs with readErrors := errors' } := by
  induction xs generalizing s errors with
  | nil => exact ⟨errors, rfl⟩
  | cons x xs ih =>
    obtain ⟨errors', he⟩ := record_readErrors s errors x.moment x.event
    rw [recordAll_cons, recordAll_cons, he]
    exact ih _ errors'

lemma recordAll_failed (h : ∀ y ∈ ys, ∃ text, y.event = .failed text) (errors : List String) :
    ∃ errors', { s with readErrors := errors }.recordAll ys =
      { s with readErrors := errors' } := by
  induction ys generalizing errors with
  | nil => exact ⟨errors, rfl⟩
  | cons y ys ih =>
    obtain ⟨text, hy⟩ := h y (by simp)
    rw [recordAll_cons, hy]
    exact ih (fun z hz => h z (by simp [hz])) _

/-- Failures that are merged in change the list of errors and nothing else. -/
lemma recordAll_merge_failed (xs : List Tagged)
    (h : ∀ y ∈ ys, ∃ text, y.event = .failed text) (errors : List String) :
    ∃ errors', { s with readErrors := errors }.recordAll (merge xs ys) =
      { s.recordAll xs with readErrors := errors' } := by
  fun_induction merge xs ys generalizing s errors with
  | case1 ys => exact recordAll_failed s h errors
  | case2 xs => exact recordAll_readErrors s errors
  | case3 x xs y ys hle ih =>
    obtain ⟨errors', he⟩ := record_readErrors s errors x.moment x.event
    rw [recordAll_cons, recordAll_cons, he]
    exact ih _ h errors'
  | case4 x xs y ys hle ih =>
    obtain ⟨text, hy⟩ := h y (by simp)
    rw [recordAll_cons, hy]
    exact ih s (fun z hz => h z (by simp [hz])) _

end Errors

lemma joinErrors_failed {joins : List (Instant × Trace)} {y : Tagged} (h : y ∈ joinErrors joins) :
    ∃ text, y.event = .failed text := by
  obtain ⟨⟨joined, t⟩, -, hy⟩ := List.mem_filterMap.1 h
  dsimp only at hy
  split at hy
  · cases hy; exact ⟨_, rfl⟩
  · cases hy

lemma snd_mem_joinMoments {now : Instant} {traces : List Trace} {j : Instant × Trace}
    (h : j ∈ joinMoments now traces) : j.2 ∈ traces := by
  induction traces generalizing now with
  | nil => cases h
  | cons t rest ih =>
    obtain rfl | h := List.mem_cons.1 h
    · exact List.mem_cons_self
    · exact List.mem_cons_of_mem _ (ih h)

lemma joinErrors_eq_nil {joins : List (Instant × Trace)}
    (h : ∀ j ∈ joins, ∀ e ∈ j.2, ∀ text, e.2 ≠ .crashed text) : joinErrors joins = [] := by
  refine List.filterMap_eq_nil_iff.2 fun ⟨joined, t⟩ hj => ?_
  dsimp only
  split
  · next moment text hl => exact absurd rfl (h _ hj _ (List.mem_of_getLast? hl) text)
  · rfl

/-- Readers that do not come down leave no errors when they are awaited. -/
lemma joinErrors_cancelAt {traces : List Trace} {called m : Instant}
    (hcrash : ∀ t ∈ traces, ∀ e ∈ t, ∀ text, e.2 ≠ .crashed text) :
    joinErrors (joinMoments called (traces.map (cancelAt m))) = [] := by
  refine joinErrors_eq_nil fun j hj e he text htext => ?_
  obtain ⟨t, ht, hjt⟩ := List.mem_map.1 (snd_mem_joinMoments hj)
  rw [← hjt] at he
  obtain he | he := mem_cancelAt he
  · exact hcrash t ht e he text htext
  · rw [he] at htext
    cases htext

/-- Readers that have been told to stop and take turns come to their ends. -/
lemma exists_run_turns (buffer : OutputBuffer) (traces : List Trace) (m : Instant) :
    ∃ ls c, (Crew.start buffer traces).run ls = some c ∧
      c.state = (PumpState.start buffer traces.length).recordAll
        (mergeFrom 0 (traces.map (cancelAt m))) ∧
      ∀ r ∈ c.readers, r.ended ∧ r.owed = none := by
  set events := mergeFrom 0 (traces.map (cancelAt m)) with hevents
  -- the steps of one reader are those at the events of its own trace
  have hpart : ∀ (i : Nat) (t : Trace), traces[i]? = some t →
      part i (Crew.moves (turns events)) = (cancelAt m t).flatMap fun e => e.2.steps e.1 :=
    fun i t ht => by
      have hcancel : (traces.map (cancelAt m))[i]? = some (cancelAt m t) := by simp [ht]
      have hfilter := filter_mergeFrom 0 hcancel
      simp only [Nat.zero_add] at hfilter
      rw [Crew.part_turns, hevents, hfilter, tag, List.flatMap_map]
  have hread : ∀ (i : Nat) (r : Reader), (Crew.start buffer traces).readers[i]? = some r →
      ∃ r', r.run (part i (Crew.moves (turns events))) = some r' ∧ r'.ended ∧ r'.owed = none :=
    fun i r hr => by
      simp only [Crew.start, List.getElem?_map, Option.map_eq_some_iff] at hr
      obtain ⟨t, ht, rfl⟩ := hr
      rw [hpart i t ht]
      exact run_cancelAt m t
  have hlt : ∀ p ∈ Crew.moves (turns events), p.1 < traces.length := fun p hp => by
    rw [Crew.moves_turns] at hp
    obtain ⟨e, he, hp⟩ := List.mem_flatMap.1 hp
    obtain ⟨s, -, rfl⟩ := List.mem_map.1 hp
    simpa using (stream_mergeFrom he).2
  obtain ⟨c, hc⟩ : ∃ c, ({ Crew.start buffer traces with stopped := true } : Crew).run
      (turns events) = some c :=
    Crew.exists_run rfl (by simpa [Crew.start] using hlt)
      fun i r hr => (hread i r hr).imp fun _ h => h.1
  have hrun : (Crew.start buffer traces).run (.stop :: turns events) = some c :=
    Crew.run_cons_eq_some.2 ⟨_, rfl, hc⟩
  refine ⟨_, c, hrun, (Crew.state_run hrun).trans (Crew.foldl_turns events _), fun r hr => ?_⟩
  obtain ⟨i, hi⟩ := List.getElem?_of_mem hr
  obtain ⟨r₀, hr₀⟩ : ∃ r₀, (Crew.start buffer traces).readers[i]? = some r₀ := by
    have hlt := (List.getElem?_eq_some_iff.1 hi).1
    rw [Crew.length_run hrun] at hlt
    exact ⟨_, List.getElem?_eq_getElem hlt⟩
  obtain ⟨r', hr', hrun'⟩ := Crew.reader_run hrun hr₀
  obtain ⟨r'', hr'', hend⟩ := hread i r₀ hr₀
  rw [Crew.moves_stop_cons, hr''] at hrun'
  obtain rfl := Option.some.inj hrun'
  obtain rfl := Option.some.inj (hi.symm.trans hr')
  exact hend

/-- **A finished pump is at the end of a run.** There is an order of the readers' steps after which
all of them have ended and owe nothing, and the pump's state is the one that they share, closed;
only a reader that came down adds something, its error. -/
theorem finishBy_run (buffer : OutputBuffer) (traces : List Trace) (worker : SinkWorker)
    (called deadline : Instant) (wallClock : Instant → Timestamp) :
    ∃ ls c errors, (Crew.start buffer traces).run ls = some c ∧
      (∀ r ∈ c.readers, r.ended ∧ r.owed = none) ∧
      (finishBy buffer traces worker called deadline wallClock).state =
        { c.state with readErrors := errors }.allClosed ∧
      ((∀ t ∈ traces, ∀ e ∈ t, ∀ text, e.2 ≠ .crashed text) → errors = c.state.readErrors) := by
  obtain ⟨ls, c, hc, hstate, hend⟩ := exists_run_turns buffer traces deadline
  set joins := joinMoments called (traces.map (cancelAt deadline)) with hjoins
  have hfinish : (finishBy buffer traces worker called deadline wallClock).state =
      ((PumpState.start buffer traces.length).recordAll
        (merge (mergeFrom 0 (traces.map (cancelAt deadline))) (joinErrors joins))).allClosed := by
    simp only [finishBy, List.length_map, hjoins]
  by_cases hjoin : joinErrors joins = []
  · refine ⟨ls, c, c.state.readErrors, hc, hend, ?_, fun _ => rfl⟩
    rw [hfinish, hjoin, merge_nil, hstate]
  · obtain ⟨errors, herrors⟩ := recordAll_merge_failed (PumpState.start buffer traces.length)
      (mergeFrom 0 (traces.map (cancelAt deadline))) (fun y hy => joinErrors_failed hy) (PumpState.start buffer traces.length).readErrors
    refine ⟨ls, c, errors, hc, hend, ?_, fun hcrash => absurd (joinErrors_cancelAt hcrash) hjoin⟩
    rw [hfinish, hstate, ← herrors]

/-- No reader comes down by itself. -/
lemma crash_of_mem_trace {now : Instant} {script : StreamScript} {e : Instant × ReadEvent}
    {text : String} (h : e ∈ trace now script) (he : e.2 = .crashed text) :
    .crash text ∈ script := by
  induction script generalizing now with
  | nil => obtain rfl := List.mem_singleton.1 h; cases he
  | cons item rest ih =>
    cases item with
    | data bs =>
      obtain h | h := List.mem_append.1 h
      · obtain ⟨c, -, rfl⟩ := List.mem_map.1 h
        cases he
      · exact List.mem_cons_of_mem _ (ih h)
    | failure err =>
      rw [trace_failure] at h
      split at h
      · exact List.mem_cons_of_mem _ (ih h)
      · obtain rfl | h := List.mem_cons.1 h
        · cases he
        · exact List.mem_cons_of_mem _ (ih h)
    | wait nanos => exact List.mem_cons_of_mem _ (ih h)
    | hang => cases h
    | eof => obtain rfl := List.mem_singleton.1 h; cases he
    | crash text' =>
      obtain rfl := List.mem_singleton.1 h
      obtain rfl := ReadEvent.crashed.inj he
      exact List.mem_cons_self

/-- **A finished pump has captured without a loss**, whatever the deadline. -/
theorem finishBy_captured (buffer : OutputBuffer) (scripts : List StreamScript) (now : Instant)
    (worker : SinkWorker) (called deadline : Instant) (wallClock : Instant → Timestamp)
    (hcrash : ∀ script ∈ scripts, ∀ text, .crash text ∉ script) :
    ∃ ls, Crew.Captured scripts buffer ls
      (finishBy buffer (scripts.map (trace now)) worker called deadline wallClock).state := by
  obtain ⟨ls, c, errors, hc, -, hstate, herrors⟩ :=
    finishBy_run buffer (scripts.map (trace now)) worker called deadline wallClock
  obtain rfl := herrors fun t ht e he text htext => by
    obtain ⟨script, hscript, rfl⟩ := List.mem_map.1 ht
    exact hcrash script hscript text (crash_of_mem_trace he htext)
  obtain ⟨hdata, hchunks, hreads, hfaults, hgot⟩ := Crew.captured_run hc
  rw [hstate]
  exact ⟨ls, hdata, hchunks, hreads, hfaults, hgot⟩

namespace Crew

variable {c c' : Crew} {l : CrewStep} {ls : List CrewStep}

/-- Readers that have all ended take no step. -/
lemma step_of_ended (hend : ∀ r ∈ c.readers, r.ended ∧ r.owed = none) (h : c.step l = some c') :
    l = .stop ∧ c' = { c with stopped := true } := by
  cases l with
  | stop => exact ⟨rfl, step_stop_eq_some.1 h⟩
  | move i s =>
    obtain ⟨-, r, r', hr, hs, -⟩ := step_move_eq_some.1 h
    obtain ⟨he, ho⟩ := hend r (List.mem_of_getElem? hr)
    obtain ⟨e, rest, -, rfl, -⟩ | ⟨chunk, m, -, ho', -⟩ | ⟨-, -, he', -⟩ := Reader.step_cases hs
    · cases he
    · rw [ho] at ho'; cases ho'
    · rw [he] at he'; cases he'

/-- Readers that have all ended do nothing more. -/
theorem run_of_ended (hend : ∀ r ∈ c.readers, r.ended ∧ r.owed = none) (h : c.run ls = some c') :
    c'.state = c.state := by
  induction ls generalizing c with
  | nil => cases h; rfl
  | cons l ls ih =>
    obtain ⟨t, ht, hrun⟩ := run_cons_eq_some.1 h
    obtain ⟨-, rfl⟩ := step_of_ended hend ht
    exact ih (c := { c with stopped := true }) hend hrun

end Crew

end GuestHarness.Output
