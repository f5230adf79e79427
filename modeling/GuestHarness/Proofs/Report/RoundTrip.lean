import GuestHarness.Proofs.Timestamp
import GuestHarness.Proofs.Yaml.Kinds
import GuestHarness.Report.Data

/-!
Reports that are written and read again. Statuses and failures tell their kind, and their fields are
read from content; states, moments and transitions are read where they stand. Each of them is read
back from its data as long as its numbers and moments are in the ranges of their types, and so is
the whole, also where a failure or a list of read errors was left out because there is none.
-/

namespace GuestHarness

open Yaml

/-! ### Optional numbers and texts -/

/-- The number is a whole number of 32 bits. -/
def IsInt32 (n : Int) : Prop := -0x80000000 ≤ n ∧ n < 0x80000000

/-- The number is a natural number of 64 bits. -/
def IsNat64 (n : Nat) : Prop := n < 0x10000000000000000

instance (n : Nat) : Decidable (IsNat64 n) := inferInstanceAs (Decidable (_ < _))

lemma IsInt32.isKept {n : Int} (h : IsInt32 n) : Content.isKept n = true := by
  unfold IsInt32 at h
  simp only [Content.isKept, Bool.and_eq_true, decide_eq_true_eq]
  omega

lemma IsNat64.isKept {n : Nat} (h : IsNat64 n) : Content.isKept n = true := by
  unfold IsNat64 at h
  simp only [Content.isKept, Bool.and_eq_true, decide_eq_true_eq]
  omega

lemma fits_optionalInteger {n : Option Int} (depth : Nat) (h : ∀ i ∈ n, IsInt32 i) :
    (optionalInteger n).fits depth = true := by
  cases n with
  | none => exact Value.fits_null depth
  | some i => exact (Value.fits_integer depth i).trans (h i rfl).isKept

lemma readOptional_optionalInteger {n : Option Int} (h : ∀ i ∈ n, IsInt32 i) :
    Content.readOptional Content.readInteger32 (optionalInteger n).content = .ok n := by
  cases n with
  | none => rfl
  | some i =>
    have hi : IsInt32 i := h i rfl
    simp [optionalInteger, Value.content, Content.readOptional, Content.readInteger32, hi.1, hi.2]

lemma reads_optionalText (s : Option String) :
    Reads (Place.optional Place.text) (optionalText s) s := by
  cases s with
  | none => exact reads_optional_null
  | some s => exact reads_optional (reads_text s) rfl

/-! ### Exits and statuses -/

/-- The numbers of an exit are whole numbers of 32 bits. -/
structure ExitInfo.InRange (e : ExitInfo) : Prop where
  code : ∀ i ∈ e.code, IsInt32 i
  signal : ∀ i ∈ e.signal, IsInt32 i

lemma ExitInfo.ofContent_data {e : ExitInfo} (h : e.InRange) :
    ofContent e.data.content = .ok e := by
  refine Content.record_content expected (List.Sublist.refl _) (by decide) ?_
  refine ((Fields.Gives.withDefault rfl ?_).map _).seq (Fields.Gives.withDefault rfl ?_)
  · rintro _ rfl
    exact readOptional_optionalInteger h.code
  · rintro _ rfl
    exact readOptional_optionalInteger h.signal

lemma ExitInfo.fits_data {e : ExitInfo} (h : e.InRange) (depth : Nat) :
    e.data.fits (depth + 1) = true := by
  simp [ExitInfo.data, Value.fits, fits_optionalInteger depth h.code,
    fits_optionalInteger depth h.signal]

namespace SessionStatus

/-- A status whose exit is in range. -/
def InRange (s : SessionStatus) : Prop := ∀ e ∈ s.exitInfo?, e.InRange

/-- The two kinds of statuses with an exit are read alike. -/
lemma read_exited {e : ExitInfo} {p : Place} {name expected : String}
    {status : ExitInfo → SessionStatus}
    (hkind : variant kinds name =
      .ok (Content.record expected (status <$> .required "exit" ExitInfo.ofContent)))
    (h : e.InRange) (hp : (kindData name [("exit", e.data)]).isAt p.node = true)
    (hdepth : Content.depthOf p.path ≤ 1) : read p = .ok (status e) := by
  obtain ⟨depth, hd⟩ : ∃ depth, Content.depthLimit - Content.depthOf p.path - 1 = depth + 1 :=
    Nat.exists_eq_add_of_le' (by unfold Content.depthLimit; omega)
  have hfits : e.data.fits (Content.depthLimit - Content.depthOf p.path - 1) = true := by
    rw [hd]
    exact ExitInfo.fits_data h depth
  refine byKind_of_isAt _ hp hkind (by simp [kindKey]) (by simpa using hfits) ?_
  refine Content.record_content _ (List.Sublist.refl _) (List.pairwise_singleton _ _) ?_
  refine (Fields.Gives.required rfl ?_).map _
  rintro _ rfl
  exact ExitInfo.ofContent_data h

lemma read_of_isAt {s : SessionStatus} {p : Place} (h : s.InRange)
    (hp : s.data.isAt p.node = true) (hdepth : Content.depthOf p.path ≤ 1) : read p = .ok s := by
  cases s with
  | exitedBeforeSignal e => exact read_exited rfl (h e rfl) hp hdepth
  | exitedAfterSignal e => exact read_exited rfl (h e rfl) hp hdepth
  | forceKilled => exact byKind_of_isAt _ hp rfl List.not_mem_nil (List.forall_mem_nil _) rfl
  | timedOut => exact byKind_of_isAt _ hp rfl List.not_mem_nil (List.forall_mem_nil _) rfl

end SessionStatus

/-! ### Failures -/

namespace SessionFailure

/-- The number of the step that failed takes 64 bits. -/
def InRange : SessionFailure → Prop
  | commandWrite step _ => IsNat64 step
  | deadlineExceeded _ => True

lemma isPresent_data (f : SessionFailure) : f.data.isPresent = true := by
  cases f <;> rfl

lemma read_of_isAt {f : SessionFailure} {p : Place} (h : f.InRange)
    (hp : f.data.isAt p.node = true) : read p = .ok f := by
  cases f with
  | commandWrite step reason =>
    have hstep : IsNat64 step := h
    refine byKind_of_isAt _ hp rfl (by simp [kindKey]) (by simp [hstep.isKept]) ?_
    refine Content.record_content _ (List.Sublist.refl _) (by decide) ?_
    refine ((Fields.Gives.required rfl ?_).map _).seq (Fields.Gives.required rfl ?_)
    · rintro _ rfl
      simp [Value.content, Content.readSize]
    · rintro _ rfl
      rfl
  | deadlineExceeded phase =>
    refine byKind_of_isAt _ hp rfl (by simp [kindKey]) (by simp) ?_
    refine Content.record_content _ (List.Sublist.refl _) (by decide) ?_
    refine (Fields.Gives.required rfl ?_).map _
    rintro _ rfl
    rfl

end SessionFailure

/-! ### States, moments and transitions -/

lemma SessionState.reads (s : SessionState) : Reads read s.data s := by
  rintro ⟨d, path, n⟩ h
  obtain ⟨sc, rfl, hs⟩ := Value.exists_scalar_of_isAt rfl h
  have htag : sc.tag = none := (Scalar.isOf_iff.1 hs).1
  simp only [read, Place.choice, Place.variantName, Node.tag?, htag, localTag?, bind, Except.bind,
    Scalar.content_of_isOf_text hs]
  cases s <;> rfl

lemma Timestamp.reads {t : Timestamp} (h : t.IsValid) : Reads read t.data t := by
  intro p hp
  have htext : p.textAs "an RFC 3339 formatted date and time string" = .ok t.render :=
    reads_textAs _ _ p hp
  simp only [Timestamp.read, htext, bind, Except.bind, parse_render h]
  rfl

lemma Transition.reads {t : Transition} (h : t.timestamp.IsValid) : Reads read t.data t := by
  refine reads_record _ (List.Sublist.refl _) (by decide) ?_
  exact ((Fields.gives_required rfl (SessionState.reads t.source)).map _).seq
    (Fields.gives_required rfl (SessionState.reads t.target)) |>.seq
    (Fields.gives_required rfl (Timestamp.reads h)) |>.seq
    (Fields.gives_withDefault rfl (reads_optionalText t.reason) _)

/-! ### Whole reports -/

namespace SessionReport

/-- The numbers and moments of a report are in the ranges of their types. -/
structure InRange (r : SessionReport) : Prop where
  status : r.status.InRange
  startedAt : r.startedAt.IsValid
  durationMillis : IsNat64 r.durationMillis
  stepsCompleted : IsNat64 r.stepsCompleted
  failure : ∀ f ∈ r.failure, f.InRange
  outputBytes : IsNat64 r.outputBytes
  transitions : ∀ t ∈ r.transitions, t.timestamp.IsValid

/-- The text layer gives back the data of the report, and zeros as they were written. -/
def ReadsBack (r : SessionReport) : Prop :=
  r.data.ReadsBack ∧ (Document.ofText r.render).root.hasMinusZero = false

instance (r : SessionReport) : Decidable r.ReadsBack := inferInstanceAs (Decidable (_ ∧ _))

/-- What is known of an entry of a report that holds some data. -/
structure Holds (v : Value) (p : Place) : Prop where
  isAt : v.isAt p.node = true
  depth : Content.depthOf p.path ≤ 1
  unsigned : p.node.isMinusZero = false

/-- The fields of a report build the report from the entries that hold its data. -/
lemma gives {r : SessionReport} (h : r.InRange) {fs : List (String × Value)}
    (hdata : r.data = .record fs) : fields.Gives Holds fs r := by
  obtain rfl := Value.record.inj hdata
  refine ((Fields.Gives.required ?_ fun p hp => reads_text r.id p hp.isAt).map _).seq
    (Fields.Gives.required ?_ fun p hp =>
      SessionStatus.read_of_isAt h.status hp.isAt hp.depth) |>.seq
    (Fields.Gives.required ?_ fun p hp => Timestamp.reads h.startedAt p hp.isAt) |>.seq
    (Fields.Gives.required ?_ fun p hp =>
      natural_of_isAt _ hp.isAt hp.unsigned h.durationMillis le_rfl) |>.seq
    (Fields.Gives.required ?_ fun p hp =>
      natural_of_isAt _ hp.isAt hp.unsigned h.stepsCompleted le_rfl) |>.seq
    ?failure |>.seq
    (Fields.Gives.required ?_ fun p hp =>
      natural_of_isAt _ hp.isAt hp.unsigned h.outputBytes le_rfl) |>.seq
    ?readErrors |>.seq
    (Fields.Gives.required ?_ fun p hp =>
      reads_sequence_map (fun t ht => Transition.reads (h.transitions t ht)) p hp.isAt) |>.seq
    (Fields.Gives.required ?_ fun p hp => reads_text r.output p hp.isAt)
  case failure =>
    cases hf : r.failure with
    | none =>
      refine Fields.Gives.leftOut ?_
      cases r.readErrors <;> rfl
    | some f =>
      refine Fields.Gives.withDefault rfl fun p hp => ?_
      exact optional_of_isAt hp.isAt f.isPresent_data
        (SessionFailure.read_of_isAt (h.failure f hf) hp.isAt)
  case readErrors =>
    cases r.readErrors with
    | nil =>
      refine Fields.Gives.leftOut ?_
      cases r.failure <;> rfl
    | cons e es =>
      refine Fields.Gives.withDefault ?_ fun p hp =>
        reads_sequence_map (fun e _ => reads_text e) p hp.isAt
      cases r.failure <;> rfl
  -- the other fields are there whatever was left out before them
  all_goals cases r.failure <;> cases r.readErrors <;> rfl

lemma names_data {r : SessionReport} {fs : List (String × Value)} (hdata : r.data = .record fs) :
    (fs.map Prod.fst).Sublist fields.names := by
  obtain rfl := Value.record.inj hdata
  refine List.isSublist_iff_sublist.1 ?_
  cases r.failure <;> cases r.readErrors <;> rfl

/-- A place at the top that holds the data of a report is read as the report. -/
lemma read_of_isAt {r : SessionReport} (h : r.InRange) {p : Place}
    (hp : r.data.isAt p.node = true) (hroot : p.path = .root)
    (hzero : p.node.hasMinusZero = false) : read p = .ok r := by
  obtain ⟨fs, hdata⟩ : ∃ fs, r.data = .record fs := ⟨_, rfl⟩
  obtain ⟨entries, hnode, hentries⟩ := Value.exists_of_isAt_record (hdata ▸ hp)
  refine record_of_fieldsAt _ hnode hentries ?_ (names_data hdata) (by decide) (gives h hdata)
  intro e he v hv
  refine ⟨isAt_inner hv p _, ?_, ?_⟩
  · show Content.depthOf (p.entryPath e.1) ≤ 1
    rw [Content.depthOf_entryPath, hroot]
    decide
  · rw [Place.inner, Value.resolve_of_isAt _ hv]
    rw [hnode] at hzero
    exact Bool.eq_false_iff.2 (List.any_eq_false.1 hzero e he)

/-- **A report that was written is read again as it was.** This holds of every report whose numbers
and moments are in the ranges of their types, where the text layer gives back the data that it
wrote. What is not there is not written: a failure, and a list of read errors without any. -/
theorem read_render {r : SessionReport} (h : r.InRange) (htext : r.ReadsBack) :
    readText read r.render = .ok r ∧
      ∃ fs, r.data = .record fs ∧ ("failure" ∈ fs.map Prod.fst ↔ r.failure ≠ none) ∧
        ("read_errors" ∈ fs.map Prod.fst ↔ r.readErrors ≠ []) := by
  refine ⟨?_, ⟨_, rfl, ?_, ?_⟩⟩
  · obtain ⟨⟨hwhole, hroot⟩, hzero⟩ := htext
    have hrender : r.render = r.data.render := rfl
    rw [hrender] at hzero ⊢
    rw [readText]
    generalize Document.ofText r.data.render = d at hwhole hroot hzero ⊢
    have hnode : d.place.node = d.root := Value.resolve_of_isAt d hroot
    have hread : read d.place = .ok r := read_of_isAt h (hnode ▸ hroot) rfl (hnode ▸ hzero)
    simp only [hread, hwhole, bind, Except.bind, if_true]
    rfl
  · cases r.failure <;> cases r.readErrors <;> simp
  · cases r.failure <;> cases r.readErrors <;> simp

/-- A session that was killed at its first step, in a leap second. -/
theorem read_render_killed :
    let moment : Timestamp := ⟨2024, 2, 29, 23, 59, 60, 5000000⟩
    let r : SessionReport :=
      { id := "a", status := .forceKilled, startedAt := moment, durationMillis := 0
        stepsCompleted := 0, failure := some (.commandWrite 0 "x"), outputBytes := 0
        readErrors := [], transitions := [⟨.created, .launched, moment, none⟩], output := "" }
    let text := "session_id: a\nstatus:\n  kind: force_killed\n" ++
      "started_at: 2024-02-29T23:59:60.005Z\nduration_ms: 0\nsteps_completed: 0\n" ++
      "failure:\n  kind: command_write\n  step_index: 0\n  reason: x\noutput_bytes: 0\n" ++
      "transitions:\n- from_state: created\n  to_state: launched\n" ++
      "  timestamp: 2024-02-29T23:59:60.005Z\n  reason: null\noutput: \x27\x27\n"
    r.render = text ∧ r.InRange ∧ r.ReadsBack ∧ readText read text = .ok r := by
  intro moment r text
  have hrender : r.render = text := by decide +kernel
  have hmoment : moment.IsValid :=
    ⟨by decide, by decide, by decide, by decide, by decide, by decide, by decide⟩
  have hrange : r.InRange :=
    { status := by simp [r, SessionStatus.InRange, SessionStatus.exitInfo?]
      startedAt := hmoment
      durationMillis := by decide
      stepsCompleted := by decide
      failure := fun f hf => by
        obtain rfl := Option.some.inj hf
        show IsNat64 0
        decide
      outputBytes := by decide
      transitions := fun t ht => by
        obtain rfl := List.mem_singleton.1 ht
        exact hmoment }
  have hparsed : (Document.ofText text).whole = true ∧
      r.data.isAt (Document.ofText text).root = true ∧
      (Document.ofText text).root.hasMinusZero = false := by decide +kernel
  have htext : r.ReadsBack := by
    obtain ⟨hwhole, hroot, hzero⟩ := hparsed
    rw [← hrender] at hwhole hroot hzero
    exact ⟨⟨hwhole, hroot⟩, hzero⟩
  refine ⟨hrender, hrange, htext, ?_⟩
  rw [← hrender]
  exact (read_render hrange htext).1

end SessionReport
end GuestHarness
