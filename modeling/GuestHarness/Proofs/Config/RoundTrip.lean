import GuestHarness.Config.Data
import GuestHarness.Proofs.Config.Validity
import GuestHarness.Proofs.Duration
import GuestHarness.Proofs.Environment
import GuestHarness.Proofs.Yaml.Records

/-!
Configurations that are written and loaded again. A configuration that was loaded has only spans of
time that were read from texts, environments in the order of their names, and numbers that fit; with
these properties each of its sections is read back from its data, and so is the whole.
-/

namespace GuestHarness

open Yaml

/-! ### Durations, texts and environments -/

/-- Where a span is written, what is read is what its text is read as. -/
lemma Duration.read_of_isAt {d : Duration} {p : Place} (h : d.data.isAt p.node = true) :
    Duration.read p = (Duration.parse d.toText).mapError fun e => .problem none (.other e.message) := by
  have htext : p.text = .ok d.toText := reads_text d.toText p h
  simp only [Duration.read, htext, bind, Except.bind]
  cases Duration.parse d.toText <;> rfl

lemma reads_duration {d : Duration} (h : d.IsWritten) : Reads Duration.read d.data d := fun p hp => by
  rw [Duration.read_of_isAt hp, h.parse_toText]
  rfl

lemma ensures_duration : Ensures Duration.read Duration.IsWritten := fun p d h => by
  obtain ⟨s, -, h⟩ := bind_eq_ok_iff.1 h
  split at h
  · next hd =>
    cases h
    exact ⟨s, hd⟩
  · cases h

lemma reads_environment {env : Environment} (h : env.IsOrdered) :
    Reads Environment.read env.data env := fun p hp => by
  have htexts : p.texts = .ok env := reads_texts env p hp
  simp only [Environment.read, htexts, Functor.map, Except.map, h.ofList_eq]

lemma ensures_environment : Ensures Environment.read Environment.IsOrdered := fun p env h => by
  obtain ⟨settings, -, rfl⟩ := map_eq_ok_iff.1 h
  exact Environment.isOrdered_ofList settings

lemma reads_textList (ss : List String) : Reads (Place.sequence Place.text) (textsData ss) ss := by
  refine reads_sequence ?_
  induction ss with
  | nil => exact .nil
  | cons s ss ih => exact .cons (reads_text s) ih

/-! ### Session options -/

namespace SessionOptions

/-- The limits were read from texts. -/
structure Written (s : SessionOptions) : Prop where
  timeout : s.timing.timeout.IsWritten
  graceWindow : s.timing.graceWindow.IsWritten
  drainTimeout : s.timing.drainTimeout.IsWritten

lemma reads {s : SessionOptions} (h : s.Written) : Reads read s.data s :=
  reads_record _ (List.Sublist.refl _) (by decide)
    (((Fields.gives_required rfl (reads_text s.id)).map _).seq
      (Fields.gives_withDefault rfl (reads_duration h.timeout) _) |>.seq
      (Fields.gives_withDefault rfl (reads_duration h.graceWindow) _) |>.seq
      (Fields.gives_withDefault rfl (reads_duration h.drainTimeout) _))

lemma ensures : Ensures read Written := fun p s h => by
  obtain ⟨l, hl⟩ := build_of_record h
  simp only [fields, Fields.build_seq_eq_ok, Fields.build_map_eq_ok] at hl
  obtain ⟨_, ⟨_, ⟨_, ⟨id, -, rfl⟩, timeout, htimeout, rfl⟩, grace, hgrace, rfl⟩, drain, hdrain,
    rfl⟩ := hl
  exact ⟨Fields.of_withDefault htimeout ensures_duration (Duration.isWritten_ofSeconds (by decide)),
    Fields.of_withDefault hgrace ensures_duration (Duration.isWritten_ofSeconds (by decide)),
    Fields.of_withDefault hdrain ensures_duration (Duration.isWritten_ofSeconds (by decide))⟩

end SessionOptions

/-! ### Fields that may be left out -/

lemma optionalField_eq (name : String) (v : Option String) :
    optionalField name v = HarnessConfig.optionalSection name .text v := by
  cases v <;> rfl

lemma lookup_optionalSection {α : Type} (name key : String) (data : α → Value) (v : Option α) :
    (HarnessConfig.optionalSection name data v).lookup key =
      if key = name then v.map data else none := by
  cases v with
  | none => simp [HarnessConfig.optionalSection]
  | some a =>
    by_cases h : key = name
    · simp [HarnessConfig.optionalSection, h]
    · simp [HarnessConfig.optionalSection, List.lookup_cons, beq_false_of_ne h, h]

lemma names_optionalSection {α : Type} (name : String) (data : α → Value) (v : Option α) :
    ((HarnessConfig.optionalSection name data v).map Prod.fst).Sublist [name] := by
  cases v with
  | none => exact List.nil_sublist _
  | some a => exact List.Sublist.refl _

/-! ### Launches -/

namespace EmulatorConfig

/-- The number of processors fits into 32 bits, and the environment is in order. -/
structure Written (e : EmulatorConfig) : Prop where
  smp : e.smp < 0x100000000
  environment : e.environment.IsOrdered

lemma reads {e : EmulatorConfig} (h : e.Written) (hsmp : 0 < e.smp) : Reads read e.data e := by
  refine reads_record _ ?names (by decide) ?gives
  case names =>
    simp only [List.map_append, optionalField_eq]
    exact ((List.Sublist.refl _).append (names_optionalSection ..)).append (List.Sublist.refl _)
  case gives =>
    refine ((Fields.gives_withDefault rfl (reads_text e.executable) _).map _).seq
      (Fields.gives_withDefault rfl (reads_text e.machine) _) |>.seq
      (Fields.gives_withDefault rfl (reads_text e.cpu) _) |>.seq
      (Fields.gives_withDefault rfl (reads_text e.bios) _) |>.seq
      (Fields.gives_withDefault rfl (reads_natural _ hsmp h.smp (by decide)) _) |>.seq
      (Fields.gives_withDefault rfl (reads_text e.memory) _) |>.seq
      (Fields.gives_required rfl (reads_text e.kernel)) |>.seq
      (Fields.gives_withDefault rfl (reads_flag e.nographic) _) |>.seq
      (Fields.gives_withDefault rfl (reads_text e.serial) _) |>.seq
      (Fields.gives_withDefault rfl (reads_flag e.noReboot) _) |>.seq
      (Fields.gives_withDefault rfl (reads_textList e.extraArgs) _) |>.seq
      (Fields.gives_optional .text ?_ (fun _ => rfl) fun s _ => reads_filePath s) |>.seq
      (Fields.gives_withDefault ?_ (reads_environment h.environment) _)
    -- the data of the two fields at the end, behind one that may be left out
    all_goals simp [optionalField_eq, lookup_optionalSection, List.lookup_append, List.lookup_cons]

lemma ensures : Ensures read Written := fun p e h => by
  obtain ⟨l, hl⟩ := build_of_record h
  simp only [fields, Fields.build_seq_eq_ok, Fields.build_map_eq_ok] at hl
  obtain ⟨_, ⟨_, ⟨_, ⟨_, ⟨_, ⟨_, ⟨_, ⟨_, ⟨_, ⟨_, ⟨_, ⟨_, ⟨_, -, rfl⟩, _, -, rfl⟩, _, -, rfl⟩, _, -, rfl⟩,
    smp, hsmp, rfl⟩, _, -, rfl⟩, _, -, rfl⟩, _, -, rfl⟩, _, -, rfl⟩, _, -, rfl⟩, _, -, rfl⟩, _, -,
    rfl⟩, environment, henvironment, rfl⟩ := hl
  have hfits : smp < 0x100000000 :=
    Fields.of_withDefault (P := (· < _)) hsmp (ensures_natural _ _) (by decide)
  exact ⟨hfits, Fields.of_withDefault henvironment ensures_environment .nil⟩

end EmulatorConfig

namespace LaunchSpec

lemma reads {l : LaunchSpec} (h : l.environment.IsOrdered) : Reads read l.data l := by
  refine reads_record _ ?names (by decide) ?gives
  case names =>
    simp only [List.map_append, optionalField_eq]
    exact ((List.Sublist.refl _).append (names_optionalSection ..)).append (List.Sublist.refl _)
  case gives =>
    refine ((Fields.gives_required rfl (reads_text l.executable)).map _).seq
      (Fields.gives_withDefault rfl (reads_textList l.args) _) |>.seq
      (Fields.gives_optional .text ?_ (fun _ => rfl) fun s _ => reads_filePath s) |>.seq
      (Fields.gives_withDefault ?_ (reads_environment h) _)
    all_goals simp [optionalField_eq, lookup_optionalSection, List.lookup_append, List.lookup_cons]

lemma ensures : Ensures read fun l => l.environment.IsOrdered := fun p l h => by
  obtain ⟨found, hl⟩ := build_of_record h
  simp only [fields, Fields.build_seq_eq_ok, Fields.build_map_eq_ok] at hl
  obtain ⟨_, ⟨_, ⟨_, ⟨_, -, rfl⟩, _, -, rfl⟩, _, -, rfl⟩, environment, henvironment, rfl⟩ := hl
  exact Fields.of_withDefault henvironment ensures_environment .nil

end LaunchSpec

/-! ### Protocol and capture -/

lemma ProtocolConfig.reads (c : ProtocolConfig) : Reads read c.data c :=
  reads_record _ (List.Sublist.refl _) (by decide)
    ((Fields.gives_withDefault rfl (reads_text c.escape) _).map _)

lemma CaptureConfig.reads (c : CaptureConfig) : Reads read c.data c := by
  refine reads_record _ ?names (by decide) ?gives
  case names =>
    simp only [List.map_append, optionalField_eq]
    exact (names_optionalSection ..).append (List.Sublist.refl _)
  case gives =>
    refine ((Fields.gives_optional .text ?_ (fun _ => rfl) fun s _ => reads_filePath s).map _).seq
      (Fields.gives_withDefault ?_ (reads_flag c.echo) _)
    all_goals simp [optionalField_eq, lookup_optionalSection, List.lookup_append, List.lookup_cons]

/-! ### Steps -/

namespace StepConfig

/-- The span of a step: how long it waits or lets the output settle. -/
def span : StepConfig → Duration
  | pause d => d
  | escape settle => settle
  | command _ settle => settle
  | send _ settle => settle

lemma reads_parts {s : StepConfig} (h : s.span.IsWritten) :
    ∃ kind, variant kinds s.parts.1 = .ok kind ∧ Reads (readFields kind) s.parts.2 s := by
  cases s with
  | pause d =>
    exact ⟨_, rfl, reads_record _ (List.Sublist.refl _) (by decide)
      ((Fields.gives_required rfl (reads_duration h)).map _)⟩
  | escape settle =>
    exact ⟨_, rfl, reads_record _ (List.Sublist.refl _) (by decide)
      ((Fields.gives_withDefault rfl (reads_duration h) _).map _)⟩
  | command text settle =>
    exact ⟨_, rfl, reads_record _ (List.Sublist.refl _) (by decide)
      (((Fields.gives_required rfl (reads_text text)).map _).seq
        (Fields.gives_withDefault rfl (reads_duration h) _))⟩
  | send text settle =>
    exact ⟨_, rfl, reads_record _ (List.Sublist.refl _) (by decide)
      (((Fields.gives_required rfl (reads_text text)).map _).seq
        (Fields.gives_withDefault rfl (reads_duration h) _))⟩

/-- A step whose kind is the only key is read as a step of that kind. -/
lemma reads {s : StepConfig} (h : s.span.IsWritten) : Reads readKeyed s.data s := by
  obtain ⟨kind, hkind, hread⟩ := reads_parts h
  intro p hp
  obtain ⟨entries, hn, hentries⟩ := Value.exists_of_isAt_record hp
  obtain ⟨⟨k, n⟩, rfl⟩ : ∃ e, entries = [e] := by
    obtain _ | ⟨e, _ | ⟨e', rest⟩⟩ := entries
    · cases hentries
    · exact ⟨e, rfl⟩
    · simp [Value.fieldsAt] at hentries
  obtain ⟨hk, hv⟩ : k.isText s.parts.1 = true ∧ s.parts.2.isAt n = true := by
    simpa [Value.fieldsAt] using hentries
  have hkey := textAs_of_isText hk p p.path "variant identifier"
  have hvalue := hread _ (isAt_inner hv p (p.entryPath k))
  simp only [readKeyed, Place.entries, hn, Node.tag?, localTag?, List.map_cons, List.map_nil, bind,
    Except.bind, hkey, hkind, hvalue]
  rfl

lemma ensures_fields {name : String} {kind : String × Fields Place StepConfig}
    (h : variant kinds name = .ok kind) : Ensures (readFields kind) fun s => s.span.IsWritten := by
  have hlookup : kinds.lookup name = some kind := by
    unfold variant at h
    split at h
    · next hk => cases h; exact hk
    · cases h
  obtain ⟨before, after, hkinds, -⟩ := List.lookup_eq_some_iff.1 hlookup
  have hmem : (name, kind) ∈ kinds := by
    simp [hkinds]
  intro p s hs
  obtain ⟨l, hl⟩ := build_of_record hs
  simp only [kinds, List.mem_cons, List.not_mem_nil, or_false, Prod.mk.injEq] at hmem
  obtain ⟨-, rfl⟩ | ⟨-, rfl⟩ | ⟨-, rfl⟩ | ⟨-, rfl⟩ := hmem <;>
    simp only [Fields.build_seq_eq_ok, Fields.build_map_eq_ok] at hl
  · obtain ⟨d, hd, rfl⟩ := hl
    exact Fields.of_required hd ensures_duration
  · obtain ⟨settle, hsettle, rfl⟩ := hl
    exact Fields.of_withDefault hsettle ensures_duration (Duration.isWritten_ofMillis (by decide))
  · obtain ⟨_, ⟨text, -, rfl⟩, settle, hsettle, rfl⟩ := hl
    exact Fields.of_withDefault hsettle ensures_duration (Duration.isWritten_ofMillis (by decide))
  · obtain ⟨_, ⟨text, -, rfl⟩, settle, hsettle, rfl⟩ := hl
    exact Fields.of_withDefault hsettle ensures_duration (Duration.isWritten_ofMillis (by decide))

lemma ensures : Ensures readKeyed fun s => s.span.IsWritten := fun p s h => by
  unfold readKeyed at h
  split at h
  · cases h
  · split at h
    · -- a name without fields
      split at h
      · split at h <;> cases h
      · exact absurd h (mismatch_ne_ok _ _ _)
    · obtain ⟨entries, -, h⟩ := bind_eq_ok_iff.1 h
      obtain _ | ⟨⟨key, value, raw⟩, rest⟩ := entries
      · cases h
      · obtain ⟨name, -, h⟩ := bind_eq_ok_iff.1 h
        split at h
        · cases h
        · next hkind =>
          obtain ⟨step, hstep, h⟩ := bind_eq_ok_iff.1 h
          obtain rfl : step = s := by
            cases rest with
            | nil => cases h; rfl
            | cons e rest => dsimp only at h; split at h <;> cases h
          exact ensures_fields hkind _ _ (mapError_eq_ok_iff.1 hstep)
    · exact absurd h (mismatch_ne_ok _ _ _)

end StepConfig

/-! ### Whole configurations -/

namespace HarnessConfig

variable {c : HarnessConfig}

/-- Everything in the configuration is as it is after loading. -/
structure Written (c : HarnessConfig) : Prop where
  session : c.session.Written
  emulator : ∀ e, c.emulator = some e → e.Written
  launch : ∀ l, c.launch = some l → l.environment.IsOrdered
  steps : ∀ steps, c.steps = some steps → ∀ s ∈ steps, s.span.IsWritten

lemma ensures : Ensures read Written := fun p c h => by
  obtain ⟨l, hl⟩ := build_of_record h
  simp only [fields, Fields.build_seq_eq_ok, Fields.build_map_eq_ok] at hl
  obtain ⟨_, ⟨_, ⟨_, ⟨_, ⟨_, ⟨session, hsession, rfl⟩, emulator, hemulator, rfl⟩, launch, hlaunch,
    rfl⟩, _, -, rfl⟩, steps, hsteps, rfl⟩, _, -, rfl⟩ := hl
  exact ⟨Fields.of_required hsession SessionOptions.ensures,
    Fields.of_withDefault hemulator (ensures_optional EmulatorConfig.ensures) (by simp),
    Fields.of_withDefault hlaunch (ensures_optional LaunchSpec.ensures) (by simp),
    Fields.of_withDefault hsteps (ensures_optional (ensures_sequence StepConfig.ensures)) (by simp)⟩

lemma smp_pos_of_validate (h : c.validate = .ok ()) {e : EmulatorConfig}
    (he : c.emulator = some e) : 0 < e.smp := by
  obtain ⟨_, -, h⟩ := bind_eq_ok_iff.1 h
  obtain ⟨_, hlaunch, -⟩ := bind_eq_ok_iff.1 h
  rw [validateLaunch, he] at hlaunch
  split at hlaunch
  · next emulator hsome _ =>
    cases hsome
    exact EmulatorConfig.smp_pos_of_validate hlaunch
  all_goals simp_all

lemma reads (h : c.Written) (hvalid : c.validate = .ok ()) : Reads read c.data c := by
  have hsteps : ∀ steps, c.steps = some steps →
      Reads (Place.sequence StepConfig.readKeyed) (.list (steps.map StepConfig.data)) steps :=
    fun steps hs => reads_sequence (List.forall₂_map_left_iff.2 (List.forall₂_same.2 fun s hmem =>
      StepConfig.reads (h.steps steps hs s hmem)))
  refine reads_record _ ?names (by decide) ?gives
  case names =>
    simp only [List.map_append]
    exact (((((List.Sublist.refl _).append (names_optionalSection ..)).append
      (names_optionalSection ..)).append (List.Sublist.refl _)).append
      (names_optionalSection ..)).append (List.Sublist.refl _)
  case gives =>
    refine ((Fields.gives_required rfl (SessionOptions.reads h.session)).map _).seq
      (Fields.gives_optional EmulatorConfig.data ?_ (fun _ => rfl) fun e he =>
        EmulatorConfig.reads (h.emulator e he) (smp_pos_of_validate hvalid he)) |>.seq
      (Fields.gives_optional LaunchSpec.data ?_ (fun _ => rfl) fun l hl =>
        LaunchSpec.reads (h.launch l hl)) |>.seq
      (Fields.gives_withDefault ?_ (ProtocolConfig.reads c.protocol) _) |>.seq
      (Fields.gives_optional (fun steps => .list (steps.map StepConfig.data)) ?_ (fun _ => rfl)
        hsteps) |>.seq
      (Fields.gives_withDefault ?_ (CaptureConfig.reads c.capture) _)
    all_goals simp [lookup_optionalSection, List.lookup_append, List.lookup_cons]

/-- The configurations that come from a text: loaded, and then perhaps with other time limits, which
are read from texts too. -/
inductive Reached : HarnessConfig → Prop where
  | loaded {s : String} {c : HarnessConfig} (h : load s = .ok c) : Reached c
  | overridden {c : HarnessConfig} {timeout graceWindow : Option Duration} (h : Reached c)
      (htimeout : ∀ d ∈ timeout, d.IsWritten) (hgrace : ∀ d ∈ graceWindow, d.IsWritten) :
      Reached (c.override timeout graceWindow).1

lemma written_of_load {s : String} (h : load s = .ok c) : c.Written := by
  obtain ⟨c', hread, h⟩ := bind_eq_ok_iff.1 (load_eq_ok_iff.1 h).1
  split at h
  · cases h
    exact ensures _ _ hread
  · cases h

lemma Written.override (h : c.Written) {timeout graceWindow : Option Duration}
    (htimeout : ∀ d ∈ timeout, d.IsWritten) (hgrace : ∀ d ∈ graceWindow, d.IsWritten) :
    (c.override timeout graceWindow).1.Written where
  session := {
    timeout := by
      cases timeout with
      | none => exact h.session.timeout
      | some d => exact htimeout d rfl
    graceWindow := by
      cases graceWindow with
      | none => exact h.session.graceWindow
      | some d => exact hgrace d rfl
    drainTimeout := h.session.drainTimeout }
  emulator := h.emulator
  launch := h.launch
  steps := h.steps

lemma Reached.written (h : c.Reached) : c.Written := by
  induction h with
  | loaded h => exact written_of_load h
  | overridden _ htimeout hgrace ih => exact ih.override htimeout hgrace

/-- **A configuration that was written is loaded again as it was.** This holds of every valid
configuration that comes from a text, whatever limits replaced those of the text, where the text
layer gives back the data that it wrote. -/
theorem load_render (h : c.Reached) (hvalid : c.validate = .ok ()) (htext : c.data.ReadsBack) :
    load c.render = .ok c := by
  have hread := (reads h.written hvalid).readText_render htext
  rw [render, load, hread]
  simp only [Except.mapError, bind, Except.bind, hvalid]
  rfl

/-- A plain command line with one step, and two minutes in place of its own limit. -/
theorem load_render_launch :
    let s := "session: \x7bid: a, grace_window: 1500ms\x7d\n" ++
      "launch: \x7bexecutable: p, working_directory: d, environment: \x7bA: y\x7d\x7d\n" ++
      "steps:\n- send: \x7btext: x\x7d\n"
    let c : HarnessConfig :=
      { session := ⟨"a", ⟨.ofSeconds 60, .ofMillis 1500, .ofSeconds 1⟩⟩
        launch := some ⟨"p", [], some "d", [("A", "y")]⟩
        steps := some [.send "x" (.ofMillis 100)] }
    let c' := (c.override (some (.ofSeconds 120)) none).1
    load s = .ok c ∧ Duration.parse "2m" = .ok (.ofSeconds 120) ∧ c'.validate = .ok () ∧
      c'.data.ReadsBack ∧ load c'.render = .ok c' := by
  intro s c c'
  have hload : load s = .ok c := toOption_eq_some_iff.1 (by decide +kernel)
  have hparse : Duration.parse "2m" = .ok (.ofSeconds 120) :=
    toOption_eq_some_iff.1 (by decide +kernel)
  have hvalid : c'.validate = .ok () := toOption_eq_some_iff.1 (by decide +kernel)
  have htext : c'.data.ReadsBack := by decide +kernel
  have hreached : c'.Reached :=
    .overridden (.loaded hload) (fun d hd => ⟨"2m", by cases hd; exact hparse⟩)
      fun d hd => by cases hd
  exact ⟨hload, hparse, hvalid, htext, load_render hreached hvalid htext⟩

end HarnessConfig
end GuestHarness
