import GuestHarness.Proofs.FileTree
import GuestHarness.Proofs.Output.Order
import GuestHarness.Proofs.Output.Turns

/-!
What a transcript file holds. Between its calls a transcript has its bytes in two places, the file
and the buffer before it, and no call on it changes what the two hold one after the other except by
adding to the end: a chunk whole, or an initial part of it if the file fails. So a worker whose last
call has emptied the buffer has left all chunks in the file, and where one stream is read these are
what was captured.
-/

namespace GuestHarness

namespace Output

/-! ### Transcripts -/

section Pour

variable {place other : List String} {stuck : IoError} {replies : List FileReply} {bs : Bytes}
  {files : FileTree} {content : Bytes} {executable : Bool}

lemma rest_of_pour (h : (pour place stuck replies bs files).error = none) :
    (pour place stuck replies bs files).rest = [] := by
  fun_induction pour place stuck replies bs files with
  | case1 => rfl
  | case2 => rfl
  | case3 => cases h
  | case4 n replies bs files _ ih => exact ih h
  | case5 e replies bs files _ _ ih => exact ih h
  | case6 => cases h

/-- Whatever a file replies, it has taken an initial part of the bytes. -/
lemma pour_grows (stuck : IoError) (replies : List FileReply) (bs : Bytes)
    (h : files.entryAt place = some (.file content executable)) :
    ∃ taken, taken ++ (pour place stuck replies bs files).rest = bs ∧
      (pour place stuck replies bs files).files.entryAt place =
        some (.file (content ++ taken) executable) := by
  fun_induction pour place stuck replies bs files generalizing content with
  | case1 replies files => exact ⟨[], rfl, by simpa using h⟩
  | case2 bs files => exact ⟨bs, List.append_nil bs, FileTree.entryAt_append_self bs h⟩
  | case3 replies bs files => exact ⟨[], rfl, by simpa using h⟩
  | case4 n replies bs files _ ih =>
    obtain ⟨taken, hrest, hfile⟩ := ih (FileTree.entryAt_append_self _ h)
    refine ⟨bs.take (n + 1) ++ taken, ?_, ?_⟩
    · rw [List.append_assoc, hrest, List.take_append_drop]
    · rw [hfile, List.append_assoc]
  | case5 e replies bs files _ _ ih => exact ih h
  | case6 e replies bs files => exact ⟨[], rfl, by simpa using h⟩

lemma entryAt_pour_of_ne (h : other ≠ place) :
    (pour place stuck replies bs files).files.entryAt other = files.entryAt other := by
  fun_induction pour place stuck replies bs files with
  | case1 => rfl
  | case2 => exact FileTree.entryAt_append_of_ne _ h
  | case3 => rfl
  | case4 n replies bs files _ ih => rw [ih, FileTree.entryAt_append_of_ne _ h]
  | case5 e replies bs files _ _ ih => exact ih
  | case6 => rfl

end Pour

namespace Transcript

variable {t : Transcript} {files : FileTree} {content bs : Bytes} {executable : Bool}
  {other : List String}

/-- The file of a transcript, followed by what is still to be written to it, holds these bytes. -/
def Holds (t : Transcript) (files : FileTree) (content : Bytes) (executable : Bool) : Prop :=
  ∃ written, files.entryAt t.place = some (.file written executable) ∧
    written ++ t.pending = content

lemma Holds.congr {files' : FileTree} (h : t.Holds files content executable)
    (hsame : files'.entryAt t.place = files.entryAt t.place) :
    t.Holds files' content executable := by
  obtain ⟨written, hfile, hcontent⟩ := h
  exact ⟨written, hsame.trans hfile, hcontent⟩

/-- A flush moves bytes from the buffer to the file. -/
lemma Holds.flush (h : t.Holds files content executable) :
    (t.flush files).2.1.Holds (t.flush files).2.2 content executable := by
  obtain ⟨written, hfile, rfl⟩ := h
  obtain ⟨taken, hrest, hgrown⟩ := pour_grows
    (.custom .writeZero "failed to write the buffered data") t.replies t.pending hfile
  exact ⟨written ++ taken, hgrown, by rw [List.append_assoc]; exact congrArg _ hrest⟩

lemma pending_flush (h : (t.flush files).1 = none) : (t.flush files).2.1.pending = [] :=
  rest_of_pour h

/-- The ways of a write: its bytes go to the buffer, which was emptied before if they had no room; the
buffer could not be emptied, and the bytes are lost; or it is empty, and they pass it by. -/
lemma write_cases (t : Transcript) (bs : Bytes) (files : FileTree) :
    ∃ made : Option IoError × Transcript × FileTree,
      (made = (none, t, files) ∨ made = t.flush files) ∧
      (t.write bs files =
          (none, { made.2.1 with pending := made.2.1.pending ++ bs }, made.2.2) ∨
        (∃ e, t.write bs files = (some e, made.2)) ∨
        made.2.1.pending = [] ∧ ∃ stuck, t.write bs files =
          let p := pour made.2.1.place stuck made.2.1.replies bs made.2.2
          (p.error, { made.2.1 with replies := p.replies }, p.files)) := by
  unfold write
  split
  · exact ⟨(none, t, files), .inl rfl, .inl rfl⟩
  · next hlarge =>
    by_cases hover : capacity < t.pending.length + bs.length
    · refine ⟨t.flush files, .inr rfl, ?_⟩
      rw [if_pos hover]
      split
      · next e u g hflush => exact .inr (.inl ⟨e, by rw [hflush]⟩)
      · next u g hflush =>
        have hempty : (t.flush files).2.1.pending = [] := pending_flush (by rw [hflush])
        rw [hflush] at hempty ⊢
        split
        · exact .inr (.inr ⟨hempty, _, rfl⟩)
        · exact .inl rfl
    · refine ⟨(none, t, files), .inl rfl, ?_⟩
      rw [if_neg hover]
      dsimp only
      split
      · exact .inr (.inr ⟨List.length_eq_zero_iff.1 (by omega), _, rfl⟩)
      · exact .inl rfl

/-- A write adds an initial part of its bytes; one that does not fail adds all of them. -/
lemma Holds.write (h : t.Holds files content executable) (bs : Bytes) :
    ∃ taken rest, taken ++ rest = bs ∧
      (t.write bs files).2.1.Holds (t.write bs files).2.2 (content ++ taken) executable ∧
      ((t.write bs files).1 = none → rest = []) := by
  obtain ⟨made, hmade, hways⟩ := t.write_cases bs files
  obtain ⟨written, hfile, rfl⟩ : made.2.1.Holds made.2.2 content executable := by
    obtain rfl | rfl := hmade
    · exact h
    · exact h.flush
  obtain hw | ⟨e, hw⟩ | ⟨hpending, stuck, hw⟩ := hways <;> rw [hw]
  · exact ⟨bs, [], List.append_nil bs, ⟨written, hfile, (List.append_assoc _ _ _).symm⟩,
      fun _ => rfl⟩
  · exact ⟨[], bs, rfl, ⟨written, hfile, (List.append_nil _).symm⟩, nofun⟩
  · obtain ⟨taken, hrest, hgrown⟩ := pour_grows stuck made.2.1.replies bs hfile
    exact ⟨taken, _, hrest, ⟨written ++ taken, hgrown, by simp [hpending]⟩, rest_of_pour⟩

lemma write_stays (t : Transcript) (bs : Bytes) (files : FileTree) :
    (t.write bs files).2.1.path = t.path ∧ (t.write bs files).2.1.place = t.place := by
  obtain ⟨made, hmade, hways⟩ := t.write_cases bs files
  have hstays : made.2.1.path = t.path ∧ made.2.1.place = t.place := by
    obtain rfl | rfl := hmade <;> exact ⟨rfl, rfl⟩
  obtain hw | ⟨e, hw⟩ | ⟨-, stuck, hw⟩ := hways <;> rw [hw] <;> exact hstays

lemma entryAt_flush_of_ne (h : other ≠ t.place) :
    (t.flush files).2.2.entryAt other = files.entryAt other := entryAt_pour_of_ne h

lemma entryAt_write_of_ne (bs : Bytes) (h : other ≠ t.place) :
    (t.write bs files).2.2.entryAt other = files.entryAt other := by
  obtain ⟨made, hmade, hways⟩ := t.write_cases bs files
  obtain ⟨hplace, hfiles⟩ :
      made.2.1.place = t.place ∧ made.2.2.entryAt other = files.entryAt other := by
    obtain rfl | rfl := hmade
    · exact ⟨rfl, rfl⟩
    · exact ⟨rfl, entryAt_flush_of_ne h⟩
  obtain hw | ⟨e, hw⟩ | ⟨-, stuck, hw⟩ := hways <;> rw [hw]
  · exact hfiles
  · exact hfiles
  · rw [← hfiles]
    exact entryAt_pour_of_ne (by rwa [hplace])

/-- A file that was opened holds what it held before the directories above it were made; a new one
holds nothing. -/
lemma holds_of_opened {path : String} {place : List String} {above made : FileTree}
    (hmore : files.HasMoreDirectories above)
    (hopen : above.openForWriting path = .ok (place, content))
    (hkept : above.entryAt place ≠ none → made = above)
    (hnew : above.entryAt place = none → made = above.insert place (.file content false)) :
    ∃ executable, Holds ⟨path, place, [], []⟩ made (files.contentAt place) executable := by
  obtain ⟨executable, hfile⟩ | ⟨hnone, rfl⟩ := FileTree.openForWriting_cases hopen
  · obtain rfl := hkept (by simp [hfile])
    have hbefore : files.entryAt place = some (.file content executable) := by
      obtain hsame | ⟨-, hdir⟩ := hmore place
      · exact hsame.symm.trans hfile
      · rw [hfile] at hdir
        cases hdir
    refine ⟨executable, content, hfile, ?_⟩
    simp only [FileTree.contentAt, hbefore, List.append_nil]
  · obtain rfl := hnew hnone
    have hbefore : files.entryAt place = none := by
      obtain hsame | ⟨hbefore, -⟩ := hmore place
      · exact hsame.symm.trans hnone
      · exact hbefore
    have hnil : place ≠ [] := by
      rintro rfl
      cases hnone
    refine ⟨false, [], FileTree.entryAt_insert_self _ hnil, ?_⟩
    simp only [FileTree.contentAt, hbefore, List.append_nil]

/-- A transcript that is opened holds what its file held before, or nothing if the file is new. -/
lemma openAt_holds {path : String} {files' : FileTree}
    (h : openAt files path = .ok (t, files')) :
    t.path = path ∧ t.pending = [] ∧
      ∃ executable, t.Holds files' (files.contentAt t.place) executable := by
  unfold openAt at h
  dsimp only at h
  split at h
  -- whether the directories above the file were made or not, it is opened in the same way
  all_goals
    obtain ⟨above, habove, h⟩ := bind_eq_ok_iff.1 h
    have hmore : files.HasMoreDirectories above := by
      first
      | exact .of_makeDirectories habove
      | cases habove; exact .refl files
    obtain ⟨⟨place, content⟩, hopen, h⟩ := bind_eq_ok_iff.1 h
    cases h
    refine ⟨rfl, rfl, holds_of_opened hmore hopen (fun hsome => ?_) fun hnone => by rw [hnone]⟩
    obtain ⟨entry, he⟩ := Option.ne_none_iff_exists'.1 hsome
    rw [he]

end Transcript

/-! ### Other sinks -/

/-- A sink that is not a transcript of the file at a place. -/
def Sink.Spares (place : List String) : Sink → Prop
  | .transcript t => t.place ≠ place
  | _ => True

namespace Sink

variable {place : List String} {s : Sink}

/-- A call that leaves the file at a place alone when it is made on a sink that does. -/
def CallSpares (place : List String) (call : FileTree → Sink → SinkReply × Sink × FileTree) :
    Prop :=
  ∀ files s, s.Spares place →
    (call files s).2.1.Spares place ∧ (call files s).2.2.entryAt place = files.entryAt place

lemma write_spares (place : List String) (chunk : Bytes) :
    CallSpares place fun files s => s.write chunk files := by
  intro files s hs
  cases s with
  | transcript t =>
    have hplace := (t.write_stays chunk files).2
    exact ⟨fun h => hs (hplace.symm.trans h), t.entryAt_write_of_ne chunk (Ne.symm hs)⟩
  | echo shown => exact ⟨trivial, rfl⟩
  | scripted s => exact ⟨trivial, rfl⟩

lemma flush_spares (place : List String) : CallSpares place fun files s => s.flush files := by
  intro files s hs
  cases s with
  | transcript t => exact ⟨hs, t.entryAt_flush_of_ne (Ne.symm hs)⟩
  | echo shown => exact ⟨trivial, rfl⟩
  | scripted s => exact ⟨trivial, rfl⟩

end Sink

/-! ### The worker -/

namespace SinkWorker

variable {call : FileTree → Sink → SinkReply × Sink × FileTree} {cost : Sink → Nat}
  {w : SinkWorker} {sinks served before after : List Sink} {sink : Sink} {place : List String}

/-- The errors of a worker do not come from the future. -/
def Timely (w : SinkWorker) : Prop := ∀ e ∈ w.errors, e.1 ≤ w.now

/-- One call of a worker that goes on: the sink has answered, and an error that it gave is recorded
under its name. -/
lemma go_cons (h : (serve.go call cost w (sink :: sinks) served).isOut = false) :
    ∃ w', serve.go call cost w (sink :: sinks) served =
        serve.go call cost w' sinks ((call w.files sink).2.1 :: served) ∧
      w'.files = (call w.files sink).2.2 ∧ w.errors <+: w'.errors ∧ (w.Timely → w'.Timely) ∧
      ((call w.files sink).1 = .ok ∨ ∃ e, (call w.files sink).1 = .failed e ∧
        ∃ m, (m, sink.name ++ ": " ++ e.message) ∈ w'.errors) := by
  obtain ⟨hback, w', hgo, hfiles, hnow, herrors⟩ := go_call h
  refine ⟨w', hgo, hfiles, herrors ▸ List.prefix_append _ _, fun ht e he => ?_, ?_⟩
  · rw [herrors] at he
    rw [hnow]
    obtain he | he := List.mem_append.1 he
    · exact Nat.le_trans (ht e he) (Nat.le_add_right _ _)
    · obtain ⟨error, -, rfl⟩ := Option.map_eq_some_iff.1 (Option.mem_toList.1 he)
      exact Nat.le_refl _
  · rw [herrors]
    cases hreply : (call w.files sink).1 with
    | ok => exact .inl rfl
    | failed e => exact .inr ⟨e, rfl, _, List.mem_concat_self⟩
    | crashed message => rw [hreply] at hback; cases hback
    | hangs => rw [hreply] at hback; cases hback

/-- What every round of calls does: no error is taken back, and none comes from the future. -/
lemma go_errors (h : (serve.go call cost w sinks served).isOut = false) :
    w.errors <+: (serve.go call cost w sinks served).errors ∧
      (w.Timely → (serve.go call cost w sinks served).Timely) := by
  induction sinks generalizing w served with
  | nil => exact ⟨List.prefix_refl _, id⟩
  | cons sink rest ih =>
    obtain ⟨w', hgo, -, herrors, htimely, -⟩ := go_cons h
    rw [hgo] at h ⊢
    exact ⟨herrors.trans (ih h).1, fun ht => (ih h).2 (htimely ht)⟩

/-- Calls on sinks that leave a file alone. -/
lemma go_spares (hcall : Sink.CallSpares place call) (hs : ∀ s ∈ sinks, s.Spares place)
    (h : (serve.go call cost w sinks served).isOut = false) :
    ∃ sinks', (serve.go call cost w sinks served).sinks = served.reverse ++ sinks' ∧
      (∀ s ∈ sinks', s.Spares place) ∧
      (serve.go call cost w sinks served).files.entryAt place = w.files.entryAt place := by
  induction sinks generalizing w served with
  | nil => exact ⟨[], (List.append_nil _).symm, nofun, rfl⟩
  | cons sink rest ih =>
    obtain ⟨w', hgo, hfiles, -⟩ := go_cons h
    obtain ⟨hsink, hentry⟩ := hcall w.files sink (hs sink List.mem_cons_self)
    rw [hgo] at h ⊢
    obtain ⟨sinks', hs', hall, hrest⟩ := ih (fun s hs' => hs s (List.mem_cons_of_mem _ hs')) h
    refine ⟨(call w.files sink).2.1 :: sinks', by simpa using hs', ?_, ?_⟩
    · exact List.forall_mem_cons.2 ⟨hsink, hall⟩
    · rw [hrest, hfiles, hentry]

/-- **One round of calls**, seen from the file of one sink: only the call on that sink touches it. -/
lemma serve_one (hcall : Sink.CallSpares place call) (hsinks : w.sinks = before ++ sink :: after)
    (hothers : ∀ s ∈ before ++ after, s.Spares place)
    (h : (serve call cost w).isOut = false) :
    ∃ files before' after', files.entryAt place = w.files.entryAt place ∧
      (serve call cost w).sinks = before' ++ (call files sink).2.1 :: after' ∧
      (∀ s ∈ before' ++ after', s.Spares place) ∧
      (serve call cost w).files.entryAt place = (call files sink).2.2.entryAt place ∧
      ((call files sink).1 = .ok ∨ ∃ e, (call files sink).1 = .failed e ∧
        ∃ m, (m, sink.name ++ ": " ++ e.message) ∈ (serve call cost w).errors) := by
  -- the sinks before it are served first, in any state of those that were served already
  have hgo : ∀ (before served : List Sink) (w : SinkWorker), (∀ s ∈ before, s.Spares place) →
      (serve.go call cost w (before ++ sink :: after) served).isOut = false →
      ∃ files before' after', files.entryAt place = w.files.entryAt place ∧
        (serve.go call cost w (before ++ sink :: after) served).sinks =
          served.reverse ++ (before' ++ (call files sink).2.1 :: after') ∧
        (∀ s ∈ before' ++ after', s.Spares place) ∧
        (serve.go call cost w (before ++ sink :: after) served).files.entryAt place =
          (call files sink).2.2.entryAt place ∧
        ((call files sink).1 = .ok ∨ ∃ e, (call files sink).1 = .failed e ∧ ∃ m,
          (m, sink.name ++ ": " ++ e.message) ∈
            (serve.go call cost w (before ++ sink :: after) served).errors) := by
    intro before
    induction before with
    | nil =>
      intro served w _ h
      rw [List.nil_append] at h ⊢
      obtain ⟨w', hgo, hfiles, -, -, hreply⟩ := go_cons h
      rw [hgo] at h ⊢
      obtain ⟨after', hafter, hall, hentry⟩ :=
        go_spares hcall (fun s hs => hothers s (List.mem_append_right _ hs)) h
      refine ⟨w.files, [], after', rfl, by simpa using hafter, hall, by rw [hentry, hfiles], ?_⟩
      exact hreply.imp id fun ⟨e, he, m, hm⟩ => ⟨e, he, m, (go_errors h).1.subset hm⟩
    | cons s before ih =>
      intro served w hbefore h
      rw [List.cons_append] at h ⊢
      obtain ⟨w', hgo, hfiles, -⟩ := go_cons h
      obtain ⟨hs, hentry⟩ := hcall w.files s (hbefore s List.mem_cons_self)
      rw [hgo] at h ⊢
      obtain ⟨files, before', after', hsame, hs', hall, hrest⟩ :=
        ih _ w' (fun s' hs' => hbefore s' (List.mem_cons_of_mem _ hs')) h
      refine ⟨files, (call w.files s).2.1 :: before', after', ?_, by simpa using hs', ?_, hrest⟩
      · rw [hsame, hfiles, hentry]
      · exact List.forall_mem_cons.2 ⟨hs, hall⟩
  unfold serve at h ⊢
  rw [hsinks] at h ⊢
  exact hgo before [] w (fun s hs => hothers s (List.mem_append_left _ hs)) h

/-! ### The worker's whole life -/

/-- None of these texts is an error of a file that is written under this name. -/
def Unblamed (name : String) (texts : List String) : Prop :=
  ∀ e : IoError, name ++ ": " ++ (HarnessError.io e).message ∉ texts

/-- One of the sinks of a worker is a transcript that holds these bytes, and no other writes to its
file. -/
def Transcribes (w : SinkWorker) (path : String) (place : List String) (content : Bytes)
    (executable : Bool) : Prop :=
  ∃ before t after, w.sinks = before ++ .transcript t :: after ∧
    (∀ s ∈ before ++ after, s.Spares place) ∧ t.path = path ∧ t.place = place ∧
    t.Holds w.files content executable

variable {path : String} {content chunk : Bytes} {executable : Bool} {moment closed : Instant}
  {chunks : List (Instant × Bytes)}

lemma Unblamed.of_subset {name : String} {errors errors' : List (Instant × String)}
    (h : Unblamed name (errors'.map Prod.snd)) (hsub : errors <+: errors') :
    Unblamed name (errors.map Prod.snd) := fun e he => h e ((hsub.map _).subset he)

/-- A file that is not blamed has not failed. -/
lemma eq_none_of_unblamed {name : String} {error : Option IoError} {errors : List (Instant × String)}
    (h : Unblamed name (errors.map Prod.snd))
    (hreply : SinkReply.ofError error = .ok ∨ ∃ e, SinkReply.ofError error = .failed e ∧
      ∃ m, (m, name ++ ": " ++ e.message) ∈ errors) : error = none := by
  cases error with
  | none => rfl
  | some e =>
    obtain hok | ⟨e', he', m, hm⟩ := hreply
    · cases hok
    · cases he'
      exact absurd (List.mem_map_of_mem (f := Prod.snd) hm) (h e)

/-- A chunk that the worker hands on is added to the transcript. -/
lemma Transcribes.takeChunk (hw : w.Transcribes path place content executable)
    (hout : (w.takeChunk moment chunk).isOut = false)
    (hblame : Unblamed ("file:" ++ path) ((w.takeChunk moment chunk).errors.map Prod.snd)) :
    (w.takeChunk moment chunk).Transcribes path place (content ++ chunk) executable := by
  obtain ⟨before, t, after, hsinks, hothers, rfl, rfl, hholds⟩ := hw
  have hbefore := isOut_of_takeChunk hout
  rw [SinkWorker.takeChunk, hbefore] at hout hblame ⊢
  obtain ⟨files, before', after', hsame, hs, hall, hfile, hreply⟩ :=
    serve_one (Sink.write_spares t.place chunk)
      (w := { w with now := max w.now moment }) hsinks hothers hout
  have herror : (t.write chunk files).1 = none := eq_none_of_unblamed hblame hreply
  obtain ⟨taken, rest, hchunk, hwritten, hnone⟩ := (hholds.congr hsame).write chunk
  rw [hnone herror, List.append_nil] at hchunk
  rw [hchunk] at hwritten
  obtain ⟨hpath, hplace⟩ := t.write_stays chunk files
  exact ⟨before', _, after', hs, hall, hpath, hplace, hwritten.congr (by rw [hplace]; exact hfile)⟩

/-- At the end of the worker all bytes of the transcript are in its file. -/
lemma Transcribes.finish (hw : w.Transcribes path place content executable)
    (hout : (w.finish closed).isOut = false)
    (hblame : Unblamed ("file:" ++ path) ((w.finish closed).errors.map Prod.snd)) :
    (w.finish closed).files.entryAt place = some (.file content executable) := by
  obtain ⟨before, t, after, hsinks, hothers, rfl, rfl, hholds⟩ := hw
  have hbefore := isOut_of_finish hout
  rw [SinkWorker.finish, hbefore] at hout hblame ⊢
  obtain ⟨files, before', after', hsame, -, -, hfile, hreply⟩ :=
    serve_one (Sink.flush_spares t.place)
      (w := { w with now := max w.now closed }) hsinks hothers hout
  have herror : (t.flush files).1 = none := eq_none_of_unblamed hblame hreply
  obtain ⟨written, hwritten, rfl⟩ := (hholds.congr hsame).flush
  rw [Transcript.pending_flush herror, List.append_nil]
  exact hfile.trans hwritten

/-- What a worker does in its life: no error is taken back, and none comes from the future. -/
lemma run_errors (h : (w.run chunks closed).isOut = false) :
    w.isOut = false ∧ w.errors <+: (w.run chunks closed).errors ∧
      (w.Timely → (w.run chunks closed).Timely) := by
  -- a round of calls that begins later
  have hserve : ∀ (w : SinkWorker) (call : FileTree → Sink → SinkReply × Sink × FileTree)
      (cost : Sink → Nat) (m : Instant),
      (serve call cost { w with now := max w.now m }).isOut = false →
      w.errors <+: (serve call cost { w with now := max w.now m }).errors ∧
        (w.Timely → (serve call cost { w with now := max w.now m }).Timely) :=
    fun w call cost m ho => by
      obtain ⟨herrors, htimely⟩ := go_errors ho
      exact ⟨herrors, fun ht => htimely fun e he => Nat.le_trans (ht e he) (Nat.le_max_left _ _)⟩
  induction chunks generalizing w with
  | nil =>
    have hrun : w.run [] closed = w.finish closed := rfl
    rw [hrun] at h ⊢
    have hout := isOut_of_finish h
    rw [SinkWorker.finish, hout] at h ⊢
    exact ⟨rfl, hserve w _ _ _ h⟩
  | cons c rest ih =>
    have hrun : w.run (c :: rest) closed = (w.takeChunk c.1 c.2).run rest closed := rfl
    rw [hrun] at h ⊢
    obtain ⟨htake, herrors, htimely⟩ := ih h
    have hout := isOut_of_takeChunk htake
    rw [SinkWorker.takeChunk, hout] at htake herrors htimely ⊢
    obtain ⟨herrors', htimely'⟩ := hserve w _ _ _ htake
    exact ⟨rfl, herrors'.trans herrors, fun ht => htimely (htimely' ht)⟩

/-- **A worker loses nothing of a transcript.** If it has come through its life and the transcript has
no error, the file holds all chunks. -/
theorem Transcribes.run (hw : w.Transcribes path place content executable)
    (hout : (w.run chunks closed).isOut = false)
    (hblame : Unblamed ("file:" ++ path) ((w.run chunks closed).errors.map Prod.snd)) :
    (w.run chunks closed).files.entryAt place =
      some (.file (content ++ (chunks.map Prod.snd).flatten) executable) := by
  induction chunks generalizing w content with
  | nil =>
    rw [List.map_nil, List.flatten_nil, List.append_nil]
    exact hw.finish hout hblame
  | cons c rest ih =>
    have hrun : w.run (c :: rest) closed = (w.takeChunk c.1 c.2).run rest closed := rfl
    rw [hrun] at hout hblame ⊢
    obtain ⟨htake, herrors, -⟩ := run_errors hout
    have hw' := hw.takeChunk htake (hblame.of_subset herrors)
    rw [ih hw' hout hblame, List.append_assoc, List.map_cons, List.flatten_cons]

lemma length_go (w : SinkWorker) (sinks served : List Sink) :
    (serve.go call cost w sinks served).sinks.length = served.length + sinks.length := by
  induction sinks generalizing w served with
  | nil => simp [serve.go]
  | cons sink rest ih =>
    rw [serve.go]
    split
    · rw [ih, List.length_cons, List.length_cons]
      omega
    · rw [ih, List.length_cons, List.length_cons]
      omega
    · simp
    · simp

/-- No sink leaves its worker. -/
lemma length_run (w : SinkWorker) (chunks : List (Instant × Bytes)) (closed : Instant) :
    (w.run chunks closed).sinks.length = w.sinks.length := by
  induction chunks generalizing w with
  | nil =>
    change (w.finish closed).sinks.length = _
    unfold SinkWorker.finish
    split
    · rfl
    · exact (length_go _ _ []).trans (Nat.zero_add _)
  | cons c rest ih =>
    refine (ih (w.takeChunk c.1 c.2)).trans ?_
    unfold SinkWorker.takeChunk
    split
    · rfl
    · exact (length_go _ _ []).trans (Nat.zero_add _)

end SinkWorker

/-! ### The pump -/

/-- A pump says nothing against the file that is written under this name: it has no error of it, and
the worker of the sinks neither came down nor was given up. -/
structure PumpStatus.Clears (s : PumpStatus) (name : String) : Prop where
  noError : SinkWorker.Unblamed name s.sinkErrors
  noCrash : ∀ message, "sink worker failed: " ++ crashText message ∉ s.sinkErrors
  inTime : "sink worker did not finish within the drain timeout" ∉ s.sinkErrors

/-- The errors of a worker that has come through its life are reported if it is waited for. -/
lemma sinkErrorsAt_of_ended {deadline : Instant} {w : SinkWorker} (hout : w.isOut = false)
    (ht : w.Timely) (hnow : w.now ≤ deadline) :
    sinkErrorsAt deadline w = w.errors.map Prod.snd := by
  simp only [SinkWorker.isOut, Bool.or_eq_false_iff, Option.isSome_eq_false_iff,
    Option.isNone_iff_eq_none] at hout
  have hall : w.errors.filter (fun e => e.1 ≤ deadline) = w.errors :=
    List.filter_eq_self.2 fun e he => decide_eq_true (Nat.le_trans (ht e he) hnow)
  unfold sinkErrorsAt
  dsimp only
  rw [if_neg (by simp [hout.2, hnow]), hall, hout.1]

/-- A worker of which it is not said that it came down or was given up has come through its life, and
all its errors are reported. -/
lemma sinkErrorsAt_of_clear {deadline : Instant} {w : SinkWorker}
    (hcrash : ∀ message, "sink worker failed: " ++ crashText message ∉ sinkErrorsAt deadline w)
    (htime : "sink worker did not finish within the drain timeout" ∉ sinkErrorsAt deadline w) :
    w.isOut = false ∧ (w.Timely → sinkErrorsAt deadline w = w.errors.map Prod.snd) := by
  have hclear : w.isOut = false ∧ w.now ≤ deadline := by
    unfold sinkErrorsAt at hcrash htime
    dsimp only at hcrash htime
    by_cases hlate : w.held || deadline < w.now
    · rw [if_pos hlate] at htime
      exact absurd (List.mem_concat_self) htime
    · rw [if_neg hlate] at hcrash
      simp only [Bool.or_eq_true, decide_eq_true_eq, not_or, Bool.not_eq_true, Nat.not_lt] at hlate
      cases hc : w.crash with
      | some message =>
        rw [hc] at hcrash
        exact absurd (List.mem_concat_self) (hcrash message)
      | none => exact ⟨by simp [SinkWorker.isOut, hc, hlate.1], hlate.2⟩
  exact ⟨hclear.1, fun ht => sinkErrorsAt_of_ended hclear.1 ht hclear.2⟩

/-- Readers of one stream at most send what they add to the buffer. -/
lemma Crew.sends_eq_reads {buffer : OutputBuffer} {traces : List Trace} {ls : List CrewStep}
    {c : Crew} (h : (start buffer traces).run ls = some c)
    (hdone : ∀ r ∈ c.readers, r.owed = none) (hone : traces.length ≤ 1) :
    sends ls = reads ls := by
  refine eq_of_prefix_of_part ((kept_run h).prefix_of_not_overtaken ?_) (part_sends h hdone)
  -- two readers take part in an overtaking
  rintro ⟨pre, mid, post, i, j, first, second, moment, hmoves, hij, -, -⟩
  have hi := lt_length_of_run h (p := (i, .take (.chunk first))) (by rw [hmoves]; simp)
  have hj := lt_length_of_run h (p := (j, .send second moment)) (by rw [hmoves]; simp)
  simp only [start, List.length_map] at hi hj
  omega

variable {buffer : OutputBuffer} {traces : List Trace} {worker : SinkWorker}
  {called deadline : Instant} {wallClock : Instant → Timestamp}

/-- What a pump of one stream has captured is what it has sent to the sinks. -/
lemma finishBy_sent (hone : traces.length ≤ 1) :
    (finishBy buffer traces worker called deadline wallClock).state.buffer.data = buffer.data ++
      ((finishBy buffer traces worker called deadline wallClock).state.sent.map
        Prod.snd).flatten := by
  obtain ⟨ls, c, errors, hc, hend, hstate, -⟩ :=
    finishBy_run buffer traces worker called deadline wallClock
  have hdata := (Crew.grew_run hc).data
  have hsent := (Crew.open_start buffer traces).sent_run hc
  have hfresh : (Crew.start buffer traces).state.sent = [] := by
    simp only [Crew.start, PumpState.start]
    split <;> rfl
  rw [hfresh, List.map_nil, List.nil_append,
    Crew.sends_eq_reads hc (fun r hr => (hend r hr).2) hone] at hsent
  rw [← map_snd_pick, Crew.start, (PumpState.start_fresh _ _).1] at hdata
  rw [hstate]
  change c.state.buffer.data = buffer.data ++ (c.state.sent.map Prod.snd).flatten
  rw [hsent]
  exact hdata

/-- **A pump that says nothing against a file has written it in full.** What was captured of one stream
stands at the end of the file, whatever the chunks were and whatever the other sinks have done. -/
theorem finishBy_transcribed {path : String} {place : List String} {previous : Bytes}
    {executable : Bool} (hone : traces.length ≤ 1) (hnew : worker.errors = [])
    (hw : worker.Transcribes path place previous executable)
    (hclear : (finishBy buffer traces worker called deadline wallClock).status.Clears
      ("file:" ++ path)) :
    ∃ captured,
      (finishBy buffer traces worker called deadline wallClock).state.buffer.data =
        buffer.data ++ captured ∧
      (finishBy buffer traces worker called deadline wallClock).worker.files.entryAt place =
        some (.file (previous ++ captured) executable) := by
  refine ⟨_, finishBy_sent hone, ?_⟩
  obtain ⟨pump, hpump⟩ : ∃ pump, finishBy buffer traces worker called deadline wallClock = pump :=
    ⟨_, rfl⟩
  obtain ⟨joined, hworker, herrors⟩ : ∃ joined, pump.worker = worker.run pump.state.sent joined ∧
      pump.status.sinkErrors =
        if pump.worker.sinks.isEmpty then [] else sinkErrorsAt deadline pump.worker := by
    subst hpump
    exact ⟨_, rfl, rfl⟩
  rw [hpump] at hclear ⊢
  have hsome : pump.worker.sinks.isEmpty = false := by
    obtain ⟨before, t, after, hsinks, -⟩ := hw
    have hlength := SinkWorker.length_run worker pump.state.sent joined
    rw [← hworker, hsinks] at hlength
    cases hnil : pump.worker.sinks with
    | nil => simp [hnil] at hlength
    | cons sink rest => rfl
  rw [hsome, if_neg Bool.false_ne_true] at herrors
  obtain ⟨hnoError, hnoCrash, hinTime⟩ := hclear
  rw [herrors] at hnoError hnoCrash hinTime
  obtain ⟨hout, hall⟩ := sinkErrorsAt_of_clear hnoCrash hinTime
  rw [hworker] at hout hall hnoError ⊢
  obtain ⟨-, -, htimely⟩ := SinkWorker.run_errors hout
  rw [hall (htimely (by simp [SinkWorker.Timely, hnew]))] at hnoError
  exact hw.run hout hnoError

end Output
end GuestHarness
