import GuestHarness.Proofs.Interleaving
import GuestHarness.Proofs.Output.Transcript

/-!
The calls that the worker makes on the sinks. Unless a sink brings it down or holds it, they are
fixed in advance by the number of sinks and the chunks: each chunk is handed to each sink in turn, and
then each sink is flushed. What a sink replies has no part in it. A failure only becomes an error
under the name of the sink, and the errors come in the order of the calls.
-/

namespace GuestHarness.Output

/-! ### Calls -/

/-- A call on a sink. -/
inductive SinkCall where
  | write (chunk : Bytes)
  | flush
deriving DecidableEq

/-- What a call on a sink comes to. -/
def SinkCall.perform : SinkCall → FileTree → Sink → SinkReply × Sink × FileTree
  | write chunk, files, s => s.write chunk files
  | flush, files, s => s.flush files

/-- Every call on the sink comes back. -/
def Sink.Steady : Sink → Prop
  | .scripted s => (∀ n, (s.onWrite n).comesBack) ∧ s.onFlush.comesBack
  | _ => True

/-- Calls that were made on a row of sinks, each marked with the number of its sink, and their
replies. -/
abbrev CallLog := List (Nat × SinkCall × SinkReply)

/-- The calls of a log have been made, one after the other and each on its sink as it then was, and
each has come back with the reply in the log. -/
inductive Performed : List Sink → FileTree → CallLog → List Sink → FileTree → Prop
  | nil (sinks : List Sink) (files : FileTree) : Performed sinks files [] sinks files
  | cons {sinks sinks' : List Sink} {files files₁ files' : FileTree} {i : Nat} {call : SinkCall}
      {reply : SinkReply} {s s' : Sink} {log : CallLog} (hs : sinks[i]? = some s)
      (h : call.perform files s = (reply, s', files₁)) (hback : reply.comesBack)
      (rest : Performed (sinks.set i s') files₁ log sinks' files') :
      Performed sinks files ((i, call, reply) :: log) sinks' files'

/-- The calls of a log, without their replies. -/
def CallLog.calls (log : CallLog) : List (Nat × SinkCall) := log.map fun e => (e.1, e.2.1)

/-- The error that an entry of a log stands for, given the names of the sinks. -/
def complaint? (names : List String) : Nat × SinkCall × SinkReply → Option String
  | (i, _, reply) => reply.error?.bind fun e => names[i]?.map fun name => name ++ ": " ++ e.message

/-- One call on each of so many sinks in turn. -/
def callEach (n : Nat) (call : SinkCall) : List (Nat × SinkCall) :=
  (List.range n).map fun i => (i, call)

/-- The calls that so many sinks are due for some chunks. -/
def agenda (n : Nat) (chunks : List Bytes) : List (Nat × SinkCall) :=
  chunks.flatMap (fun chunk => callEach n (.write chunk)) ++ callEach n .flush

section Calls

variable {sinks sinks' sinks'' : List Sink} {files files' files'' : FileTree} {log log' : CallLog}
  {n i : Nat}

/-- No call changes the name of a sink. -/
lemma name_perform (call : SinkCall) (files : FileTree) (s : Sink) :
    (call.perform files s).2.1.name = s.name := by
  cases call with
  | write chunk =>
    cases s with
    | transcript t => exact congrArg ("file:" ++ ·) (t.write_stays chunk files).1
    | echo shown => rfl
    | scripted s => rfl
  | flush => cases s <;> rfl

lemma comesBack_ofError (error : Option IoError) : (SinkReply.ofError error).comesBack := by
  cases error <;> rfl

lemma Sink.Steady.perform {s : Sink} (h : s.Steady) (call : SinkCall) (files : FileTree) :
    (call.perform files s).1.comesBack ∧ (call.perform files s).2.1.Steady := by
  cases s with
  | transcript t => cases call <;> exact ⟨comesBack_ofError _, trivial⟩
  | echo shown => cases call <;> exact ⟨rfl, trivial⟩
  | scripted s =>
    cases call with
    | write chunk => exact ⟨h.1 s.writes, h⟩
    | flush => exact ⟨h.2, h⟩

lemma map_name_set {s s' : Sink} (hs : sinks[i]? = some s) (hname : s'.name = s.name) :
    (sinks.set i s').map Sink.name = sinks.map Sink.name := by
  obtain ⟨hi, rfl⟩ := List.getElem?_eq_some_iff.1 hs
  rw [List.map_set, hname, ← List.map_set, List.set_getElem_self]

lemma Performed.names (h : Performed sinks files log sinks' files') :
    sinks'.map Sink.name = sinks.map Sink.name := by
  induction h with
  | nil => rfl
  | @cons sinks _ files _ _ i call _ s s' _ hs h _ _ ih =>
    have hname := name_perform call files s
    rw [h] at hname
    rw [ih, map_name_set hs hname]

lemma Performed.trans (h : Performed sinks files log sinks' files')
    (h' : Performed sinks' files' log' sinks'' files'') :
    Performed sinks files (log ++ log') sinks'' files'' := by
  induction h with
  | nil => exact h'
  | cons hs hcall hback rest ih => exact .cons hs hcall hback (ih h')

lemma calls_append : CallLog.calls (log ++ log') = log.calls ++ log'.calls := List.map_append

lemma agenda_cons (chunk : Bytes) (chunks : List Bytes) :
    agenda n (chunk :: chunks) = callEach n (.write chunk) ++ agenda n chunks := by
  rw [agenda, List.flatMap_cons, List.append_assoc, ← agenda]

lemma part_callEach (n i : Nat) (call : SinkCall) :
    part i (callEach n call) = if i < n then [call] else [] := by
  induction n with
  | zero => rfl
  | succ n ih =>
    rw [callEach, List.range_succ, List.map_append, part_append, ← callEach, ih, List.map_singleton,
      part_cons]
    by_cases hi : n = i
    · simp [hi]
    · by_cases hlt : i < n
      · simp [hi, hlt, Nat.lt_succ_of_lt hlt]
      · simp [hi, hlt, show ¬ i < n + 1 by omega]

/-- **Each sink is due each chunk once, in their order, and then one flush.** -/
theorem part_agenda (h : i < n) (chunks : List Bytes) :
    part i (agenda n chunks) = chunks.map .write ++ [.flush] := by
  induction chunks with
  | nil => exact (part_callEach n i .flush).trans (if_pos h)
  | cons chunk chunks ih =>
    rw [agenda_cons, part_append, part_callEach, if_pos h, ih]
    rfl

end Calls

/-! ### The worker -/

namespace SinkWorker

variable {w : SinkWorker} {sink : Sink} {sinks served : List Sink} {call : SinkCall}
  {cost : Sink → Nat}

/-- What a worker has done that made the calls of a log. -/
structure Made (log : CallLog) (w w' : SinkWorker) : Prop where
  performed : Performed w.sinks w.files log w'.sinks w'.files
  errors : w'.errors.map Prod.snd =
    w.errors.map Prod.snd ++ log.filterMap (complaint? (w.sinks.map Sink.name))

lemma Made.trans {log log' : CallLog} {w' w'' : SinkWorker} (h : Made log w w')
    (h' : Made log' w' w'') : Made (log ++ log') w w'' := by
  refine ⟨h.performed.trans h'.performed, ?_⟩
  rw [h'.errors, h.errors, h.performed.names, List.filterMap_append, List.append_assoc]

lemma Made.length {log : CallLog} {w' : SinkWorker} (h : Made log w w') :
    w'.sinks.length = w.sinks.length := by
  simpa using congrArg List.length h.performed.names

/-- One round of calls, on the sinks that are left. -/
lemma go_made (h : (serve.go call.perform cost w sinks served).isOut = false) :
    ∃ log : CallLog, log.calls = (List.range' served.length sinks.length).map (fun i => (i, call)) ∧
      Made log { w with sinks := served.reverse ++ sinks }
        (serve.go call.perform cost w sinks served) := by
  induction sinks generalizing w served with
  | nil =>
    refine ⟨[], rfl, ?_, (List.append_nil _).symm⟩
    rw [List.append_nil]
    exact .nil _ _
  | cons sink sinks ih =>
    have hsink : (served.reverse ++ sink :: sinks)[served.length]? = some sink := by simp
    obtain ⟨hback, w', hgo, hfiles, -, herrors⟩ := go_call h
    rw [hgo] at h ⊢
    obtain ⟨log, hlog, hmade⟩ := ih h
    obtain ⟨⟨reply, sink', files⟩, hcall⟩ : ∃ r, call.perform w.files sink = r := ⟨_, rfl⟩
    have hname := name_perform call w.files sink
    rw [hcall] at hback hfiles herrors hmade hname ⊢
    obtain rfl : w'.files = files := hfiles
    have hset : (served.reverse ++ sink :: sinks).set served.length sink' =
        (sink' :: served).reverse ++ sinks := by
      rw [List.set_append_right _ _ (Nat.le_of_eq served.length_reverse)]
      simp
    have hnames := map_name_set hsink hname
    rw [hset] at hnames
    have hcomplaint : complaint? ((served.reverse ++ sink :: sinks).map Sink.name)
        (served.length, call, reply) =
          reply.error?.map fun e => sink.name ++ ": " ++ e.message := by
      rw [complaint?, List.getElem?_map, hsink]
      cases reply <;> rfl
    refine ⟨(served.length, call, reply) :: log, ?_, ?_, ?_⟩
    · exact congrArg (List.cons (served.length, call)) hlog
    · refine .cons hsink hcall hback ?_
      rw [hset]
      exact hmade.performed
    · rw [hmade.errors]
      dsimp only
      rw [herrors, hnames, List.filterMap_cons, hcomplaint]
      cases reply.error? <;> simp

lemma serve_made (call : SinkCall) (h : (serve call.perform cost w).isOut = false) :
    ∃ log : CallLog, log.calls = callEach w.sinks.length call ∧
      Made log w (serve call.perform cost w) := by
  obtain ⟨log, hlog, hmade⟩ := go_made h
  refine ⟨log, ?_, hmade⟩
  rw [hlog, callEach, List.range_eq_range']
  rfl

lemma takeChunk_made {moment : Instant} {chunk : Bytes}
    (h : (w.takeChunk moment chunk).isOut = false) :
    ∃ log : CallLog, log.calls = callEach w.sinks.length (.write chunk) ∧
      Made log w (w.takeChunk moment chunk) := by
  have hout := isOut_of_takeChunk h
  rw [takeChunk, hout] at h ⊢
  obtain ⟨log, hlog, hmade⟩ := serve_made (.write chunk) h
  exact ⟨log, hlog, hmade.performed, hmade.errors⟩

lemma finish_made {closed : Instant} (h : (w.finish closed).isOut = false) :
    ∃ log : CallLog, log.calls = callEach w.sinks.length .flush ∧ Made log w (w.finish closed) := by
  have hout := isOut_of_finish h
  rw [SinkWorker.finish, hout] at h ⊢
  obtain ⟨log, hlog, hmade⟩ := serve_made .flush h
  exact ⟨log, hlog, hmade.performed, hmade.errors⟩

/-- **The worker keeps to its agenda.** A worker that has come through its life has made each of its
calls, whatever the replies were, and its errors are the failures among them, in their order. -/
theorem run_made {chunks : List (Instant × Bytes)} {closed : Instant}
    (h : (w.run chunks closed).isOut = false) :
    ∃ log : CallLog, log.calls = agenda w.sinks.length (chunks.map Prod.snd) ∧
      Made log w (w.run chunks closed) := by
  induction chunks generalizing w with
  | nil => exact finish_made h
  | cons c rest ih =>
    obtain ⟨log', hlog', hmade'⟩ := ih (w := w.takeChunk c.1 c.2) h
    obtain ⟨log, hlog, hmade⟩ := takeChunk_made (run_errors (w := w.takeChunk c.1 c.2) h).1
    refine ⟨log ++ log', ?_, hmade.trans hmade'⟩
    rw [calls_append, hlog, hlog', hmade.length, List.map_cons, agenda_cons]

/-- Sinks whose calls come back neither bring the worker down nor hold it. -/
lemma go_steady (call : SinkCall) (hs : ∀ s ∈ sinks, s.Steady) (hserved : ∀ s ∈ served, s.Steady)
    (hw : w.isOut = false) :
    (serve.go call.perform cost w sinks served).isOut = false ∧
      ∀ s ∈ (serve.go call.perform cost w sinks served).sinks, s.Steady := by
  induction sinks generalizing w served with
  | nil => exact ⟨hw, fun s hmem => hserved s (List.mem_reverse.1 hmem)⟩
  | cons sink sinks ih =>
    obtain ⟨hsink, hrest⟩ := List.forall_mem_cons.1 hs
    obtain ⟨⟨reply, sink', files⟩, hcall⟩ : ∃ r, call.perform w.files sink = r := ⟨_, rfl⟩
    obtain ⟨hback, hsink'⟩ := hsink.perform call w.files
    rw [hcall] at hback hsink'
    have hserved' := List.forall_mem_cons.2 ⟨hsink', hserved⟩
    rw [serve.go, hcall]
    cases reply with
    | ok => exact ih hrest hserved' hw
    | failed e => exact ih hrest hserved' hw
    | crashed message => cases hback
    | hangs => cases hback

lemma takeChunk_steady (hs : ∀ s ∈ w.sinks, s.Steady) (hw : w.isOut = false) (moment : Instant)
    (chunk : Bytes) :
    (w.takeChunk moment chunk).isOut = false ∧
      ∀ s ∈ (w.takeChunk moment chunk).sinks, s.Steady := by
  rw [takeChunk, hw]
  exact go_steady (.write chunk) hs (List.forall_mem_nil _) hw

lemma finish_steady (hs : ∀ s ∈ w.sinks, s.Steady) (hw : w.isOut = false) (closed : Instant) :
    (w.finish closed).isOut = false ∧ ∀ s ∈ (w.finish closed).sinks, s.Steady := by
  rw [SinkWorker.finish, hw]
  exact go_steady .flush hs (List.forall_mem_nil _) hw

end SinkWorker
end GuestHarness.Output
