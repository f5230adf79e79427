import GuestHarness.Output.Sink
import Mathlib.Data.List.Forall2
import Mathlib.Data.List.Induction

/-!
What the worker hands to the sinks. Unless a sink brings it down or holds it, the worker makes each of
its calls on every sink, so that each of them is given all chunks, one after the other and in the
order in which they were sent, and is flushed after the last.
-/

namespace GuestHarness.Output

/-- The call comes back, with or without an error. -/
def SinkReply.comesBack : SinkReply → Bool
  | ok => true
  | failed _ => true
  | crashed _ => false
  | hangs => false

/-- The error that a call comes back with. -/
def SinkReply.error? : SinkReply → Option HarnessError
  | failed e => some e
  | _ => none

/-- The sink has been given these chunks, one after the other. -/
inductive Sink.Handed : List Bytes → Sink → Sink → Prop
  | nil (s : Sink) : Handed [] s s
  | snoc {chunks : List Bytes} {s t : Sink} (h : Handed chunks s t) (chunk : Bytes)
      (files : FileTree) : Handed (chunks ++ [chunk]) s (t.write chunk files).2.1

/-- The sink has been given these chunks, and was then flushed. -/
def Sink.Served (chunks : List Bytes) (s s' : Sink) : Prop :=
  ∃ t files, Handed chunks s t ∧ s' = (t.flush files).2.1

lemma Sink.Handed.echo {chunks : List Bytes} {shown : Bytes} {s : Sink}
    (h : Handed chunks (.echo shown) s) : s = .echo (shown ++ chunks.flatten) := by
  generalize hs : Sink.echo shown = s₀ at h
  induction h with
  | nil => simp [← hs]
  | snoc h chunk files ih => simp [ih hs, Sink.write]

/-- A sink that echoes has shown the chunks in their order. -/
theorem Sink.Served.echo {chunks : List Bytes} {shown : Bytes} {s : Sink}
    (h : Served chunks (.echo shown) s) : s = .echo (shown ++ chunks.flatten) := by
  obtain ⟨t, files, ht, rfl⟩ := h
  rw [ht.echo, Sink.flush]

lemma forall₂_comp {α β γ : Type} {R : α → β → Prop} {S : β → γ → Prop} {T : α → γ → Prop}
    {as : List α} {bs : List β} {cs : List γ} (h : List.Forall₂ R as bs)
    (h' : List.Forall₂ S bs cs) (hT : ∀ a b c, R a b → S b c → T a c) :
    List.Forall₂ T as cs := by
  induction h generalizing cs with
  | nil => cases h'; exact .nil
  | cons hr _ ih =>
    obtain _ | ⟨hs, hrest⟩ := h'
    exact .cons (hT _ _ _ hr hs) (ih hrest)

namespace SinkWorker

variable {call : FileTree → Sink → SinkReply × Sink × FileTree} {cost : Sink → Nat}

/-- One call of a worker that goes on: it has come back, the sink and the files are as the call left
them, and an error is recorded under the name of the sink. -/
lemma go_call {w : SinkWorker} {sink : Sink} {sinks served : List Sink}
    (h : (serve.go call cost w (sink :: sinks) served).isOut = false) :
    (call w.files sink).1.comesBack ∧ ∃ w',
      serve.go call cost w (sink :: sinks) served =
        serve.go call cost w' sinks ((call w.files sink).2.1 :: served) ∧
      w'.files = (call w.files sink).2.2 ∧ w'.now = w.now + cost sink ∧
      w'.errors = w.errors ++ ((call w.files sink).1.error?.map fun e =>
        (w.now + cost sink, sink.name ++ ": " ++ e.message)).toList := by
  obtain ⟨⟨reply, sink', files⟩, hcall⟩ : ∃ r, call w.files sink = r := ⟨_, rfl⟩
  rw [serve.go, hcall] at h ⊢
  cases reply with
  | ok =>
    exact ⟨rfl, { w with now := w.now + cost sink, files := files }, rfl, rfl, rfl,
      (List.append_nil _).symm⟩
  | failed e =>
    exact ⟨rfl, { w with
      now := w.now + cost sink, files := files
      errors := w.errors ++ [(w.now + cost sink, sink.name ++ ": " ++ e.message)] },
      rfl, rfl, rfl, rfl⟩
  | crashed message => simp [isOut] at h
  | hangs => simp [isOut] at h

/-- A worker that is not out has made its call on each sink. -/
lemma go_sinks (w : SinkWorker) (sinks served : List Sink)
    (h : (serve.go call cost w sinks served).isOut = false) :
    ∃ sinks', (serve.go call cost w sinks served).sinks = served.reverse ++ sinks' ∧
      List.Forall₂ (fun s s' => ∃ files, s' = (call files s).2.1) sinks sinks' := by
  induction sinks generalizing w served with
  | nil => exact ⟨[], (List.append_nil _).symm, .nil⟩
  | cons sink rest ih =>
    obtain ⟨-, w', hgo, -⟩ := go_call h
    rw [hgo] at h ⊢
    obtain ⟨sinks', hs, hall⟩ := ih w' _ h
    exact ⟨_ :: sinks', by simpa using hs, .cons ⟨_, rfl⟩ hall⟩

lemma serve_sinks {w : SinkWorker} (h : (serve call cost w).isOut = false) :
    List.Forall₂ (fun s s' => ∃ files, s' = (call files s).2.1) w.sinks
      (serve call cost w).sinks := by
  obtain ⟨sinks', hs, hall⟩ := go_sinks w w.sinks [] h
  rw [serve, hs]
  simpa using hall

lemma isOut_of_takeChunk {w : SinkWorker} {moment : Instant} {chunk : Bytes}
    (h : (w.takeChunk moment chunk).isOut = false) : w.isOut = false := by
  cases ho : w.isOut with
  | false => rfl
  | true => rw [takeChunk, if_pos ho, ho] at h; cases h

lemma isOut_of_finish {w : SinkWorker} {closed : Instant} (h : (w.finish closed).isOut = false) :
    w.isOut = false := by
  cases ho : w.isOut with
  | false => rfl
  | true => rw [finish, if_pos ho, ho] at h; cases h

/-- A worker that has come through its life has served every sink with all chunks. -/
theorem run_served {w : SinkWorker} {chunks : List (Instant × Bytes)} {closed : Instant}
    (h : (w.run chunks closed).isOut = false) :
    List.Forall₂ (Sink.Served (chunks.map Prod.snd)) w.sinks (w.run chunks closed).sinks := by
  have hhanded : ∀ chunks : List (Instant × Bytes),
      (chunks.foldl (fun w c => w.takeChunk c.1 c.2) w).isOut = false →
      List.Forall₂ (Sink.Handed (chunks.map Prod.snd)) w.sinks
        (chunks.foldl (fun w c => w.takeChunk c.1 c.2) w).sinks := fun chunks ho => by
    induction chunks using List.reverseRecOn with
    | nil => exact List.forall₂_same.2 fun s _ => .nil s
    | append_singleton chunks c ih =>
      simp only [List.foldl_append, List.foldl_cons, List.foldl_nil, List.map_append, List.map_cons,
        List.map_nil] at ho ⊢
      have hbefore := isOut_of_takeChunk ho
      rw [takeChunk, hbefore] at ho ⊢
      refine forall₂_comp (ih hbefore) (serve_sinks ho) ?_
      rintro s t u hst ⟨files, rfl⟩
      exact .snoc hst c.2 files
  set before := chunks.foldl (fun w c => w.takeChunk c.1 c.2) w with hb
  have hrun : w.run chunks closed = before.finish closed := rfl
  rw [hrun] at h ⊢
  have ho : before.isOut = false := by
    cases ho : before.isOut with
    | false => rfl
    | true => rw [finish, if_pos ho, ho] at h; cases h
  rw [finish, ho] at h ⊢
  refine forall₂_comp (hhanded chunks ho) (serve_sinks h) ?_
  rintro s t u hst ⟨files, rfl⟩
  exact ⟨t, files, hst, rfl⟩

end SinkWorker
end GuestHarness.Output
