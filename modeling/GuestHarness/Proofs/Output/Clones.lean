import GuestHarness.Output.Buffer
import GuestHarness.Proofs.Search

/-!
Buffers that are shared. A clone of a buffer is no copy: what is done through one clone is seen through
all. What a buffer holds is then what was added through any of its clones, in the order of the calls,
and nothing else: no byte is ever changed or taken away, and what is closed stays closed. So whatever
was seen through one clone is still there when one looks through another, and a pattern is found
exactly if it stands somewhere in all that was added, wherever it was cut and whichever clones its
parts came through.
-/

namespace GuestHarness.OutputBuffer

/-! ### What actions add up to -/

/-- The chunk that an action adds, if it adds one. -/
def Action.chunk? : Action → Option Bytes
  | append chunk => some chunk
  | close => none

/-- The chunks that are added, one after the other. -/
def chunks (actions : List Action) : List Bytes := actions.filterMap Action.chunk?

/-- How long the chunks are together. -/
def totalLength (cs : List Bytes) : Nat := cs.foldr (fun chunk n => chunk.length + n) 0

lemma length_flatten_eq (cs : List Bytes) : cs.flatten.length = totalLength cs := by
  induction cs with
  | nil => rfl
  | cons chunk cs ih => rw [List.flatten_cons, List.length_append, ih]; rfl

/-- Actions add their chunks at the end, and close the buffer if one of them does. -/
lemma foldl_apply (b : OutputBuffer) (actions : List Action) :
    actions.foldl apply b =
      ⟨b.data ++ (chunks actions).flatten, b.closed || decide (.close ∈ actions)⟩ := by
  induction actions generalizing b with
  | nil => simp [chunks]
  | cons a actions ih =>
    rw [List.foldl_cons, ih]
    cases a with
    | append chunk => simp [apply, append, chunks, Action.chunk?]
    | close => simp [apply, close, chunks, List.filterMap_cons, Action.chunk?]

/-! ### Clones -/

/-- Buffers and their clones. Every clone leads to one of the buffers, and all that lead to the same one
are clones of each other. -/
structure Sharing where
  buffers : List OutputBuffer
  clones : List Nat
  leads : ∀ r ∈ clones, r < buffers.length

namespace Sharing

/-- There are no buffers yet. -/
def fresh : Sharing := ⟨[], [], by simp⟩

/-- Makes a new buffer, with a clone that leads to it. -/
def create (s : Sharing) : Sharing where
  buffers := s.buffers ++ [empty]
  clones := s.clones ++ [s.buffers.length]
  leads := by
    intro r hr
    rw [List.length_append]
    obtain hr | hr := List.mem_append.1 hr
    · exact Nat.lt_add_right _ (s.leads r hr)
    · rw [List.mem_singleton.1 hr]
      exact Nat.lt_succ_self _

/-- Makes one more clone, which leads where the given one leads. -/
def clone (s : Sharing) (i : Nat) : Sharing where
  buffers := s.buffers
  clones := s.clones ++ s.clones[i]?.toList
  leads := by
    intro r hr
    obtain hr | hr := List.mem_append.1 hr
    · exact s.leads r hr
    · exact s.leads r (List.mem_of_getElem? (Option.mem_toList.1 hr))

/-- Does something through a clone, if there is such a clone. -/
def act (s : Sharing) (i : Nat) (a : Action) : Sharing where
  buffers :=
    match s.clones[i]? with
    | none => s.buffers
    | some r => s.buffers.modify r (apply · a)
  clones := s.clones
  leads := by
    intro r hr
    split <;> simpa using s.leads r hr

/-- A call: a buffer is made, a clone is made, or something is done through a clone. -/
inductive Call where
  | create
  | clone (i : Nat)
  | act (i : Nat) (a : Action)
deriving DecidableEq

/-- What a call does. -/
def perform (s : Sharing) : Call → Sharing
  | .create => s.create
  | .clone i => s.clone i
  | .act i a => s.act i a

/-- What calls do, one after the other. -/
def run (s : Sharing) (calls : List Call) : Sharing := calls.foldl perform s

/-- What is seen through a clone. -/
def seen (s : Sharing) (i : Nat) : Option OutputBuffer := s.clones[i]?.bind (s.buffers[·]?)

/-- What a call does to one of the buffers: what it does through a clone that leads there. -/
def Call.doneTo (s : Sharing) (r : Nat) : Call → List Action
  | act i a => if s.clones[i]? = some r then [a] else []
  | _ => []

/-- All that calls do to one of the buffers. -/
def history (s : Sharing) (r : Nat) : List Call → List Action
  | [] => []
  | c :: rest => c.doneTo s r ++ (s.perform c).history r rest

/-- One of the buffers. A buffer that has not been made yet is empty. -/
def buffer (s : Sharing) (r : Nat) : OutputBuffer := s.buffers[r]?.getD empty

variable {s : Sharing} {i r : Nat}

lemma seen_eq_buffer (h : s.clones[i]? = some r) : s.seen i = some (s.buffer r) := by
  have hr : r < s.buffers.length := s.leads r (List.mem_of_getElem? h)
  simp [seen, buffer, h, hr]

/-! ### What calls keep -/

/-- A clone leads to its buffer for ever. -/
lemma clones_perform (c : Call) (h : s.clones[i]? = some r) : (s.perform c).clones[i]? = some r := by
  have hi : i < s.clones.length := (List.getElem?_eq_some_iff.1 h).1
  cases c with
  | create => rwa [perform, create, List.getElem?_append_left hi]
  | clone j => rwa [perform, clone, List.getElem?_append_left hi]
  | act j a => exact h

lemma clones_run (calls : List Call) (h : s.clones[i]? = some r) :
    (s.run calls).clones[i]? = some r := by
  induction calls generalizing s with
  | nil => exact h
  | cons c calls ih => exact ih (clones_perform c h)

/-- A buffer that is made is as empty as it was before. -/
lemma buffer_create (s : Sharing) (r : Nat) : s.create.buffer r = s.buffer r := by
  simp only [create, buffer, List.getElem?_append]
  split
  · rfl
  · next hr =>
    rw [List.getElem?_eq_none (Nat.le_of_not_lt hr), List.getElem?_singleton]
    split <;> rfl

lemma buffer_act (s : Sharing) (i : Nat) (a : Action) (r : Nat) :
    (s.act i a).buffer r =
      if s.clones[i]? = some r then (s.buffer r).apply a else s.buffer r := by
  cases hi : s.clones[i]? with
  | none => simp [act, buffer, hi]
  | some q =>
    have hq : q < s.buffers.length := s.leads q (List.mem_of_getElem? hi)
    by_cases hr : q = r
    · subst hr
      simp [act, buffer, hi, hq]
    · simp [act, buffer, hi, hr]

/-- **A call changes a buffer by what it does through its clones**, and no other buffer. -/
lemma buffer_perform (s : Sharing) (c : Call) (r : Nat) :
    (s.perform c).buffer r = (c.doneTo s r).foldl apply (s.buffer r) := by
  cases c with
  | create => exact buffer_create s r
  | clone i => rfl
  | act i a =>
    rw [perform, buffer_act, Call.doneTo]
    split <;> rfl

lemma buffer_run (s : Sharing) (calls : List Call) (r : Nat) :
    (s.run calls).buffer r = (s.history r calls).foldl apply (s.buffer r) := by
  induction calls generalizing s with
  | nil => rfl
  | cons c calls ih =>
    have hstep : s.run (c :: calls) = (s.perform c).run calls := rfl
    rw [hstep, ih, buffer_perform, history, List.foldl_append]

/-- A buffer holds what was added through its clones, and is closed if it was closed through one. -/
lemma buffer_fresh (calls : List Call) (r : Nat) :
    (fresh.run calls).buffer r =
      ⟨(chunks (fresh.history r calls)).flatten, decide (.close ∈ fresh.history r calls)⟩ := by
  rw [buffer_run, foldl_apply]
  rfl

lemma data_prefix_run (s : Sharing) (calls : List Call) (r : Nat) :
    (s.buffer r).data <+: ((s.run calls).buffer r).data := by
  rw [buffer_run, foldl_apply]
  exact List.prefix_append _ _

lemma closed_run (calls : List Call) (h : (s.buffer r).closed = true) :
    ((s.run calls).buffer r).closed = true := by
  rw [buffer_run, foldl_apply]
  simp [h]

/-! ### What clones show -/

/-- **A buffer only grows, and all of its clones show the same.** What was seen through one clone is
the beginning of what is seen later through any other. This is the concatenation of all chunks that
were added through any clone of the buffer, and as long as they are together; it is closed if one of
them was ever used to close it, and then for ever; and a pattern is found, and from then on always, if
and only if it stands somewhere in the concatenation. -/
theorem clones_append_only (earlier later : List Call) {i j r : Nat}
    (hi : (fresh.run earlier).clones[i]? = some r)
    (hj : (fresh.run (earlier ++ later)).clones[j]? = (fresh.run (earlier ++ later)).clones[i]?) :
    let done := fresh.history r (earlier ++ later)
    ∃ b c, (fresh.run earlier).seen i = some b ∧ (fresh.run (earlier ++ later)).seen j = some c ∧
      b.data <+: c.data ∧ c.data = (chunks done).flatten ∧ c.length = totalLength (chunks done) ∧
      (b.closed = true → c.closed = true) ∧ (c.closed = true ↔ .close ∈ done) ∧
      ∀ pattern, (c.contains pattern = true ↔ pattern <:+: (chunks done).flatten) ∧
        (b.contains pattern = true → c.contains pattern = true) := by
  intro done
  have hrun : fresh.run (earlier ++ later) = (fresh.run earlier).run later := List.foldl_append
  have hlater : (fresh.run (earlier ++ later)).clones[i]? = some r := hrun ▸ clones_run later hi
  have hgrown := data_prefix_run (fresh.run earlier) later r
  have hclosed := closed_run (s := fresh.run earlier) (r := r) later
  rw [← hrun] at hgrown hclosed
  have hheld := buffer_fresh (earlier ++ later) r
  refine ⟨_, _, seen_eq_buffer hi, seen_eq_buffer (hj.trans hlater), hgrown, ?_, ?_, hclosed, ?_, ?_⟩
  · rw [hheld]
  · rw [hheld]
    exact length_flatten_eq _
  · rw [hheld]
    exact decide_eq_true_iff
  · intro pattern
    constructor
    · rw [hheld]
      exact occurs_iff
    · intro hfound
      exact occurs_iff.2 ((occurs_iff.1 hfound).trans hgrown.isInfix)

/-- The parts of a pattern come through different clones, and something is added to another buffer in
between. -/
theorem clones_append_only_cut :
    let earlier : List Call := [.create, .clone 0, .act 1 (.append [0x61, 0x62])]
    let later : List Call := [.create, .act 2 (.append [0x7a]), .clone 1, .act 3 (.append [0x63]),
      .act 0 .close]
    (fresh.run earlier).clones[0]? = some 0 ∧
      (fresh.run (earlier ++ later)).clones[3]? = (fresh.run (earlier ++ later)).clones[0]? ∧
      ∃ c, (fresh.run (earlier ++ later)).seen 3 = some c ∧ c.data = [0x61, 0x62, 0x63] ∧
        c.contains [0x62, 0x63] = true ∧ c.closed = true := by
  intro earlier later
  have hi : (fresh.run earlier).clones[0]? = some 0 := by decide
  have hj : (fresh.run (earlier ++ later)).clones[3]? =
      (fresh.run (earlier ++ later)).clones[0]? := by decide
  obtain ⟨b, c, -, hc, -, hdata, -, -, hclosed, hfound⟩ := clones_append_only earlier later hi hj
  have hchunks : (chunks (fresh.history 0 (earlier ++ later))).flatten = [0x61, 0x62, 0x63] := by
    decide
  refine ⟨hi, hj, c, hc, hdata.trans hchunks, (hfound [0x62, 0x63]).1.2 ?_, hclosed.2 (by decide)⟩
  rw [hchunks]
  exact ⟨[0x61], [], rfl⟩

end Sharing
end GuestHarness.OutputBuffer
