import GuestHarness.Lifecycle
import Mathlib.Data.List.Chain
import Mathlib.Data.List.Nodup
import Mathlib.Data.List.Perm.Subperm

/-!
The life of a session under any calls, of which some are refused. A call that is allowed adds one
move to the history and one that is refused adds nothing, so the history is a path from the first
state to the present one. Every move goes up a ladder of five rungs, and so no state is entered
twice and the history has four moves at most.
-/

namespace GuestHarness

/-! ### The ladder -/

namespace SessionState

/-- The rung on which a state stands. The two states in which a session has ended stand at the top.
-/
def rung : SessionState → Nat
  | created => 0
  | launched => 1
  | sequencing => 2
  | terminating => 3
  | done => 4
  | failed => 4

/-- A session in this state has ended. -/
def isFinal : SessionState → Bool
  | done => true
  | failed => true
  | _ => false

variable {s t : SessionState}

lemma rung_lt_of_allows (h : s.allows t = true) : s.rung < t.rung := by
  revert h
  cases s <;> cases t <;> decide

lemma rung_le (s : SessionState) : s.rung ≤ 4 := by cases s <;> decide

lemma eq_terminating_of_allows_done (h : s.allows .done = true) : s = .terminating := by
  revert h
  cases s <;> decide

lemma allows_of_isFinal (h : s.isFinal = true) (t : SessionState) : s.allows t = false := by
  revert h
  cases s <;> cases t <;> decide

/-- On a path that the moves allow, no state comes twice. -/
lemma nodup_of_isChain {path : List SessionState} (h : path.IsChain fun s t => s.allows t = true) :
    (path.map rung).Nodup := by
  have hclimb : (path.map rung).IsChain (· < ·) := by
    rw [List.isChain_map]
    exact h.imp fun _ _ => rung_lt_of_allows
  exact hclimb.pairwise.imp Nat.ne_of_lt

/-- Such a path has as many states as the ladder has rungs, at most. -/
lemma length_le_of_isChain {path : List SessionState}
    (h : path.IsChain fun s t => s.allows t = true) : path.length ≤ 5 := by
  have hrungs : path.map rung ⊆ List.range 5 := by
    intro n hn
    obtain ⟨s, -, rfl⟩ := List.mem_map.1 hn
    exact List.mem_range.2 (Nat.lt_succ_of_le s.rung_le)
  have hle := ((nodup_of_isChain h).subperm hrungs).length_le
  rwa [List.length_map, List.length_range] at hle

end SessionState

namespace Lifecycle

/-! ### Calls -/

/-- A call: a move to any state for any reason, or one of the moves that have a reason of their own.
-/
inductive Call where
  | move (target : SessionState) (timestamp : Timestamp) (reason : Option String)
  | launched (timestamp : Timestamp) (pid : Nat)
  | sequencing (timestamp : Timestamp) (steps : Nat)
  | terminating (timestamp : Timestamp) (reason : String)
  | done (timestamp : Timestamp) (outcome : String)
  | failed (timestamp : Timestamp) (reason : String)

namespace Call

/-- The state that is asked for. -/
def target : Call → SessionState
  | move target _ _ => target
  | launched _ _ => .launched
  | sequencing _ _ => .sequencing
  | terminating _ _ => .terminating
  | done _ _ => .done
  | failed _ _ => .failed

/-- The move that is made of a state if the call is not refused. -/
def transition (source : SessionState) : Call → Transition
  | move target timestamp reason => ⟨source, target, timestamp, reason⟩
  | launched timestamp pid =>
    ⟨source, .launched, timestamp, some ("Target spawned with pid " ++ Text.decimal pid)⟩
  | sequencing timestamp steps =>
    ⟨source, .sequencing, timestamp, some ("Running " ++ Text.decimal steps ++ " command steps")⟩
  | terminating timestamp reason => ⟨source, .terminating, timestamp, some reason⟩
  | done timestamp outcome => ⟨source, .done, timestamp, some outcome⟩
  | failed timestamp reason => ⟨source, .failed, timestamp, some reason⟩

/-- What becomes of a session that is called. -/
def perform (l : Lifecycle) : Call → Except HarnessError Lifecycle
  | move target timestamp reason => l.moveTo target timestamp reason
  | launched timestamp pid => l.toLaunched timestamp pid
  | sequencing timestamp steps => l.toSequencing timestamp steps
  | terminating timestamp reason => l.toTerminating timestamp reason
  | done timestamp outcome => l.toDone timestamp outcome
  | failed timestamp reason => l.toFailed timestamp reason

end Call

/-- The answer to a call, and the session after it: as it was, if the call is refused. -/
def answer (l : Lifecycle) (c : Call) : Except HarnessError Unit × Lifecycle :=
  match c.perform l with
  | .ok l' => (.ok (), l')
  | .error e => (.error e, l)

/-- The answers to calls that are made one after the other, and the session after them. -/
def answers (l : Lifecycle) : List Call → List (Except HarnessError Unit) × Lifecycle
  | [] => ([], l)
  | c :: rest =>
    let (a, l) := l.answer c
    let (as, l) := l.answers rest
    (a :: as, l)

variable {l : Lifecycle}

/-- **Whatever is called, the table of moves decides**, and all calls with one state to move to are
alike but for the reason. -/
lemma answer_eq (l : Lifecycle) (c : Call) :
    l.answer c = if l.state.allows c.target then
        (.ok (), ⟨c.target, l.history ++ [c.transition l.state]⟩)
      else (.error (l.refusal c.target), l) := by
  have hmove : ∀ target timestamp reason, l.answer (.move target timestamp reason) =
      if l.state.allows target then
        (.ok (), ⟨target, l.history ++ [⟨l.state, target, timestamp, reason⟩]⟩)
      else (.error (l.refusal target), l) := by
    intro target timestamp reason
    simp only [answer, Call.perform, moveTo]
    by_cases hallowed : l.state.allows target = true <;> simp [hallowed]
  cases c <;> exact hmove ..

/-! ### What every call keeps -/

/-- The states that a session has been in, the first one first. -/
def visited (l : Lifecycle) : List SessionState := .created :: l.history.map Transition.target

/-- The history is a path from the first state to the present one. Each move leaves the state that
the move before it entered, and the last one entered the present state. -/
structure IsPath (l : Lifecycle) : Prop where
  linked : l.history.map Transition.source ++ [l.state] = l.visited
  allowed : ∀ t ∈ l.history, t.source.allows t.target = true
  chain : l.visited.IsChain fun s t => s.allows t = true

lemma isPath_fresh : fresh.IsPath := by
  refine ⟨rfl, ?_, List.isChain_singleton _⟩
  intro t ht
  cases ht

/-- One call keeps the path, be it refused or not. -/
lemma IsPath.answer (h : l.IsPath) (c : Call) : (l.answer c).2.IsPath := by
  rw [answer_eq]
  split
  · next hallowed =>
    have hsource : (c.transition l.state).source = l.state := by cases c <;> rfl
    have htarget : (c.transition l.state).target = c.target := by cases c <;> rfl
    have hvisited : (⟨c.target, l.history ++ [c.transition l.state]⟩ : Lifecycle).visited =
        l.visited ++ [c.target] := by
      simp [visited, htarget]
    refine ⟨?_, ?_, ?_⟩
    · rw [hvisited, ← h.linked, List.map_append, List.map_singleton, hsource]
    · intro t ht
      rcases List.mem_append.1 ht with ht | ht
      · exact h.allowed t ht
      · obtain rfl := List.mem_singleton.1 ht
        rw [hsource, htarget]
        exact hallowed
    · rw [hvisited, List.isChain_append]
      refine ⟨h.chain, List.isChain_singleton _, ?_⟩
      -- the last state of the path is the present one
      intro s hs t ht
      rw [← h.linked, List.getLast?_concat] at hs
      cases hs
      cases ht
      exact hallowed
  · exact h

/-- So do any number of calls. -/
lemma IsPath.answers (h : l.IsPath) (cs : List Call) : (l.answers cs).2.IsPath := by
  induction cs generalizing l with
  | nil => exact h
  | cons c rest ih => exact ih (h.answer c)

/-- A session that has ended refuses every call and stays as it is. -/
lemma answers_of_isFinal (h : l.state.isFinal = true) (cs : List Call) :
    l.answers cs = (cs.map fun c => .error (l.refusal c.target), l) := by
  induction cs with
  | nil => rfl
  | cons c rest ih =>
    have hrefused : l.answer c = (.error (l.refusal c.target), l) := by
      rw [answer_eq, SessionState.allows_of_isFinal h]
      rfl
    rw [answers, hrefused]
    dsimp only
    rw [ih, List.map_cons]

/-- A session can be run as long as it has not moved. -/
lemma IsPath.canRun_iff (h : l.IsPath) : l.canRun = true ↔ l.history = [] := by
  have hstate : l.canRun = true ↔ l.state = .created := by simp [canRun]
  rw [hstate]
  constructor
  · intro hcreated
    -- a path that comes back to the first state would enter it twice
    have hnodup := SessionState.nodup_of_isChain h.chain
    rw [← h.linked, hcreated] at hnodup
    cases hhistory : l.history with
    | nil => rfl
    | cons t rest =>
      have hfirst : t.source = .created := by
        have hlinked := h.linked
        rw [hhistory, visited] at hlinked
        exact (List.cons.inj hlinked).1
      simp [hhistory, hfirst] at hnodup
  · intro hnone
    have hlinked := h.linked
    rw [visited, hnone] at hlinked
    exact (List.cons.inj hlinked).1

/-! ### Any calls -/

/-- **A session goes its way whatever is called.** After any calls on a fresh session each move of
the history starts where the one before it arrived, the first one in the first state, and the
present state is where the last one arrived. Every move is allowed, no state is entered twice and
the first one never again, there are four moves at most, and only a session that was terminating is
done. A session can be run exactly as long as it has not moved. Any further call that is allowed is
recorded; one that is not is refused with the state that it asks for and the present one, and leaves
the session as it was; and once the session is done or has failed, it refuses all that follow. -/
theorem answers_orderly (cs : List Call) :
    let l := (fresh.answers cs).2
    let entered := l.history.map Transition.target
    l.history.map Transition.source ++ [l.state] = .created :: entered ∧
      (∀ t ∈ l.history, t.source.allows t.target = true ∧
        (t.target = .done → t.source = .terminating)) ∧
      (SessionState.created :: entered).Nodup ∧
      l.history.length ≤ 4 ∧
      (l.canRun = true ↔ l.history = []) ∧
      (∀ c : Call, l.answer c = if l.state.allows c.target then
          (.ok (), ⟨c.target, l.history ++ [c.transition l.state]⟩)
        else
          (.error (.invalidState ("a state that can move to " ++ c.target.name) l.state.name), l)) ∧
      (l.state = .done ∨ l.state = .failed → ∀ more : List Call, l.answers more =
        (more.map fun c => .error
          (.invalidState ("a state that can move to " ++ c.target.name) l.state.name), l)) := by
  intro l entered
  have hpath : l.IsPath := isPath_fresh.answers cs
  have hlength : l.visited.length ≤ 5 := SessionState.length_le_of_isChain hpath.chain
  refine ⟨hpath.linked, ?_, ?_, ?_, hpath.canRun_iff, l.answer_eq, ?_⟩
  · intro t ht
    refine ⟨hpath.allowed t ht, ?_⟩
    intro hdone
    apply SessionState.eq_terminating_of_allows_done
    rw [← hdone]
    exact hpath.allowed t ht
  · exact List.Nodup.of_map _ (SessionState.nodup_of_isChain hpath.chain)
  · rw [visited, List.length_cons, List.length_map] at hlength
    omega
  · intro hend
    apply answers_of_isFinal
    rcases hend with hend | hend <;> rw [hend] <;> rfl

end Lifecycle
end GuestHarness
