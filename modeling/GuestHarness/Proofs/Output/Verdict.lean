import GuestHarness.Proofs.Clock
import GuestHarness.Proofs.Search
import GuestHarness.Output.Buffer
import Mathlib.Order.Bounds.Basic

/-!
The verdict of a wait, and its moment. What others do to a buffer, each thing at a moment of its own,
says by itself when a pattern has arrived and when the buffer is closed: a wait finds the pattern at
the first of these moments, unless the buffer was closed before; it gives up at the moment of the
closing if the pattern has not arrived by then; and else it gives up at its deadline. However many
actions come in between that have nothing to do with the pattern, and into however many chunks it is
cut, nothing else counts.
-/

namespace GuestHarness.OutputBuffer

/-! ### The buffer as time goes by -/

section History

variable {b : OutputBuffer} {actions rest : List (Instant × Action)} {a : Instant × Action}
  {start m : Instant} {P : OutputBuffer → Prop}

/-- The buffer at a moment, when everything up to then has been done to it. -/
def after (b : OutputBuffer) (actions : List (Instant × Action)) (m : Instant) : OutputBuffer :=
  ((actions.filter (·.1 ≤ m)).map Prod.snd).foldl apply b

/-- The actions come one after the other, each at a moment of its own, and all of them after the
beginning. -/
def OneByOne (start : Instant) (actions : List (Instant × Action)) : Prop :=
  (start :: actions.map Prod.fst).Pairwise (· < ·)

instance : Decidable (OneByOne start actions) :=
  inferInstanceAs (Decidable (List.Pairwise _ _))

/-- The moments from the beginning on at which the buffer is as described. -/
def momentsOf (P : OutputBuffer → Prop) (b : OutputBuffer) (actions : List (Instant × Action))
    (start : Instant) : Set Instant :=
  {m | start ≤ m ∧ P (b.after actions m)}

lemma oneByOne_cons : OneByOne start (a :: rest) ↔ start < a.1 ∧ OneByOne a.1 rest := by
  obtain ⟨t, action⟩ := a
  simp only [OneByOne, List.map_cons, List.pairwise_cons, List.mem_cons]
  constructor
  · rintro ⟨hstart, ht, hrest⟩
    exact ⟨hstart t (.inl rfl), ht, hrest⟩
  · rintro ⟨hlt, ht, hrest⟩
    refine ⟨?_, ht, hrest⟩
    rintro u (rfl | hu)
    · exact hlt
    · exact Nat.lt_trans hlt (ht u hu)

/-- Nothing is done before the first of the actions. -/
lemma after_of_lt (h : OneByOne start (a :: rest)) (hm : m < a.1) : b.after (a :: rest) m = b := by
  have hnone : (a :: rest).filter (·.1 ≤ m) = [] := by
    rw [List.filter_eq_nil_iff]
    intro e he
    obtain rfl | he := List.mem_cons.1 he
    · simpa using hm
    · have := (List.pairwise_cons.1 (oneByOne_cons.1 h).2).1 e.1 (List.mem_map_of_mem he)
      simpa using Nat.lt_trans hm this
  rw [after, hnone]
  rfl

lemma after_of_le (h : a.1 ≤ m) : b.after (a :: rest) m = (b.apply a.2).after rest m := by
  rw [after, List.filter_cons_of_pos (by simpa using h)]
  rfl

lemma after_start (h : OneByOne start actions) : b.after actions start = b := by
  cases actions with
  | nil => rfl
  | cons a rest => exact after_of_lt h (oneByOne_cons.1 h).1

/-- A description that does not fit the buffer yet fits from the first action on, if it does. -/
lemma momentsOf_cons (h : OneByOne start (a :: rest)) (hb : ¬ P b) :
    momentsOf P b (a :: rest) start = momentsOf P (b.apply a.2) rest a.1 := by
  ext m
  constructor
  · rintro ⟨hm, hP⟩
    by_cases ha : a.1 ≤ m
    · rw [after_of_le ha] at hP
      exact ⟨ha, hP⟩
    · rw [after_of_lt h (Nat.lt_of_not_le ha)] at hP
      exact absurd hP hb
  · rintro ⟨ha, hP⟩
    refine ⟨Nat.le_trans (Nat.le_of_lt (oneByOne_cons.1 h).1) ha, ?_⟩
    rwa [after_of_le ha]

lemma isLeast_start (h : OneByOne start actions) (hb : P b) :
    IsLeast (momentsOf P b actions start) start :=
  ⟨⟨Nat.le_refl _, by rwa [after_start h]⟩, fun _ hm => hm.1⟩

end History

/-! ### Verdicts -/

/-- The moments at which the pattern has arrived. -/
def arrivals (pattern : Bytes) : OutputBuffer → List (Instant × Action) → Instant → Set Instant :=
  momentsOf fun b => pattern <:+: b.data

/-- The moments at which the buffer is closed. -/
def closings : OutputBuffer → List (Instant × Action) → Instant → Set Instant :=
  momentsOf fun b => b.closed

/-- A verdict and its moment are right for a pattern and a deadline: it is found when it arrives, if
that is in time and the buffer is not closed before; it is given up when the buffer is closed, if
that is in time and it has not arrived by then; and else it is given up at the deadline. -/
structure Verdict (pattern : Bytes) (deadline : Instant) (b : OutputBuffer)
    (actions : List (Instant × Action)) (start : Instant) (w : Waited) : Prop where
  arrived : ∀ e, IsLeast (arrivals pattern b actions start) e → e ≤ deadline →
    (∀ c, IsLeast (closings b actions start) c → ¬ c < e) → w.found = true ∧ w.moment = e
  closed : ∀ c, IsLeast (closings b actions start) c → c ≤ deadline →
    ¬ pattern <:+: (b.after actions c).data → w.found = false ∧ w.moment = c
  expired : (∀ e, IsLeast (arrivals pattern b actions start) e → e ≤ deadline →
      ∃ c, IsLeast (closings b actions start) c ∧ c < e) →
    (∀ c, IsLeast (closings b actions start) c → c ≤ deadline →
      pattern <:+: (b.after actions c).data) →
    w.found = false ∧ w.moment = deadline

section Verdict

variable {pattern : Bytes} {deadline start : Instant} {b : OutputBuffer}
  {actions rest : List (Instant × Action)} {a : Instant × Action} {w : Waited}

/-- Nothing is taken away from a buffer. -/
lemma data_prefix_after (b : OutputBuffer) (actions : List (Instant × Action)) (m : Instant) :
    b.data <+: (b.after actions m).data := by
  unfold after
  induction (actions.filter (·.1 ≤ m)).map Prod.snd generalizing b with
  | nil => exact List.prefix_refl _
  | cons a rest ih =>
    refine List.IsPrefix.trans ?_ (ih (b.apply a))
    cases a with
    | append chunk => exact List.prefix_append _ _
    | close => exact List.prefix_refl _

/-- A pattern that is there from the beginning is found at once. -/
lemma Verdict.of_contained (h : OneByOne start actions) (hdeadline : start ≤ deadline)
    (hb : pattern <:+: b.data) (hfound : w.found = true) (hmoment : w.moment = start) :
    Verdict pattern deadline b actions start w := by
  have harrival : IsLeast (arrivals pattern b actions start) start := isLeast_start h hb
  refine ⟨fun e he _ _ => ?_, fun c _ _ hc => ?_, fun hnever _ => ?_⟩
  · exact ⟨hfound, hmoment.trans (harrival.unique he)⟩
  · exact absurd (hb.trans (data_prefix_after b actions c).isInfix) hc
  · obtain ⟨c, hc, hlt⟩ := hnever start harrival hdeadline
    exact absurd hc.1.1 (Nat.not_le.2 hlt)

/-- A pattern that is not there is given up at once if the buffer is closed from the beginning. -/
lemma Verdict.of_closed (h : OneByOne start actions) (hdeadline : start ≤ deadline)
    (hb : ¬ pattern <:+: b.data) (hclosed : b.closed) (hfound : w.found = false)
    (hmoment : w.moment = start) : Verdict pattern deadline b actions start w := by
  have hclosing : IsLeast (closings b actions start) start := isLeast_start h hclosed
  refine ⟨fun e he _ hnot => ?_, fun c hc _ _ => ?_, fun _ hin => ?_⟩
  · -- the pattern arrives at some moment, and that is not the first
    have hle : e ≤ start := Nat.not_lt.1 (hnot start hclosing)
    obtain rfl : e = start := Nat.le_antisymm hle he.1.1
    have harrived := he.1.2
    rw [after_start h] at harrived
    exact absurd harrived hb
  · exact ⟨hfound, hmoment.trans (hclosing.unique hc)⟩
  · have harrived := hin start hclosing hdeadline
    rw [after_start h] at harrived
    exact absurd harrived hb

/-- A pattern is given up at the deadline if nothing happens by then. -/
lemma Verdict.of_nothing (harrivals : ∀ e ∈ arrivals pattern b actions start, deadline < e)
    (hclosings : ∀ c ∈ closings b actions start, deadline < c) (hfound : w.found = false)
    (hmoment : w.moment = deadline) : Verdict pattern deadline b actions start w := by
  refine ⟨fun e he hle _ => ?_, fun c hc hle _ => ?_, fun _ _ => ⟨hfound, hmoment⟩⟩
  · exact absurd hle (Nat.not_le.2 (harrivals e he.1))
  · exact absurd hle (Nat.not_le.2 (hclosings c hc.1))

/-- As long as there is no reason for a verdict, the wait goes on with the next action. -/
lemma Verdict.of_cons (h : OneByOne start (a :: rest)) (hb : ¬ pattern <:+: b.data)
    (hopen : ¬ b.closed) (hw : Verdict pattern deadline (b.apply a.2) rest a.1 w) :
    Verdict pattern deadline b (a :: rest) start w := by
  have harrivals : arrivals pattern b (a :: rest) start = arrivals pattern (b.apply a.2) rest a.1 :=
    momentsOf_cons h hb
  have hclosings : closings b (a :: rest) start = closings (b.apply a.2) rest a.1 :=
    momentsOf_cons h hopen
  have hafter : ∀ c, IsLeast (closings (b.apply a.2) rest a.1) c →
      b.after (a :: rest) c = (b.apply a.2).after rest c := fun c hc => after_of_le hc.1.1
  obtain ⟨harrived, hclosed, hexpired⟩ := hw
  constructor
  · rw [harrivals, hclosings]
    exact harrived
  · rw [hclosings]
    intro c hc hle hout
    rw [hafter c hc] at hout
    exact hclosed c hc hle hout
  · rw [harrivals, hclosings]
    intro hnever hin
    refine hexpired hnever fun c hc hle => ?_
    rw [← hafter c hc]
    exact hin c hc hle

/-! ### Waits -/

/-- The wait is right about what it waits for, and returns at the right moment. -/
lemma verdict_waitUntil (h : OneByOne start actions) (hdeadline : start ≤ deadline)
    (hapart : deadline ∉ actions.map Prod.fst) :
    Verdict pattern deadline b actions start
      (waitUntil pattern deadline start b (actions.map fun a => (a.1, [a.2]))) := by
  induction actions generalizing b start with
  | nil =>
    rw [List.map_nil, waitUntil]
    by_cases hb : b.contains pattern
    · rw [if_pos hb]
      exact .of_contained h hdeadline (occurs_iff.1 hb) rfl rfl
    · have hb' : ¬ pattern <:+: b.data := mt occurs_iff.2 hb
      rw [if_neg hb]
      by_cases hclosed : b.closed
      · rw [if_pos hclosed]
        exact .of_closed h hdeadline hb' hclosed rfl rfl
      · rw [if_neg hclosed]
        exact .of_nothing (fun e he => absurd he.2 hb') (fun c hc => absurd hc.2 hclosed) rfl
          (Nat.max_eq_right hdeadline)
  | cons a rest ih =>
    rw [List.map_cons, waitUntil]
    rw [List.map_cons, List.mem_cons, not_or] at hapart
    by_cases hb : b.contains pattern
    · rw [if_pos hb]
      exact .of_contained h hdeadline (occurs_iff.1 hb) rfl rfl
    · have hb' : ¬ pattern <:+: b.data := mt occurs_iff.2 hb
      rw [if_neg hb]
      by_cases hclosed : b.closed
      · rw [if_pos hclosed]
        exact .of_closed h hdeadline hb' hclosed rfl rfl
      · rw [if_neg hclosed]
        by_cases hlate : deadline ≤ a.1
        · rw [if_pos hlate]
          have hlt : deadline < a.1 := Nat.lt_of_le_of_ne hlate hapart.1
          refine .of_nothing (fun e he => ?_) (fun c hc => ?_) rfl (Nat.max_eq_right hdeadline)
          · rw [arrivals, momentsOf_cons h hb'] at he
            exact Nat.lt_of_lt_of_le hlt he.1
          · rw [closings, momentsOf_cons h hclosed] at hc
            exact Nat.lt_of_lt_of_le hlt hc.1
        · rw [if_neg hlate]
          exact .of_cons h hb' hclosed
            (ih (oneByOne_cons.1 h).2 (Nat.le_of_not_le hlate) hapart.2)

/-- Actions that come one by one are filed one by one. -/
lemma ofList_of_oneByOne (h : OneByOne start actions) :
    Schedule.ofList start actions = actions.map fun a => (a.1, [a.2]) := by
  induction actions generalizing start with
  | nil => rfl
  | cons a rest ih =>
    obtain ⟨t, action⟩ := a
    obtain ⟨hlt, hrest⟩ := oneByOne_cons.1 h
    have hmax : max start t = t := Nat.max_eq_right (Nat.le_of_lt hlt)
    rw [Schedule.ofList]
    simp only [hmax, ih hrest]
    cases rest with
    | nil => rfl
    | cons a' rest =>
      have hne : a'.1 ≠ t := Nat.ne_of_gt (oneByOne_cons.1 hrest).1
      simp [hne]

end Verdict

/-- **A wait returns the right verdict at the right moment**, for every buffer, pattern and timeout
that the clock can show, and whatever others do to the buffer meanwhile, if they do it at moments of
its own. -/
theorem waitFor_verdict (b : OutputBuffer) (pattern : Bytes) (timeout : Duration) (now : Instant)
    (actions : List (Instant × Action)) (hclock : now + timeout.nanos < Clock.limit)
    (hactions : OneByOne now actions) (hapart : now + timeout.nanos ∉ actions.map Prod.fst) :
    ∃ w, b.waitFor pattern timeout now (Schedule.ofList now actions) = .ok w ∧
      Verdict pattern (now + timeout.nanos) b actions now w := by
  rw [waitFor, Clock.deadline_of_lt hclock, ofList_of_oneByOne hactions]
  exact ⟨_, rfl, verdict_waitUntil hactions (Nat.le_add_right _ _) hapart⟩

/-- A pattern that arrives in two parts is found with the second; the closing comes later. -/
theorem waitFor_verdict_split :
    ∃ w, ({ data := [0x62] } : OutputBuffer).waitFor [0x62, 0x6f, 0x6f, 0x74] (.ofMillis 1) 3
        (Schedule.ofList 3 [(5, .append [0x6f]), (8, .append [0x6f, 0x74]), (9, .close)]) = .ok w ∧
      w.found = true ∧ w.moment = 8 := by
  obtain ⟨w, hw, hverdict⟩ := waitFor_verdict { data := [0x62] } [0x62, 0x6f, 0x6f, 0x74]
    (.ofMillis 1) 3 [(5, .append [0x6f]), (8, .append [0x6f, 0x74]), (9, .close)]
    (by decide) (by decide) (by decide)
  refine ⟨w, hw, hverdict.arrived 8 ?_ (by decide) fun c hc => ?_⟩
  · rw [arrivals, momentsOf_cons (by decide) (by decide), momentsOf_cons (by decide) (by decide)]
    exact isLeast_start (by decide) (by decide)
  · rw [closings, momentsOf_cons (by decide) (by decide), momentsOf_cons (by decide) (by decide),
      momentsOf_cons (by decide) (by decide)] at hc
    exact Nat.not_lt.2 (Nat.le_of_lt (Nat.lt_of_lt_of_le (by decide) hc.1.1))

end GuestHarness.OutputBuffer
