import GuestHarness.Proofs.Console.Feeding
import GuestHarness.Proofs.Text.Utf8
import GuestHarness.Script

/-!
What a script says is what a console hears. The escape of a script and its lines are written as
bytes by one program and taken from a stream of bytes by another. As long as no line holds what the
console treats on its own, each step of the script comes to exactly one event, its line to the side
that is shown after the switches before it, and a step leaves nothing behind for the next one.
-/

namespace GuestHarness.Console

/-! ### Entries -/

/-- What a step of a script says to a console: it switches between the sides, or gives a line to the
one that is shown. -/
inductive Entry where
  | switch
  | line (text : String)

namespace Entry

/-- The step that makes an entry. -/
def step (settle : Duration) : Entry → CommandStep
  | switch => .breakIntoMonitor .standard settle
  | line text => .monitorCommand text settle

/-- The entry is a switch. -/
def isSwitch : Entry → Bool
  | switch => true
  | line _ => false

/-- No character of the entry's text ends a line, is dropped, or begins an escape. -/
def IsPlain : Entry → Prop
  | switch => True
  | line text => '\n' ∉ text.toList ∧ '\r' ∉ text.toList ∧ '\x01' ∉ text.toList

/-- What an entry comes to on a console that shows the given side. -/
def event (inMonitor : Bool) : Entry → Event
  | switch => .switched !inMonitor
  | line text => .handled inMonitor text

/-- The side that is shown after an entry. -/
def after (inMonitor : Bool) (e : Entry) : Bool := inMonitor != e.isSwitch

end Entry

/-- The monitor is shown after the entries, the first of which finds the guest shown: there is an odd
number of switches. -/
def monitorAfter (entries : List Entry) : Bool := entries.countP Entry.isSwitch % 2 = 1

/-- What entries come to, each on the side that is shown after those before it. -/
def events (entries : List Entry) : List Event :=
  entries.mapIdx fun k e => e.event (monitorAfter (entries.take k))

/-- The events up to the first that ends the emulator, and this one. -/
def upToQuit : List Event → List Event
  | [] => []
  | e :: rest => if e.quits then [e] else e :: upToQuit rest

/-! ### One entry -/

variable {m : Bool} {typed rest : Bytes}

lemma feed_typed {bs : Bytes} (h : 0x0A ∉ bs ∧ 0x0D ∉ bs ∧ 0x01 ∉ bs) :
    (⟨m, false, typed⟩ : Console).feed (bs ++ rest) =
      (⟨m, false, bs.reverse ++ typed⟩ : Console).feed rest := by
  induction bs generalizing typed with
  | nil => rfl
  | cons b bs ih =>
    simp only [List.mem_cons, not_or] at h
    obtain ⟨⟨h1, h1'⟩, ⟨h2, h2'⟩, ⟨h3, h3'⟩⟩ := h
    have htake : (⟨m, false, typed⟩ : Console).take b = (⟨m, false, b :: typed⟩, none) := by
      simp [take, plain, Ne.symm h1, Ne.symm h2, Ne.symm h3]
    rw [List.cons_append, feed_cons_none htake, ih ⟨h1', h2', h3'⟩, List.reverse_cons,
      List.append_assoc, List.singleton_append]

/-- An entry is one event, after which nothing of it is left. -/
lemma feed_entry (e : Entry) (he : e.IsPlain) (settle : Duration) :
    (⟨m, false, []⟩ : Console).feed ((e.step settle).payload ++ rest) =
      if (e.event m).quits then (⟨e.after m, false, []⟩, [e.event m])
      else (((⟨e.after m, false, []⟩ : Console).feed rest).1,
        e.event m :: ((⟨e.after m, false, []⟩ : Console).feed rest).2) := by
  cases e with
  | switch =>
    have hpayload : (Entry.switch.step settle).payload ++ rest = 0x01 :: 0x63 :: rest := rfl
    have hfirst : (⟨m, false, []⟩ : Console).take 0x01 = (⟨m, true, []⟩, none) := rfl
    have hsecond : (⟨m, true, []⟩ : Console).take 0x63 =
        (⟨!m, false, []⟩, some (.switched !m)) := rfl
    have hafter : Entry.switch.after m = !m := by cases m <;> rfl
    rw [hpayload, feed_cons_none hfirst, feed_cons_some hsecond, hafter]
    rfl
  | line text =>
    obtain ⟨hlf, hcr, hescape⟩ := he
    have hpayload : ((Entry.line text).step settle).payload ++ rest =
        Text.bytes text ++ 0x0A :: rest := by
      simp [Entry.step, CommandStep.monitorCommand]
    have hbytes : 0x0A ∉ Text.bytes text ∧ 0x0D ∉ Text.bytes text ∧ 0x01 ∉ Text.bytes text :=
      ⟨mt (Text.mem_bytes (c := '\n') (by decide)).1 hlf,
        mt (Text.mem_bytes (c := '\r') (by decide)).1 hcr,
        mt (Text.mem_bytes (c := '\x01') (by decide)).1 hescape⟩
    have hend : (⟨m, false, (Text.bytes text).reverse ++ []⟩ : Console).take 0x0A =
        (⟨m, false, []⟩, some (.handled m text)) := by
      simp [take, plain, line, Text.lossy_bytes]
    have hafter : (Entry.line text).after m = m := by cases m <;> rfl
    rw [hpayload, feed_typed hbytes, feed_cons_some hend, hafter]
    rfl

/-! ### Scripts -/

/-- What entries come to on a console that shows the given side. -/
def eventsFrom (m : Bool) : List Entry → List Event
  | [] => []
  | e :: rest => e.event m :: eventsFrom (e.after m) rest

lemma after_side (m : Bool) (e : Entry) (entries : List Entry) :
    (e.after m != monitorAfter entries) = (m != monitorAfter (e :: entries)) := by
  have hparity : ∀ n : Nat, decide ((n + 1) % 2 = 1) = !decide (n % 2 = 1) := fun n => by
    by_cases h : n % 2 = 1 <;> simp [h] <;> omega
  rw [Entry.after, monitorAfter, monitorAfter, List.countP_cons]
  cases he : e.isSwitch with
  | false => simp
  | true =>
    rw [if_pos rfl, hparity]
    cases m <;> simp

lemma eventsFrom_eq (m : Bool) (entries : List Entry) :
    eventsFrom m entries =
      entries.mapIdx fun k e => e.event (m != monitorAfter (entries.take k)) := by
  induction entries generalizing m with
  | nil => rfl
  | cons e rest ih =>
    rw [eventsFrom, ih, List.mapIdx_cons]
    congr 1
    · simp [monitorAfter]
    · simp only [List.take_succ_cons, after_side]

lemma eventsFrom_false (entries : List Entry) : eventsFrom false entries = events entries := by
  rw [eventsFrom_eq]
  simp [events]

/-- The console hears the entries of a script one after the other, and is left on the side that is
shown after those that it heard. -/
lemma feed_script (script : List (Entry × Duration)) (hplain : ∀ e ∈ script, e.1.IsPlain) :
    ∀ m : Bool, (⟨m, false, []⟩ : Console).feed
        ((script.map fun e => e.1.step e.2).flatMap CommandStep.payload) =
      (⟨m != monitorAfter ((script.map Prod.fst).take
          (upToQuit (eventsFrom m (script.map Prod.fst))).length), false, []⟩,
        upToQuit (eventsFrom m (script.map Prod.fst))) := by
  induction script with
  | nil =>
    intro m
    simp [feed, eventsFrom, upToQuit, monitorAfter]
  | cons entry script ih =>
    intro m
    obtain ⟨e, settle⟩ := entry
    obtain ⟨he, hrest⟩ := List.forall_mem_cons.1 hplain
    rw [List.map_cons, List.flatMap_cons, feed_entry e he settle, List.map_cons, eventsFrom,
      upToQuit]
    split
    · have hside := after_side m e []
      simp only [List.length_singleton, List.take_succ_cons, List.take_zero]
      rw [← hside]
      simp [monitorAfter]
    · rw [ih hrest]
      simp only [List.length_cons, List.take_succ_cons, after_side]

/-- **What a script says is what a console hears**, in whatever chunks it comes. The script switches
sides by the standard escape and gives lines that hold nothing that the console treats on its own.
Then a fresh console hears one event for each step, in their order: a switch, or the step's own text
as a line to the monitor if the number of switches before it is odd and to the guest if not; up to
the first line that ends the emulator, if there is one. Of what it heard it shows the replies, one
after the other, and nothing of it is left behind: the line is empty, no escape is begun, and the
side that is shown is the one after the switches that it heard. -/
theorem hears_script (script : List (Entry × Duration)) (hplain : ∀ e ∈ script, e.1.IsPlain)
    (chunks : List Bytes)
    (hchunks : chunks.flatten =
      (script.map fun e => e.1.step e.2).flatMap CommandStep.payload) :
    let entries := script.map Prod.fst
    let heard := upToQuit (events entries)
    ({} : Console).feedAll chunks =
        (⟨monitorAfter (entries.take heard.length), false, []⟩, heard) ∧
      shown (({} : Console).feedAll chunks).2 = String.join (heard.map Event.reply) := by
  intro entries heard
  have hfeed : ({} : Console).feedAll chunks =
      (⟨monitorAfter (entries.take heard.length), false, []⟩, heard) := by
    have h := feed_script script hplain false
    rw [eventsFrom_false, Bool.false_bne] at h
    rw [feedAll_eq_feed, hchunks]
    exact h
  exact ⟨hfeed, by rw [hfeed, shown]⟩

/-- A script that switches to the monitor, asks it two things of which the second ends the emulator,
and has more to say; its bytes come in chunks that cut the escape and the lines. -/
theorem hears_script_cut :
    let script : List (Entry × Duration) := [(.switch, .ofMillis 5), (.line "ping", .ofMillis 5),
      (.line " q", .ofMillis 5), (.line "late", .ofMillis 5)]
    let chunks : List Bytes := [[0x01], [0x63, 0x70, 0x69], [0x6E, 0x67, 0x0A, 0x20], [0x71, 0x0A],
      [0x6C, 0x61, 0x74, 0x65, 0x0A]]
    (∀ e ∈ script, e.1.IsPlain) ∧
    chunks.flatten = (script.map fun e => e.1.step e.2).flatMap CommandStep.payload ∧
    ({} : Console).feedAll chunks = (⟨true, false, []⟩,
      [.switched true, .handled true "ping", .handled true " q"]) ∧
    shown (({} : Console).feedAll chunks).2 = String.join [banner ++ prompt, "pong\n" ++ prompt, ""] := by
  intro script chunks
  have hplain : ∀ e ∈ script, e.1.IsPlain := by
    simp [script, Entry.IsPlain]
  have hchunks : chunks.flatten = (script.map fun e => e.1.step e.2).flatMap CommandStep.payload := by
    decide +kernel
  have hheard : upToQuit (events (script.map Prod.fst)) =
      [.switched true, .handled true "ping", .handled true " q"] := by decide +kernel
  obtain ⟨hfeed, hshown⟩ := hears_script script hplain chunks hchunks
  rw [hheard] at hfeed hshown
  exact ⟨hplain, hchunks, hfeed, hshown.trans (by decide +kernel)⟩

end GuestHarness.Console
