import FactoryTest.Ir.Session
import Mathlib.Tactic.Common

/-!
# What a receiver session reports

A setting is an expected address and whether packets are matched against it. The history of a
session says which setting the latest start asked for, which one opened the device, and what was
captured and delivered since the session was last closed (`Account`).

**Stale copies.** `receive_state_` is copied before the snapshot is marked as opened, and the
start of an open session does not touch it. Each delivery overwrites the snapshot with a copy of
it, so from the first delivery on the session says that it is closed, and after a restart with
another setting it goes back to the setting that opened it.

`session_consistent_iff` says when each part holds, for every step of every run; that nothing
captured before a stop is delivered after it holds of all of them. The proof carries the
invariant `Accounts`.
-/

namespace FactoryTest.Ir

/-! ## What the history says -/

/-- An expected address, and whether packets are matched against it. -/
structure Setting where
  expected_address : UInt16
  filter_address : Bool
  deriving DecidableEq

/-- The packet matches under the setting. -/
def Setting.matches (setting : Setting) (packet : NecPacket) : Bool :=
  !setting.filter_address || packet.address = setting.expected_address

/-- What the history of a session amounts to. -/
structure Account where
  /-- The setting of the latest start, if it returned true. -/
  latest : Option Setting := none
  /-- The setting of the latest start that opened the device. -/
  opening : Option Setting := none
  /-- A packet was delivered since the latest start. -/
  overwritten : Bool := false
  /-- What was captured since the session was last closed. -/
  captured : List IrReceiveSnapshot := []
  /-- What was delivered since the session was last closed. -/
  delivered : List IrReceiveSnapshot := []

def Account.record (a : Account) : Obs → Account
  | .start address filter ok opens =>
    { a with
      latest := if ok then some ⟨address, filter⟩ else none
      opening := if opens then some ⟨address, filter⟩ else a.opening
      overwritten := false }
  | .captured snapshot => { a with captured := a.captured ++ [snapshot] }
  | .delivered snapshot =>
    { a with overwritten := true, delivered := a.delivered ++ [snapshot] }
  | .closed => { a with captured := [], delivered := [] }
  | .packet .. => a
  | .poll _ => a

def account (h : List Obs) : Account := h.foldl Account.record {}

/-- The setting that a snapshot reports. -/
def IrReceiveSnapshot.setting (snapshot : IrReceiveSnapshot) : Setting :=
  ⟨snapshot.expected_address, snapshot.address_filter_enabled⟩

/-! ## The property and its conditions -/

/-- The flag says whether the descriptor is open. -/
def OpenedRight (c : Config IrReceiverSession Obs) : Prop :=
  c.state.snapshot.opened = true ↔ c.state.fd = true

/-- The session is closed, or nothing was delivered since it was opened. -/
def Undelivered (c : Config IrReceiverSession Obs) : Prop :=
  c.state.fd = true → (account c.history).delivered = []

/-- The packets that a step reads are matched against the setting of the latest start. -/
def MatchedRight (c : Config IrReceiverSession Obs) (call : IrReceiverSession.Call) : Prop :=
  ∀ packet matched, .packet packet matched ∈ (receiver.step c.state call).2 →
    ∃ setting, (account c.history).latest = some setting ∧ matched = setting.matches packet

/-- The setting that opened the device treats these packets as the latest one does. -/
def SameMatch (c : Config IrReceiverSession Obs) (call : IrReceiverSession.Call) : Prop :=
  ∀ packet matched, .packet packet matched ∈ (receiver.step c.state call).2 →
    (account c.history).opening.map (·.matches packet) =
      (account c.history).latest.map (·.matches packet)

/-- What a poll returns reports the setting of the latest start, if it returned true. -/
def ReportedRight (c : Config IrReceiverSession Obs) (call : IrReceiverSession.Call) : Prop :=
  ∀ snapshot, .poll snapshot ∈ (receiver.step c.state call).2 →
    ∀ setting, (account c.history).latest = some setting → snapshot.setting = setting

/-- Nothing was delivered since the latest start, or it was started with the setting that opened
the device. -/
def NotOverwritten (c : Config IrReceiverSession Obs) (call : IrReceiverSession.Call) : Prop :=
  ∀ snapshot, .poll snapshot ∈ (receiver.step c.state call).2 →
    ∀ setting, (account c.history).latest = some setting →
      (account (receiver.next c call).history).overwritten = true →
      (account c.history).opening = some setting

/-- What was delivered since the session was last closed was captured since, and in this order. -/
def DeliveredFresh (c : Config IrReceiverSession Obs) : Prop :=
  (account c.history).delivered <+: (account c.history).captured

/-! ## Finalizing -/

/-- Storing a packet keeps the setting, and matches the packet against it. -/
theorem store_spec (snapshot : IrReceiveSnapshot) (packet : NecPacket) (raw_summary : String) :
    (snapshot.store packet raw_summary).opened = snapshot.opened ∧
      (snapshot.store packet raw_summary).setting = snapshot.setting ∧
      (snapshot.store packet raw_summary).address_matched = snapshot.setting.matches packet :=
  ⟨rfl, rfl, rfl⟩

/-- What finalizing a signal does to the snapshot, if `packet` is decoded of the signal. -/
def Finalizes (finalized : IrReceiveSnapshot → IrReceiveSnapshot) (packet : Option NecPacket) :
    Prop :=
  ∀ snapshot, (finalized snapshot).opened = snapshot.opened ∧
    (finalized snapshot).setting = snapshot.setting ∧
    ∀ p, packet = some p → (finalized snapshot).address_matched = snapshot.setting.matches p

theorem finalizes_scancode (scancode : LircScancode) :
    Finalizes (finalize_receive_scancode · scancode)
      (IrReceiverSession.scancode_packet scancode) := by
  intro snapshot
  unfold finalize_receive_scancode IrReceiverSession.scancode_packet
  dsimp only
  by_cases hrepeat : scancode.flags &&& LIRC_SCANCODE_FLAG_REPEAT ≠ 0
  · simp [hrepeat, IrReceiveSnapshot.setting]
  · rw [if_neg hrepeat, if_neg hrepeat]
    cases decode_scancode scancode with
    | none => simp [IrReceiveSnapshot.setting]
    | some packet =>
      obtain ⟨hopened, hsetting, hmatched⟩ := store_spec snapshot packet ""
      exact ⟨hopened, hsetting, fun p hp => Option.some.inj hp ▸ hmatched⟩

theorem finalizes_pulses (durations : List UInt32) :
    Finalizes (finalize_receive · durations) (IrReceiverSession.pulse_packet durations) := by
  intro snapshot
  unfold finalize_receive IrReceiverSession.pulse_packet
  dsimp only
  cases (decode_nec_packet durations).bind parse_nec_bytes with
  | none => simp [IrReceiveSnapshot.setting]
  | some packet =>
    obtain ⟨hopened, hsetting, hmatched⟩ := store_spec snapshot packet (summarize_raw durations)
    exact ⟨hopened, hsetting, fun p hp => Option.some.inj hp ▸ hmatched⟩

/-! ## Reading -/

/-- What reading the device may do: packets are matched against the setting of `receive_state`,
and what changed is queued with this setting. -/
structure Reads (s s' : IrReceiverSession) (seen : List Obs) : Prop where
  fd : s'.fd = s.fd
  snapshot : s'.snapshot = s.snapshot
  opened : s'.receive_state.opened = s.receive_state.opened
  setting : s'.receive_state.setting = s.receive_state.setting
  queued : ∃ new, s'.pending_receives = s.pending_receives ++ new ∧
    (∀ r ∈ new, r.opened = s.receive_state.opened ∧ r.setting = s.receive_state.setting) ∧
    ∀ a : Account, seen.foldl Account.record a = { a with captured := a.captured ++ new }
  matched : ∀ packet matched, .packet packet matched ∈ seen →
    matched = s.receive_state.setting.matches packet
  silent : ∀ snapshot, .poll snapshot ∉ seen

theorem Reads.refl (s : IrReceiverSession) : Reads s s [] where
  fd := rfl
  snapshot := rfl
  opened := rfl
  setting := rfl
  queued := ⟨[], by simp⟩
  matched := by simp
  silent := by simp

theorem Reads.trans {s s' s'' : IrReceiverSession} {seen more : List Obs} (h : Reads s s' seen)
    (h' : Reads s' s'' more) : Reads s s'' (seen ++ more) where
  fd := h'.fd.trans h.fd
  snapshot := h'.snapshot.trans h.snapshot
  opened := h'.opened.trans h.opened
  setting := h'.setting.trans h.setting
  queued := by
    obtain ⟨new, hpending, hnew, hrecord⟩ := h.queued
    obtain ⟨new', hpending', hnew', hrecord'⟩ := h'.queued
    refine ⟨new ++ new', by rw [hpending', hpending, List.append_assoc],
      fun r hr => ?_, fun a => ?_⟩
    · rcases List.mem_append.1 hr with hr | hr
      · exact hnew r hr
      · exact ⟨(hnew' r hr).1.trans h.opened, (hnew' r hr).2.trans h.setting⟩
    · rw [List.foldl_append, hrecord, hrecord', List.append_assoc]
  matched packet matched hmem := by
    rcases List.mem_append.1 hmem with hmem | hmem
    · exact h.matched packet matched hmem
    · exact h.setting ▸ h'.matched packet matched hmem
  silent snapshot hmem :=
    (List.mem_append.1 hmem).elim (h.silent snapshot) (h'.silent snapshot)

namespace IrReceiverSession

theorem reads_receive (s : IrReceiverSession) {finalized : IrReceiveSnapshot → IrReceiveSnapshot}
    {packet : Option NecPacket} (h : Finalizes finalized packet) :
    Reads s (s.receive finalized packet).1 (s.receive finalized packet).2 := by
  have hspec : (finalized { s.receive_state with data_changed := false }).opened =
        s.receive_state.opened ∧
      (finalized { s.receive_state with data_changed := false }).setting =
        s.receive_state.setting ∧
      ∀ p, packet = some p →
        (finalized { s.receive_state with data_changed := false }).address_matched =
          s.receive_state.setting.matches p := h _
  obtain ⟨hopened, hsetting, hmatched⟩ := hspec
  unfold receive
  dsimp only
  split
  · refine ⟨rfl, rfl, hopened, hsetting, ⟨[_], rfl, ?_, fun a => ?_⟩, ?_, ?_⟩
    · simpa using ⟨hopened, hsetting⟩
    · cases packet <;> rfl
    · cases packet with
      | none => simp
      | some p => simpa using hmatched p rfl
    · cases packet <;> simp
  · refine ⟨rfl, rfl, hopened, hsetting, ⟨[], by simp, by simp, fun a => ?_⟩, ?_, ?_⟩
    · cases packet <;> simp [Account.record]
    · cases packet with
      | none => simp
      | some p => simpa using hmatched p rfl
    · cases packet <;> simp

theorem reads_flush (s : IrReceiverSession) : Reads s s.flush.1 s.flush.2 :=
  { s.reads_receive (finalizes_pulses s.pulse_space_buffer) with }

theorem reads_check_buffer (s : IrReceiverSession) : Reads s s.check_buffer.1 s.check_buffer.2 := by
  have hflush (t : IrReceiverSession) (seen : List Obs) (hreads : Reads s t seen) :
      Reads s (if 160 < t.pulse_space_buffer.length then (t.flush.1, seen ++ t.flush.2)
        else (t, seen)).1 (if 160 < t.pulse_space_buffer.length then (t.flush.1, seen ++ t.flush.2)
        else (t, seen)).2 := by
    split
    · exact hreads.trans t.reads_flush
    · exact hreads
  unfold check_buffer
  by_cases hpacket : 2 + K_PACKET_BYTES * 16 + 1 ≤ s.pulse_space_buffer.length ∧
      (decode_nec_packet s.pulse_space_buffer).isSome
  · rw [if_pos hpacket]
    exact hflush _ _ s.reads_flush
  · rw [if_neg hpacket]
    exact hflush _ _ (Reads.refl s)

theorem reads_end_train (s : IrReceiverSession) : Reads s s.end_train.1 s.end_train.2 := by
  unfold end_train
  split
  · exact s.reads_flush
  · exact Reads.refl s

theorem reads_read_word (s : IrReceiverSession) (word : UInt32) :
    Reads s (s.read_word word).1 (s.read_word word).2 := by
  have happend (value : UInt32) : Reads s
      (check_buffer { s with pulse_space_buffer := s.pulse_space_buffer ++ [value] }).1
      (check_buffer { s with pulse_space_buffer := s.pulse_space_buffer ++ [value] }).2 :=
    { reads_check_buffer { s with pulse_space_buffer := s.pulse_space_buffer ++ [value] } with }
  unfold read_word
  dsimp only
  split
  · split
    · exact s.reads_end_train
    split
    · split
      · exact s.reads_end_train
      · exact happend _
    · exact s.reads_check_buffer
  · exact happend _

theorem reads_read_each {α : Type} {read : IrReceiverSession → α → IrReceiverSession × List Obs}
    (hread : ∀ s x, Reads s (read s x).1 (read s x).2) (s : IrReceiverSession) (xs : List α) :
    Reads s (read_each read s xs).1 (read_each read s xs).2 := by
  induction xs generalizing s with
  | nil => exact Reads.refl s
  | cons x xs ih => exact (hread s x).trans (ih _)

theorem reads_read_device (s : IrReceiverSession) (reading : Reading) :
    Reads s (s.read_device reading).1 (s.read_device reading).2 := by
  unfold read_device
  split
  · exact reads_read_each (fun s scancode => s.reads_receive (finalizes_scancode scancode)) s _
  · exact reads_read_each reads_read_word s _

end IrReceiverSession

/-- The two overloads of `start` do the same once the device is known. -/
theorem IrReceiverSession.start_default_eq (s : IrReceiverSession) (info : IrDeviceInfo)
    (device : Opening) (address : UInt16) (filter : Bool) :
    s.start_default info device address filter = s.start info device address filter := by
  by_cases hfd : s.fd = true
  · simp [start_default, start, hfd]
  · simp [start_default, hfd]

/-- A start shows that it started, and nothing of packets. -/
theorem IrReceiverSession.mem_start {s : IrReceiverSession} {info : IrDeviceInfo}
    {device : Opening} {address : UInt16} {filter : Bool} {o : Obs}
    (ho : o ∈ (s.start info device address filter).2) :
    o = .closed ∨ ∃ ok opens, o = .start address filter ok opens := by
  unfold start at ho
  split at ho
  · exact .inr ⟨_, _, by simpa [restart] using ho⟩
  dsimp only at ho
  split at ho
  · exact .inr ⟨_, _, by simpa using ho⟩
  split at ho
  · exact .inr ⟨_, _, by simpa using ho⟩
  split at ho
  · rcases List.mem_append.1 ho with ho | ho
    · exact .inl (by simpa [stop] using ho)
    · exact .inr ⟨_, _, by simpa using ho⟩
  · exact .inr ⟨_, _, by simpa using ho⟩

/-- A poll of a closed session, a read that fails, and a poll that goes through. -/
theorem IrReceiverSession.poll_cases (s : IrReceiverSession) (reading : Reading) :
    s.fd = false ∧ s.poll reading = ({ s with snapshot.data_changed := false },
        [.poll { s.snapshot with data_changed := false }]) ∨
      s.fd = true ∧ ∃ t seen, Reads { s with snapshot.data_changed := false } t seen ∧
        ((∃ message, s.poll reading = ((stop { t with snapshot.message := message }).1,
            seen ++ (stop { t with snapshot.message := message }).2 ++
              [.poll (stop { t with snapshot.message := message }).1.snapshot])) ∨
          s.poll reading =
            (t.deliver.1, seen ++ t.deliver.2 ++ [.poll t.deliver.1.snapshot])) := by
  by_cases hfd : s.fd = true
  · refine .inr ⟨hfd, _, _, reads_read_device { s with snapshot.data_changed := false } reading, ?_⟩
    unfold poll
    dsimp only
    rw [if_neg (by simp [hfd])]
    cases reading.error with
    | some error => exact .inl ⟨_, rfl⟩
    | none => exact .inr rfl
  · refine .inl ⟨by simpa using hfd, ?_⟩
    unfold poll
    dsimp only
    rw [if_pos (by simp [hfd])]

/-- Setting the mode changes nothing else. -/
theorem IrReceiverSession.set_rec_mode_eq (s : IrReceiverSession) (info : IrDeviceInfo)
    (device : Opening) : ∃ scancode_mode mode2,
      (s.set_rec_mode info device).1 = { s with scancode_mode, mode2 } := by
  unfold set_rec_mode
  dsimp only
  split
  · exact ⟨_, _, rfl⟩
  · exact ⟨_, _, rfl⟩

/-! ## The invariant -/

/-- The session agrees with what its history amounts to. -/
structure Accounts (s : IrReceiverSession) (a : Account) : Prop where
  queue : a.captured = a.delivered ++ s.pending_receives
  closed : s.fd = false →
    s.pending_receives = [] ∧ s.snapshot.opened = false ∧ a.delivered = []
  unopened : s.receive_state.opened = false
  pending : ∀ r ∈ s.pending_receives, r.opened = false ∧ a.opening = some r.setting
  started : s.fd = true →
    a.opening = some s.receive_state.setting ∧ ∃ setting, a.latest = some setting
  opened : s.fd = true → (s.snapshot.opened = true ↔ a.delivered = [])
  kept : a.overwritten = false → ∀ setting, a.latest = some setting → s.snapshot.setting = setting
  replaced : a.overwritten = true → a.opening = some s.snapshot.setting

namespace Accounts

variable {s : IrReceiverSession} {a : Account}

theorem init : Accounts {} {} where
  queue := rfl
  closed _ := ⟨rfl, rfl, rfl⟩
  unopened := rfl
  pending := by simp
  started h := absurd h (by simp)
  opened h := absurd h (by simp)
  kept _ _ h := absurd h (by simp)
  replaced h := absurd h (by simp)

/-- Only the setting and the flag of the snapshot matter. -/
theorem congr (h : Accounts s a) (snapshot : IrReceiveSnapshot)
    (hopened : snapshot.opened = s.snapshot.opened)
    (hsetting : snapshot.setting = s.snapshot.setting) : Accounts { s with snapshot } a :=
  { h with
    closed := by simpa only [hopened] using h.closed
    opened := by simpa only [hopened] using h.opened
    kept := by simpa only [hsetting] using h.kept
    replaced := by simpa only [hsetting] using h.replaced }

theorem stop (h : Accounts s a) : Accounts s.stop.1 (s.stop.2.foldl Account.record a) where
  queue := rfl
  closed _ := ⟨rfl, rfl, rfl⟩
  unopened := rfl
  pending := by simp [IrReceiverSession.stop]
  started hfd := absurd hfd (by simp [IrReceiverSession.stop])
  opened hfd := absurd hfd (by simp [IrReceiverSession.stop])
  kept := h.kept
  replaced := h.replaced

theorem restart (h : Accounts s a) (hfd : s.fd = true) (address : UInt16) (filter : Bool) :
    Accounts (s.restart address filter).1
      ((s.restart address filter).2.foldl Account.record a) :=
  { h with
    closed := fun hclosed => absurd (hfd.symm.trans hclosed) (by simp)
    started := fun _ => ⟨(h.started hfd).1, _, rfl⟩
    kept := fun _ setting hlatest => Option.some.inj hlatest
    replaced := fun hover => absurd hover (by simp [IrReceiverSession.restart, Account.record]) }

/-- A start of a closed session that did not open it. -/
theorem failed {t : IrReceiverSession} (hfd : t.fd = false)
    (hpending : t.pending_receives = []) (hopened : t.snapshot.opened = false)
    (hstate : t.receive_state.opened = false) (address : UInt16) (filter : Bool)
    (hdelivered : a.delivered = []) (hcaptured : a.captured = []) :
    Accounts t (a.record (.start address filter false false)) where
  queue := by simp [Account.record, hdelivered, hcaptured, hpending]
  closed _ := ⟨hpending, hopened, hdelivered⟩
  unopened := hstate
  pending := by simp [hpending]
  started h := absurd (hfd.symm.trans h) (by simp)
  opened h := absurd (hfd.symm.trans h) (by simp)
  kept _ setting h := absurd h (by simp [Account.record])
  replaced h := absurd h (by simp [Account.record])

theorem start (h : Accounts s a) (info : IrDeviceInfo) (device : Opening) (address : UInt16)
    (filter : Bool) :
    Accounts (s.start info device address filter).1
      ((s.start info device address filter).2.foldl Account.record a) := by
  by_cases hfd : s.fd = true
  · rw [IrReceiverSession.start, if_pos hfd]
    exact h.restart hfd address filter
  have hfd : s.fd = false := by simpa using hfd
  obtain ⟨hpending, -, hdelivered⟩ := h.closed hfd
  have hcaptured : a.captured = [] := by rw [h.queue, hdelivered, hpending]; rfl
  rw [IrReceiverSession.start, if_neg (by simp [hfd])]
  dsimp only
  split
  · refine failed (t := { s with
      snapshot := _, pending_receives := _, receive_state := _ }) ?_ ?_ ?_ ?_ address filter
      hdelivered hcaptured <;> first | exact hfd | rfl
  split
  · refine failed (t := { s with
      snapshot := _, pending_receives := _, receive_state := _ }) ?_ ?_ ?_ ?_ address filter
      hdelivered hcaptured <;> first | exact hfd | rfl
  generalize hopened : IrReceiverSession.set_rec_mode _ info device = opened
  obtain ⟨scancode_mode, mode2, hmode⟩ := IrReceiverSession.set_rec_mode_eq _ info device
  rw [hopened] at hmode
  obtain ⟨t, error⟩ := opened
  subst hmode
  cases error with
  | some error => exact failed rfl rfl rfl rfl address filter rfl rfl
  | none =>
    exact
      { queue := by simp [Account.record, hdelivered, hcaptured]
        closed := by simp
        unopened := rfl
        pending := by simp
        started := fun _ => ⟨rfl, _, rfl⟩
        opened := fun _ => by simp [Account.record, hdelivered]
        kept := fun _ setting hlatest => Option.some.inj hlatest
        replaced := fun hover => absurd hover (by simp [Account.record]) }

/-- A poll that goes through delivers the first pending packet. -/
theorem deliver (h : Accounts s a) (hfd : s.fd = true) :
    Accounts s.deliver.1 (s.deliver.2.foldl Account.record a) := by
  cases hpending : s.pending_receives with
  | nil => simpa [IrReceiverSession.deliver, hpending] using h
  | cons received rest =>
    obtain ⟨hopened, hsetting⟩ := h.pending received (by simp [hpending])
    simp only [IrReceiverSession.deliver, hpending]
    exact
      { queue := by simp [Account.record, h.queue, hpending]
        closed := fun hclosed => absurd (hfd.symm.trans hclosed) (by simp)
        unopened := h.unopened
        pending := fun r hr => h.pending r (by simp [hpending, hr])
        started := h.started
        opened := fun _ => by simp [Account.record, hopened]
        kept := fun hover => absurd hover (by simp [Account.record])
        replaced := fun _ => hsetting }

theorem reads (h : Accounts s a) (hfd : s.fd = true) {t : IrReceiverSession} {seen : List Obs}
    (hreads : Reads s t seen) : Accounts t (seen.foldl Account.record a) := by
  obtain ⟨new, hpending, hnew, hrecord⟩ := hreads.queued
  rw [hrecord]
  exact
    { queue := by rw [hpending, h.queue, List.append_assoc]
      closed := fun hclosed => absurd (hfd.symm.trans (hreads.fd.symm.trans hclosed)) (by simp)
      unopened := hreads.opened.trans h.unopened
      pending := fun r hr => by
        rcases List.mem_append.1 (hpending ▸ hr) with hr | hr
        · exact h.pending r hr
        · obtain ⟨hopened, hsetting⟩ := hnew r hr
          exact ⟨hopened.trans h.unopened, hsetting ▸ (h.started hfd).1⟩
      started := fun _ => hreads.setting ▸ h.started hfd
      opened := fun _ => hreads.snapshot ▸ h.opened hfd
      kept := hreads.snapshot ▸ h.kept
      replaced := hreads.snapshot ▸ h.replaced }

theorem poll (h : Accounts s a) (reading : Reading) :
    Accounts (s.poll reading).1 ((s.poll reading).2.foldl Account.record a) := by
  have hclear : Accounts { s with snapshot.data_changed := false } a := h.congr _ rfl rfl
  rcases s.poll_cases reading with ⟨-, heq⟩ | ⟨hfd, t, seen, hreads, ⟨message, heq⟩ | heq⟩
  · rw [heq]
    exact hclear
  · have ht := (hclear.reads hfd hreads).congr { t.snapshot with message } rfl rfl
    rw [heq, List.foldl_append, List.foldl_append]
    exact ht.stop
  · have ht := (hclear.reads hfd hreads).deliver (hreads.fd.trans hfd)
    rw [heq, List.foldl_append, List.foldl_append]
    exact ht

theorem step (h : Accounts s a) (call : IrReceiverSession.Call) :
    Accounts (s.step call).1 ((s.step call).2.foldl Account.record a) := by
  cases call with
  | start_default info device address filter =>
    show Accounts (s.start_default info device address filter).1 _
    rw [IrReceiverSession.step, IrReceiverSession.start_default_eq]
    exact h.start info device address filter
  | start info device address filter => exact h.start info device address filter
  | poll reading => exact h.poll reading
  | stop => exact h.stop

end Accounts

/-! ## The parts of the property -/

theorem account_append (h os : List Obs) :
    account (h ++ os) = os.foldl Account.record (account h) := List.foldl_append

/-- Only a poll shows packets and snapshots. -/
theorem poll_of_mem {s : IrReceiverSession} {call : IrReceiverSession.Call} {o : Obs}
    (ho : o ∈ (s.step call).2) (hclosed : o ≠ .closed)
    (hstart : ∀ address filter ok opens, o ≠ .start address filter ok opens) :
    ∃ reading, call = .poll reading := by
  cases call with
  | start_default info device address filter =>
    rw [IrReceiverSession.step, IrReceiverSession.start_default_eq] at ho
    rcases IrReceiverSession.mem_start ho with rfl | ⟨ok, opens, rfl⟩
    · exact absurd rfl hclosed
    · exact absurd rfl (hstart address filter ok opens)
  | start info device address filter =>
    rcases IrReceiverSession.mem_start ho with rfl | ⟨ok, opens, rfl⟩
    · exact absurd rfl hclosed
    · exact absurd rfl (hstart address filter ok opens)
  | poll reading => exact ⟨reading, rfl⟩
  | stop =>
    exact absurd (by simpa [IrReceiverSession.step, IrReceiverSession.stop] using ho) hclosed

/-- What a poll shows after reading the device. -/
theorem mem_deliver {s : IrReceiverSession} {o : Obs} (ho : o ∈ s.deliver.2) :
    ∃ snapshot, o = .delivered snapshot := by
  unfold IrReceiverSession.deliver at ho
  split at ho
  · exact absurd ho (by simp)
  · exact ⟨_, by simpa using ho⟩

/-- A packet that a step reads is matched against the setting that opened the device. -/
theorem packet_step {s : IrReceiverSession} {a : Account} (h : Accounts s a)
    {call : IrReceiverSession.Call} {packet : NecPacket} {matched : Bool}
    (hmem : .packet packet matched ∈ (s.step call).2) :
    ∃ opening latest, a.opening = some opening ∧ a.latest = some latest ∧
      matched = opening.matches packet := by
  obtain ⟨reading, rfl⟩ := poll_of_mem hmem (by simp) (by simp)
  rcases s.poll_cases reading with ⟨-, heq⟩ | ⟨hfd, t, seen, hreads, hpoll⟩
  · exact absurd hmem (by simp [IrReceiverSession.step, heq])
  · have hseen : .packet packet matched ∈ seen := by
      rw [IrReceiverSession.step] at hmem
      rcases hpoll with ⟨message, heq⟩ | heq
      · rw [heq] at hmem
        simpa [IrReceiverSession.stop] using hmem
      · rw [heq] at hmem
        rcases List.mem_append.1 hmem with hmem | hmem
        · refine (List.mem_append.1 hmem).resolve_right fun hmem => ?_
          obtain ⟨_, heq⟩ := mem_deliver hmem
          exact absurd heq (by simp)
        · exact absurd hmem (by simp)
    obtain ⟨hopening, latest, hlatest⟩ := h.started hfd
    exact ⟨_, latest, hopening, hlatest, hreads.matched packet matched hseen⟩

/-- A poll returns the snapshot, and is no start. -/
theorem poll_step {s : IrReceiverSession} {call : IrReceiverSession.Call}
    {snapshot : IrReceiveSnapshot} (hmem : .poll snapshot ∈ (s.step call).2) (a : Account) :
    snapshot = (s.step call).1.snapshot ∧
      ((s.step call).2.foldl Account.record a).latest = a.latest ∧
      ((s.step call).2.foldl Account.record a).opening = a.opening := by
  obtain ⟨reading, rfl⟩ := poll_of_mem hmem (by simp) (by simp)
  rw [IrReceiverSession.step] at hmem ⊢
  rcases s.poll_cases reading with ⟨-, heq⟩ | ⟨-, t, seen, hreads, hpoll⟩
  · rw [heq] at hmem ⊢
    exact ⟨by simpa using hmem, rfl, rfl⟩
  · obtain ⟨new, -, -, hrecord⟩ := hreads.queued
    have hsilent := hreads.silent snapshot
    rcases hpoll with ⟨message, heq⟩ | heq
    · rw [heq] at hmem ⊢
      refine ⟨?_, ?_, ?_⟩
      · simpa [IrReceiverSession.stop, hsilent] using hmem
      all_goals rw [List.foldl_append, List.foldl_append, hrecord]; rfl
    · rw [heq] at hmem ⊢
      refine ⟨?_, ?_, ?_⟩
      · have hdeliver : .poll snapshot ∉ t.deliver.2 := fun hmem => by
          obtain ⟨_, heq⟩ := mem_deliver hmem
          exact absurd heq (by simp)
        simpa [hsilent, hdeliver] using hmem
      all_goals
        rw [List.foldl_append, List.foldl_append, hrecord]
        unfold IrReceiverSession.deliver
        split <;> rfl

/-! ## When the session is consistent -/

/-- What the session must do at every step. -/
def Consistent (c : Config IrReceiverSession Obs) (call : IrReceiverSession.Call) : Prop :=
  OpenedRight (receiver.next c call) ∧ MatchedRight c call ∧ ReportedRight c call ∧
    DeliveredFresh (receiver.next c call)

/-- The step is not one at which a stale copy shows. -/
def Unaffected (c : Config IrReceiverSession Obs) (call : IrReceiverSession.Call) : Prop :=
  Undelivered (receiver.next c call) ∧ SameMatch c call ∧ NotOverwritten c call

/-- Each part holds at exactly the steps that meet its condition. -/
def PartsExact (c : Config IrReceiverSession Obs) (call : IrReceiverSession.Call) : Prop :=
  (OpenedRight (receiver.next c call) ↔ Undelivered (receiver.next c call)) ∧
    (MatchedRight c call ↔ SameMatch c call) ∧ (ReportedRight c call ↔ NotOverwritten c call) ∧
    DeliveredFresh (receiver.next c call)

section Parts

variable {c : Config IrReceiverSession Obs} (h : Accounts c.state (account c.history))

include h

theorem opened_right_iff : OpenedRight c ↔ Undelivered c := by
  unfold OpenedRight Undelivered
  by_cases hfd : c.state.fd = true
  · simp [hfd, h.opened hfd]
  · simp [hfd, (h.closed (by simpa using hfd)).2.1]

theorem delivered_fresh : DeliveredFresh c := ⟨_, h.queue.symm⟩

theorem accounts_next (call : IrReceiverSession.Call) :
    Accounts (receiver.next c call).state (account (receiver.next c call).history) := by
  show Accounts (c.state.step call).1 (account (c.history ++ (c.state.step call).2))
  rw [account_append]
  exact h.step call

theorem matched_right_iff (call : IrReceiverSession.Call) :
    MatchedRight c call ↔ SameMatch c call := by
  refine forall_congr' fun packet => forall_congr' fun matched => imp_congr_right fun hmem => ?_
  obtain ⟨opening, latest, hopening, hlatest, rfl⟩ := packet_step h hmem
  simp [hopening, hlatest]

theorem reported_right_iff (call : IrReceiverSession.Call) :
    ReportedRight c call ↔ NotOverwritten c call := by
  refine forall_congr' fun snapshot => imp_congr_right fun hmem => forall_congr' fun setting =>
    imp_congr_right fun hlatest => ?_
  obtain ⟨rfl, hlatest', hopening'⟩ := poll_step hmem (account c.history)
  have hnext := accounts_next h call
  have haccount : account (receiver.next c call).history =
      (c.state.step call).2.foldl Account.record (account c.history) := account_append _ _
  rw [haccount] at hnext ⊢
  by_cases hover : ((c.state.step call).2.foldl Account.record
      (account c.history)).overwritten = true
  · have hreplaced := hnext.replaced hover
    rw [hopening'] at hreplaced
    simp only [hover, hreplaced, true_imp_iff, Option.some.injEq]
    rfl
  · have hkept := hnext.kept (by simpa using hover) setting (hlatest'.trans hlatest)
    simp only [hover]
    exact iff_of_true hkept (by simp)

end Parts

/-- In every run of the session, every part of the property holds at exactly the steps that meet
its condition, and what is delivered is always fresh; so the session is consistent throughout
exactly if no step is affected. -/
theorem session_consistent_iff (calls : List IrReceiverSession.Call) :
    receiver.Along PartsExact ⟨{}, []⟩ calls ∧
      (receiver.Along Consistent ⟨{}, []⟩ calls ↔ receiver.Along Unaffected ⟨{}, []⟩ calls) := by
  have hrun : ∀ c : Config IrReceiverSession Obs, Accounts c.state (account c.history) →
      receiver.Along PartsExact c calls ∧
        (receiver.Along Consistent c calls ↔ receiver.Along Unaffected c calls) := by
    induction calls with
    | nil => exact fun _ _ => ⟨trivial, Iff.rfl⟩
    | cons call calls ih =>
      intro c h
      have hnext := accounts_next h call
      have hopened := opened_right_iff hnext
      have hmatched := matched_right_iff h call
      have hreported := reported_right_iff h call
      have hfresh := delivered_fresh hnext
      refine ⟨⟨⟨hopened, hmatched, hreported, hfresh⟩, (ih _ hnext).1⟩,
        and_congr ?_ (ih _ hnext).2⟩
      unfold Consistent Unaffected
      rw [hopened, hmatched, hreported, and_iff_left hfresh]
  exact hrun _ Accounts.init

/-! ## A packet and a restart -/

/-- A session with a scancode device is started for the address `0xff00`, reads a packet of this
address, is started again for `0xfe01`, and reads a packet of that address. -/
def restarted_run : List IrReceiverSession.Call :=
  let info : IrDeviceInfo := { available := true, features := LIRC_CAN_REC_SCANCODE }
  [.start info {} 0xff00 true, .poll { scancodes := [[{ rc_proto := .NEC, scancode := 0x0001 }]] },
    .start info {} 0xfe01 true, .poll { scancodes := [[{ rc_proto := .NEC, scancode := 0x0101 }]] }]

/-- The session when it is polled for the second time. -/
def restarted : Config IrReceiverSession Obs := receiver.run ⟨{}, []⟩ (restarted_run.take 3)

def second_poll : IrReceiverSession.Call :=
  .poll { scancodes := [[{ rc_proto := .NEC, scancode := 0x0101 }]] }

/-- After the first packet the open session says that it is closed; the second packet does not
match, and the snapshot reports the first address again. -/
theorem restarted_run_inconsistent :
    ¬ receiver.Along Consistent ⟨{}, []⟩ restarted_run ∧
      ¬ OpenedRight (receiver.run ⟨{}, []⟩ (restarted_run.take 2)) ∧
      ¬ MatchedRight restarted second_poll ∧ ¬ ReportedRight restarted second_poll := by
  have hopened : ¬ OpenedRight (receiver.run ⟨{}, []⟩ (restarted_run.take 2)) := by
    unfold OpenedRight
    decide +kernel
  have hlatest : (account restarted.history).latest = some ⟨0xfe01, true⟩ := by decide +kernel
  refine ⟨fun h => hopened h.2.1.1, hopened, fun h => ?_, fun h => ?_⟩
  · obtain ⟨setting, hsetting, hmatched⟩ :=
      h ⟨[0x01, 0xfe, 0x01, 0xfe], 0xfe01, 0xfe01, K_PROTOCOL_NEC⟩ false (by decide +kernel)
    obtain rfl := Option.some.inj (hlatest.symm.trans hsetting)
    exact absurd hmatched (by decide)
  · have hreturned : .poll (receiver.next restarted second_poll).state.snapshot ∈
        (receiver.step restarted.state second_poll).2 := by decide +kernel
    have hsetting := h _ hreturned _ hlatest
    exact absurd hsetting (by decide +kernel)

end FactoryTest.Ir
