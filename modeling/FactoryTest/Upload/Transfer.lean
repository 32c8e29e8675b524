import FactoryTest.Upload.Service

/-!
# What a step of the upload service can do

The service has one upload slot. A **slot** is what matters of the service for the requests in
it: the pending request, the request the worker holds, whether a result is awaited, the
session and its handshake. The port, the buffers, the clocks and the published texts are gone.

**Moves** (`Transfer`). A step of the service shows as one move of the slot together with the
observations of the step. Two moves are set apart, because requests get lost in them: the
refusal of a handshake, which drops the worker's request and leaves `waiting` as it is, and the
return of `run`, which destroys the worker's locals. They are possible only where
`rejects_handshake` and `returns` say so.

**Refinement** (`step_transfer`). In every reachable state the worker's locals fit its place in
`run` (`Impl.Wf`), and there every step of the service is a move. What follows about requests
is proved of the moves alone.
-/

namespace FactoryTest.Upload

variable {cJSON : CJsonLibrary}

/-! ## The slot -/

/-- What matters of the service for the requests in its hands. -/
structure Slot where
  pending : Option Request := none
  active : Option Request := none
  waiting : Bool := false
  handshaked : Bool := false
  session : Option ℕ := none
  request_active : Bool := false
  accepted : ℕ := 0
  sessions : ℕ := 0
  deriving DecidableEq

/-- The slot of a service whose worker has the locals `w`. -/
def Impl.slotWith (s : Impl) (w : Worker) : Slot where
  pending := s.pending_payload
  active := w.active_payload
  waiting := w.waiting_result_ack
  handshaked := w.handshaked
  session := w.session
  request_active := s.request_active
  accepted := s.accepted
  sessions := s.sessions

/-- The slot of a service; without a worker its locals have their initial values. -/
def Impl.slot (s : Impl) : Slot := s.slotWith (s.worker.getD {})

/-- The step handles a `HANDSHAKE` line and `send_handshake_ack` returns false: the line is not
a valid handshake, or the acknowledgement could not be written. -/
def rejects_handshake (cJSON : CJsonLibrary) (s : Impl) : Event → Bool
  | .work a =>
    match s.worker with
    | some w =>
      match w.pc with
      | .rx (c :: _) =>
        c == '\n' && command_matches w.rx_buffer K_HANDSHAKE_COMMAND &&
          !(send_handshake_ack cJSON s w w.rx_buffer a.port).1
      | _ => false
    | none => false
  | _ => false

/-- In the step `run` sees `stop_requested` and returns. -/
def returns (s : Impl) : Event → Bool
  | .work _ =>
    match s.worker with
    | some w => w.pc == .loop && s.stop_requested
    | none => false
  | _ => false

/-- The worker's request, if there is one, is published as failed. -/
def failed (active : Option Request) : List Obs :=
  if active.isSome then [.finished active .FAILED] else []

/-- The moves of a slot. `rejects` and `exits` allow the refusal of a handshake and the return
of `run`. -/
inductive Transfer (cJSON : CJsonLibrary) (rejects exits : Bool) : Slot → List Obs → Slot → Prop
  | idle (v) : Transfer cJSON rejects exits v [] v
  /-- A line without effect. -/
  | heard (v line) : Transfer cJSON rejects exits v [.received v.session line] v
  | accept (v : Slot) (payload) (free : v.pending = none) (inactive : v.request_active = false)
      (fits : admissible (strip_line_breaks payload) = true) :
      Transfer cJSON rejects exits v
        [.accepted payload ⟨v.accepted, strip_line_breaks payload⟩]
        { v with
          pending := some ⟨v.accepted, strip_line_breaks payload⟩
          request_active := true
          accepted := v.accepted + 1 }
  /-- Without a session, the pending request fails. -/
  | drop (v : Slot) (unconnected : v.session = none) (held : v.pending.isSome = true) :
      Transfer cJSON rejects exits v [.finished v.pending .FAILED]
        { v with pending := none, request_active := false }
  | connect (v : Slot) (unconnected : v.session = none) :
      Transfer cJSON rejects exits v [.opened v.sessions]
        { v with
          session := some v.sessions
          sessions := v.sessions + 1
          handshaked := false
          waiting := false }
  | lose (v : Slot) (handshaked) (connected : v.session.isSome = true) :
      Transfer cJSON rejects exits v
        ((if v.active.isSome || v.waiting then [.finished v.active .FAILED] else []) ++
          [.closed v.session])
        { v with
          session := none
          active := none
          waiting := false
          handshaked := handshaked
          request_active := if v.active.isSome || v.waiting then false else v.request_active }
  | take (v : Slot) (free : v.active = none) (connected : v.session.isSome = true) :
      Transfer cJSON rejects exits v [] { v with active := v.pending, pending := none }
  | greet (v : Slot) (line text) (connected : v.session.isSome = true)
      (valid : ValidHandshake cJSON line) :
      Transfer cJSON rejects exits v
        [.received v.session line, .wrote v.session (.ack text) text.length true]
        { v with handshaked := true }
  | reject (v : Slot) (line written) (connected : v.session.isSome = true)
      (rejected : rejects = true)
      (acks : written = [] ∨ ∃ text sent, written = [.wrote v.session (.ack text) sent false]) :
      Transfer cJSON rejects exits v
        (.received v.session line :: (written ++ failed v.active))
        { v with
          active := none
          request_active := if v.active.isSome then false else v.request_active }
  | answer (v : Slot) (line state) (connected : v.session.isSome = true)
      (waits : v.waiting = true)
      (verdict : state = .SUCCEEDED ∧ SavedAck cJSON line ∨ state = .FAILED) :
      Transfer cJSON rejects exits v
        [.received v.session line, .finished v.active state]
        { v with active := none, waiting := false, request_active := false }
  | send (v : Slot) (q) (connected : v.session.isSome = true) (held : v.active = some q)
      (unsent : v.waiting = false) (greeted : v.handshaked = true) :
      Transfer cJSON rejects exits v
        [.wrote v.session (.result q) (result_line q.payload).length true]
        { v with waiting := true }
  | sendFailed (v : Slot) (q sent) (connected : v.session.isSome = true)
      (held : v.active = some q) (unsent : v.waiting = false) (greeted : v.handshaked = true) :
      Transfer cJSON rejects exits v
        [.wrote v.session (.result q) sent false, .finished v.active .FAILED]
        { v with active := none, request_active := false }
  | timeout (v : Slot) (busy : v.active.isSome = true ∨ v.waiting = true) :
      Transfer cJSON rejects exits v [.finished v.active .FAILED]
        { v with active := none, waiting := false, request_active := false }
  | leave (v : Slot) (left : exits = true) :
      Transfer cJSON rejects exits v
        (if v.session.isSome then [.closed v.session] else [])
        { v with active := none, waiting := false, handshaked := false, session := none }

/-! ## The worker's locals fit its place -/

/-- Places that the worker reaches only with a session. -/
def Pc.connected : Pc → Bool
  | .link | .take | .read | .rx _ | .deadlines | .send => true
  | .announce _ _ _ next | .publish _ _ _ next => next != .loop
  | .start | .loop | .discover | .done => false

/-- Places between the decision to send the result and its writing. -/
def Pc.sending : Pc → Bool
  | .send | .announce _ _ _ .send | .publish _ _ _ .send => true
  | _ => false

/-- The locals of `run` fit the place the worker is at. -/
structure Worker.Wf (w : Worker) : Prop where
  connected : w.pc.connected = true → w.session.isSome = true
  discovering : w.pc = .discover → w.session = none
  unconnected : w.session = none → w.active_payload = none ∧ w.waiting_result_ack = false
  sending : w.pc.sending = true →
    w.active_payload.isSome = true ∧ w.waiting_result_ack = false ∧ w.handshaked = true
  returned : w.pc = .done → w = { pc := .done }

/-- The worker's locals fit its place, if there is a worker. -/
def Impl.Wf (s : Impl) : Prop := ∀ w, s.worker = some w → w.Wf

theorem Next.pc_connected {next : Next} : next.pc.connected = (next != .loop) := by
  cases next <;> rfl

theorem Next.pc_sending {next : Next} : next.pc.sending = true ↔ next = .send := by
  cases next <;> simp [Next.pc, Pc.sending]

theorem Next.pc_ne {next : Next} : next.pc ≠ .discover ∧ next.pc ≠ .done := by
  cases next <;> simp [Next.pc]

section

variable (s : Impl)

@[simp] theorem Impl.set_snapshot_worker (state : UploadState) (message port : String) :
    (s.set_snapshot state message port).worker = s.worker := by
  unfold Impl.set_snapshot
  split_ifs <;> rfl

@[simp] theorem Impl.set_snapshot_slot (state : UploadState) (message port : String) :
    (s.set_snapshot state message port).slot = s.slot := by
  unfold Impl.set_snapshot
  split_ifs <;> rfl

@[simp] theorem Impl.finish_request_worker (state : UploadState) (message port : String) :
    (s.finish_request state message port).worker = s.worker := by
  simp [Impl.finish_request]

@[simp] theorem Impl.finish_request_slot (state : UploadState) (message port : String) :
    (s.finish_request state message port).slot = { s.slot with request_active := false } := by
  rw [Impl.finish_request, Impl.set_snapshot_slot]
  rfl

@[simp] theorem Impl.drop_pending_worker (message port : String) :
    (s.drop_pending message port).worker = s.worker := by
  simp [Impl.drop_pending]

@[simp] theorem Impl.drop_pending_slot (message port : String) :
    (s.drop_pending message port).slot =
      { s.slot with pending := none, request_active := false } := by
  rw [Impl.drop_pending, Impl.set_snapshot_slot]
  rfl

end

theorem Impl.slot_of_worker {s : Impl} {w : Worker} (hw : s.worker = some w) :
    s.slot = s.slotWith w := by
  rw [Impl.slot, hw, Option.getD_some]

/-! ## Every step is a move -/

section

variable {rejects exits : Bool} {s : Impl} {w : Worker} {a : Answer}

/-- The outcome of a step is a move of the slot, and the worker's locals still fit. -/
def Refines (cJSON : CJsonLibrary) (rejects exits : Bool) (s : Impl) (r : Impl × List Obs) :
    Prop :=
  Transfer cJSON rejects exits s.slot r.2 r.1.slot ∧ r.1.Wf

/-- A step that only moves the worker on. -/
theorem refines_idle {s' : Impl} (hslot : s'.slot = s.slot) (hwf : s'.Wf) :
    Refines cJSON rejects exits s (s', []) :=
  ⟨by rw [hslot]; exact .idle _, hwf⟩

/-- With a session, the worker's locals only matter on the way to the writing. -/
theorem Impl.wf_of_session {s : Impl} {w : Worker} (hw : s.worker = some w)
    (hs : w.session.isSome = true) (hpc : w.pc ≠ .discover ∧ w.pc ≠ .done)
    (hsend : w.pc.sending = true →
      w.active_payload.isSome = true ∧ w.waiting_result_ack = false ∧ w.handshaked = true) :
    s.Wf := by
  intro w' hw'
  obtain rfl : w = w' := Option.some.inj (hw.symm.trans hw')
  exact
    { connected := fun _ => hs
      discovering := fun h => absurd h hpc.1
      unconnected := fun h => by rw [h] at hs; cases hs
      sending := hsend
      returned := fun h => absurd h hpc.2 }

/-- Without a session, the worker holds no request. -/
theorem Impl.wf_of_unconnected {s : Impl} {w : Worker} (hw : s.worker = some w)
    (hs : w.session = none) (hlocals : w.active_payload = none ∧ w.waiting_result_ack = false)
    (hpc : w.pc.connected = false ∧ w.pc.sending = false ∧ w.pc ≠ .done) : s.Wf := by
  intro w' hw'
  obtain rfl : w = w' := Option.some.inj (hw.symm.trans hw')
  exact
    { connected := fun h => by rw [hpc.1] at h; cases h
      discovering := fun _ => hs
      unconnected := fun _ => hlocals
      sending := fun h => by rw [hpc.2.1] at h; cases h
      returned := fun h => absurd h hpc.2.2 }

theorem on_take_refines (hw : s.worker = some w) (hwf : w.Wf) (hpc : w.pc = .take) :
    Refines cJSON rejects exits s (on_take s w a) := by
  have hs : w.session.isSome = true := hwf.connected (by rw [hpc]; rfl)
  unfold on_take
  split_ifs with h
  · rw [Bool.and_eq_true, Option.isNone_iff_eq_none] at h
    refine ⟨?_, Impl.wf_of_session rfl hs ⟨nofun, nofun⟩ nofun⟩
    rw [Impl.slot_of_worker hw]
    exact .take _ h.1 hs
  · exact refines_idle (Impl.slot_of_worker hw).symm
      (Impl.wf_of_session rfl hs ⟨nofun, nofun⟩ nofun)

/-- The session is lost: a request in work fails. -/
theorem refines_lose {lost : Worker} {message : String} (hw : s.worker = some w)
    (hs : w.session.isSome = true) (hlost : lost.session = none)
    (hlocals : lost.active_payload = none ∧ lost.waiting_result_ack = false)
    (hpc : lost.pc.connected = false ∧ lost.pc.sending = false ∧ lost.pc ≠ .done) :
    Refines cJSON rejects exits s
      (if w.active_payload.isSome || w.waiting_result_ack then
        ({ s with worker := some { lost with pc := .loop } }.finish_request .FAILED message w.port,
          [.finished w.active_payload .FAILED, .closed w.session])
      else ({ s with worker := some lost }, [.closed w.session])) := by
  have hlose := @Transfer.lose cJSON rejects exits s.slot lost.handshaked
     (by rw [Impl.slot_of_worker hw]; exact hs)
  unfold Refines
  rw [Impl.slot_of_worker hw] at hlose ⊢
  unfold Impl.slotWith at hlose ⊢
  split_ifs at hlose ⊢ with hbusy
  · refine ⟨?_, Impl.wf_of_unconnected (Impl.finish_request_worker ..) hlost hlocals
      ⟨rfl, rfl, nofun⟩⟩
    rw [Impl.finish_request_slot, Impl.slot_of_worker rfl]
    simpa only [Impl.slotWith, hlost, hlocals, List.cons_append, List.nil_append] using hlose
  · refine ⟨?_, Impl.wf_of_unconnected rfl hlost hlocals hpc⟩
    rw [Impl.slot_of_worker rfl]
    simpa only [Impl.slotWith, hlost, hlocals, List.cons_append, List.nil_append] using hlose

theorem on_read_refines (hw : s.worker = some w) (hwf : w.Wf) (hpc : w.pc = .read) :
    Refines cJSON rejects exits s (on_read s w a) := by
  have hs : w.session.isSome = true := hwf.connected (by rw [hpc]; rfl)
  unfold on_read
  split
  · exact refines_lose hw hs rfl ⟨rfl, rfl⟩ ⟨rfl, rfl, nofun⟩
  · exact refines_idle (Impl.slot_of_worker hw).symm
      (Impl.wf_of_session rfl hs ⟨nofun, nofun⟩ nofun)

theorem on_link_refines (hw : s.worker = some w) (hwf : w.Wf) (hpc : w.pc = .link) :
    Refines cJSON rejects exits s (on_link s w a) := by
  have hs : w.session.isSome = true := hwf.connected (by rw [hpc]; rfl)
  unfold on_link
  split
  · exact refines_idle (Impl.slot_of_worker hw).symm
      (Impl.wf_of_session rfl hs ⟨nofun, nofun⟩ nofun)
  · dsimp only
    split
    · exact refines_idle (Impl.slot_of_worker hw).symm
        (Impl.wf_of_session rfl hs ⟨nofun, nofun⟩ nofun)
    · exact refines_lose hw hs rfl ⟨rfl, rfl⟩ ⟨rfl, rfl, nofun⟩

/-- Without a session the pending request fails, or the worker goes on. -/
theorem refines_unconnected {P : Prop} [Decidable P] {idle : Worker} {message port : String}
    (hw : s.worker = some w) (hP : P → s.pending_payload.isSome = true)
    (hs : w.session = none) (hlocals : w.active_payload = none ∧ w.waiting_result_ack = false)
    (hidle : idle = { w with pc := idle.pc, device := idle.device, port := idle.port })
    (hpc : idle.pc.connected = false ∧ idle.pc.sending = false ∧ idle.pc ≠ .done) :
    Refines cJSON rejects exits s
      (if P then
        ({ s with worker := some { idle with pc := .loop } }.drop_pending message port,
          [.finished s.pending_payload .FAILED])
      else ({ s with worker := some idle }, [])) := by
  rw [hidle]
  split_ifs with h
  · refine ⟨?_, Impl.wf_of_unconnected (Impl.drop_pending_worker ..) hs hlocals
      ⟨rfl, rfl, nofun⟩⟩
    rw [Impl.drop_pending_slot, Impl.slot_of_worker hw, Impl.slot_of_worker rfl]
    exact .drop _ hs (hP h)
  · exact refines_idle (Impl.slot_of_worker hw).symm
      (Impl.wf_of_unconnected rfl hs hlocals hpc)

theorem on_discover_refines (hw : s.worker = some w) (hwf : w.Wf) (hpc : w.pc = .discover) :
    Refines cJSON rejects exits s (on_discover s w a) := by
  have hs : w.session = none := hwf.discovering hpc
  have hlocals := hwf.unconnected hs
  unfold on_discover
  dsimp only
  split
  · exact refines_unconnected hw (fun h => h.1) hs hlocals rfl ⟨rfl, rfl, nofun⟩
  · split
    · exact refines_unconnected hw id hs hlocals rfl ⟨rfl, rfl, nofun⟩
    · refine ⟨?_, Impl.wf_of_session rfl rfl ⟨nofun, nofun⟩ nofun⟩
      rw [Impl.slot_of_worker hw]
      exact .connect _ hs

theorem on_deadlines_refines (hw : s.worker = some w) (hwf : w.Wf) (hpc : w.pc = .deadlines) :
    Refines cJSON rejects exits s (on_deadlines s w a) := by
  have hs : w.session.isSome = true := hwf.connected (by rw [hpc]; rfl)
  unfold on_deadlines
  split_ifs with hsend hrequest hresult
  · simp only [Bool.and_eq_true, Bool.not_eq_true'] at hsend
    exact refines_idle (Impl.slot_of_worker hw).symm
      (Impl.wf_of_session rfl hs ⟨nofun, nofun⟩ fun _ => ⟨hsend.1.1, hsend.1.2, hsend.2⟩)
  · simp only [Bool.and_eq_true, Bool.not_eq_true', decide_eq_true_eq] at hrequest
    refine ⟨?_, Impl.wf_of_session (Impl.finish_request_worker ..) hs ⟨nofun, nofun⟩ nofun⟩
    have htimeout := @Transfer.timeout cJSON rejects exits s.slot
      (.inl (by rw [Impl.slot_of_worker hw]; exact hrequest.1.1))
    rw [Impl.slot_of_worker hw, Impl.slotWith, hrequest.1.2] at htimeout
    rw [Impl.slot_of_worker hw, Impl.finish_request_slot, Impl.slot_of_worker rfl, Impl.slotWith,
      hrequest.1.2]
    exact htimeout
  · simp only [Bool.and_eq_true, decide_eq_true_eq] at hresult
    refine ⟨?_, Impl.wf_of_session (Impl.finish_request_worker ..) hs ⟨nofun, nofun⟩ nofun⟩
    rw [Impl.slot_of_worker hw, Impl.finish_request_slot, Impl.slot_of_worker rfl]
    exact .timeout _ (.inr hresult.1)
  · exact refines_idle (Impl.slot_of_worker hw).symm
      (Impl.wf_of_session rfl hs ⟨nofun, nofun⟩ nofun)

theorem on_send_refines (hw : s.worker = some w) (hwf : w.Wf) (hpc : w.pc = .send) :
    Refines cJSON rejects exits s (on_send s w a) := by
  have hs : w.session.isSome = true := hwf.connected (by rw [hpc]; rfl)
  obtain ⟨hactive, hwaiting, hgreeted⟩ := hwf.sending (by rw [hpc]; rfl)
  unfold on_send
  split
  case h_1 hnone => simp [hnone] at hactive
  case h_2 q hq =>
    dsimp only
    split
    · refine ⟨?_, Impl.wf_of_session (Impl.finish_request_worker ..) hs ⟨nofun, nofun⟩ nofun⟩
      rw [Impl.slot_of_worker hw, Impl.finish_request_slot, Impl.slot_of_worker rfl]
      exact .sendFailed _ q _ hs hq hwaiting hgreeted
    case h_2 hsent =>
      refine ⟨?_, Impl.wf_of_session rfl hs ⟨nofun, nofun⟩ nofun⟩
      rw [write_text_complete (by simp [WriteReport.success, hsent]), Impl.slot_of_worker hw]
      exact .send _ q hs hq hwaiting hgreeted

theorem on_handshake_refines {rest : List Char} (hslot : s.slot = s.slotWith w)
    (hs : w.session.isSome = true) (line : List Char)
    (hline : command_matches line K_HANDSHAKE_COMMAND = true)
    (hrejects : (send_handshake_ack cJSON s w line a.port).1 = false → rejects = true) :
    Refines cJSON rejects exits s
      ((on_handshake cJSON s w line rest a).1,
        .received w.session line :: (on_handshake cJSON s w line rest a).2) := by
  unfold on_handshake
  unfold send_handshake_ack at hrejects ⊢
  split
  case h_1 written hok =>
    split at hok
    case h_1 => cases hok
    case h_2 seq hseq =>
      obtain ⟨hsuccess, rfl⟩ := Prod.mk.inj hok
      dsimp only
      rw [hsuccess, write_text_complete hsuccess]
      split_ifs
      all_goals
        refine ⟨?_, Impl.wf_of_session rfl hs ⟨nofun, nofun⟩ nofun⟩
        rw [hslot]
        exact .greet _ line _ hs ⟨hline, seq, hseq⟩
  case h_2 written hfail =>
    have hacks : written = [] ∨ ∃ text sent,
        written = [.wrote w.session (.ack text) sent false] := by
      split at hfail
      · exact .inl (Prod.mk.inj hfail).2.symm
      · obtain ⟨hsuccess, rfl⟩ := Prod.mk.inj hfail
        exact .inr ⟨_, _, by rw [hsuccess]⟩
    have hreject := @Transfer.reject cJSON rejects exits s.slot line written
      (by rw [hslot]; exact hs) (hrejects (by rw [hfail]))
      (by rw [hslot]; exact hacks)
    unfold Refines
    rw [hslot] at hreject ⊢
    unfold failed Impl.slotWith at hreject
    unfold Impl.slotWith
    split_ifs at hreject ⊢ with hactive
    · refine ⟨?_, Impl.wf_of_session (Impl.finish_request_worker ..) hs ⟨nofun, nofun⟩ nofun⟩
      rw [Impl.finish_request_slot]
      exact hreject
    · refine ⟨?_, Impl.wf_of_session rfl hs ⟨nofun, nofun⟩ nofun⟩
      rw [Bool.not_eq_true, Option.isSome_eq_false_iff, Option.isNone_iff_eq_none] at hactive
      rw [Impl.slot_of_worker rfl, hactive]
      simpa only [Impl.slotWith, hactive, List.append_nil] using hreject

/-- An `ACK_RESULT` line finishes the request as saved only if it says so. -/
theorem result_ack_verdict_cases {line : List Char}
    (hline : command_matches line K_RESULT_ACK_COMMAND = true) :
    (result_ack_verdict cJSON line).1 = .SUCCEEDED ∧ SavedAck cJSON line ∨
      (result_ack_verdict cJSON line).1 = .FAILED := by
  unfold result_ack_verdict
  split
  · exact .inr rfl
  case h_2 ack hack =>
    split_ifs with hsaved
    · exact .inl ⟨rfl, hline, ack, hack, hsaved⟩
    · exact .inr rfl
    · exact .inr rfl

theorem on_result_ack_refines {rest : List Char} (hslot : s.slot = s.slotWith w)
    (hs : w.session.isSome = true) (line : List Char)
    (hline : command_matches line K_RESULT_ACK_COMMAND = true) :
    Refines cJSON rejects exits s
      ((on_result_ack cJSON s w line rest).1,
        .received w.session line :: (on_result_ack cJSON s w line rest).2) := by
  unfold on_result_ack
  split_ifs with hwaits
  · refine ⟨?_, Impl.wf_of_session (Impl.finish_request_worker ..) hs ⟨nofun, nofun⟩ nofun⟩
    rw [hslot, Impl.finish_request_slot, Impl.slot_of_worker rfl]
    exact .answer _ line _ hs hwaits (result_ack_verdict_cases hline)
  · refine ⟨?_, Impl.wf_of_session rfl hs ⟨nofun, nofun⟩ nofun⟩
    rw [hslot]
    exact .heard _ line

theorem on_line_refines {rest : List Char} (hslot : s.slot = s.slotWith w)
    (hs : w.session.isSome = true) (line : List Char)
    (hrejects : command_matches line K_HANDSHAKE_COMMAND = true →
      (send_handshake_ack cJSON s w line a.port).1 = false → rejects = true) :
    Refines cJSON rejects exits s
      ((on_line cJSON s w line rest a).1,
        .received w.session line :: (on_line cJSON s w line rest a).2) := by
  unfold on_line
  split_ifs with hhandshake hresult
  · exact on_handshake_refines hslot hs line hhandshake (hrejects hhandshake)
  · exact on_result_ack_refines hslot hs line hresult
  · refine ⟨?_, Impl.wf_of_session rfl hs ⟨nofun, nofun⟩ nofun⟩
    rw [hslot]
    exact .heard _ line

theorem on_character_refines {c : Char} {rest : List Char} (hw : s.worker = some w)
    (hwf : w.Wf) (hpc : w.pc = .rx (c :: rest)) :
    Refines cJSON (rejects_handshake cJSON s (.work a)) exits s
      (on_character cJSON s w c rest a) := by
  have hs : w.session.isSome = true := hwf.connected (by rw [hpc]; rfl)
  have hidle {w' : Worker} (hslot : s.slotWith w' = s.slotWith w)
      (hs : w'.session.isSome = true) (hpc : w'.pc = .rx rest) :
      Refines cJSON (rejects_handshake cJSON s (.work a)) exits s
        ({ s with worker := some w' }, []) :=
    refines_idle ((Impl.slot_of_worker hw).trans hslot.symm).symm
      (Impl.wf_of_session rfl hs (by rw [hpc]; exact ⟨nofun, nofun⟩) (by rw [hpc]; exact nofun))
  unfold on_character
  dsimp only
  split_ifs with hcr hlf hlong hempty
  · exact hidle rfl hs rfl
  · exact hidle rfl hs rfl
  · exact hidle rfl hs rfl
  · exact hidle rfl hs rfl
  · have hslot : s.slot = s.slotWith w := Impl.slot_of_worker hw
    refine on_line_refines (w := { w with rx_buffer := [] }) hslot hs w.rx_buffer
      fun hcommand hack => ?_
    have hack' : (send_handshake_ack cJSON s w w.rx_buffer a.port).1 = false := hack
    simp only [rejects_handshake, hw, hpc, hcommand, hack', not_not.1 hlf, beq_self_eq_true,
      Bool.not_false, Bool.and_true]

/-- The worker may go on to a place that asks no more of its locals. -/
theorem Worker.Wf.go {s' : Impl} {pc : Pc} (h : w.Wf) (hw : s'.worker = some { w with pc := pc })
    (hconnected : pc.connected = true → w.pc.connected = true)
    (hsending : pc.sending = true → w.pc.sending = true) (hpc : pc ≠ .discover ∧ pc ≠ .done) :
    s'.Wf := by
  intro w' hw'
  obtain rfl := Option.some.inj (hw.symm.trans hw')
  exact
    { connected := fun hc => h.connected (hconnected hc)
      discovering := fun hd => absurd hd hpc.1
      unconnected := h.unconnected
      sending := fun hs => h.sending (hsending hs)
      returned := fun hd => absurd hd hpc.2 }

/-- After the announcement of a state, or its suppression, the worker goes on to `next`. -/
theorem Worker.Wf.go_next {s' : Impl} {next : Next} (h : w.Wf)
    (hw : s'.worker = some { w with pc := next.pc })
    (hconnected : next ≠ .loop → w.pc.connected = true)
    (hsending : next = .send → w.pc.sending = true) : s'.Wf := by
  refine h.go hw (fun hc => hconnected ?_) (fun hs => hsending (Next.pc_sending.1 hs)) Next.pc_ne
  rw [Next.pc_connected, bne_iff_ne] at hc
  exact hc

theorem publish_refines {state : UploadState} {message port : String} {next : Next}
    (hw : s.worker = some w) (hwf : w.Wf) (hpc : w.pc = .publish state message port next) :
    Refines cJSON rejects exits s
      ({ s with worker := some { w with pc := next.pc } }.set_snapshot state message port, []) := by
  refine refines_idle ?_ (hwf.go_next (Impl.set_snapshot_worker ..) (fun h => ?_) fun h => ?_)
  · rw [Impl.set_snapshot_slot, Impl.slot_of_worker hw]
    rfl
  · rw [hpc]
    exact bne_iff_ne.2 h
  · rw [hpc, h]
    rfl

theorem announce_refines {state : UploadState} {message port : String} {next : Next}
    (hw : s.worker = some w) (hwf : w.Wf) (hpc : w.pc = .announce state message port next) :
    Refines cJSON rejects exits s
      ({ s with worker := some { w with
          pc := if s.has_terminal_upload_snapshot then next.pc
            else .publish state message port next } }, []) := by
  refine refines_idle (Impl.slot_of_worker hw).symm ?_
  split_ifs with hterminal
  · refine hwf.go_next rfl (fun h => ?_) fun h => ?_
    · rw [hpc]
      exact bne_iff_ne.2 h
    · rw [hpc, h]
      rfl
  · refine hwf.go rfl (fun h => by rw [hpc]; exact h) (fun h => ?_) ⟨nofun, nofun⟩
    rw [hpc]
    cases next <;> first | rfl | cases h

theorem loop_refines (hw : s.worker = some w) (hwf : w.Wf) (hpc : w.pc = .loop) :
    Refines cJSON rejects (returns s (.work a)) s
      (if s.stop_requested then
        ({ s with
            listener_running := false
            listener_heartbeat_ms := heartbeat_milliseconds a.now
            worker := some { pc := .done } },
          if w.session.isSome then [.closed w.session] else [])
      else
        ({ s with
            listener_heartbeat_ms := heartbeat_milliseconds a.now
            worker := some { w with pc := if w.session.isNone then .discover else .link } },
          [])) := by
  split
  case isTrue hstop =>
    refine ⟨?_, fun w' hw' => ?_⟩
    · rw [Impl.slot_of_worker hw]
      exact .leave _ (by simp [returns, hw, hpc, hstop])
    · obtain rfl := Option.some.inj hw'
      exact ⟨nofun, nofun, fun _ => ⟨rfl, rfl⟩, nofun, fun _ => rfl⟩
  case isFalse =>
    refine refines_idle (Impl.slot_of_worker hw).symm ?_
    split_ifs with hnone
    · rw [Option.isNone_iff_eq_none] at hnone
      exact Impl.wf_of_unconnected rfl hnone (hwf.unconnected hnone) ⟨rfl, rfl, nofun⟩
    · rw [Option.isNone_iff_eq_none, ← ne_eq, Option.ne_none_iff_isSome] at hnone
      exact Impl.wf_of_session rfl hnone ⟨nofun, nofun⟩ nofun

/-- Every step of the worker is a move. -/
theorem worker_step_refines (hw : s.worker = some w) (hwf : w.Wf) :
    Refines cJSON (rejects_handshake cJSON s (.work a)) (returns s (.work a)) s
      (worker_step cJSON s w a) := by
  cases hpc : w.pc with
  | start =>
    simp only [worker_step, hpc]
    exact refines_idle (Impl.slot_of_worker hw).symm
      (hwf.go rfl nofun nofun ⟨nofun, nofun⟩)
  | loop =>
    simp only [worker_step, hpc]
    exact loop_refines hw hwf hpc
  | discover =>
    simp only [worker_step, hpc]
    exact on_discover_refines hw hwf hpc
  | announce state message port next =>
    simp only [worker_step, hpc]
    exact announce_refines hw hwf hpc
  | publish state message port next =>
    simp only [worker_step, hpc]
    exact publish_refines hw hwf hpc
  | link =>
    simp only [worker_step, hpc]
    exact on_link_refines hw hwf hpc
  | take =>
    simp only [worker_step, hpc]
    exact on_take_refines hw hwf hpc
  | read =>
    simp only [worker_step, hpc]
    exact on_read_refines hw hwf hpc
  | rx received =>
    cases received with
    | nil =>
      simp only [worker_step, hpc]
      exact refines_idle (Impl.slot_of_worker hw).symm
        (hwf.go rfl (fun _ => by rw [hpc]; rfl) nofun ⟨nofun, nofun⟩)
    | cons c rest =>
      simp only [worker_step, hpc]
      exact on_character_refines hw hwf hpc
  | deadlines =>
    simp only [worker_step, hpc]
    exact on_deadlines_refines hw hwf hpc
  | send =>
    simp only [worker_step, hpc]
    exact on_send_refines hw hwf hpc
  | done =>
    simp only [worker_step, hpc]
    refine refines_idle rfl fun w' hw' => ?_
    rwa [← Option.some.inj (hw.symm.trans hw')]

/-- The payload is admissible and the slot free whenever `queue` accepts. -/
theorem queue_ok {s s' : Impl} {payload : List Char} {heartbeat_now now : ℤ} {q : Request}
    (h : s.queue payload heartbeat_now now = (s', .ok q)) :
    admissible (strip_line_breaks payload) = true ∧ s.pending_payload = none ∧
      s.request_active = false ∧ q = ⟨s.accepted, strip_line_breaks payload⟩ ∧
      s'.worker = s.worker ∧
      s'.slot = { s.slot with
        pending := some q, request_active := true, accepted := s.accepted + 1 } := by
  unfold Impl.queue at h
  dsimp only at h
  split_ifs at h with hempty hlong hworker hfresh hbusy
  all_goals obtain ⟨hs', hq⟩ := Prod.mk.inj h
  all_goals cases hq
  subst hs'
  rw [Bool.or_eq_true, not_or, Bool.not_eq_true, Bool.not_eq_true] at hbusy
  refine ⟨?_, ?_, hbusy.2, rfl, Impl.set_snapshot_worker .., ?_⟩
  · simp only [admissible, hempty, Bool.not_false, Bool.true_and, decide_eq_true_eq]
    exact not_lt.1 hlong
  · exact Option.isNone_iff_eq_none.1 (Option.isSome_eq_false_iff.1 hbusy.1)
  · rw [Impl.set_snapshot_slot]
    rfl

/-- A refused payload leaves the service as it was. -/
theorem queue_error {s s' : Impl} {payload : List Char} {heartbeat_now now : ℤ} {e : String}
    (h : s.queue payload heartbeat_now now = (s', .error e)) : s' = s := by
  unfold Impl.queue at h
  dsimp only at h
  split_ifs at h
  all_goals obtain ⟨hs', he⟩ := Prod.mk.inj h
  all_goals first | exact hs'.symm | cases he

/-- Every step of the service is a move, and the worker's locals fit its place again. -/
theorem step_transfer (hwf : s.Wf) (e : Event) :
    Refines cJSON (rejects_handshake cJSON s e) (returns s e) s (step cJSON s e) := by
  cases e with
  | queue_result payload heartbeat_now now =>
    rcases hqueue : s.queue payload heartbeat_now now with ⟨s', e | q⟩
    · simp only [step, hqueue]
      rw [queue_error hqueue]
      exact refines_idle rfl hwf
    · simp only [step, hqueue]
      obtain ⟨hfits, hfree, hinactive, rfl, hworker, hslot⟩ := queue_ok hqueue
      refine ⟨?_, fun w hw => hwf w (hworker ▸ hw)⟩
      rw [hslot]
      exact .accept _ payload hfree hinactive hfits
  | start =>
    simp only [step, Impl.start_worker]
    split_ifs with hworker
    · exact refines_idle rfl hwf
    · rw [Bool.not_eq_true, Option.isSome_eq_false_iff, Option.isNone_iff_eq_none] at hworker
      refine refines_idle ?_ (Impl.wf_of_unconnected rfl rfl ⟨rfl, rfl⟩ ⟨rfl, rfl, nofun⟩)
      simp only [Impl.slot, hworker]
      rfl
  | stop => exact refines_idle rfl hwf
  | join =>
    cases hw : s.worker with
    | none =>
      simp only [step, hw]
      exact refines_idle rfl hwf
    | some w =>
      simp only [step, hw]
      split_ifs with hdone
      · have hlocals := (hwf w hw).returned hdone
        refine refines_idle ?_ fun w' hw' => by cases hw'
        rw [Impl.slot_of_worker hw, hlocals]
        rfl
      · exact refines_idle rfl hwf
  | work a =>
    cases hw : s.worker with
    | none =>
      simp only [step, hw]
      exact refines_idle rfl hwf
    | some w =>
      simp only [step, hw]
      exact worker_step_refines hw (hwf w hw)

end

end FactoryTest.Upload
