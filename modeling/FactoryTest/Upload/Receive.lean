import FactoryTest.Lib.Lines
import FactoryTest.Upload.Sending

/-!
# What the service makes of what it receives

What `read_available` returns on a session arrives in chunks, and the worker looks at it one
character at a time. Of the service's state only a part matters here (`Rx`), and a step changes
it in one of five ways (`RxMove`): the worker's receive buffer is a receiver of lines that
empties its buffer whenever a line outgrows `K_MAX_RX_LINE`.

So the lines dispatched on a session depend on the stream alone, and not on how it was cut into
chunks; they are the lines of the stream exactly as long as every closed segment that is too long
ends in an overflow (`dispatches_lines_iff`). Of any other such segment the end is dispatched:
`overlong_dispatched` is a run in which the end of an overlong line is taken for a line.
-/

namespace FactoryTest.Upload

variable {cJSON : CJsonLibrary}

/-- The lines of the protocol: closed by LF, without CR, at most `K_MAX_RX_LINE` long. -/
def lineFormat : LineFormat Char := ⟨'\n', '\r', K_MAX_RX_LINE, by decide⟩

/-! ## Streams of a session -/

/-- The characters of the current chunk that the worker has not looked at yet. -/
def Next.ahead : Next → List Char
  | .rx received => received
  | _ => []

/-- The characters of the current chunk that the worker has not looked at yet. -/
def Pc.ahead : Pc → List Char
  | .announce _ _ _ next => next.ahead
  | .publish _ _ _ next => next.ahead
  | .rx received => received
  | _ => []

/-- The part of the state that the receiving of lines depends on. -/
structure Rx where
  session : Option ℕ
  buffer : List Char
  ahead : List Char
  sessions : ℕ

/-- What is received by a service whose worker is at `w`. -/
def Impl.rxWith (s : Impl) (w : Worker) : Rx := ⟨w.session, w.rx_buffer, w.pc.ahead, s.sessions⟩

def Impl.rx (s : Impl) : Rx := s.rxWith (s.worker.getD {})

/-- The characters of the current chunk of a session that have not been looked at. -/
def Rx.aheadOn (v : Rx) (session : ℕ) : List Char :=
  if v.session = some session then v.ahead else []

/-- The chunk that `read_available` returns in the step. -/
def chunk (s : Impl) : Event → List Char
  | .work a =>
    match s.worker with
    | some w =>
      match w.pc, a.read_available with
      | .read, .ok received => received
      | _, _ => []
    | none => []
  | _ => []

/-- The stream of a session: what `read_available` returned on it, in any number of chunks. -/
def arrived (cJSON : CJsonLibrary) (session : ℕ) : Config Impl Obs → List Event → List Char
  | _, [] => []
  | c, e :: es =>
    (if c.state.rx.session = some session then chunk c.state e else []) ++
      arrived cJSON session ((service cJSON).next c e) es

/-- The part of the stream that the worker has looked at. -/
def processed (cJSON : CJsonLibrary) (session : ℕ) (c : Config Impl Obs) (es : List Event) :
    List Char :=
  (arrived cJSON session c es).take ((arrived cJSON session c es).length -
    (((service cJSON).run c es).state.rx.aheadOn session).length)

/-- The line dispatched on the session. -/
def Obs.lineOn (session : ℕ) : Obs → Option (List Char)
  | .received session' line => if session' = some session then some line else none
  | _ => none

/-- The lines dispatched on a session. -/
def dispatched (session : ℕ) (h : List Obs) : List (List Char) := h.filterMap (Obs.lineOn session)

theorem dispatched_append (session : ℕ) (h os : List Obs) :
    dispatched session (h ++ os) = dispatched session h ++ dispatched session os :=
  List.filterMap_append

/-! ## What a step does -/

/-- What a step does to the receiving of lines: the chunk it reads and the lines it dispatches,
both on the session it starts from. -/
inductive RxMove (v : Rx) : Rx → List Char → List (List Char) → Prop
  | stay : RxMove v v [] []
  | lose (buffer : List Char) (h : v.ahead = []) :
    RxMove v ⟨none, buffer, [], v.sessions⟩ [] []
  | opened (h : v.ahead = []) : RxMove v ⟨some v.sessions, [], [], v.sessions + 1⟩ [] []
  | read (received : List Char) (h : v.ahead = []) :
    RxMove v { v with ahead := received } received []
  | take (c : Char) (rest : List Char) (h : v.ahead = c :: rest) :
    RxMove v { v with buffer := (lineFormat.push ⟨v.buffer, []⟩ c).buffer, ahead := rest } []
      (lineFormat.push ⟨v.buffer, []⟩ c).lines

/-- The result of a step moves as it should, and dispatches its lines on the session it starts
from. -/
def Receives (v : Rx) (received : List Char) (r : Impl × List Obs) : Prop :=
  ∃ lines, RxMove v r.1.rx received lines ∧
    ∀ session, dispatched session r.2 = if v.session = some session then lines else []

section

variable {s s' : Impl} {w : Worker} {a : Answer} {os : List Obs}

@[simp] theorem Impl.set_snapshot_rx (state : UploadState) (message port : String) :
    (s.set_snapshot state message port).rx = s.rx := by
  unfold Impl.set_snapshot
  split_ifs <;> rfl

@[simp] theorem Impl.finish_request_rx (state : UploadState) (message port : String) :
    (s.finish_request state message port).rx = s.rx :=
  Impl.set_snapshot_rx state message port

@[simp] theorem Impl.drop_pending_rx (message port : String) :
    (s.drop_pending message port).rx = s.rx :=
  Impl.set_snapshot_rx _ message port

/-- Nothing is received. -/
theorem receives_nothing (h : RxMove s.rx s'.rx [] [])
    (hos : ∀ session, dispatched session os = []) : Receives s.rx [] (s', os) :=
  ⟨[], h, fun session => by rw [hos, ite_self]⟩

/-- The receiving of lines does not change. -/
theorem receives_stay (h : s'.rx = s.rx) (hos : ∀ session, dispatched session os = []) :
    Receives s.rx [] (s', os) :=
  receives_nothing (h ▸ .stay) hos

theorem Impl.rx_of_worker (hw : s.worker = some w) : s.rx = s.rxWith w := by
  rw [Impl.rx, hw, Option.getD_some]

theorem queue_rx {payload : List Char} {heartbeat_now now : ℤ} {r : Except String Request}
    (h : s.queue payload heartbeat_now now = (s', r)) : s'.rx = s.rx := by
  unfold Impl.queue at h
  dsimp only at h
  split_ifs at h <;> cases h
  case neg => exact Impl.set_snapshot_rx _ _ _
  all_goals rfl

theorem Next.ahead_pc (next : Next) : next.pc.ahead = next.ahead := by
  cases next <;> rfl

theorem on_discover_receives (hw : s.worker = some w) (hpc : w.pc = .discover) :
    Receives s.rx [] (on_discover s w a) := by
  have hrx := Impl.rx_of_worker hw
  have hahead : s.rx.ahead = [] := by rw [hrx, Impl.rxWith, hpc]; rfl
  have hstay {s' : Impl} (h : s'.rx = ⟨w.session, w.rx_buffer, [], s.sessions⟩) : s'.rx = s.rx := by
    rw [h, hrx, Impl.rxWith, hpc]
    rfl
  unfold on_discover
  dsimp only
  split
  · split
    · exact receives_stay (hstay (Impl.drop_pending_rx _ _)) fun _ => rfl
    · exact receives_stay (hstay rfl) fun _ => rfl
  · split
    · split
      · exact receives_stay (hstay (Impl.drop_pending_rx _ _)) fun _ => rfl
      · exact receives_stay (hstay rfl) fun _ => rfl
    · refine receives_nothing ?_ fun _ => rfl
      have hopened : s.rx.sessions = s.sessions := rfl
      rw [← hopened]
      exact .opened hahead

theorem on_link_receives (hw : s.worker = some w) (hpc : w.pc = .link) :
    Receives s.rx [] (on_link s w a) := by
  have hrx := Impl.rx_of_worker hw
  have hahead : s.rx.ahead = [] := by rw [hrx, Impl.rxWith, hpc]; rfl
  have hstay {s' : Impl} (h : s'.rx = ⟨w.session, w.rx_buffer, [], s.sessions⟩) : s'.rx = s.rx := by
    rw [h, hrx, Impl.rxWith, hpc]
    rfl
  unfold on_link
  dsimp only
  split
  · exact receives_stay (hstay rfl) fun _ => rfl
  · split
    · exact receives_stay (hstay rfl) fun _ => rfl
    · split
      · refine receives_nothing ?_ fun _ => rfl
        rw [Impl.finish_request_rx]
        exact .lose [] hahead
      · exact receives_nothing (.lose [] hahead) fun _ => rfl

theorem on_take_receives (hw : s.worker = some w) (hpc : w.pc = .take) :
    Receives s.rx [] (on_take s w a) := by
  have hrx : s.rx = ⟨w.session, w.rx_buffer, [], s.sessions⟩ := by
    rw [Impl.rx_of_worker hw, Impl.rxWith, hpc]
    rfl
  unfold on_take
  split
  · exact receives_stay hrx.symm fun _ => rfl
  · exact receives_stay hrx.symm fun _ => rfl

theorem on_read_receives (hw : s.worker = some w) (hpc : w.pc = .read) :
    Receives s.rx (chunk s (.work a)) (on_read s w a) := by
  have hrx := Impl.rx_of_worker hw
  have hahead : s.rx.ahead = [] := by rw [hrx, Impl.rxWith, hpc]; rfl
  unfold on_read
  simp only [chunk, hw, hpc]
  cases a.read_available with
  | error error =>
    dsimp only
    split
    · refine receives_nothing ?_ fun _ => rfl
      rw [Impl.finish_request_rx]
      exact .lose w.rx_buffer hahead
    · exact receives_nothing (.lose w.rx_buffer hahead) fun _ => rfl
  | ok received =>
    refine ⟨[], ?_, fun _ => (ite_self _).symm⟩
    have h := RxMove.read (v := s.rx) received hahead
    rw [hrx] at h ⊢
    exact h

theorem on_deadlines_receives (hw : s.worker = some w) (hpc : w.pc = .deadlines) :
    Receives s.rx [] (on_deadlines s w a) := by
  have hrx : s.rx = ⟨w.session, w.rx_buffer, [], s.sessions⟩ := by
    rw [Impl.rx_of_worker hw, Impl.rxWith, hpc]
    rfl
  unfold on_deadlines
  split
  · exact receives_stay hrx.symm fun _ => rfl
  · split
    · exact receives_stay ((Impl.finish_request_rx _ _ _).trans hrx.symm) fun _ => rfl
    · split
      · exact receives_stay ((Impl.finish_request_rx _ _ _).trans hrx.symm) fun _ => rfl
      · exact receives_stay hrx.symm fun _ => rfl

theorem on_send_receives (hw : s.worker = some w) (hpc : w.pc = .send) :
    Receives s.rx [] (on_send s w a) := by
  have hrx : s.rx = ⟨w.session, w.rx_buffer, [], s.sessions⟩ := by
    rw [Impl.rx_of_worker hw, Impl.rxWith, hpc]
    rfl
  unfold on_send
  split
  · exact receives_stay hrx.symm fun _ => rfl
  · dsimp only
    split
    · exact receives_stay ((Impl.finish_request_rx _ _ _).trans hrx.symm) fun _ => rfl
    · exact receives_stay hrx.symm fun _ => rfl

/-! ### A received character -/

theorem send_handshake_ack_dispatched (session : ℕ) (line : List Char) (port : PortAnswers) :
    dispatched session (send_handshake_ack cJSON s w line port).2 = [] := by
  unfold send_handshake_ack
  split <;> rfl

/-- The handling of a line dispatches nothing more, and leaves the rest of the chunk ahead. -/
theorem on_line_rx (line rest : List Char) :
    (on_line cJSON s w line rest a).1.rx = ⟨w.session, w.rx_buffer, rest, s.sessions⟩ ∧
      ∀ session, dispatched session (on_line cJSON s w line rest a).2 = [] := by
  unfold on_line
  split
  · unfold on_handshake
    have hack (session : ℕ) :
        dispatched session (send_handshake_ack cJSON s w line a.port).2 = [] :=
      send_handshake_ack_dispatched session line a.port
    split
    case h_1 written hsent =>
      rw [hsent] at hack
      dsimp only
      split
      · exact ⟨rfl, hack⟩
      · exact ⟨rfl, hack⟩
    case h_2 written hsent =>
      rw [hsent] at hack
      split
      · refine ⟨Impl.finish_request_rx _ _ _, fun session => ?_⟩
        rw [dispatched_append, hack]
        rfl
      · exact ⟨rfl, hack⟩
  · split
    · unfold on_result_ack
      split
      · exact ⟨Impl.finish_request_rx _ _ _, fun _ => rfl⟩
      · exact ⟨rfl, fun _ => rfl⟩
    · exact ⟨rfl, fun _ => rfl⟩

/-- The buffer is a receiver of lines. -/
theorem on_character_rx (c : Char) (rest : List Char) :
    (on_character cJSON s w c rest a).1.rx =
        ⟨w.session, (lineFormat.push ⟨w.rx_buffer, []⟩ c).buffer, rest, s.sessions⟩ ∧
      ∀ session, dispatched session (on_character cJSON s w c rest a).2 =
        if w.session = some session then (lineFormat.push ⟨w.rx_buffer, []⟩ c).lines else [] := by
  unfold on_character LineFormat.push lineFormat
  dsimp only
  by_cases hcr : c = '\r'
  · rw [if_pos hcr, if_pos hcr]
    exact ⟨rfl, fun _ => (ite_self _).symm⟩
  · rw [if_neg hcr, if_neg hcr]
    by_cases hlf : c = '\n'
    · rw [if_neg (not_not.2 hlf), if_neg (not_not.2 hlf)]
      cases hbuffer : w.rx_buffer with
      | nil => exact ⟨rfl, fun _ => (ite_self _).symm⟩
      | cons d ds =>
        obtain ⟨hrx, hnone⟩ := @on_line_rx cJSON s { w with rx_buffer := [] } a (d :: ds) rest
        refine ⟨hrx, fun session => ?_⟩
        refine (List.filterMap_cons).trans ?_
        by_cases hsession : w.session = some session
        · rw [if_pos hsession]
          simp only [Obs.lineOn, if_pos hsession]
          exact congrArg _ (hnone session)
        · rw [if_neg hsession]
          simp only [Obs.lineOn, if_neg hsession]
          exact hnone session
    · rw [if_pos hlf, if_pos hlf]
      exact ⟨rfl, fun _ => (ite_self _).symm⟩

theorem on_character_receives {c : Char} {rest : List Char} (hw : s.worker = some w)
    (hpc : w.pc = .rx (c :: rest)) :
    Receives s.rx [] (on_character cJSON s w c rest a) := by
  obtain ⟨hafter, hlines⟩ := @on_character_rx cJSON s w a c rest
  have hrx : s.rx = ⟨w.session, w.rx_buffer, c :: rest, s.sessions⟩ := by
    rw [Impl.rx_of_worker hw, Impl.rxWith, hpc]
    rfl
  refine ⟨(lineFormat.push ⟨w.rx_buffer, []⟩ c).lines, ?_, ?_⟩
  · rw [hafter, hrx]
    exact .take c rest rfl
  · rw [hrx]
    exact hlines

/-! ### Every step -/

theorem loop_receives (hw : s.worker = some w) (hpc : w.pc = .loop) :
    Receives s.rx [] (worker_step cJSON s w a) := by
  have hrx : s.rx = ⟨w.session, w.rx_buffer, [], s.sessions⟩ := by
    rw [Impl.rx_of_worker hw, Impl.rxWith, hpc]
    rfl
  simp only [worker_step, hpc]
  split
  · refine receives_nothing ?_ fun session => ?_
    · rw [hrx]
      exact .lose [] rfl
    · split <;> rfl
  · refine receives_stay ?_ fun _ => rfl
    rw [hrx]
    show Rx.mk w.session w.rx_buffer
      (Pc.ahead (if w.session.isNone then .discover else .link)) _ = _
    split <;> rfl

theorem worker_step_receives (hw : s.worker = some w) :
    Receives s.rx (chunk s (.work a)) (worker_step cJSON s w a) := by
  have hrx := Impl.rx_of_worker hw
  cases hpc : w.pc with
  | start =>
    simp only [worker_step, chunk, hw, hpc]
    refine receives_stay ?_ fun _ => rfl
    rw [hrx, Impl.rxWith, hpc]
    rfl
  | loop =>
    simp only [chunk, hw, hpc]
    exact loop_receives hw hpc
  | discover =>
    simp only [worker_step, chunk, hw, hpc]
    exact on_discover_receives hw hpc
  | announce state message port next =>
    simp only [worker_step, chunk, hw, hpc]
    refine receives_stay ?_ fun _ => rfl
    rw [hrx, Impl.rxWith, hpc]
    by_cases hterminal : s.has_terminal_upload_snapshot = true
    · simp only [Impl.rx, Impl.rxWith, hterminal, if_true, Option.getD_some, Next.ahead_pc]
      rfl
    · simp only [Impl.rx, Impl.rxWith, hterminal, Option.getD_some]
      rfl
  | publish state message port next =>
    simp only [worker_step, chunk, hw, hpc]
    refine receives_stay ?_ fun _ => rfl
    rw [hrx, Impl.rxWith, hpc, Impl.set_snapshot_rx]
    simp only [Impl.rx, Impl.rxWith, Option.getD_some, Next.ahead_pc]
    rfl
  | link =>
    simp only [worker_step, chunk, hw, hpc]
    exact on_link_receives hw hpc
  | take =>
    simp only [worker_step, chunk, hw, hpc]
    exact on_take_receives hw hpc
  | read =>
    simp only [worker_step, hpc]
    exact on_read_receives hw hpc
  | rx received =>
    cases received with
    | nil =>
      simp only [worker_step, chunk, hw, hpc]
      refine receives_stay ?_ fun _ => rfl
      rw [hrx, Impl.rxWith, hpc]
      rfl
    | cons c rest =>
      simp only [worker_step, chunk, hw, hpc]
      exact on_character_receives hw hpc
  | deadlines =>
    simp only [worker_step, chunk, hw, hpc]
    exact on_deadlines_receives hw hpc
  | send =>
    simp only [worker_step, chunk, hw, hpc]
    exact on_send_receives hw hpc
  | done =>
    simp only [worker_step, chunk, hw, hpc]
    exact receives_stay rfl fun _ => rfl

/-- What every event does to the receiving of lines. -/
theorem step_receives (s : Impl) (e : Event) :
    Receives s.rx (chunk s e) (step cJSON s e) := by
  cases e with
  | queue_result payload heartbeat_now now =>
    simp only [step]
    split
    case h_1 hqueue => exact receives_stay (queue_rx hqueue) fun _ => rfl
    case h_2 hqueue => exact receives_stay (queue_rx hqueue) fun _ => rfl
  | start =>
    refine receives_stay ?_ fun _ => rfl
    show s.start_worker.rx = s.rx
    unfold Impl.start_worker
    cases hw : s.worker with
    | none => rw [if_neg (by simp), Impl.rx, Impl.rx, hw]; rfl
    | some w => rfl
  | stop => exact receives_stay rfl fun _ => rfl
  | join =>
    simp only [step]
    split
    case h_1 w hw =>
      split
      case isTrue hdone =>
        refine receives_nothing ?_ fun _ => rfl
        refine RxMove.lose [] ?_
        rw [Impl.rx_of_worker hw, Impl.rxWith, hdone]
        rfl
      case isFalse => exact receives_stay rfl fun _ => rfl
    case h_2 => exact receives_stay rfl fun _ => rfl
  | work a =>
    cases hw : s.worker with
    | none =>
      simp only [step, chunk, hw]
      exact receives_stay rfl fun _ => rfl
    | some w =>
      simp only [step, hw]
      exact worker_step_receives hw

end

/-! ## Along every run -/

/-- What is known of a session once it has been sent a stream: the worker has looked at a part of
it, has dispatched what a receiver delivers of that part, and still holds its buffer. -/
structure Received (session : ℕ) (v : Rx) (h : List Obs) (stream looked : List Char) : Prop where
  stream_eq : stream = looked ++ v.aheadOn session
  lines : dispatched session h = (lineFormat.receive {} looked).lines
  buffer : v.session = some session →
    v.buffer = (lineFormat.receive {} looked).buffer ∧ session < v.sessions
  unopened : v.sessions ≤ session → looked = []

/-- One more character. -/
theorem receive_concat (looked : List Char) (c : Char) :
    (lineFormat.receive {} (looked ++ [c])).buffer =
        (lineFormat.push ⟨(lineFormat.receive {} looked).buffer, []⟩ c).buffer ∧
      (lineFormat.receive {} (looked ++ [c])).lines = (lineFormat.receive {} looked).lines ++
        (lineFormat.push ⟨(lineFormat.receive {} looked).buffer, []⟩ c).lines := by
  rw [LineFormat.receive_append]
  show (lineFormat.push _ c).buffer = _ ∧ (lineFormat.push _ c).lines = _
  unfold LineFormat.push
  by_cases hcr : c = lineFormat.cr
  · simp [hcr]
  · by_cases hlf : c = lineFormat.lf
    · by_cases hnil : (lineFormat.receive {} looked).buffer = [] <;>
        simp [hlf, hnil, lineFormat.lf_ne_cr]
    · simp [hcr, hlf]

theorem Received.init (session : ℕ) (config : FactoryUploadConfig) :
    Received session (Impl.init config).state.rx [] [] [] where
  stream_eq := rfl
  lines := rfl
  buffer h := by cases h
  unopened _ := rfl

theorem Rx.aheadOn_of_nil {v : Rx} (h : v.ahead = []) (session : ℕ) : v.aheadOn session = [] := by
  rw [Rx.aheadOn, h, ite_self]

theorem Received.move {session : ℕ} {v v' : Rx} {h os : List Obs} {stream looked : List Char}
    {received : List Char} {lines : List (List Char)} (hr : Received session v h stream looked)
    (hmove : RxMove v v' received lines)
    (hos : dispatched session os = if v.session = some session then lines else []) :
    ∃ looked', Received session v' (h ++ os)
      (stream ++ if v.session = some session then received else []) looked' := by
  have hnothing (hnil : lines = []) :
      dispatched session (h ++ os) = (lineFormat.receive {} looked).lines := by
    rw [dispatched_append, hos, hnil, ite_self, List.append_nil, hr.lines]
  cases hmove with
  | stay =>
    refine ⟨looked, ?_, hnothing rfl, hr.buffer, hr.unopened⟩
    rw [ite_self, List.append_nil, hr.stream_eq]
  | lose buffer hahead =>
    refine ⟨looked, ?_, hnothing rfl, fun hsession => ?_, hr.unopened⟩
    · rw [ite_self, List.append_nil, hr.stream_eq, Rx.aheadOn_of_nil hahead]
      rfl
    · cases hsession
  | opened hahead =>
    refine ⟨looked, ?_, hnothing rfl, fun hsession => ?_, fun hle => ?_⟩
    · rw [ite_self, List.append_nil, hr.stream_eq, Rx.aheadOn_of_nil hahead,
        Rx.aheadOn_of_nil rfl]
    · obtain rfl := Option.some.inj hsession
      rw [hr.unopened le_rfl]
      exact ⟨rfl, Nat.lt_succ_self _⟩
    · exact hr.unopened (Nat.le_of_succ_le hle)
  | read _ hahead =>
    refine ⟨looked, ?_, hnothing rfl, hr.buffer, hr.unopened⟩
    rw [hr.stream_eq, Rx.aheadOn_of_nil hahead, List.append_nil]
    rfl
  | take c rest hahead =>
    by_cases hsession : v.session = some session
    · obtain ⟨hbuffer, hopen⟩ := hr.buffer hsession
      obtain ⟨hnext, hmore⟩ := receive_concat looked c
      refine ⟨looked ++ [c], ?_, ?_, fun _ => ⟨?_, hopen⟩, fun hle => ?_⟩
      · rw [hr.stream_eq, ite_self, Rx.aheadOn, Rx.aheadOn, if_pos hsession, if_pos hsession,
          hahead, List.append_nil, List.append_cons]
      · rw [dispatched_append, hos, if_pos hsession, hr.lines, hmore, hbuffer]
      · rw [hnext, hbuffer]
      · exact absurd hopen (Nat.not_lt.2 hle)
    · refine ⟨looked, ?_, ?_, fun h => absurd h hsession, hr.unopened⟩
      · rw [hr.stream_eq, ite_self, Rx.aheadOn, Rx.aheadOn, if_neg hsession, if_neg hsession,
          List.append_nil]
      · rw [dispatched_append, hos, if_neg hsession, List.append_nil, hr.lines]

theorem run_received (cJSON : CJsonLibrary) (session : ℕ) (c : Config Impl Obs) (es : List Event)
    {stream looked : List Char} (hc : Received session c.state.rx c.history stream looked) :
    ∃ looked', Received session ((service cJSON).run c es).state.rx
      ((service cJSON).run c es).history (stream ++ arrived cJSON session c es) looked' := by
  induction es generalizing c stream looked with
  | nil => exact ⟨looked, by rwa [arrived, List.append_nil]⟩
  | cons e es ih =>
    obtain ⟨lines, hmove, hos⟩ := @step_receives cJSON c.state e
    obtain ⟨looked', hnext⟩ := hc.move hmove (hos session)
    rw [arrived, ← List.append_assoc]
    exact ih ((service cJSON).next c e) hnext

/-- What is dispatched on a session is what a receiver of lines delivers of its stream, however
the stream was cut into chunks. -/
theorem dispatched_eq (cJSON : CJsonLibrary) (config : FactoryUploadConfig) (es : List Event)
    (session : ℕ) :
    dispatched session ((service cJSON).run (Impl.init config) es).history =
      (lineFormat.receive {} (processed cJSON session (Impl.init config) es)).lines := by
  obtain ⟨looked, hr⟩ := run_received cJSON session (Impl.init config) es
    (Received.init session config)
  have hstream := hr.stream_eq
  rw [List.nil_append] at hstream
  have hlooked : processed cJSON session (Impl.init config) es = looked := by
    rw [processed, hstream, List.length_append, Nat.add_sub_cancel, List.take_left]
  rw [hr.lines, hlooked]

/-- On every session, at every moment of every run: the lines dispatched are the lines of the
stream that the worker has looked at, exactly when each of its closed segments is at most
`K_MAX_RX_LINE` long or a multiple of `K_MAX_RX_LINE + 1`. -/
theorem dispatches_lines_iff (cJSON : CJsonLibrary) (config : FactoryUploadConfig)
    (es : List Event) (session : ℕ) :
    dispatched session ((service cJSON).run (Impl.init config) es).history =
        lineFormat.lines (processed cJSON session (Impl.init config) es) ↔
      ∀ s ∈ lineFormat.segments (processed cJSON session (Impl.init config) es),
        s.length ≤ 1024 ∨ 1025 ∣ s.length := by
  rw [dispatched_eq]
  exact lineFormat.delivers_lines_iff _

/-! ## An overlong line -/

theorem arrived_append (cJSON : CJsonLibrary) (session : ℕ) (c : Config Impl Obs)
    (es fs : List Event) :
    arrived cJSON session c (es ++ fs) =
      arrived cJSON session c es ++ arrived cJSON session ((service cJSON).run c es) fs := by
  induction es generalizing c with
  | nil => rfl
  | cons e es ih => rw [List.cons_append, arrived, ih, arrived, List.append_assoc]; rfl

/-- Nothing arrives while the port is silent. -/
theorem arrived_works (cJSON : CJsonLibrary) (session : ℕ) (c : Config Impl Obs) (n : ℕ) :
    arrived cJSON session c (works n) = [] := by
  induction n generalizing c with
  | zero => rfl
  | succ n ih =>
    have hchunk : chunk c.state (.work sampleAnswer) = [] := by
      unfold chunk
      dsimp only
      split
      · split
        case h_1 received _ hread => cases hread; rfl
        case h_2 => rfl
      · rfl
    show _ ++ arrived cJSON session _ (works n) = []
    rw [hchunk, ite_self, ih]
    rfl

/-- The worker takes the characters of a line one by one. -/
theorem run_works_rx (cJSON : CJsonLibrary) (s : Impl) (w : Worker) (h : List Obs)
    (cs rest : List Char) (hcs : ∀ c ∈ cs, c ≠ '\r' ∧ c ≠ '\n')
    (hw : s.worker = some { w with pc := .rx (cs ++ rest) }) :
    (service cJSON).run ⟨s, h⟩ (works cs.length) =
      ⟨{ s with worker := some { w with
          pc := .rx rest, rx_buffer := cs.foldl lineFormat.append w.rx_buffer } }, h⟩ := by
  induction cs generalizing s w with
  | nil =>
    obtain ⟨⟩ := s
    cases hw
    rfl
  | cons c cs ih =>
    obtain ⟨hcr, hlf⟩ := hcs c List.mem_cons_self
    have hnext : (service cJSON).next ⟨s, h⟩ (.work sampleAnswer) =
        ⟨{ s with worker := some { w with
            pc := .rx (cs ++ rest), rx_buffer := lineFormat.append w.rx_buffer c } }, h⟩ := by
      show Config.mk (step cJSON s (.work sampleAnswer)).1 (h ++ (step cJSON s _).2) = _
      simp only [step, hw, List.cons_append, worker_step, on_character, if_neg hcr, if_pos hlf,
        List.append_nil]
      rfl
    show (service cJSON).run ((service cJSON).next ⟨s, h⟩ (.work sampleAnswer))
      (works cs.length) = _
    rw [hnext]
    exact ih _ { w with rx_buffer := lineFormat.append w.rx_buffer c }
      (fun d hd => hcs d (List.mem_cons_of_mem c hd)) rfl

theorem foldl_append_tail (s cs : List Char) :
    cs.foldl lineFormat.append (lineFormat.tail s) = lineFormat.tail (s ++ cs) := by
  induction cs generalizing s with
  | nil => rw [List.foldl_nil, List.append_nil]
  | cons c cs ih => rw [List.foldl_cons, lineFormat.append_tail, ih, ← List.append_cons]

/-- One character more than fits into the buffer after it was emptied. -/
def overlongLine : List Char := List.replicate 1026 'x'

/-- The service starts, opens a session and is about to read. -/
def listening : Config Impl Obs := (service sampleJson).run (Impl.init {}) ([.start] ++ works 7)

def readsOverlong : Event :=
  .work { sampleAnswer with read_available := .ok (overlongLine ++ ['\n']) }

/-- The overlong line arrives, and the worker goes through it. -/
def overlongRun : List Event :=
  [.start] ++ works 7 ++ ([readsOverlong] ++ (works overlongLine.length ++ works 1))

theorem overlongLine_plain : ∀ c ∈ overlongLine, c ≠ '\r' ∧ c ≠ '\n' := by
  intro c hc
  rw [List.eq_of_mem_replicate hc]
  decide

theorem tail_overlongLine : lineFormat.tail overlongLine = ['x'] := by
  have hlength : overlongLine.length = 1026 := List.length_replicate
  rw [LineFormat.tail, hlength]
  exact List.drop_replicate

theorem lines_overlong : lineFormat.lines (overlongLine ++ ['\n']) = [] := by
  have hlf : '\n' ∉ overlongLine := fun h => (overlongLine_plain _ h).2 rfl
  have hcr : overlongLine.filter (· ≠ '\r') = overlongLine :=
    List.filter_eq_self.2 fun c hc => by simpa using (overlongLine_plain c hc).1
  have hsegments : lineFormat.segments (overlongLine ++ ['\n']) = [overlongLine] := by
    show ((overlongLine ++ '\n' :: []).splitOn '\n').dropLast.map (·.filter (· ≠ '\r')) = _
    rw [List.splitOn_append_cons_self_of_not_mem hlf, List.splitOn_nil]
    exact congrArg (fun l => [l]) hcr
  have hlength : overlongLine.length = 1026 := List.length_replicate
  rw [LineFormat.lines, hsegments, List.filter_singleton, hlength]
  rfl

theorem run_overlong :
    ∃ w, w.pc = .rx [] ∧ (service sampleJson).run (Impl.init {}) overlongRun =
      ⟨{ listening.state with worker := some w },
        listening.history ++ [.received (some 0) ['x']]⟩ := by
  obtain ⟨w, hw⟩ : ∃ w, listening.state.worker = some w := Option.isSome_iff_exists.1 (by decide)
  have hstart : (listening.state.worker.getD {}).pc = .read ∧
      (listening.state.worker.getD {}).session = some 0 ∧
      (listening.state.worker.getD {}).rx_buffer = [] := by decide
  rw [hw, Option.getD_some] at hstart
  obtain ⟨hpc, hsession, hbuffer⟩ := hstart
  have hread : (service sampleJson).next listening readsOverlong =
      ⟨{ listening.state with worker := some { w with pc := .rx (overlongLine ++ ['\n']) } },
        listening.history⟩ := by
    show Config.mk (step sampleJson listening.state readsOverlong).1
      (listening.history ++ (step sampleJson listening.state _).2) = _
    simp only [step, readsOverlong, hw, worker_step, hpc, on_read, List.append_nil]
  refine ⟨{ w with pc := .rx [], rx_buffer := [] }, rfl, ?_⟩
  rw [overlongRun, Machine.run_append, Machine.run_append]
  show (service sampleJson).run ((service sampleJson).next listening readsOverlong) _ = _
  rw [hread, Machine.run_append,
    run_works_rx sampleJson _ w _ overlongLine ['\n'] overlongLine_plain rfl, hbuffer,
    ← lineFormat.tail_nil, foldl_append_tail, List.nil_append, tail_overlongLine]
  show Config.mk (step sampleJson _ (.work sampleAnswer)).1
    (listening.history ++ (step sampleJson _ (.work sampleAnswer)).2) = _
  have hnone : command_matches ['x'] K_HANDSHAKE_COMMAND = false ∧
    command_matches ['x'] K_RESULT_ACK_COMMAND = false := by decide
  simp [step, worker_step, on_character, on_line, hnone, hsession]

theorem overlong_dispatched :
    ¬ ∀ (cJSON : CJsonLibrary) (config : FactoryUploadConfig) (es : List Event) (session : ℕ),
      dispatched session ((service cJSON).run (Impl.init config) es).history =
        lineFormat.lines (processed cJSON session (Impl.init config) es) := by
  intro hclaim
  have h := hclaim sampleJson {} overlongRun 0
  obtain ⟨w, hpc, hrun⟩ := run_overlong
  have hopen : listening.state.rx.session = some 0 := by decide
  have harrived : arrived sampleJson 0 (Impl.init {}) overlongRun = overlongLine ++ ['\n'] := by
    have hquiet : arrived sampleJson 0 (Impl.init {}) ([.start] ++ works 7) = [] := by decide
    obtain ⟨v, hv⟩ : ∃ v, listening.state.worker = some v :=
      Option.isSome_iff_exists.1 (by decide)
    have hread : (listening.state.worker.getD {}).pc = .read := by decide
    rw [hv, Option.getD_some] at hread
    have hchunk : chunk listening.state readsOverlong = overlongLine ++ ['\n'] := by
      simp only [chunk, readsOverlong, hv, hread]
    rw [overlongRun, arrived_append, hquiet, List.nil_append]
    show arrived sampleJson 0 listening _ = _
    rw [arrived_append, arrived_append, arrived_works, arrived_works, List.append_nil,
      List.append_nil, arrived, if_pos hopen, hchunk, arrived, List.append_nil]
  have hahead : ((service sampleJson).run (Impl.init {}) overlongRun).state.rx.aheadOn 0 = [] := by
    rw [hrun]
    exact Rx.aheadOn_of_nil (by show w.pc.ahead = []; rw [hpc]; rfl) 0
  have hsilent : dispatched 0 listening.history = [] := by decide
  rw [processed, harrived, hahead, List.length_nil, Nat.sub_zero, List.take_length, lines_overlong,
    hrun, dispatched_append, hsilent] at h
  exact absurd h (by decide)

end FactoryTest.Upload
