import FactoryTest.Lib.Run
import FactoryTest.Upload.Protocol
import FactoryTest.Upload.Uart

/-!
# The factory upload service

`FactoryUploadService::Impl` of `src/platform/factory_upload_service.cpp`, as a machine whose
events are the calls of other threads and the steps of the worker thread.

**Interleaving.** A worker step contains at most one critical section of the mutex, together
with the worker's own computation around it, so a call of another thread can fall between any
two critical sections of the worker. Work on the worker's locals that follows a critical section
is done in the same step: no other thread sees those locals.

**Answers.** What the clock, the USB enumeration and the serial port answer during a worker step
comes with the event (`Answer`). Times are nanoseconds of the steady clock.

**History.** The observations are what passes between the service, its callers and the lower
device: accepted requests, finished requests, sessions opened and closed, lines received and
lines written. Requests and sessions are numbered in the order of their appearance; the program
keeps neither number.

Messages to the log, and the variables that only decide what is logged, are left out.
-/

namespace FactoryTest.Upload

/-! ## State -/

/-- `UploadState`. -/
inductive UploadState
  | UNAVAILABLE
  | SEARCHING
  | WAITING_HANDSHAKE
  | READY
  | QUEUED
  | SENDING
  | WAITING_RESULT_ACK
  | SUCCEEDED
  | FAILED
  deriving DecidableEq

/-- `UploadSnapshot`, without the fields that `get_snapshot` fills in. -/
structure UploadSnapshot where
  state : UploadState := .UNAVAILABLE
  message : String := ""
  port : String := ""
  revision : ℕ := 0
  deriving DecidableEq

/-- `UsbSerialPortInfo`. -/
structure UsbSerialPortInfo where
  path : String := ""
  bus : ℤ := -1
  address : ℤ := -1
  deriving DecidableEq

/-- `same_usb_serial_instance`. -/
def same_usb_serial_instance (lhs rhs : UsbSerialPortInfo) : Bool :=
  if lhs.path = "" ∨ rhs.path = "" ∨ lhs.path ≠ rhs.path then false
  else if lhs.bus < 0 ∨ lhs.address < 0 ∨ rhs.bus < 0 ∨ rhs.address < 0 then true
  else lhs.bus = rhs.bus && lhs.address = rhs.address

/-- A payload that `queue` accepted. -/
structure Request where
  id : ℕ
  payload : List Char
  deriving DecidableEq

/-- Where the worker goes on after `publish`. -/
inductive Next
  | loop
  | link
  | rx (received : List Char)
  | send
  deriving DecidableEq

/-- Where the worker is in `run`. -/
inductive Pc
  /-- Before the first statement. -/
  | start
  /-- At `while (!should_stop())`. -/
  | loop
  /-- Without a session: looking for the device. -/
  | discover
  /-- Before `has_terminal_upload_snapshot`, which guards the `publish` that follows. -/
  | announce (state : UploadState) (message port : String) (next : Next)
  /-- Before `publish`. -/
  | publish (state : UploadState) (message port : String) (next : Next)
  /-- Before the link heartbeat. -/
  | link
  /-- Before `take_pending_payload`. -/
  | take
  /-- Before `read_available`. -/
  | read
  /-- In the loop over the received characters. -/
  | rx (received : List Char)
  /-- After that loop: sending or timing out. -/
  | deadlines
  /-- Before the result line is written. -/
  | send
  /-- After `run` has returned. -/
  | done
  deriving DecidableEq

/-- The worker thread: the locals of `run`. -/
structure Worker where
  pc : Pc := .start
  session : Option ℕ := none
  device : UsbSerialPortInfo := {}
  port : String := ""
  rx_buffer : List Char := []
  active_payload : Option Request := none
  handshaked : Bool := false
  waiting_result_ack : Bool := false
  next_link_heartbeat : ℤ := 0
  request_deadline : ℤ := 0
  result_deadline : ℤ := 0
  deriving DecidableEq

/-- `FactoryUploadService::Impl`. `worker` is `some` exactly when the thread is joinable;
`accepted` and `sessions` number the requests and the sessions. -/
structure Impl where
  config : FactoryUploadConfig := {}
  worker : Option Worker := none
  listener_running : Bool := false
  listener_heartbeat_ms : ℤ := 0
  stop_requested : Bool := false
  request_active : Bool := false
  pending_payload : Option Request := none
  pending_deadline : ℤ := 0
  snapshot : UploadSnapshot := {}
  accepted : ℕ := 0
  sessions : ℕ := 0
  deriving DecidableEq

/-- A line the worker writes. -/
inductive Message
  | ack (text : List Char)
  | result (request : Request)
  deriving DecidableEq

/-- The characters of the line, with the closing line feed. -/
def Message.text : Message → List Char
  | .ack text => text
  | .result request => result_line request.payload

/-- What can be observed of the service. -/
inductive Obs
  /-- `queue` accepted a payload. -/
  | accepted (payload : List Char) (request : Request)
  /-- A request was published as finished; `none` if the worker held none. -/
  | finished (request : Option Request) (state : UploadState)
  | opened (session : ℕ)
  | closed (session : Option ℕ)
  /-- A line was taken from the receive buffer. -/
  | received (session : Option ℕ) (line : List Char)
  /-- `write_text` put the first `sent` characters of a line on the wire and returned
  `success`. -/
  | wrote (session : Option ℕ) (message : Message) (sent : ℕ) (success : Bool)
  deriving DecidableEq

/-! ## Events -/

/-- What the clock and the devices answer to a worker step. -/
structure Answer where
  now : ℤ
  find_usb_serial_port : UsbSerialPortInfo := {}
  /-- The message of a failed `UartDebugSession::open`. -/
  open_error : Option String := none
  /-- The error message of `read_available`, or the characters read. -/
  read_available : Except String (List Char) := .ok []
  port : PortAnswers := {}

/-- A call of another thread, or a step of the worker. `stop` is the first half of `stop_worker`;
`join` is the return of its `worker.join()`. -/
inductive Event
  | queue_result (payload : List Char) (heartbeat_now now : ℤ)
  | start
  | stop
  | join
  | work (answer : Answer)

/-! ## Operations under the mutex -/

def K_DISCOVERY_WAITING : String := "Waiting for USB serial device 303a:1001"
def K_DISCOVERY_EXPIRED : String := "USB serial device 303a:1001 was not found"
def K_OPEN_FAILED : String := "Failed to open factory upload serial port"
def K_LINK_HEARTBEAT_INTERVAL : ℤ := 1000000000
def K_LISTENER_HEARTBEAT_STALE_MS : ℤ := 3000
def K_QUEUED_HANDSHAKE_TIMEOUT : ℤ := 10000000000
def K_RESULT_ACK_TIMEOUT : ℤ := 60000000000

/-- `heartbeat_milliseconds`. -/
def heartbeat_milliseconds (now : ℤ) : ℤ := now.tdiv 1000000

namespace Impl

/-- `set_snapshot_locked`. -/
def set_snapshot (s : Impl) (state : UploadState) (message port : String) : Impl :=
  if s.snapshot.state = state ∧ s.snapshot.message = message ∧ s.snapshot.port = port then s
  else { s with snapshot := ⟨state, message, port, s.snapshot.revision + 1⟩ }

/-- `has_terminal_upload_snapshot`. -/
def has_terminal_upload_snapshot (s : Impl) : Bool :=
  s.snapshot.state = .SUCCEEDED || s.snapshot.state = .FAILED

/-- `finish_request`. -/
def finish_request (s : Impl) (state : UploadState) (message port : String) : Impl :=
  { s with request_active := false }.set_snapshot state message port

/-- The body of `expire_pending_request` and `fail_pending_request` once their tests passed. -/
def drop_pending (s : Impl) (message port : String) : Impl :=
  { s with pending_payload := none, request_active := false }.set_snapshot .FAILED message port

/-- The listener's heartbeat is at most `K_LISTENER_HEARTBEAT_STALE` old. -/
def heartbeat_fresh (s : Impl) (now : ℤ) : Bool :=
  let now := heartbeat_milliseconds now
  0 < s.listener_heartbeat_ms && s.listener_heartbeat_ms ≤ now &&
    now - s.listener_heartbeat_ms ≤ K_LISTENER_HEARTBEAT_STALE_MS

/-- `queue`: the error message, or the request accepted. -/
def queue (s : Impl) (payload : List Char) (heartbeat_now now : ℤ) :
    Impl × Except String Request :=
  let payload := strip_line_breaks payload
  if payload.isEmpty then (s, .error "Test result payload is empty")
  else if K_RESULT_COMMAND.length + 1 + payload.length > K_MAX_PROTOCOL_LINE then
    (s, .error "Test result exceeds the 511-byte protocol line limit")
  else if s.worker.isNone then (s, .error "Factory upload service is unavailable")
  else if !s.listener_running || !s.heartbeat_fresh heartbeat_now then
    (s, .error "Factory upload listener is offline")
  else if s.pending_payload.isSome || s.request_active then
    (s, .error "A test result upload is already in progress")
  else
    let request : Request := ⟨s.accepted, payload⟩
    ({ s with
        pending_payload := some request
        pending_deadline := now + K_QUEUED_HANDSHAKE_TIMEOUT
        request_active := true
        accepted := s.accepted + 1 }.set_snapshot .QUEUED "Test result queued for upload"
          s.snapshot.port, .ok request)

/-- `start_worker`, where the libserialport backend is enabled. -/
def start_worker (s : Impl) : Impl :=
  if s.worker.isSome then s else { s with stop_requested := false, worker := some {} }

end Impl

/-! ## The worker -/

/-- The worker goes on after a `publish`. -/
def Next.pc : Next → Pc
  | .loop => .loop
  | .link => .link
  | .rx received => .rx received
  | .send => .send

section

variable (cJSON : CJsonLibrary)

/-- `send_handshake_ack`: whether it returned true, and what it wrote. -/
def send_handshake_ack (s : Impl) (w : Worker) (line : List Char) (port : PortAnswers) :
    Bool × List Obs :=
  match parse_handshake cJSON (payload_after_command line K_HANDSHAKE_COMMAND) with
  | .error _ => (false, [])
  | .ok sequence =>
    let ack := ack_line s.config sequence
    let report := write_text ack port
    (report.success, [.wrote w.session (.ack ack) report.sent report.success])

/-- The handling of a `HANDSHAKE` line; `rest` are the characters after it. -/
def on_handshake (s : Impl) (w : Worker) (line rest : List Char) (a : Answer) :
    Impl × List Obs :=
  match send_handshake_ack cJSON s w line a.port with
  | (true, written) =>
    let w := { w with handshaked := true }
    if w.active_payload.isNone && !w.waiting_result_ack then
      ({ s with worker := some { w with
          pc := .announce .READY "Factory upload handshake ready" w.port (.rx rest) } }, written)
    else ({ s with worker := some { w with pc := .rx rest } }, written)
  | (false, written) =>
    if w.active_payload.isSome then
      ({ s with worker := some { w with pc := .rx rest, active_payload := none } }.finish_request
          .FAILED "Factory upload handshake failed" w.port,
        written ++ [.finished w.active_payload .FAILED])
    else ({ s with worker := some { w with pc := .rx rest } }, written)

/-- The state and the message an `ACK_RESULT` line finishes the request with. -/
def result_ack_verdict (line : List Char) : UploadState × String :=
  match parse_result_ack cJSON (payload_after_command line K_RESULT_ACK_COMMAND) with
  | .error error => (.FAILED, error)
  | .ok ack =>
    if ack.saved then (.SUCCEEDED, "Test result uploaded")
    else
      (.FAILED, "Lower device rejected test result" ++
        if ack.message = "" then "" else ": " ++ ack.message)

/-- The handling of an `ACK_RESULT` line. -/
def on_result_ack (s : Impl) (w : Worker) (line rest : List Char) : Impl × List Obs :=
  if w.waiting_result_ack then
    let (state, message) := result_ack_verdict cJSON line
    ({ s with worker := some { w with
        pc := .rx rest, waiting_result_ack := false, active_payload := none } }.finish_request
          state message w.port,
      [.finished w.active_payload state])
  else ({ s with worker := some { w with pc := .rx rest } }, [])

/-- The handling of a complete line. -/
def on_line (s : Impl) (w : Worker) (line rest : List Char) (a : Answer) : Impl × List Obs :=
  if command_matches line K_HANDSHAKE_COMMAND then on_handshake cJSON s w line rest a
  else if command_matches line K_RESULT_ACK_COMMAND then on_result_ack cJSON s w line rest
  else ({ s with worker := some { w with pc := .rx rest } }, [])

/-- One received character. -/
def on_character (s : Impl) (w : Worker) (c : Char) (rest : List Char) (a : Answer) :
    Impl × List Obs :=
  if c = '\r' then ({ s with worker := some { w with pc := .rx rest } }, [])
  else if c ≠ '\n' then
    let rx_buffer := w.rx_buffer ++ [c]
    let rx_buffer := if rx_buffer.length > K_MAX_RX_LINE then [] else rx_buffer
    ({ s with worker := some { w with pc := .rx rest, rx_buffer := rx_buffer } }, [])
  else
    let line := w.rx_buffer
    let w := { w with rx_buffer := [] }
    if line.isEmpty then ({ s with worker := some { w with pc := .rx rest } }, [])
    else
      let (s, seen) := on_line cJSON s w line rest a
      (s, .received w.session line :: seen)

/-- The search for the device and the opening of a session. -/
def on_discover (s : Impl) (w : Worker) (a : Answer) : Impl × List Obs :=
  let device := a.find_usb_serial_port
  let port := device.path
  let w := { w with device := device, port := port }
  if port = "" then
    -- `expire_pending_request`
    if s.pending_payload.isSome ∧ s.pending_deadline < a.now then
      ({ s with worker := some { w with pc := .loop } }.drop_pending K_DISCOVERY_EXPIRED "",
        [.finished s.pending_payload .FAILED])
    else
      ({ s with worker := some { w with
          pc := .announce .SEARCHING K_DISCOVERY_WAITING "" .loop } }, [])
  else
    match a.open_error with
    | some _ =>
      -- `fail_pending_request`
      if s.pending_payload.isSome then
        ({ s with worker := some { w with pc := .loop } }.drop_pending K_OPEN_FAILED port,
          [.finished s.pending_payload .FAILED])
      else
        ({ s with worker := some { w with
            pc := .announce .SEARCHING K_OPEN_FAILED port .loop } }, [])
    | none =>
      ({ s with
          sessions := s.sessions + 1
          worker := some { w with
            pc := .announce .WAITING_HANDSHAKE "Waiting for M5FACTORY handshake" port .link
            session := some s.sessions
            handshaked := false
            waiting_result_ack := false
            next_link_heartbeat := a.now + K_LINK_HEARTBEAT_INTERVAL
            rx_buffer := [] } },
        [.opened s.sessions])

/-- The link heartbeat. -/
def on_link (s : Impl) (w : Worker) (a : Answer) : Impl × List Obs :=
  if a.now < w.next_link_heartbeat then ({ s with worker := some { w with pc := .take } }, [])
  else
    let w := { w with next_link_heartbeat := a.now + K_LINK_HEARTBEAT_INTERVAL }
    if same_usb_serial_instance w.device a.find_usb_serial_port then
      ({ s with worker := some { w with pc := .take } }, [])
    else
      let upload_was_active := w.active_payload.isSome || w.waiting_result_ack
      let lost := { w with
        session := none, device := {}, active_payload := none, handshaked := false,
        waiting_result_ack := false, rx_buffer := [] }
      if upload_was_active then
        ({ s with worker := some { lost with pc := .loop } }.finish_request .FAILED
            "USB serial device disconnected" w.port,
          [.finished w.active_payload .FAILED, .closed w.session])
      else
        ({ s with worker := some { lost with
            pc := .announce .SEARCHING "Factory upload device disconnected" "" .loop } },
          [.closed w.session])

/-- `take_pending_payload`, if the worker holds no request. -/
def on_take (s : Impl) (w : Worker) (a : Answer) : Impl × List Obs :=
  if w.active_payload.isNone && s.pending_payload.isSome then
    ({ s with
        pending_payload := none
        worker := some { w with
          pc := .read
          active_payload := s.pending_payload
          request_deadline := a.now + K_QUEUED_HANDSHAKE_TIMEOUT } }, [])
  else ({ s with worker := some { w with pc := .read } }, [])

/-- `read_available`. A failed read drops the session, but not the handshake flag and not the
receive buffer; both are reset when the next session is opened. -/
def on_read (s : Impl) (w : Worker) (a : Answer) : Impl × List Obs :=
  match a.read_available with
  | .error _ =>
    let lost := { w with
      pc := .loop, session := none, device := {}, active_payload := none,
      waiting_result_ack := false }
    if w.active_payload.isSome || w.waiting_result_ack then
      ({ s with worker := some lost }.finish_request .FAILED "USB serial read failed" w.port,
        [.finished w.active_payload .FAILED, .closed w.session])
    else ({ s with worker := some lost }, [.closed w.session])
  | .ok received => ({ s with worker := some { w with pc := .rx received } }, [])

/-- The chain of tests after the received characters: send, or time out. -/
def on_deadlines (s : Impl) (w : Worker) (a : Answer) : Impl × List Obs :=
  if w.active_payload.isSome && !w.waiting_result_ack && w.handshaked then
    ({ s with worker := some { w with
        pc := .publish .SENDING "Sending test result" w.port .send } }, [])
  else if w.active_payload.isSome && !w.waiting_result_ack && w.request_deadline < a.now then
    ({ s with worker := some { w with pc := .loop, active_payload := none } }.finish_request
        .FAILED "Handshake timeout; retry handshake on the lower device" w.port,
      [.finished w.active_payload .FAILED])
  else if w.waiting_result_ack && w.result_deadline < a.now then
    ({ s with worker := some { w with
        pc := .loop, waiting_result_ack := false, active_payload := none } }.finish_request
        .FAILED "Timed out waiting for ACK_RESULT" w.port,
      [.finished w.active_payload .FAILED])
  else ({ s with worker := some { w with pc := .loop } }, [])

/-- The writing of the result line. -/
def on_send (s : Impl) (w : Worker) (a : Answer) : Impl × List Obs :=
  match w.active_payload with
  -- `*active_payload` of an empty optional: never reached.
  | none => ({ s with worker := some { w with pc := .loop } }, [])
  | some request =>
    let report := write_text (result_line request.payload) a.port
    match report.error_message with
    | some error =>
      ({ s with worker := some { w with pc := .loop, active_payload := none } }.finish_request
          .FAILED ("Failed to send test result: " ++ error) w.port,
        [.wrote w.session (.result request) report.sent false,
          .finished w.active_payload .FAILED])
    | none =>
      ({ s with worker := some { w with
          pc := .publish .WAITING_RESULT_ACK "Waiting for upload acknowledgement" w.port .loop
          waiting_result_ack := true
          result_deadline := a.now + K_RESULT_ACK_TIMEOUT } },
        [.wrote w.session (.result request) report.sent true])

/-- One step of `run`. -/
def worker_step (s : Impl) (w : Worker) (a : Answer) : Impl × List Obs :=
  match w.pc with
  | .start =>
    ({ s with
        listener_running := true
        listener_heartbeat_ms := heartbeat_milliseconds a.now
        worker := some { w with pc := .loop } }, [])
  | .loop =>
    if s.stop_requested then
      -- `run` returns: its locals are destroyed, and the session with them.
      ({ s with
          listener_running := false
          listener_heartbeat_ms := heartbeat_milliseconds a.now
          worker := some { pc := .done } },
        if w.session.isSome then [.closed w.session] else [])
    else
      ({ s with
          listener_heartbeat_ms := heartbeat_milliseconds a.now
          worker := some { w with pc := if w.session.isNone then .discover else .link } }, [])
  | .discover => on_discover s w a
  | .announce state message port next =>
    ({ s with worker := some { w with
        pc := if s.has_terminal_upload_snapshot then next.pc
          else .publish state message port next } }, [])
  | .publish state message port next =>
    ({ s with worker := some { w with pc := next.pc } }.set_snapshot state message port, [])
  | .link => on_link s w a
  | .take => on_take s w a
  | .read => on_read s w a
  | .rx [] => ({ s with worker := some { w with pc := .deadlines } }, [])
  | .rx (c :: rest) => on_character cJSON s w c rest a
  | .deadlines => on_deadlines s w a
  | .send => on_send s w a
  | .done => (s, [])

/-- One event. -/
def step (s : Impl) : Event → Impl × List Obs
  | .queue_result payload heartbeat_now now =>
    match s.queue payload heartbeat_now now with
    | (s, .ok request) => (s, [.accepted payload request])
    | (s, .error _) => (s, [])
  | .start => (s.start_worker, [])
  | .stop => ({ s with stop_requested := true }, [])
  | .join =>
    match s.worker with
    | some w => if w.pc = .done then ({ s with worker := none }, []) else (s, [])
    | none => (s, [])
  | .work a =>
    match s.worker with
    | some w => worker_step cJSON s w a
    | none => (s, [])

/-- The service. -/
def service : Machine Impl Event Obs := ⟨step cJSON⟩

/-- The service before any call. -/
def Impl.init (config : FactoryUploadConfig) : Config Impl Obs := ⟨{ config := config }, []⟩

end

end FactoryTest.Upload
