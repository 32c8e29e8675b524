import FactoryTest.Lib.Framing
import FactoryTest.Upload.Sending

/-!
# What the service puts on the wire

A line is written in chunks and a write can stop anywhere. The worker closes the session after
a failed read, but keeps it after a failed write, and goes on to write acknowledgements and
results on it. So the wire of a session is framed exactly as long as nothing is written on it
after a line that stopped in its middle (`wire_framed_iff`); `torn_result_glues` is a run in
which the next acknowledgement is glued to the beginning of a result.
-/

namespace FactoryTest.Upload

variable {cJSON : CJsonLibrary}

/-- The line that the observation shows going out on the session. -/
def Obs.attempt (session : Option ℕ) : Obs → Option (Attempt Char)
  | .wrote session' message sent _ =>
    if session' = session then some ⟨message.text, sent⟩ else none
  | _ => none

/-- The lines written on a session, each with how much of it went out. -/
def attempts (session : Option ℕ) (h : List Obs) : List (Attempt Char) :=
  h.filterMap (Obs.attempt session)

theorem attempts_append (session : Option ℕ) (h os : List Obs) :
    attempts session (h ++ os) = attempts session h ++ attempts session os :=
  List.filterMap_append

/-- A line the worker writes: an `ACK` line or a `RESULT` line, with its closing line feed. -/
def ProtocolLine (text : List Char) : Prop :=
  (∃ config sequence, text = ack_line config sequence) ∨ ∃ payload, text = result_line payload

/-- What stands on the wire of a session: whole protocol lines, followed by at most one
incomplete line after which nothing more was written. -/
def WireFramed (session : Option ℕ) (h : List Obs) : Prop :=
  Attempt.Framed (attempts session h) ∧ ∀ a ∈ attempts session h, ProtocolLine a.item

/-! ## The line a step writes -/

/-- The line that is due in the step, with its session and the port's answers. -/
def due_line (cJSON : CJsonLibrary) (s : Impl) :
    Event → Option (Option ℕ × List Char × PortAnswers)
  | .work a =>
    match s.worker with
    | some w =>
      match w.pc with
      | .send => w.active_payload.map fun q => (w.session, result_line q.payload, a.port)
      | .rx (c :: _) =>
        if c = '\n' ∧ command_matches w.rx_buffer K_HANDSHAKE_COMMAND = true then
          match parse_handshake cJSON (payload_after_command w.rx_buffer K_HANDSHAKE_COMMAND) with
          | .ok sequence => some (w.session, ack_line s.config sequence, a.port)
          | .error _ => none
        else none
      | _ => none
    | none => none
  | _ => none

/-- The port takes at least one character of the next line. -/
def PortAnswers.accepts (port : PortAnswers) : Bool :=
  match port.sp_blocking_write with
  | count :: _ => 0 < count
  | [] => false

theorem write_text_sent_pos {text : List Char} {port : PortAnswers} (htext : text ≠ []) :
    0 < (write_text text port).sent ↔ port.accepts = true := by
  rw [write_text_sent]
  obtain ⟨n, hn⟩ := Nat.exists_eq_succ_of_ne_zero (mt List.length_eq_zero_iff.1 htext)
  rw [hn, PortAnswers.accepts]
  cases port.sp_blocking_write with
  | nil => simp [write_loop]
  | cons count counts =>
    simp only [write_loop, decide_eq_true_eq]
    split_ifs with hcount
    · have hle := (write_loop_bounds (0 + min count.toNat (min (n + 1) 256)) counts
        (n + 1 - min count.toNat (min (n + 1) 256))).1
      exact ⟨fun _ => hcount, fun _ => by omega⟩
    · simp [hcount]

/-- What goes out of the line that is due. -/
def due_attempt (session : Option ℕ) :
    Option (Option ℕ × List Char × PortAnswers) → List (Attempt Char)
  | some (session', text, port) =>
    if session' = session then [⟨text, (write_text text port).sent⟩] else []
  | none => []

section

variable (session : Option ℕ) (s : Impl) (w : Worker) (a : Answer)

theorem on_discover_attempts : attempts session (on_discover s w a).2 = [] := by
  unfold on_discover
  dsimp only
  split
  · split <;> rfl
  · split
    · split <;> rfl
    · rfl

theorem on_link_attempts : attempts session (on_link s w a).2 = [] := by
  unfold on_link
  dsimp only
  split
  · rfl
  · split
    · rfl
    · split <;> rfl

theorem on_take_attempts : attempts session (on_take s w a).2 = [] := by
  unfold on_take
  split <;> rfl

theorem on_read_attempts : attempts session (on_read s w a).2 = [] := by
  unfold on_read
  split
  · split <;> rfl
  · rfl

theorem on_deadlines_attempts : attempts session (on_deadlines s w a).2 = [] := by
  unfold on_deadlines
  split
  · rfl
  · split
    · rfl
    · split <;> rfl

theorem on_result_ack_attempts (line rest : List Char) :
    attempts session (on_result_ack cJSON s w line rest).2 = [] := by
  unfold on_result_ack
  split <;> rfl

theorem on_send_attempts : attempts session (on_send s w a).2 =
    due_attempt session
      (w.active_payload.map fun q => (w.session, result_line q.payload, a.port)) := by
  unfold on_send
  split
  case h_1 hnone => rw [hnone]; rfl
  case h_2 q hq =>
    rw [hq]
    dsimp only
    split
    all_goals
      simp only [attempts, Obs.attempt, Message.text, Option.map_some, due_attempt,
        List.filterMap_cons, List.filterMap_nil]
      split_ifs <;> rfl

/-- The acknowledgement of a valid handshake is written, whether or not it gets through. -/
theorem send_handshake_ack_attempts (line : List Char) :
    attempts session (send_handshake_ack cJSON s w line a.port).2 =
      match parse_handshake cJSON (payload_after_command line K_HANDSHAKE_COMMAND) with
      | .ok sequence => due_attempt session (some (w.session, ack_line s.config sequence, a.port))
      | .error _ => [] := by
  unfold send_handshake_ack
  cases parse_handshake cJSON (payload_after_command line K_HANDSHAKE_COMMAND) with
  | error _ => rfl
  | ok sequence =>
    simp only [attempts, Obs.attempt, Message.text, due_attempt, List.filterMap_cons,
      List.filterMap_nil]
    split_ifs <;> rfl

theorem on_handshake_attempts (line rest : List Char) :
    attempts session (on_handshake cJSON s w line rest a).2 =
      attempts session (send_handshake_ack cJSON s w line a.port).2 := by
  unfold on_handshake
  split
  case h_1 written hack =>
    rw [hack]
    dsimp only
    split <;> rfl
  case h_2 written hack =>
    rw [hack]
    split
    · exact (attempts_append session written _).trans (List.append_nil _)
    · rfl

theorem on_character_attempts {c : Char} {rest : List Char} (hw : s.worker = some w)
    (hpc : w.pc = .rx (c :: rest)) :
    attempts session (on_character cJSON s w c rest a).2 =
      due_attempt session (due_line cJSON s (.work a)) := by
  simp only [due_line, hw, hpc]
  unfold on_character
  dsimp only
  by_cases hlf : c = '\n'
  · subst hlf
    rw [if_neg (by decide), if_neg (by simp)]
    by_cases hline : command_matches w.rx_buffer K_HANDSHAKE_COMMAND = true
    · have hne : w.rx_buffer.isEmpty = false := by
        cases hb : w.rx_buffer with
        | nil => rw [hb] at hline; exact absurd hline (by decide)
        | cons _ _ => rfl
      rw [if_neg (by simp [hne]), if_pos ⟨rfl, hline⟩, on_line, if_pos hline]
      refine (on_handshake_attempts session s { w with rx_buffer := [] } a
        w.rx_buffer rest).trans ?_
      rw [send_handshake_ack_attempts]
      cases parse_handshake cJSON (payload_after_command w.rx_buffer K_HANDSHAKE_COMMAND) <;> rfl
    · have hdue : ¬ ('\n' = '\n' ∧ command_matches w.rx_buffer K_HANDSHAKE_COMMAND = true) :=
        fun h => hline h.2
      rw [if_neg hdue, on_line, if_neg hline]
      split
      · rfl
      · split
        · exact on_result_ack_attempts session s _ w.rx_buffer rest
        · rfl
  · have hdue : ¬ (c = '\n' ∧ command_matches w.rx_buffer K_HANDSHAKE_COMMAND = true) :=
      fun h => hlf h.1
    rw [if_neg hdue, if_pos hlf]
    split <;> rfl

end

/-- Exactly the line that is due is written. -/
theorem step_attempts (session : Option ℕ) (s : Impl) (e : Event) :
    attempts session (step cJSON s e).2 = due_attempt session (due_line cJSON s e) := by
  cases e with
  | queue_result payload heartbeat_now now =>
    simp only [step]
    split <;> rfl
  | start => rfl
  | stop => rfl
  | join =>
    simp only [step]
    split
    · split <;> rfl
    · rfl
  | work a =>
    cases hw : s.worker with
    | none => simp only [step, hw, due_line]; rfl
    | some w =>
      simp only [step, hw]
      cases hpc : w.pc with
      | rx received =>
        cases received with
        | nil => simp only [worker_step, due_line, hw, hpc]; rfl
        | cons c rest =>
          simp only [worker_step, hpc]
          exact on_character_attempts session s w a hw hpc
      | send =>
        simp only [worker_step, due_line, hw, hpc]
        exact on_send_attempts session s w a
      | loop =>
        simp only [worker_step, due_line, hw, hpc]
        split
        · split <;> rfl
        · rfl
      | discover =>
        simp only [worker_step, due_line, hw, hpc]
        exact on_discover_attempts session s w a
      | link =>
        simp only [worker_step, due_line, hw, hpc]
        exact on_link_attempts session s w a
      | take =>
        simp only [worker_step, due_line, hw, hpc]
        exact on_take_attempts session s w a
      | read =>
        simp only [worker_step, due_line, hw, hpc]
        exact on_read_attempts session s w a
      | deadlines =>
        simp only [worker_step, due_line, hw, hpc]
        exact on_deadlines_attempts session s w a
      | _ =>
        simp only [worker_step, due_line, hw, hpc]
        rfl

theorem due_line_protocolLine {s : Impl} {e : Event} {session : Option ℕ} {text : List Char}
    {port : PortAnswers} (h : due_line cJSON s e = some (session, text, port)) :
    ProtocolLine text := by
  unfold due_line at h
  split at h
  case h_2 => cases h
  split at h
  case h_2 => cases h
  split at h
  case h_1 =>
    obtain ⟨q, -, hq⟩ := Option.map_eq_some_iff.1 h
    exact .inr ⟨q.payload, by cases hq; rfl⟩
  case h_2 =>
    split_ifs at h
    split at h
    · exact .inl ⟨_, _, by cases h; rfl⟩
    · cases h
  case h_3 => cases h

theorem ProtocolLine.ne_nil {text : List Char} (h : ProtocolLine text) : text ≠ [] := by
  rcases h with ⟨config, sequence, rfl⟩ | ⟨payload, rfl⟩
  · simp [ack_line]
  · simp [result_line]

/-! ## Along every run -/

/-- The step writes on a session on which a line was begun and not finished, and the port takes
some of it. -/
def WritesAfterTear (cJSON : CJsonLibrary) (c : Config Impl Obs) (e : Event) : Prop :=
  ∃ session text port, due_line cJSON c.state e = some (session, text, port) ∧
    port.accepts = true ∧ ∃ a ∈ attempts session c.history, a.Torn

/-- A step keeps the wire framed exactly if it does not write after a torn line. -/
theorem next_framed_iff {c : Config Impl Obs} (hc : ∀ session, WireFramed session c.history)
    (e : Event) :
    (∀ session, WireFramed session ((service cJSON).next c e).history) ↔
      ¬ WritesAfterTear cJSON c e := by
  have hnext (session : Option ℕ) : attempts session ((service cJSON).next c e).history =
      attempts session c.history ++ due_attempt session (due_line cJSON c.state e) := by
    rw [← step_attempts, ← attempts_append]
    rfl
  cases hdue : due_line cJSON c.state e with
  | none =>
    refine iff_of_true (fun session => ?_) ?_
    · unfold WireFramed
      rw [hnext, hdue, due_attempt, List.append_nil]
      exact hc session
    · rintro ⟨session, text, port, h, -⟩
      rw [hdue] at h
      cases h
  | some due =>
    obtain ⟨session, text, port⟩ := due
    have hline : ProtocolLine text := due_line_protocolLine hdue
    have hsame : attempts session ((service cJSON).next c e).history =
        attempts session c.history ++ [⟨text, (write_text text port).sent⟩] := by
      rw [hnext, hdue, due_attempt, if_pos rfl]
    constructor
    · rintro hframed ⟨session', text', port', h, haccepts, a, ha, htorn⟩
      rw [hdue] at h
      cases h
      have hnew := (hframed session).1
      rw [hsame, Attempt.framed_concat_iff] at hnew
      exact hnew.2 ((write_text_sent_pos hline.ne_nil).2 haccepts) a ha htorn
    · intro hguard session'
      by_cases hs : session = session'
      · subst hs
        unfold WireFramed
        rw [hsame, Attempt.framed_concat_iff]
        refine ⟨⟨(hc session).1, fun hsent a ha htorn => hguard ?_⟩, fun a ha => ?_⟩
        · exact ⟨session, text, port, hdue, (write_text_sent_pos hline.ne_nil).1 hsent, a, ha,
            htorn⟩
        · rcases List.mem_append.1 ha with ha | ha
          · exact (hc session).2 a ha
          · rw [List.mem_singleton.1 ha]
            exact hline
      · unfold WireFramed
        rw [hnext, hdue, due_attempt, if_neg hs, List.append_nil]
        exact hc session'

theorem WireFramed.initial {session : Option ℕ} {h h' : List Obs} (hframed : WireFramed session h')
    (hp : h <+: h') : WireFramed session h := by
  obtain ⟨os, rfl⟩ := hp
  have hattempts : attempts session h <+: attempts session (h ++ os) := by
    rw [attempts_append]
    exact List.prefix_append _ _
  exact ⟨hframed.1.initial hattempts, fun a ha => hframed.2 a (hattempts.subset ha)⟩

theorem run_framed_iff {c : Config Impl Obs} (hc : ∀ session, WireFramed session c.history)
    (es : List Event) :
    (∀ session, WireFramed session ((service cJSON).run c es).history) ↔
      (service cJSON).Along (fun c e => ¬ WritesAfterTear cJSON c e) c es := by
  induction es generalizing c with
  | nil => exact iff_of_true hc trivial
  | cons e es ih =>
    by_cases hguard : WritesAfterTear cJSON c e
    · refine iff_of_false (fun hframed => ?_) fun halong => halong.1 hguard
      refine absurd hguard ((next_framed_iff hc e).1 fun session => ?_)
      exact (hframed session).initial (Machine.history_prefix _ _ es)
    · rw [Machine.run_cons, ih ((next_framed_iff hc e).2 hguard)]
      exact ⟨fun h => ⟨hguard, h⟩, fun h => h.2⟩

/-- **Framing.** The wire of every session is framed exactly along the runs in which nothing is
written on a session after a line that stopped in its middle. -/
theorem wire_framed_iff (cJSON : CJsonLibrary) (config : FactoryUploadConfig) (es : List Event) :
    (∀ session, WireFramed session ((service cJSON).run (Impl.init config) es).history) ↔
      (service cJSON).Along (fun c e => ¬ WritesAfterTear cJSON c e) (Impl.init config) es :=
  run_framed_iff
    (fun _ => ⟨Attempt.framed_iff_pairwise.2 .nil, fun _ ha => absurd ha List.not_mem_nil⟩) es

/-- The port takes five characters of a result and then times out; the next handshake on the
same session is acknowledged. -/
def tornRun : List Event :=
  [.start] ++ works 7 ++ hears "M5FACTORY:HANDSHAKE \x7b\"proto\":1,\"role\":\"tab5\"\x7d" ++
    works 4 ++ queues "A" ++ works 7 ++
    [.work { sampleAnswer with port := { sp_blocking_write := [5] } }] ++ works 3 ++
    hears "M5FACTORY:HANDSHAKE \x7b\"proto\":1,\"role\":\"tab5\"\x7d"

/-- The acknowledgement follows the first five characters of the result. -/
theorem torn_result_glues :
    ¬ ∀ (cJSON : CJsonLibrary) (config : FactoryUploadConfig) (es : List Event)
      (session : Option ℕ),
      WireFramed session ((service cJSON).run (Impl.init config) es).history := by
  intro hclaim
  have hframed := (hclaim sampleJson {} tornRun (some 0)).1
  rw [Attempt.framed_iff_pairwise] at hframed
  revert hframed
  decide +kernel

end FactoryTest.Upload
