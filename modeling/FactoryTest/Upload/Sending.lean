import FactoryTest.Upload.Ledger

/-!
# When and how often a result is sent

A result line is written at most once per request, only on a session that was greeted since it
was opened, and never while a result is awaited (`sends_once_and_gated`). This holds along
every run, with `stop` and `start` at any point.

A handshake counts as one of protocol 1 when its `proto` is within `0.0001` of `1`:
`near_one_handshake_sends` is a run in which the result is sent after a handshake whose `proto`
is another number.
-/

namespace FactoryTest.Upload

open Serialization

variable {cJSON : CJsonLibrary}

/-- The line is a `HANDSHAKE` with a JSON object whose `proto` is a number with property `P` and
whose `role` is `tab5`. -/
def Tab5Handshake (P : Double → Prop) (cJSON : CJsonLibrary) (line : List Char) : Prop :=
  command_matches line K_HANDSHAKE_COMMAND = true ∧ ∃ values proto,
    parse_json_output cJSON (payload_after_command line K_HANDSHAKE_COMMAND) =
      .ok (.object values) ∧
    Assoc.find? "proto" values = some (.number proto) ∧ P proto ∧
    Assoc.find? "role" values = some (.string "tab5")

theorem ValidHandshake.tab5 {line : List Char} (h : ValidHandshake cJSON line) :
    Tab5Handshake (fun proto => differs_from_one proto = false) cJSON line := by
  obtain ⟨hline, seq, hparse⟩ := h
  obtain ⟨values, proto, hvalues, hproto, hone, hrole⟩ := parse_handshake_ok hparse
  exact ⟨hline, values, proto, hvalues, hproto, hone, hrole⟩

/-- In the configuration `c`, the result line of `q` may be written on `session`. `handshake`
says which handshakes open a session for results. -/
structure MaySend (handshake : List Char → Prop) (c : Config Impl Obs) (session : Option ℕ)
    (q : Request) : Prop where
  greeted : ∃ k, session = some k ∧ .closed (some k) ∉ c.history ∧ Greeted handshake c.history k
  unsent : ¬ Written c.history q
  not_waiting : ∃ w, c.state.worker = some w ∧ w.waiting_result_ack = false
  line : ∃ payload, .accepted payload q ∈ c.history ∧
    (Message.result q).text =
      "M5FACTORY:RESULT ".toList ++ strip_line_breaks payload ++ ['\n'] ∧
    ("M5FACTORY:RESULT ".toList ++ strip_line_breaks payload).length ≤ 511 ∧
    '\n' ∉ "M5FACTORY:RESULT ".toList ++ strip_line_breaks payload

theorem Transfer.of_mem_result {rejects exits : Bool} {v v' : Slot} {os : List Obs}
    (ht : Transfer cJSON rejects exits v os v') {session : Option ℕ} {q : Request} {sent : ℕ}
    {success : Bool} (hq : .wrote session (.result q) sent success ∈ os) :
    session = v.session ∧ v.session.isSome = true ∧ v.active = some q ∧ v.waiting = false ∧
      v.handshaked = true := by
  have hmem : q ∈ os.filterMap Obs.result := List.mem_filterMap.2 ⟨_, hq, rfl⟩
  rcases ht.results with hos | ⟨q', sent', success', rest, rfl, hrest, hs⟩
  · rw [hos] at hmem
    cases hmem
  · rcases List.mem_cons.1 hq with heq | hq
    · cases heq
      exact ⟨rfl, hs⟩
    · have hmem : q ∈ rest.filterMap Obs.result := List.mem_filterMap.2 ⟨_, hq, rfl⟩
      rw [hrest] at hmem
      cases hmem

/-- An accepted request's result line is the command, the stripped payload and a line feed. -/
theorem Ledger.result_text {v : Slot} {h : List Obs} (hl : Ledger v h) {payload : List Char}
    {q : Request} (hq : .accepted payload q ∈ h) :
    (Message.result q).text =
      "M5FACTORY:RESULT ".toList ++ strip_line_breaks payload ++ ['\n'] ∧
    ("M5FACTORY:RESULT ".toList ++ strip_line_breaks payload).length ≤ 511 ∧
    '\n' ∉ "M5FACTORY:RESULT ".toList ++ strip_line_breaks payload := by
  obtain ⟨hpayload, hfits⟩ := hl.stripped payload q hq
  have hcommand : "M5FACTORY:RESULT ".toList = K_RESULT_COMMAND ++ [' '] := by decide
  have hline : "M5FACTORY:RESULT ".toList ++ strip_line_breaks payload =
      K_RESULT_COMMAND ++ ' ' :: strip_line_breaks payload := by
    rw [hcommand, List.append_assoc, List.singleton_append]
  rw [Message.text, hpayload, hline]
  exact ⟨result_line_eq _, result_line_length (hpayload ▸ hfits), not_mem_result_line payload⟩

/-- **Results are sent once, and only where they may be.** Along every run, no request's result
line is written twice, and whenever a step writes one the configuration before the step admits
it. -/
theorem sends_once_and_gated (cJSON : CJsonLibrary) (config : FactoryUploadConfig)
    (es : List Event) :
    let c := (service cJSON).run (Impl.init config) es
    (c.history.filterMap Obs.result).Nodup ∧
      ∀ e session q sent success,
        .wrote session (.result q) sent success ∈ ((service cJSON).step c.state e).2 →
          MaySend (Tab5Handshake (fun proto => differs_from_one proto = false) cJSON) c
            session q := by
  intro c
  have hc : Sound cJSON c := run_sound config es
  refine ⟨hc.written_once, fun e session q sent success hq => ?_⟩
  obtain ⟨ht, -⟩ : Refines cJSON _ _ _ _ := step_transfer hc.wf e
  obtain ⟨rfl, hs, hactive, hwaiting, hhandshaked⟩ := ht.of_mem_result hq
  obtain ⟨k, hk⟩ := Option.isSome_iff_exists.1 hs
  obtain ⟨⟨payload, hpayload⟩, -, hunsent⟩ := hc.ledger.active q hactive
  refine ⟨⟨k, hk, (hc.sessions.current k hk).2, ?_⟩, hunsent hwaiting, ?_,
    payload, hpayload, hc.ledger.result_text hpayload⟩
  · exact (hc.sessions.greeted k hk hhandshaked).mono fun line => ValidHandshake.tab5
  · cases hw : c.state.worker with
    | none => simp [Impl.slot, Impl.slotWith, hw] at hactive
    | some w =>
      rw [Impl.slot_of_worker hw] at hwaiting
      exact ⟨w, rfl, hwaiting⟩

/-! ## A handshake near protocol 1 -/

/-- The protocol number 1 + 2⁻¹⁵. -/
def nearOne : Double := .finite (1 + 1 / 32768) (by decide +kernel)

/-- cJSON on a handshake with `proto` 1, one with `proto` 1 + 2⁻¹⁵ and a saved result. -/
def sampleJson : CJsonLibrary where
  ParseWithLength text :=
    if text = "\x7b\"proto\":1,\"role\":\"tab5\"\x7d" then
      some (.object [("proto", .number (.ofNat 1)), ("role", .string "tab5")])
    else if text = "\x7b\"proto\":1.000030517578125,\"role\":\"tab5\"\x7d" then
      some (.object [("proto", .number nearOne), ("role", .string "tab5")])
    else if text = "\x7b\"saved\":true\x7d" then some (.object [("saved", .bool true)])
    else none
  GetErrorPtr text := some text
  Print _ := none
  PrintUnformatted _ := none

/-- One millisecond after the start of the clock, with the device present and a port that takes
everything. -/
def sampleAnswer : Answer where
  now := 1000000
  find_usb_serial_port := ⟨"/dev/ttyACM0", 1, 2⟩
  port := { sp_blocking_write := [256, 256] }

/-- Steps of the worker. -/
def works (n : ℕ) : List Event := List.replicate n (.work sampleAnswer)

/-- The worker reads a line and goes through its characters. -/
def hears (line : String) : List Event :=
  .work { sampleAnswer with read_available := .ok (line ++ "\n").toList } :: works (line.length + 1)

/-- A call of `queue_result`. -/
def queues (payload : String) : List Event := [.queue_result payload.toList 1000000 1000000]

/-- The service starts, is greeted with `proto` 1 + 2⁻¹⁵ and gets a payload. -/
def nearOneRun : List Event :=
  [.start] ++ works 7 ++
    hears "M5FACTORY:HANDSHAKE \x7b\"proto\":1.000030517578125,\"role\":\"tab5\"\x7d" ++ works 4 ++
    queues "A" ++ works 7

/-- The line that the observation shows as received. -/
def Obs.line : Obs → Option (List Char)
  | .received _ line => some line
  | _ => none

theorem near_one_lines :
    ((service sampleJson).run (Impl.init {}) nearOneRun).history.filterMap Obs.line =
      ["M5FACTORY:HANDSHAKE \x7b\"proto\":1.000030517578125,\"role\":\"tab5\"\x7d".toList] := by
  decide +kernel

/-- A result is sent although no handshake with `proto` 1 was received. -/
theorem near_one_handshake_sends :
    ¬ ∀ (cJSON : CJsonLibrary) (config : FactoryUploadConfig) (es : List Event) (e : Event)
      (session : Option ℕ) (q : Request) (sent : ℕ) (success : Bool),
      let c := (service cJSON).run (Impl.init config) es
      .wrote session (.result q) sent success ∈ ((service cJSON).step c.state e).2 →
        MaySend (Tab5Handshake (· = .ofNat 1) cJSON) c session q := by
  intro hclaim
  have hwrote : .wrote (some 0) (.result ⟨0, ['A']⟩) 19 true ∈ ((service sampleJson).step
      ((service sampleJson).run (Impl.init {}) nearOneRun).state (.work sampleAnswer)).2 := by
    decide +kernel
  obtain ⟨k, -, -, before, line, text, after, htab, -, hhistory⟩ :=
    (hclaim sampleJson {} nearOneRun _ _ _ _ _ hwrote).greeted
  have hline : line ∈ ((service sampleJson).run (Impl.init {}) nearOneRun).history.filterMap
      Obs.line := List.mem_filterMap.2 ⟨.received (some k) line, by rw [hhistory]; simp, rfl⟩
  rw [near_one_lines, List.mem_singleton] at hline
  subst hline
  obtain ⟨-, values, proto, hparse, hproto, hone, -⟩ := htab
  have hvalues : values =
      [("proto", .number nearOne), ("role", .string "tab5")] := by
    cases hparse
    rfl
  subst hvalues
  subst hone
  have hnear : nearOne = .ofNat 1 := by
    simpa [Assoc.find?] using hproto
  exact absurd hnear (by decide +kernel)

end FactoryTest.Upload
