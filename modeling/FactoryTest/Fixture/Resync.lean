import FactoryTest.Fixture.Steps

/-!
# Finding a frame in a stream

`read_uart_frame` takes chunks as they come. While it has seen no header it keeps only the last
byte, which may be the first half of one.

**Invariant** (`Kept`). The buffer is what follows a position of the stream before which no header
begins, whatever comes after.

**Offers** (`offered`). The UART may be polled once in a round of 10 ms. What it would deliver in
the first rounds says what there is to be found, whatever the function polls.

**Theorem (`read_uart_frame_resynchronizes`).** The frame that is returned is the one at the first
header of the stream, and it is returned with the chunk that completes it; nothing else is
returned, and the function goes on until the deadline unless it is canceled or a read fails.
-/

namespace FactoryTest.Fixture

open Program

/-! ## Headers -/

/-- A header begins at the position. -/
def HeaderAt (stream : List UInt8) (p : ℕ) : Prop :=
  stream[p]? = some 0xa5 ∧ stream[p + 1]? = some 0x5a

instance (stream : List UInt8) (p : ℕ) : Decidable (HeaderAt stream p) :=
  inferInstanceAs (Decidable (_ ∧ _))

/-- The first header of the stream begins at the position. -/
def FirstHeader (stream : List UInt8) (p : ℕ) : Prop :=
  HeaderAt stream p ∧ ∀ q < p, ¬ HeaderAt stream q

/-- The first header of the stream is followed by a whole frame. -/
def HasFrame (stream : List UInt8) : Prop := ∃ p, FirstHeader stream p ∧ p + 16 ≤ stream.length

theorem FirstHeader.unique {stream : List UInt8} {p q : ℕ} (hp : FirstHeader stream p)
    (hq : FirstHeader stream q) : p = q := by
  rcases Nat.lt_trichotomy p q with hlt | heq | hlt
  · exact absurd hp.1 (hq.2 p hlt)
  · exact heq
  · exact absurd hq.1 (hp.2 q hlt)

theorem headerAt_drop {stream : List UInt8} {d p : ℕ} :
    HeaderAt (stream.drop d) p ↔ HeaderAt stream (d + p) := by
  unfold HeaderAt
  rw [List.getElem?_drop, List.getElem?_drop, Nat.add_assoc]

/-- What comes later does not change a header that is there. -/
theorem headerAt_append {stream : List UInt8} (chunk : List UInt8) {q : ℕ}
    (hq : q + 1 < stream.length) : HeaderAt (stream ++ chunk) q ↔ HeaderAt stream q := by
  unfold HeaderAt
  rw [List.getElem?_append_left hq, List.getElem?_append_left (Nat.lt_of_succ_lt hq)]

/-- `find_header` finds the first header. -/
theorem find_header_spec (bytes : List UInt8) :
    match find_header bytes with
    | some p => FirstHeader bytes p
    | none => ∀ p, ¬ HeaderAt bytes p := by
  induction bytes using find_header.induct with
  | case1 rest => exact ⟨⟨rfl, rfl⟩, fun q hq => absurd hq (Nat.not_lt_zero q)⟩
  | case2 byte rest hno ih =>
    -- No header begins with the first byte.
    have hfirst : ¬ HeaderAt (byte :: rest) 0 := by
      rintro ⟨h0, h1⟩
      cases rest with
      | nil => cases h1
      | cons next rest =>
        obtain rfl := Option.some.inj h0
        obtain rfl := Option.some.inj h1
        exact hno rest rfl rfl
    rw [find_header]
    · cases hrest : find_header rest with
      | some p =>
        rw [hrest] at ih
        refine ⟨ih.1, fun q hq => ?_⟩
        cases q with
        | zero => exact hfirst
        | succ q => exact ih.2 q (Nat.lt_of_succ_lt_succ hq)
      | none =>
        rw [hrest] at ih
        intro p
        cases p with
        | zero => exact hfirst
        | succ p => exact ih p
    · exact hno
  | case3 =>
    intro p h
    cases h.1

/-! ## The buffer -/

/-- The buffer is what follows a position of the stream, and no header begins before it. -/
def Kept (stream buffer : List UInt8) : Prop :=
  ∃ d, buffer = stream.drop d ∧ (d = 0 ∨ d < stream.length) ∧ ∀ q < d, ¬ HeaderAt stream q

/-- With the next chunk the same position is left. -/
theorem Kept.append {stream buffer : List UInt8} (h : Kept stream buffer) (chunk : List UInt8) :
    Kept (stream ++ chunk) (buffer ++ chunk) := by
  obtain ⟨d, rfl, hd, hnone⟩ := h
  refine ⟨d, ?_, hd.imp id fun hlt => ?_, fun q hq => ?_⟩
  · rw [List.drop_append_of_le_length (by omega)]
  · rw [List.length_append]
    omega
  · rw [headerAt_append chunk (by omega)]
    exact hnone q hq

/-- A header in the buffer is the first one of the stream. -/
theorem Kept.found {stream buffer : List UInt8} (h : Kept stream buffer) {header : ℕ}
    (hfound : find_header buffer = some header) :
    ∃ p, FirstHeader stream p ∧ buffer.drop header = stream.drop p ∧
      buffer.length - header = stream.length - p := by
  obtain ⟨d, rfl, -, hnone⟩ := h
  have hspec := find_header_spec (stream.drop d)
  rw [hfound] at hspec
  refine ⟨d + header, ⟨headerAt_drop.1 hspec.1, fun q hq hat => ?_⟩, ?_, ?_⟩
  · by_cases hlt : q < d
    · exact hnone q hlt hat
    · refine hspec.2 (q - d) (by omega) (headerAt_drop.2 ?_)
      rwa [Nat.add_sub_cancel' (not_lt.1 hlt)]
  · rw [List.drop_drop]
  · rw [List.length_drop, Nat.sub_sub]

/-- Without a header in the buffer there is none, and the last byte is enough. -/
theorem Kept.lost {stream buffer : List UInt8} (h : Kept stream buffer)
    (hlost : find_header buffer = none) : (∀ p, ¬ HeaderAt stream p) ∧
      Kept stream (if 1 < buffer.length then buffer.drop (buffer.length - 1) else buffer) := by
  obtain ⟨d, rfl, hd, hnone⟩ := id h
  have hspec := find_header_spec (stream.drop d)
  rw [hlost] at hspec
  have hall (p : ℕ) : ¬ HeaderAt stream p := by
    intro hat
    by_cases hlt : p < d
    · exact hnone p hlt hat
    · refine hspec (p - d) (headerAt_drop.2 ?_)
      rwa [Nat.add_sub_cancel' (not_lt.1 hlt)]
  refine ⟨hall, ?_⟩
  split
  · rename_i hlong
    rw [List.length_drop] at hlong
    refine ⟨stream.length - 1, ?_, .inr (by omega), fun q _ => hall q⟩
    rw [List.drop_drop, List.length_drop]
    congr 1
    omega
  · exact h

/-! ## The chunks -/

/-- The bytes that a read delivered. -/
def Obs.delivered : Obs → Option (List UInt8)
  | .call .uart_read_available a => if a.error = "" then some a.bytes else none
  | _ => none

/-- What was delivered, chunk by chunk. -/
def chunks (os : List Obs) : List (List UInt8) := os.filterMap Obs.delivered

/-- The chunks one after another. -/
def delivered (os : List Obs) : List UInt8 := (chunks os).flatten

/-- Why the function may stop before the deadline. -/
def Interrupted (os : List Obs) (w : World) : Prop :=
  w.cancel_requested = true ∨ ∃ a, .call .uart_read_available a ∈ os ∧ a.error ≠ ""

/-- The frame at the first header of what was delivered, completed by the last chunk. -/
def Completed (os : List Obs) (frame : List UInt8) : Prop :=
  (∃ p, FirstHeader (delivered os) p ∧ p + 16 ≤ (delivered os).length ∧
    frame = ((delivered os).drop p).take 16) ∧
  ∃ front last, chunks os = front ++ [last] ∧ ¬ HasFrame front.flatten

theorem chunks_append (os os' : List Obs) : chunks (os ++ os') = chunks os ++ chunks os' :=
  List.filterMap_append

theorem delivered_append (os os' : List Obs) :
    delivered (os ++ os') = delivered os ++ delivered os' := by
  rw [delivered, chunks_append, List.flatten_append]
  rfl

variable {h : List Obs} {E : World → Prop}

/-- The buffer is kept for what was delivered since, which has no frame. -/
def Listening (h : List Obs) (buffer : List UInt8) (w : World) : Prop :=
  ∃ os, w.history = h ++ os ∧ Kept (delivered os) buffer ∧ ¬ HasFrame (delivered os)

/-- What was read so far. -/
def Answers (h : List Obs) (read : Except String (List UInt8)) (w : World) : Prop :=
  ∃ os, w.history = h ++ os ∧
    match read with
    | .ok frame => Completed os frame
    | .error _ => ¬ HasFrame (delivered os) ∧ Interrupted os w

theorem Listening.steady (buffer : List UInt8) : Steady (Listening h buffer) :=
  fun _ _ ⟨os, hos, hkept⟩ _ hhistory _ => ⟨os, hhistory.trans hos, hkept⟩

/-- A loop with a deadline, and an invariant of its value. -/
theorem until_deadline_rule {α β : Type} {I : β → World → Prop} (hI : ∀ b, Steady (I b))
    {Q : α → World → Prop} (milliseconds : ℕ) {body : β → Run (β ⊕ α)}
    (hbody : ∀ b, Triple (I b) (body b) (fun r => r.elim I Q) E) (b : β) :
    Triple (I b) (until_deadline milliseconds body b) (fun r => r.elim I Q) E := by
  refine (clock_steady (hI b)).bind fun start => ?_
  refine triple_loop (fun b => ?_) hbody _ b
  exact (clock_steady (hI b)).bind fun now => triple_pure fun _ h => h

/-- One round of `read_uart_frame`. -/
def read_step (buffer : List UInt8) : Run (List UInt8 ⊕ Except String (List UInt8)) := do
  if ← canceled then return .inr (.error "UART receive canceled")
  let chunk ← call .uart_read_available
  if chunk.error ≠ "" then return .inr (.error chunk.error)
  let received := buffer ++ chunk.bytes
  match find_header received with
  | some header =>
    if 16 ≤ received.length - header then
      let frame := (received.drop header).take 16
      note (.frame frame)
      return .inr (.ok frame)
    sleep_for 10
    return .inl received
  | none =>
    sleep_for 10
    return .inl (if 1 < received.length then received.drop (received.length - 1) else received)

theorem read_uart_frame_eq (timeout : ℕ) : read_uart_frame timeout = do
    let read ← until_deadline timeout read_step []
    match read with
    | .inr result => return result
    | .inl received =>
      return .error ("UART receive timed out waiting for 16-byte frame (buffered " ++
        toString received.length ++ " byte(s))") := rfl

/-- A round keeps the buffer, or has an answer. -/
theorem read_round (buffer : List UInt8) :
    Triple (Listening h buffer) (read_step buffer) (fun r => r.elim (Listening h) (Answers h))
      E := by
  refine (canceled_steady (Listening.steady buffer)).bind fun canceled => ?_
  refine triple_ite (fun hcanceled => triple_pure fun w hw => ?_) fun _ => ?_
  · obtain ⟨⟨os, hhistory, -, hno⟩, hflag⟩ := hw
    exact ⟨os, hhistory, hno, .inl (hflag hcanceled)⟩
  refine Triple.bind (Q := fun chunk w =>
    ∃ os, w.history = h ++ os ++ [.call .uart_read_available chunk] ∧
      Kept (delivered os) buffer ∧ ¬ HasFrame (delivered os)) (fun w hw => ?_) fun chunk => ?_
  · obtain ⟨os, hhistory, hkept⟩ := hw.1
    exact ⟨os, congrArg (· ++ _) (w.pass_history.trans hhistory), hkept⟩
  refine triple_ite (fun herror => triple_pure fun w hw => ?_) fun herror => ?_
  · obtain ⟨os, hhistory, -, hno⟩ := hw
    have hsame : delivered (os ++ [.call .uart_read_available chunk]) = delivered os := by
      rw [delivered_append]
      simp [delivered, chunks, Obs.delivered, herror]
    exact ⟨os ++ [.call .uart_read_available chunk], by rw [hhistory, List.append_assoc],
      by rwa [hsame], .inr ⟨chunk, by simp, herror⟩⟩
  -- The chunk goes to the buffer.
  have hchunk (os : List Obs) : chunks (os ++ [.call .uart_read_available chunk]) =
      chunks os ++ [chunk.bytes] := by
    rw [chunks_append]
    simp [chunks, Obs.delivered, not_not.1 herror]
  have hstream (os : List Obs) : delivered (os ++ [.call .uart_read_available chunk]) =
      delivered os ++ chunk.bytes := by
    rw [delivered, hchunk, List.flatten_append, List.flatten_singleton]
    rfl
  dsimp only
  cases hheader : find_header (buffer ++ chunk.bytes) with
  | some header =>
    refine triple_ite (fun hsize w hw => ?_) fun hsize => ?_
    · obtain ⟨os, hhistory, hkept, hno⟩ := hw
      obtain ⟨p, hfirst, hdrop, hlength⟩ := (hkept.append chunk.bytes).found hheader
      refine ⟨os ++ [.call .uart_read_available chunk] ++
        [.frame (((buffer ++ chunk.bytes).drop header).take 16)], ?_, ?_, ?_⟩
      · exact (congrArg (· ++ _) (hhistory.trans (List.append_assoc _ _ _))).trans
          (List.append_assoc _ _ _)
      · have hsame (frame : List UInt8) : delivered (os ++ [.call .uart_read_available chunk] ++
            [.frame frame]) = delivered os ++ chunk.bytes := by
          rw [delivered_append, hstream]
          exact List.append_nil _
        rw [hsame, hdrop]
        exact ⟨p, hfirst, by omega, rfl⟩
      · refine ⟨chunks os, chunk.bytes, ?_, hno⟩
        rw [chunks_append, hchunk]
        exact List.append_nil _
    · refine Triple.bind (Q := fun _ => Listening h (buffer ++ chunk.bytes)) ?_ fun _ =>
        triple_pure fun _ hw => hw
      refine (sleep_for_steady (Listening.steady _) 10).pre fun w hw => ?_
      obtain ⟨os, hhistory, hkept, hno⟩ := hw
      refine ⟨os ++ [.call .uart_read_available chunk], by rw [hhistory, List.append_assoc], ?_⟩
      rw [hstream]
      have hkept' := hkept.append chunk.bytes
      refine ⟨hkept', fun ⟨q, hq, hwhole⟩ => ?_⟩
      obtain ⟨p, hfirst, -, hlength⟩ := hkept'.found hheader
      rw [hq.unique hfirst] at hwhole
      omega
  | none =>
    refine Triple.bind (Q := fun _ => Listening h _) ?_ fun _ => triple_pure fun _ hw => hw
    refine (sleep_for_steady (Listening.steady _) 10).pre fun w hw => ?_
    obtain ⟨os, hhistory, hkept, hno⟩ := hw
    refine ⟨os ++ [.call .uart_read_available chunk], by rw [hhistory, List.append_assoc], ?_⟩
    rw [hstream]
    obtain ⟨hnone, hkept'⟩ := (hkept.append chunk.bytes).lost hheader
    exact ⟨hkept', fun ⟨q, hq, _⟩ => hnone q hq.1⟩

/-! ## Time -/

theorem World.pass_now (w : World) :
    w.pass.now = w.now + (w.surroundings.meanwhile w.moment).elapsed := by
  have hcancel (steps : List CancelStep) (w : World) :
      (steps.foldl World.cancel w).now = w.now := by
    induction steps generalizing w with
    | nil => rfl
    | cons step steps ih =>
      rw [List.foldl_cons, ih]
      cases step <;> rfl
  exact hcancel _ _

theorem World.now_le_pass (w : World) : w.now ≤ w.pass.now := by
  rw [w.pass_now]
  exact Nat.le_add_right _ _

/-- It is not before this. -/
def Since (n : ℕ) (w : World) : Prop := n ≤ w.now

theorem canceled_since (n : ℕ) : Triple (Since n) canceled (fun _ => Since n) E :=
  fun w hw => Nat.le_trans hw w.now_le_pass

theorem call_since (c : Call) (n : ℕ) : Triple (Since n) (call c) (fun _ => Since n) E :=
  fun w hw => Nat.le_trans hw w.now_le_pass

theorem sleep_since (milliseconds n : ℕ) :
    Triple (Since n) (sleep_for milliseconds) (fun _ => Since (n + milliseconds)) E :=
  fun w hw => Nat.add_le_add_right (Nat.le_trans hw w.now_le_pass) milliseconds

/-- If every round takes some time, a loop that is not left before ends at its deadline. -/
theorem until_deadline_ends {α β : Type} {body : β → Run (β ⊕ α)} (milliseconds : ℕ)
    (hbody : ∀ b n, Triple (Since n) (body b) (fun r => r.elim (fun _ => Since (n + 1))
      fun _ _ => True) fun _ => True) (w : World) (b : β) :
    match until_deadline milliseconds body b w with
    | (some (.inl _), w') => w.pass.now + milliseconds ≤ w'.now
    | _ => True := by
  have hloop : Triple (fun w' => True ∧ w.pass.now + milliseconds - w'.now < milliseconds + 1)
      (Program.loop (do return (← clock) < w.pass.now + milliseconds) body (milliseconds + 1) b)
      (fun r => r.elim (fun _ w' => w.pass.now + milliseconds ≤ w'.now) fun _ _ => True)
      fun _ => True := by
    refine @triple_loop_until World α β _ _ _ body (fun _ _ => True) _
      (fun w' => w.pass.now + milliseconds - w'.now) (fun _ n w' hw' => ?_) (fun b n => ?_) _ b
    · have hle := w'.now_le_pass
      show if decide (w'.pass.now < _) = true then _ else _
      by_cases hlt : w'.pass.now < w.pass.now + milliseconds
      · rw [if_pos (decide_eq_true hlt)]
        exact ⟨trivial, by omega, by omega⟩
      · rw [if_neg (by simpa using hlt)]
        exact not_lt.1 hlt
    · refine (hbody b (w.pass.now + milliseconds - (n + 1))).mono (fun w' hw' => ?_)
        (fun r w' hw' => ?_) fun _ h => h
      · have hle := hw'.2
        exact Nat.sub_le_iff_le_add.2 (Nat.sub_le_iff_le_add'.1 hle)
      · cases r with
        | inl _ =>
          have hlater : w.pass.now + milliseconds - (n + 1) + 1 ≤ w'.now := hw'
          exact ⟨trivial, by omega⟩
        | inr _ => trivial
  have hnow := hloop w.pass ⟨trivial, by omega⟩
  have heq : until_deadline milliseconds body b w =
      Program.loop (do return (← clock) < w.pass.now + milliseconds) body (milliseconds + 1) b
        w.pass := rfl
  rw [heq]
  cases hr : Program.loop (do return (← clock) < w.pass.now + milliseconds) body
      (milliseconds + 1) b w.pass with
  | mk r w' =>
    rw [hr] at hnow
    cases r with
    | none => trivial
    | some r =>
      cases r with
      | inl _ => exact hnow
      | inr _ => trivial

/-! ## The function -/

theorem read_step_takes (buffer : List UInt8) (n : ℕ) :
    Triple (Since n) (read_step buffer) (fun r => r.elim (fun _ => Since (n + 1)) fun _ _ => True)
      fun _ => True := by
  have hsleep (received : List UInt8) : Triple (Since n)
      (do sleep_for 10; return .inl received : Run (List UInt8 ⊕ Except String (List UInt8)))
      (fun r => r.elim (fun _ => Since (n + 1)) fun _ _ => True) fun _ => True := by
    refine (sleep_since 10 n).bind fun _ => triple_pure fun w hw => ?_
    exact Nat.le_trans (by omega : n + 1 ≤ n + 10) hw
  refine (canceled_since n).bind fun canceled => ?_
  refine triple_ite (fun _ => triple_pure fun _ _ => trivial) fun _ => ?_
  refine (call_since _ n).bind fun chunk => ?_
  refine triple_ite (fun _ => triple_pure fun _ _ => trivial) fun _ => ?_
  dsimp only
  cases find_header (buffer ++ chunk.bytes) with
  | some header =>
    refine triple_ite (fun _ => ?_) fun _ => hsleep _
    exact Triple.bind (Q := fun _ _ => True) (fun _ _ => trivial) fun _ =>
      triple_pure fun _ _ => trivial
  | none => exact hsleep _

/-! ## What the UART offers -/

/-- The world before a round, if no frame is completed before it: a round reads the clock, looks at
the flag, polls the UART and sleeps. -/
def before (w : World) : ℕ → World
  | 0 => w.pass
  | k + 1 =>
    let polled := (call .uart_read_available (before w k).pass.pass).2
    (sleep_for 10 polled).2

/-- What the UART answers in a round. -/
def offer (w : World) (k : ℕ) : Answer :=
  let polled := (before w k).pass.pass.pass
  polled.surroundings.answer polled.moment .uart_read_available

/-- What it delivers in the first rounds. -/
def offered (w : World) (rounds : ℕ) : List UInt8 :=
  (List.range rounds).flatMap fun k => (offer w k).bytes

/-- In this round there is time left, nobody asked to cancel and the read does not fail. -/
structure Calm (timeout : ℕ) (w : World) (k : ℕ) : Prop where
  time : (before w k).pass.now < w.pass.now + timeout
  flag : (before w k).pass.pass.cancel_requested = false
  read : (offer w k).error = ""

theorem offered_succ (w : World) (k : ℕ) :
    offered w (k + 1) = offered w k ++ (offer w k).bytes := by
  rw [offered, List.range_succ, List.flatMap_append, List.flatMap_singleton]
  rfl

theorem offered_prefix (w : World) {k n : ℕ} (h : k ≤ n) : offered w k <+: offered w n := by
  induction n, h using Nat.le_induction with
  | base => exact List.prefix_refl _
  | succ n _ ih =>
    rw [offered_succ]
    exact ih.trans (List.prefix_append _ _)

theorem before_now (w : World) (k : ℕ) : w.pass.now + 10 * k ≤ (before w k).now := by
  induction k with
  | zero => exact Nat.le_refl _
  | succ k ih =>
    have h₁ := (before w k).now_le_pass
    have h₂ := (before w k).pass.now_le_pass
    have h₃ := (before w k).pass.pass.now_le_pass
    have h₄ := (call .uart_read_available (before w k).pass.pass).2.now_le_pass
    have h₅ : (before w (k + 1)).now =
      (call .uart_read_available (before w k).pass.pass).2.pass.now + 10 := rfl
    have h₆ : (call .uart_read_available (before w k).pass.pass).2.now =
      (before w k).pass.pass.pass.now := rfl
    omega

/-- A calm round returns the frame that it completes, or leads to the next one. -/
theorem read_step_calm {timeout : ℕ} {w : World} {k : ℕ} (hcalm : Calm timeout w k)
    (buffer : List UInt8) :
    match find_header (buffer ++ (offer w k).bytes) with
    | some header =>
      if 16 ≤ (buffer ++ (offer w k).bytes).length - header then
        (read_step buffer (before w k).pass).1 =
          some (.inr (.ok (((buffer ++ (offer w k).bytes).drop header).take 16)))
      else read_step buffer (before w k).pass =
        (some (.inl (buffer ++ (offer w k).bytes)), before w (k + 1))
    | none => read_step buffer (before w k).pass =
      (some (.inl (if 1 < (buffer ++ (offer w k).bytes).length then
        (buffer ++ (offer w k).bytes).drop ((buffer ++ (offer w k).bytes).length - 1)
        else buffer ++ (offer w k).bytes)), before w (k + 1)) := by
  have hflag : canceled (before w k).pass = (some false, (before w k).pass.pass) := by
    rw [← hcalm.flag]
    rfl
  have hcall : call .uart_read_available (before w k).pass.pass =
      (some (offer w k), (call .uart_read_available (before w k).pass.pass).2) := rfl
  have hread : ¬ (offer w k).error ≠ "" := fun h => h hcalm.read
  have hstep : read_step buffer (before w k).pass =
      (match find_header (buffer ++ (offer w k).bytes) with
      | some header => do
        if 16 ≤ (buffer ++ (offer w k).bytes).length - header then
          let frame := ((buffer ++ (offer w k).bytes).drop header).take 16
          note (.frame frame)
          return .inr (.ok frame)
        sleep_for 10
        return .inl (buffer ++ (offer w k).bytes)
      | none => do
        sleep_for 10
        return .inl (if 1 < (buffer ++ (offer w k).bytes).length then
          (buffer ++ (offer w k).bytes).drop ((buffer ++ (offer w k).bytes).length - 1)
          else buffer ++ (offer w k).bytes) : Run (List UInt8 ⊕ Except String (List UInt8)))
        (call .uart_read_available (before w k).pass.pass).2 := by
    rw [read_step, bind_apply, hflag]
    dsimp only
    rw [if_neg Bool.false_ne_true, bind_apply, hcall]
    dsimp only
    rw [if_neg hread]
  rw [hstep]
  cases find_header (buffer ++ (offer w k).bytes) with
  | some header =>
    dsimp only
    split
    · rfl
    · rfl
  | none => rfl

/-- A frame that is there stays the first one. -/
theorem FirstHeader.append {stream : List UInt8} {p : ℕ} (h : FirstHeader stream p)
    (hwhole : p + 16 ≤ stream.length) (chunk : List UInt8) :
    FirstHeader (stream ++ chunk) p ∧
      ((stream ++ chunk).drop p).take 16 = (stream.drop p).take 16 := by
  refine ⟨⟨(headerAt_append chunk (by omega)).2 h.1, fun q hq hat => ?_⟩, ?_⟩
  · exact h.2 q hq ((headerAt_append chunk (by omega)).1 hat)
  · rw [List.drop_append_of_le_length (by omega), List.take_append_of_le_length]
    rw [List.length_drop]
    omega

/-- Whether there is time left. -/
def in_time (deadline : ℕ) : Run Bool := do return (← clock) < deadline

/-- The loop of `read_uart_frame`. -/
def read_rounds (deadline : ℕ) :
    ℕ → List UInt8 → Run (List UInt8 ⊕ Except String (List UInt8)) :=
  Program.loop (in_time deadline) read_step

/-- While all rounds are calm, the loop comes to the frame that is offered. -/
theorem read_rounds_calm {timeout n p : ℕ} {w : World} (hcalm : ∀ k < n, Calm timeout w k)
    (hfirst : FirstHeader (offered w n) p) (hwhole : p + 16 ≤ (offered w n).length) (fuel : ℕ)
    {k : ℕ} (hfuel : n ≤ k + fuel) {buffer : List UInt8} (hkept : Kept (offered w k) buffer)
    (hno : ¬ HasFrame (offered w k)) :
    (read_rounds (w.pass.now + timeout) fuel buffer (before w k)).1 =
      some (.inr (.ok (((offered w n).drop p).take 16))) := by
  have hlt : k < n := by
    by_contra hle
    obtain ⟨rest, hrest⟩ := offered_prefix w (not_lt.1 hle)
    refine hno ⟨p, hrest ▸ (hfirst.append hwhole rest).1, ?_⟩
    rw [← hrest, List.length_append]
    exact Nat.le_add_right_of_le hwhole
  induction fuel generalizing k buffer with
  | zero => omega
  | succ fuel ih =>
    have hround := read_step_calm (hcalm k hlt) buffer
    have htest : in_time (w.pass.now + timeout) (before w k) = (some true, (before w k).pass) :=
      congrArg (some ·, (before w k).pass) (decide_eq_true (hcalm k hlt).time)
    have hnext := offered_succ w k
    have hkept' := hkept.append (offer w k).bytes
    rw [← hnext] at hkept'
    -- What is kept after a round without a frame is kept for the next one.
    have hon {buffer' : List UInt8} (hstep : read_step buffer (before w k).pass =
        (some (.inl buffer'), before w (k + 1))) (hkept' : Kept (offered w (k + 1)) buffer')
        (hno' : ¬ HasFrame (offered w (k + 1))) :
        (read_rounds (w.pass.now + timeout) (fuel + 1) buffer (before w k)).1 =
          some (.inr (.ok (((offered w n).drop p).take 16))) := by
      rw [read_rounds, loop_round htest, hstep]
      refine ih (by omega) hkept' hno' (Nat.lt_of_le_of_ne hlt fun heq => hno' ?_)
      exact heq ▸ ⟨p, hfirst, hwhole⟩
    cases hheader : find_header (buffer ++ (offer w k).bytes) with
    | some header =>
      obtain ⟨q, hq, hdrop, hlength⟩ := hkept'.found hheader
      rw [hheader] at hround
      dsimp only at hround
      split at hround
      · obtain ⟨rest, hrest⟩ := offered_prefix w hlt
        obtain ⟨hlater, hframe⟩ := hq.append (by omega) rest
        rw [hrest] at hlater hframe
        rw [read_rounds, loop_round htest]
        cases hstep : read_step buffer (before w k).pass with
        | mk r w' =>
          rw [hstep] at hround
          obtain rfl : r = _ := hround
          rw [hfirst.unique hlater, hframe, hdrop]
      · refine hon hround hkept' fun ⟨q', hq', hwhole'⟩ => ?_
        rw [hq'.unique hq] at hwhole'
        omega
    | none =>
      obtain ⟨hnone, hlast⟩ := hkept'.lost hheader
      rw [hheader] at hround
      exact hon hround hlast fun ⟨q, hq, _⟩ => hnone q hq.1

/-- A frame that is offered in time is returned. -/
theorem read_uart_frame_arrives {timeout n p : ℕ} {w : World}
    (hcalm : ∀ k < n, Calm timeout w k) (hfirst : FirstHeader (offered w n) p)
    (hwhole : p + 16 ≤ (offered w n).length) : (read_uart_frame timeout w).1 =
      some (.ok (((offered w n).drop p).take 16)) := by
  have hfuel : n ≤ 0 + (timeout + 1) := by
    cases n with
    | zero => exact Nat.zero_le _
    | succ n =>
      have htime := (hcalm n (Nat.lt_succ_self n)).time
      have hnow := before_now w n
      have hpass := (before w n).now_le_pass
      omega
  have hkept : Kept (offered w 0) [] :=
    ⟨0, rfl, .inl rfl, fun q hq => absurd hq (Nat.not_lt_zero q)⟩
  have hnone : ¬ HasFrame (offered w 0) := fun ⟨q, _, hq⟩ => absurd hq (by simp [offered])
  have hloop := read_rounds_calm hcalm hfirst hwhole (timeout + 1) hfuel hkept hnone
  have heq : until_deadline timeout read_step [] w =
      read_rounds (w.pass.now + timeout) (timeout + 1) [] (before w 0) := rfl
  rw [read_uart_frame_eq, bind_apply, heq]
  cases hr : read_rounds (w.pass.now + timeout) (timeout + 1) [] (before w 0) with
  | mk r w' =>
    rw [hr] at hloop
    obtain rfl : r = _ := hloop
    rfl

/-- What `read_uart_frame` makes of the stream: `arrives` and `frame` say that it returns the frame
at the first header once the UART has offered it; `only`, that it returns nothing else; `prompt`,
that it does so with the chunk that completes it; `waits`, that it does not stop early for no
reason. -/
structure Resynchronizes (timeout : ℕ) (w : World) : Prop where
  arrives : ∀ n p, (∀ k < n, Calm timeout w k) → FirstHeader (offered w n) p →
    p + 16 ≤ (offered w n).length →
      (read_uart_frame timeout w).1 = some (.ok (((offered w n).drop p).take 16))
  frame : ∀ p, FirstHeader (delivered (observed (read_uart_frame timeout) w)) p →
    p + 16 ≤ (delivered (observed (read_uart_frame timeout) w)).length →
      (read_uart_frame timeout w).1 =
        some (.ok (((delivered (observed (read_uart_frame timeout) w)).drop p).take 16))
  only : ∀ frame, (read_uart_frame timeout w).1 = some (.ok frame) →
    ∃ p, FirstHeader (delivered (observed (read_uart_frame timeout) w)) p ∧
      p + 16 ≤ (delivered (observed (read_uart_frame timeout) w)).length ∧
      frame = ((delivered (observed (read_uart_frame timeout) w)).drop p).take 16
  prompt : ∀ frame, (read_uart_frame timeout w).1 = some (.ok frame) →
    ∃ front last, chunks (observed (read_uart_frame timeout) w) = front ++ [last] ∧
      ∀ p, FirstHeader front.flatten p → front.flatten.length < p + 16
  waits : (∀ frame, (read_uart_frame timeout w).1 ≠ some (.ok frame)) →
    w.pass.now + timeout ≤ (read_uart_frame timeout w).2.now ∨
      Interrupted (observed (read_uart_frame timeout) w) (read_uart_frame timeout w).2

/-- Without a frame it fails. -/
theorem Resynchronizes.of_error {timeout : ℕ} {w w' : World} {error : String} {os : List Obs}
    (hrun : read_uart_frame timeout w = (some (.error error), w'))
    (hhistory : w'.history = w.history ++ os) (hno : ¬ HasFrame (delivered os))
    (hwaits : w.pass.now + timeout ≤ w'.now ∨ Interrupted os w') : Resynchronizes timeout w := by
  have hseen : observed (read_uart_frame timeout) w = os := observed_eq (by rw [hrun, hhistory])
  have hnone (frame : List UInt8) : (read_uart_frame timeout w).1 ≠ some (.ok frame) := by
    intro hframe
    rw [hrun] at hframe
    cases hframe
  refine ⟨fun n p => read_uart_frame_arrives, fun p hp hwhole => ?_,
    fun frame hframe => absurd hframe (hnone frame),
    fun frame hframe => absurd hframe (hnone frame), fun _ => ?_⟩
  · rw [hseen] at hp hwhole
    exact absurd ⟨p, hp, hwhole⟩ hno
  · rw [hrun, hseen]
    exact hwaits

/-- The frame is found wherever it begins and however it comes. -/
theorem read_uart_frame_resynchronizes (timeout : ℕ) (w : World) : Resynchronizes timeout w := by
  have hloop := until_deadline_rule (E := fun _ => False) Listening.steady timeout
    (read_round (h := w.history)) [] w
    ⟨[], (List.append_nil _).symm, ⟨0, rfl, .inl rfl, fun q hq => absurd hq (Nat.not_lt_zero q)⟩,
      fun ⟨p, _, hp⟩ => absurd hp (by simp [delivered, chunks])⟩
  have hend := until_deadline_ends timeout read_step_takes w []
  have hread := read_uart_frame_eq timeout
  cases hr : until_deadline timeout read_step [] w with
  | mk r w' =>
    rw [hr] at hloop hend
    cases r with
    | none => exact False.elim hloop
    | some r =>
      cases r with
      | inl received =>
        -- The deadline came first.
        obtain ⟨os, hhistory, -, hno⟩ := hloop
        have hrun : read_uart_frame timeout w = (some (.error
            ("UART receive timed out waiting for 16-byte frame (buffered " ++
              toString received.length ++ " byte(s))")), w') := by
          rw [hread, bind_apply, hr]
          rfl
        exact .of_error hrun hhistory hno (.inl hend)
      | inr read =>
        have hrun : read_uart_frame timeout w = (some read, w') := by
          rw [hread, bind_apply, hr]
          rfl
        obtain ⟨os, hhistory, hanswer⟩ := hloop
        cases read with
        | error e => exact .of_error hrun hhistory hanswer.1 (.inr hanswer.2)
        | ok frame =>
          obtain ⟨⟨p, hp, hwhole, rfl⟩, front, last, hchunks, hno⟩ := hanswer
          have hseen : observed (read_uart_frame timeout) w = os :=
            observed_eq (by rw [hrun, hhistory])
          have hframe_eq {frame' : List UInt8}
              (h : (read_uart_frame timeout w).1 = some (.ok frame')) :
              ((delivered os).drop p).take 16 = frame' := by
            rw [hrun] at h
            exact Except.ok.inj (Option.some.inj h)
          refine ⟨fun n p => read_uart_frame_arrives, fun q hq _ => ?_, fun frame' hframe' => ?_,
            fun _ _ => ?_, fun hnone => ?_⟩
          · rw [hseen] at hq ⊢
            rw [hrun, hq.unique hp]
          · rw [hseen]
            exact ⟨p, hp, hwhole, (hframe_eq hframe').symm⟩
          · rw [hseen]
            exact ⟨front, last, hchunks, fun q hq => not_le.1 fun hle => hno ⟨q, hq, hle⟩⟩
          · rw [hrun] at hnone
            exact absurd rfl (hnone _)

/-- A UART that delivers a split header after garbage. -/
def split_header : World :=
  { surroundings := {
      meanwhile := fun _ => { elapsed := 1 }
      answer := fun moment _ =>
        if moment = 4 then { bytes := [0x00, 0xa5] }
        else if moment = 8 then { bytes := [0x5a, 0x30, 1, 2, 3] }
        else if moment = 12 then { bytes := [4, 5, 6, 7, 8, 9, 10, 11, 12, 13, 14] }
        else {} } }

/-- The frame is found in the third chunk, though its header came in two. -/
theorem read_uart_frame_resynchronizes_split : (read_uart_frame 100 split_header).1 =
    some (.ok [0xa5, 0x5a, 0x30, 1, 2, 3, 4, 5, 6, 7, 8, 9, 10, 11, 12, 13]) := by
  refine (read_uart_frame_resynchronizes 100 split_header).arrives 3 1 (fun k hk => ?_) ?_ ?_
  · obtain rfl | rfl | rfl : k = 0 ∨ k = 1 ∨ k = 2 := by omega
    all_goals exact ⟨by decide, by decide, by decide⟩
  · refine ⟨by decide, fun q hq => ?_⟩
    obtain rfl := Nat.lt_one_iff.1 hq
    decide
  · decide

end FactoryTest.Fixture
