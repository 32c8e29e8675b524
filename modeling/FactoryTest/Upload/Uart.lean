import Mathlib.Data.Int.Notation
import Mathlib.Data.Nat.Notation
import Mathlib.Tactic.Common

/-!
# Serial writes

`UartDebugSession::write_text` of `src/platform/uart_service.cpp`, in the build with
libserialport. The port's answers are inputs: what each `sp_blocking_write` call returns, what
`sp_drain` returns, and the library's last error message. A call that accepts characters
accepts at most the chunk it was offered. Once the listed answers are used up, calls time out.
-/

namespace FactoryTest.Upload

/-- What the port answers to the calls of one `write_text`. -/
structure PortAnswers where
  /-- The results of the `sp_blocking_write` calls, in order. -/
  sp_blocking_write : List ℤ := []
  /-- The result of `sp_drain`. -/
  sp_drain : ℤ := 0
  /-- `sp_last_error_message`. -/
  sp_last_error_message : Option String := none
  deriving DecidableEq

/-- `serialport_error`, with libserialport's `SP_ERR_ARG`, `SP_ERR_FAIL`, `SP_ERR_MEM` and
`SP_ERR_SUPP`. -/
def serialport_error (operation : String) (result : ℤ) (detail : Option String) : String :=
  operation ++ " failed" ++
    (if result = -2 then
      match detail with
      | some detail => ": " ++ detail
      | none => ""
    else if result = -1 then ": invalid argument"
    else if result = -3 then ": out of memory"
    else if result = -4 then ": unsupported operation"
    else ": code " ++ toString result)

/-- The write loop: the characters accepted in all, and the result of the call that ended the
loop before the text was through. -/
def write_loop (sent : ℕ) : List ℤ → ℕ → ℕ × Option ℤ
  | _, 0 => (sent, none)
  | [], _ + 1 => (sent, some 0)
  | count :: counts, remaining + 1 =>
    let chunk := min (remaining + 1) 256
    if 0 < count then
      let accepted := min count.toNat chunk
      write_loop (sent + accepted) counts (remaining + 1 - accepted)
    else (sent, some count)

/-- What a `write_text` call did: how many characters the port accepted, and the error message
if the call returned false. -/
structure WriteReport where
  sent : ℕ
  error_message : Option String
  deriving DecidableEq

/-- The call returned true. -/
def WriteReport.success (r : WriteReport) : Bool := r.error_message.isNone

/-- `UartDebugSession::write_text` on an open port. -/
def write_text (text : List Char) (port : PortAnswers) : WriteReport :=
  match write_loop 0 port.sp_blocking_write text.length with
  | (sent, some count) =>
    if count = 0 then ⟨sent, some "UART write timed out"⟩
    else ⟨sent, some (serialport_error "sp_blocking_write" count port.sp_last_error_message)⟩
  | (sent, none) =>
    if port.sp_drain ≠ 0 then
      ⟨sent, some (serialport_error "sp_drain" port.sp_drain port.sp_last_error_message)⟩
    else ⟨sent, none⟩

/-! ## How much is sent -/

theorem write_loop_bounds (sent : ℕ) (counts : List ℤ) (remaining : ℕ) :
    sent ≤ (write_loop sent counts remaining).1 ∧
      (write_loop sent counts remaining).1 ≤ sent + remaining ∧
      ((write_loop sent counts remaining).2 = none →
        (write_loop sent counts remaining).1 = sent + remaining) := by
  induction counts generalizing sent remaining with
  | nil => cases remaining <;> simp [write_loop]
  | cons count counts ih =>
    cases remaining with
    | zero => simp [write_loop]
    | succ remaining =>
      simp only [write_loop]
      split_ifs with hcount
      · obtain ⟨hle, hge, hend⟩ := ih (sent + min count.toNat (min (remaining + 1) 256))
          (remaining + 1 - min count.toNat (min (remaining + 1) 256))
        refine ⟨by omega, by omega, fun hnone => ?_⟩
        have hall := hend hnone
        omega
      · simp

theorem write_text_sent (text : List Char) (port : PortAnswers) :
    (write_text text port).sent = (write_loop 0 port.sp_blocking_write text.length).1 := by
  unfold write_text
  split
  next h => split_ifs <;> simp [h]
  next h => split_ifs <;> simp [h]

/-- A write that returns true has put the whole text on the wire. -/
theorem write_text_complete {text : List Char} {port : PortAnswers}
    (h : (write_text text port).success = true) : (write_text text port).sent = text.length := by
  have hend : (write_loop 0 port.sp_blocking_write text.length).2 = none := by
    unfold write_text at h
    split at h
    next => split_ifs at h <;> simp [WriteReport.success] at h
    next hloop => rw [hloop]
  rw [write_text_sent]
  simpa using (write_loop_bounds 0 port.sp_blocking_write text.length).2.2 hend

end FactoryTest.Upload
