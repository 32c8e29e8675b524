import FactoryTest.Gps.Sentence
import FactoryTest.Lib.Segments
import Mathlib.Data.List.Infix

/-!
# The GPS test

`run_gps_test` reads the UART of the GPS in chunks and looks in every line for the name of the IC
and for a navigation sentence, until it has both or the time is over.

**Theorem** (`run_gps_test_spec`). However a stream is cut into chunks, the test finds both
exactly when closed segments of the stream have them, if none of these is longer than the buffer.

The reader's buffer holds what is open of the stream (`Follows`), or the stream has no more
delimiters and the buffer does not matter.
-/

namespace FactoryTest.CapLora1262

open Segments

/-! ## The code -/

/-- `trim`. -/
def trim (value : Bytes) : Bytes :=
  let is_space (character : UInt8) : Bool := isspace (Char.ofNat character.toNat)
  (value.dropWhile is_space).rdropWhile is_space

def uppercase (value : Bytes) : Bytes := value.map toupper

/-- `inspect_uart_ic_line`, with the result it leaves. -/
def inspect_uart_ic_line (raw_line : Bytes) (result : GpsTestResult) : Bool × GpsTestResult :=
  let line := trim raw_line
  if line = [] then (false, result)
  else
    let normalized := uppercase line
    if bytes "IC=" <:+: normalized ∨ bytes "IC:" <:+: normalized then
      (true, { result with ic_info := line })
    else (false, result)

/-- `\r` or `\n`. -/
def is_newline (character : UInt8) : Bool := character = 13 ∨ character = 10

/-- The variables of the loop. The lines that were inspected are kept beside them, and the results
that `progress` was called with. -/
structure Reader where
  pending : Bytes := []
  result : GpsTestResult := {}
  inspected : List Bytes := []
  reported : List GpsTestResult := []
  deriving DecidableEq

/-- What is done with a line. -/
def inspect_line (line : Bytes) (result : GpsTestResult) : GpsTestResult :=
  (inspect_navigation_nmea_line (trim line) (inspect_uart_ic_line line result).2).2

/-- `progress` is called if the line has changed the result. -/
def report (reported : List GpsTestResult) (previous result : GpsTestResult) :
    List GpsTestResult :=
  if result.ic_info ≠ previous.ic_info ∨
      result.valid_sentence_count ≠ previous.valid_sentence_count then reported ++ [result]
  else reported

/-- The loop over the lines of `pending`. A newline is dropped with all that follow it at once. -/
def read_lines (s : Reader) : Reader :=
  match _ : s.pending.findIdx? is_newline with
  | none => s
  | some newline =>
    let line := s.pending.take newline
    let result := inspect_line line s.result
    read_lines {
      pending := (s.pending.drop (newline + 1)).dropWhile is_newline
      result := result
      inspected := s.inspected ++ [line]
      reported := report s.reported s.result result }
termination_by s.pending.length
decreasing_by
  rename_i hfind
  have hlt := (List.findIdx?_eq_some_iff_getElem.1 hfind).1
  have hdrop := (List.dropWhile_sublist is_newline (l := s.pending.drop (newline + 1))).length_le
  rw [List.length_drop] at hdrop
  omega

/-- One turn of the loop before the deadline: whether the test is canceled by then, and what
`read_available` gives. -/
structure Poll where
  canceled : Bool := false
  chunk : Bytes := []
  read_error : String := ""

/-- The IC is known and a sentence was seen. -/
def complete (result : GpsTestResult) : Bool := result.ic_info ≠ [] ∧ result.nmea_detected

/-- A turn of the loop up to `break`. -/
def take_chunk (s : Reader) (chunk : Bytes) : Reader :=
  read_lines { s with pending := s.pending ++ chunk }

/-- The buffer is cut when it grows. -/
def cut_pending (s : Reader) : Reader :=
  if 2048 < s.pending.length then { s with pending := s.pending.drop (s.pending.length - 1024) }
  else s

/-- The loop of `run_gps_test` up to the deadline, with the error of `read_available` that ends
it. -/
def read_loop (s : Reader) : List Poll → Reader × Option String
  | [] => (s, none)
  | poll :: polls =>
    if poll.canceled then (s, none)
    else if poll.read_error ≠ "" then (s, some poll.read_error)
    else
      let s := take_chunk s poll.chunk
      if complete s.result then (s, none) else read_loop (cut_pending s) polls

/-- What the test meets: the errors of `open` and of `write_text`, the turns of the loop, and
whether the test is canceled at the end. -/
structure Uart where
  open_error : Option String := none
  write_error : Option String := none
  polls : List Poll := []
  canceled : Bool := false

def run_gps_test (uart_path : String) (uart : Uart) : GpsTestResult :=
  match uart.open_error, uart.write_error with
  | some message, _ => { error_message := message }
  | none, some write_error => { error_message := "GPS IC query failed: " ++ write_error }
  | none, none =>
    match read_loop {} uart.polls with
    | (s, some read_error) => { s.result with error_message := read_error }
    | (s, none) =>
      if uart.canceled then { s.result with error_message := "UART test canceled" }
      else if s.result.ic_info = [] then
        { s.result with error_message := "No GPS IC information received from " ++ uart_path }
      else if !s.result.nmea_detected then
        { s.result with error_message := "No valid navigation NMEA received from " ++ uart_path }
      else s.result

/-! ## Lines and verdicts -/

/-- The line names the IC. -/
def NamesIc (line : Bytes) : Prop :=
  bytes "IC=" <:+: uppercase line ∨ bytes "IC:" <:+: uppercase line

/-- The line is accepted as a navigation sentence. -/
def Accepted (line : Bytes) : Prop := (inspect_navigation_nmea_line line {}).1 = true

/-- What is accepted does not depend on the result so far, and nothing else is changed by a
sentence. -/
theorem inspect_navigation_nmea_line_cases (line : Bytes) (result : GpsTestResult) :
    Accepted line ∧ (∃ type, (inspect_navigation_nmea_line line result).2 = result.count type) ∨
      ¬ Accepted line ∧ (inspect_navigation_nmea_line line result).2 = result := by
  unfold Accepted
  rcases inspect_spec line result with ⟨id, tail, hseven, hreads, heq⟩ | ⟨hnone, heq⟩
  · rcases inspect_spec line {} with ⟨_, _, _, _, hdefault⟩ | ⟨hdefault, -⟩
    · refine .inl ⟨by rw [hdefault], type_of id, by rw [heq]⟩
    · exact absurd ⟨hseven, hreads⟩ (hdefault id tail)
  · rcases inspect_spec line {} with ⟨id, tail, hseven, hreads, -⟩ | ⟨-, hdefault⟩
    · exact absurd ⟨hseven, hreads⟩ (hnone id tail)
    · refine .inr ⟨?_, by rw [heq]⟩
      rw [hdefault]
      exact Bool.false_ne_true

theorem not_namesIc_nil : ¬ NamesIc [] := by
  unfold NamesIc uppercase
  decide

theorem not_accepted_nil : ¬ Accepted [] := by
  unfold Accepted
  decide

@[simp] theorem trim_nil : trim [] = [] := rfl

theorem inspect_uart_ic_line_eq (line : Bytes) (result : GpsTestResult) :
    (inspect_uart_ic_line line result).2.nmea_detected = result.nmea_detected ∧
      ((inspect_uart_ic_line line result).2.ic_info ≠ [] ↔
        result.ic_info ≠ [] ∨ NamesIc (trim line)) := by
  unfold inspect_uart_ic_line
  by_cases hline : trim line = []
  · rw [hline]
    simp [not_namesIc_nil]
  · dsimp only
    rw [if_neg hline]
    by_cases hname : NamesIc (trim line)
    · rw [if_pos (by exact hname)]
      simp [hline, hname]
    · rw [if_neg (by exact hname)]
      simp [hname]

theorem inspect_line_spec (line : Bytes) (result : GpsTestResult) :
    ((inspect_line line result).ic_info ≠ [] ↔ result.ic_info ≠ [] ∨ NamesIc (trim line)) ∧
      ((inspect_line line result).nmea_detected = true ↔
        result.nmea_detected = true ∨ Accepted (trim line)) := by
  obtain ⟨hnmea, hic⟩ := inspect_uart_ic_line_eq line result
  unfold inspect_line
  rcases inspect_navigation_nmea_line_cases (trim line) (inspect_uart_ic_line line result).2 with
    ⟨haccepted, type, heq⟩ | ⟨hnot, heq⟩
  · rw [heq]
    exact ⟨hic, iff_of_true rfl (.inr haccepted)⟩
  · rw [heq, hnmea]
    exact ⟨hic, (or_iff_left hnot).symm⟩

def inspect_lines (lines : List Bytes) (result : GpsTestResult) : GpsTestResult :=
  lines.foldl (fun result line => inspect_line line result) result

theorem inspect_lines_append (lines lines' : List Bytes) (result : GpsTestResult) :
    inspect_lines (lines ++ lines') result = inspect_lines lines' (inspect_lines lines result) :=
  List.foldl_append

/-- The IC and a sentence are in the lines. -/
def Both (lines : List Bytes) : Prop :=
  (∃ line ∈ lines, NamesIc (trim line)) ∧ ∃ line ∈ lines, Accepted (trim line)

theorem inspect_lines_spec (lines : List Bytes) (result : GpsTestResult) :
    ((inspect_lines lines result).ic_info ≠ [] ↔
        result.ic_info ≠ [] ∨ ∃ line ∈ lines, NamesIc (trim line)) ∧
      ((inspect_lines lines result).nmea_detected = true ↔
        result.nmea_detected = true ∨ ∃ line ∈ lines, Accepted (trim line)) := by
  induction lines generalizing result with
  | nil => simp [inspect_lines]
  | cons line lines ih =>
    obtain ⟨hic, hnmea⟩ := inspect_line_spec line result
    obtain ⟨ihic, ihnmea⟩ := ih (inspect_line line result)
    have hcons : inspect_lines (line :: lines) result =
        inspect_lines lines (inspect_line line result) := rfl
    refine ⟨?_, ?_⟩
    · rw [hcons, ihic, hic, or_assoc, List.exists_mem_cons_iff]
    · rw [hcons, ihnmea, hnmea, or_assoc, List.exists_mem_cons_iff]

/-- The test is complete exactly if the inspected lines have both. -/
theorem complete_inspect_lines (lines : List Bytes) :
    complete (inspect_lines lines {}) = true ↔ Both lines := by
  obtain ⟨hic, hnmea⟩ := inspect_lines_spec lines {}
  unfold complete Both
  rw [decide_eq_true_iff, hic, hnmea]
  simp

/-- Empty lines have nothing. -/
theorem both_filter (lines : List Bytes) : Both (lines.filter (· ≠ [])) ↔ Both lines := by
  have hfilter {P : Bytes → Prop} (hnil : ¬ P (trim [])) :
      (∃ line ∈ lines.filter (· ≠ []), P (trim line)) ↔ ∃ line ∈ lines, P (trim line) := by
    constructor
    · rintro ⟨line, hline, h⟩
      exact ⟨line, (List.mem_filter.1 hline).1, h⟩
    · rintro ⟨line, hline, h⟩
      refine ⟨line, List.mem_filter.2 ⟨hline, ?_⟩, h⟩
      rw [decide_eq_true_iff]
      rintro rfl
      exact hnil h
  exact and_congr (hfilter not_namesIc_nil) (hfilter not_accepted_nil)

theorem Both.mono {lines lines' : List Bytes} (h : Both lines) (hsub : lines ⊆ lines') :
    Both lines' := by
  obtain ⟨⟨line, hline, hic⟩, line', hline', haccepted⟩ := h
  exact ⟨⟨line, hsub hline, hic⟩, line', hsub hline', haccepted⟩

/-! ## Chunks -/

/-- The lines that are inspected are the closed segments of the buffer, but for empty ones. -/
theorem read_lines_spec (s : Reader) :
    (read_lines s).pending = rest is_newline s.pending ∧
      ∃ lines, (read_lines s).inspected = s.inspected ++ lines ∧
        lines.filter (· ≠ []) = (closed is_newline s.pending).filter (· ≠ []) ∧
        (read_lines s).result = inspect_lines lines s.result := by
  induction hlength : s.pending.length using Nat.strong_induction_on generalizing s with
  | _ n ih =>
    obtain ⟨pending, result, inspected, reported⟩ := s
    rcases plain_or_cut (p := is_newline) pending with hplain | ⟨front, c, back, rfl, hfront, hc⟩
    · have hnone : pending.findIdx? is_newline = none := List.findIdx?_eq_none_iff.2 hplain
      have hread : read_lines ⟨pending, result, inspected, reported⟩ =
          ⟨pending, result, inspected, reported⟩ := by
        rw [read_lines]
        split
        · rfl
        next newline hsome =>
          rw [hnone] at hsome
          cases hsome
      rw [hread, rest_plain hplain, closed_plain hplain]
      exact ⟨rfl, [], (List.append_nil _).symm, rfl, rfl⟩
    · have hfind : (front ++ c :: back).findIdx? is_newline = some front.length := by
        rw [List.findIdx?_append, List.findIdx?_eq_none_iff.2 hfront, List.findIdx?_cons, hc]
        simp
      have hread : read_lines ⟨front ++ c :: back, result, inspected, reported⟩ =
          read_lines ⟨back.dropWhile is_newline, inspect_line front result, inspected ++ [front],
            report reported result (inspect_line front result)⟩ := by
        rw [read_lines]
        split
        next hnone =>
          rw [hfind] at hnone
          cases hnone
        next newline hsome =>
          obtain rfl := Option.some.inj (hfind.symm.trans hsome)
          dsimp only
          rw [List.take_left, List.drop_append, List.drop_of_length_le (Nat.le_succ _),
            Nat.add_sub_cancel_left, List.nil_append, List.drop_one, List.tail_cons]
      have hshort : (back.dropWhile is_newline).length < n := by
        have hle := (List.dropWhile_sublist is_newline (l := back)).length_le
        dsimp only at hlength
        rw [List.length_append, List.length_cons] at hlength
        omega
      obtain ⟨hpending, lines, hinspected, hlines, hresult⟩ := ih _ hshort
        ⟨back.dropWhile is_newline, inspect_line front result, inspected ++ [front],
          report reported result (inspect_line front result)⟩ rfl
      rw [hread]
      refine ⟨?_, front :: lines, ?_, ?_, hresult⟩
      · rw [hpending, rest_dropWhile, rest_cut hfront hc]
      · rw [hinspected, List.append_assoc, List.singleton_append]
      · rw [closed_cut hfront hc, List.filter_cons, List.filter_cons, hlines, closed_dropWhile]

/-- The reader after a part of a stream, when the rest is still to come: its buffer holds what is
open, or nothing more is closed. The result is that of the inspected lines, which are the closed
segments but for empty ones. -/
structure Follows (s : Reader) (front back : Bytes) : Prop where
  pending : s.pending = rest is_newline front ∨ Plain is_newline s.pending ∧ Plain is_newline back
  inspected : s.inspected.filter (· ≠ []) = (closed is_newline front).filter (· ≠ [])
  result : s.result = inspect_lines s.inspected {}

theorem follows_nil (stream : Bytes) : Follows {} [] stream := ⟨.inl rfl, rfl, rfl⟩

theorem Follows.take_chunk {s : Reader} {front chunk back : Bytes}
    (h : Follows s front (chunk ++ back)) :
    Follows (take_chunk s chunk) (front ++ chunk) back := by
  obtain ⟨hpending, lines, hinspected, hlines, hresult⟩ :=
    read_lines_spec { s with pending := s.pending ++ chunk }
  dsimp only at hpending hinspected hlines hresult
  unfold CapLora1262.take_chunk
  refine ⟨?_, ?_, ?_⟩
  · rw [hpending]
    rcases h.pending with heq | ⟨hplain, hback⟩
    · left
      rw [rest_append front, heq]
    · obtain ⟨hchunk, hback⟩ := List.forall_mem_append.1 hback
      right
      rw [rest_plain (hplain.append hchunk)]
      exact ⟨hplain.append hchunk, hback⟩
  · rw [hinspected, List.filter_append, h.inspected, hlines, closed_append front,
      List.filter_append]
    rcases h.pending with heq | ⟨hplain, hback⟩
    · rw [heq]
    · have hchunk := (List.forall_mem_append.1 hback).1
      rw [closed_plain (hplain.append hchunk), closed_plain ((plain_rest front).append hchunk)]
  · rw [hresult, hinspected, inspect_lines_append, ← h.result]

/-- If the buffer is cut, nothing more is closed: the segment would be too long. -/
theorem Follows.cut_pending {s : Reader} {front back : Bytes} (h : Follows s front back)
    (hbound : ∀ segment ∈ closed is_newline (front ++ back), segment.length ≤ 2048) :
    Follows (cut_pending s) front back := by
  unfold CapLora1262.cut_pending
  split_ifs with hlong
  · refine ⟨.inr ?_, h.inspected, h.result⟩
    have hplain : Plain is_newline s.pending := by
      rcases h.pending with heq | ⟨hplain, -⟩
      · rw [heq]
        exact plain_rest front
      · exact hplain
    dsimp only
    refine ⟨hplain.drop _, ?_⟩
    rcases h.pending with heq | ⟨-, hback⟩
    · by_contra hnot
      obtain ⟨more, hmem⟩ := exists_mem_closed_append front hnot
      have hle := hbound _ hmem
      rw [List.length_append, ← heq] at hle
      omega
    · exact hback
  · exact h

/-- The reader after the loop: the lines it inspected are closed segments of the stream from the
first one on, and all of them unless the test is complete. -/
structure Whole (s : Reader) (stream : Bytes) : Prop where
  segments : s.inspected.filter (· ≠ []) <+: (closed is_newline stream).filter (· ≠ [])
  all : complete s.result = false →
    s.inspected.filter (· ≠ []) = (closed is_newline stream).filter (· ≠ [])
  result : s.result = inspect_lines s.inspected {}

/-- The turns deliver the stream: no error, and not canceled. -/
structure Delivers (polls : List Poll) (stream : Bytes) : Prop where
  chunks : (polls.map Poll.chunk).flatten = stream
  canceled : ∀ poll ∈ polls, poll.canceled = false
  read_error : ∀ poll ∈ polls, poll.read_error = ""

theorem read_loop_spec {polls : List Poll} {s : Reader} {front back : Bytes}
    (h : Follows s front back) (hpolls : Delivers polls back)
    (hbound : ∀ segment ∈ closed is_newline (front ++ back), segment.length ≤ 2048) :
    Whole (read_loop s polls).1 (front ++ back) ∧ (read_loop s polls).2 = none := by
  induction polls generalizing s front back with
  | nil =>
    obtain rfl : [] = back := hpolls.chunks
    rw [List.append_nil]
    exact ⟨⟨h.inspected ▸ List.prefix_rfl, fun _ => h.inspected, h.result⟩, rfl⟩
  | cons poll polls ih =>
    obtain ⟨hcanceled, hcanceled'⟩ := List.forall_mem_cons.1 hpolls.canceled
    obtain ⟨herror, herror'⟩ := List.forall_mem_cons.1 hpolls.read_error
    have hback := hpolls.chunks
    rw [List.map_cons, List.flatten_cons] at hback
    subst hback
    have hnext := h.take_chunk
    rw [← List.append_assoc] at hbound ⊢
    rw [read_loop, if_neg (by simp [hcanceled]), if_neg (not_not.2 herror)]
    dsimp only
    split_ifs with hcomplete
    · refine ⟨⟨?_, fun hnot => ?_, hnext.result⟩, rfl⟩
      · rw [hnext.inspected, closed_append _ (polls.map Poll.chunk).flatten, List.filter_append]
        exact List.prefix_append _ _
      · rw [hcomplete] at hnot
        cases hnot
    · exact ih (hnext.cut_pending hbound) ⟨rfl, hcanceled', herror'⟩ hbound

/-- The verdict is that of the stream. -/
theorem Whole.complete_iff {s : Reader} {stream : Bytes} (h : Whole s stream) :
    complete s.result = true ↔ Both (closed is_newline stream) := by
  rw [← both_filter (closed is_newline stream)]
  constructor
  · intro hcomplete
    rw [h.result, complete_inspect_lines, ← both_filter] at hcomplete
    exact hcomplete.mono h.segments.subset
  · intro hboth
    by_contra hnot
    rw [Bool.not_eq_true] at hnot
    rw [← h.all hnot, both_filter, ← complete_inspect_lines, ← h.result, hnot] at hboth
    cases hboth

/-- The UART is opened and written to, and delivers the stream before the deadline. -/
structure Receives (uart : Uart) (stream : Bytes) : Prop extends Delivers uart.polls stream where
  open_error : uart.open_error = none
  write_error : uart.write_error = none

/-- The messages of the test leave the verdict as it is. -/
theorem complete_run_gps_test (uart_path : String) {uart : Uart} {stream : Bytes}
    (h : Receives uart stream) :
    complete (run_gps_test uart_path uart) = complete (read_loop {} uart.polls).1.result := by
  unfold run_gps_test
  rw [h.open_error, h.write_error]
  dsimp only
  rcases read_loop {} uart.polls with ⟨s, _ | read_error⟩
  · dsimp only
    split_ifs <;> rfl
  · rfl

theorem complete_iff (uart_path : String) {stream : Bytes}
    (hbound : ∀ segment ∈ closed is_newline stream, segment.length ≤ 2048) {uart : Uart}
    (h : Receives uart stream) : complete (run_gps_test uart_path uart) = true ↔
      Both (closed is_newline stream) := by
  rw [complete_run_gps_test uart_path h]
  exact (read_loop_spec (follows_nil stream) h.toDelivers hbound).1.complete_iff

/-- The IC and a sentence are found exactly if closed segments of the stream have them, however
the stream is cut into chunks. No segment is lost, joined with another or inspected in part. -/
theorem run_gps_test_spec (uart_path : String) {stream : Bytes}
    (hbound : ∀ segment ∈ closed is_newline stream, segment.length ≤ 2048) {uart uart' : Uart}
    (h : Receives uart stream) (h' : Receives uart' stream) :
    ((run_gps_test uart_path uart).ic_info ≠ [] ∧
        (run_gps_test uart_path uart).nmea_detected = true ↔
      (∃ segment ∈ closed is_newline stream, NamesIc (trim segment)) ∧
        ∃ segment ∈ closed is_newline stream, Accepted (trim segment)) ∧
      complete (run_gps_test uart_path uart) = complete (run_gps_test uart_path uart') ∧
      Whole (read_loop {} uart.polls).1 stream := by
  refine ⟨?_, ?_, (read_loop_spec (follows_nil stream) h.toDelivers hbound).1⟩
  · have hcomplete := complete_iff uart_path hbound h
    unfold complete at hcomplete
    rwa [decide_eq_true_iff] at hcomplete
  · rw [Bool.eq_iff_iff, complete_iff uart_path hbound h, complete_iff uart_path hbound h']

/-- A sentence that comes in two chunks, and in one. -/
theorem run_gps_test_two_chunks :
    let uart : Uart := { polls := [⟨false, bytes "ic=1\n$GG", ""⟩, ⟨false, bytes "A,*6D\r\n", ""⟩] }
    let uart' : Uart := { polls := [⟨false, bytes "ic=1\n$GGA,*6D\r\n", ""⟩] }
    (run_gps_test "/dev/ttyS0" uart).ic_info ≠ [] ∧
      (run_gps_test "/dev/ttyS0" uart).nmea_detected = true ∧
      complete (run_gps_test "/dev/ttyS0" uart) = complete (run_gps_test "/dev/ttyS0" uart') := by
  intro uart uart'
  have h : Receives uart (bytes "ic=1\n$GGA,*6D\r\n") :=
    ⟨⟨by decide, by simp [uart], by simp [uart]⟩, rfl, rfl⟩
  have h' : Receives uart' (bytes "ic=1\n$GGA,*6D\r\n") :=
    ⟨⟨by decide, by simp [uart'], by simp [uart']⟩, rfl, rfl⟩
  have hclosed : closed is_newline (bytes "ic=1\n$GGA,*6D\r\n") =
      [bytes "ic=1", bytes "$GGA,*6D", []] := by decide
  have hspec := run_gps_test_spec "/dev/ttyS0" (by rw [hclosed]; decide) h h'
  rw [hclosed] at hspec
  have hfound := hspec.1.2 ⟨⟨bytes "ic=1", by decide, by unfold NamesIc; decide⟩,
    bytes "$GGA,*6D", by decide, by unfold Accepted; decide⟩
  exact ⟨hfound.1, hfound.2, hspec.2.1⟩

end FactoryTest.CapLora1262
