import FactoryTest.Lib.Segments
import Mathlib.Data.Int.Notation
import Mathlib.Data.List.Basic
import Mathlib.Data.List.Induction
import Mathlib.Data.Nat.Init
import Mathlib.Order.Basic
import Mathlib.Tactic.Common

/-!
# Process output

`append_output` and its neighbours of `src/platform/process_service.cpp`: what a child writes is
read in chunks, kept up to a limit, and handed on line by line.

**Chunks and bytes.** A chunk is as good as its bytes one by one, once every CRLF in it is
replaced by CR (`append_line_eq`): inside a chunk a CRLF ends one line, while a CR at the end of a
chunk and an LF at the beginning of the next one end two. So the lines depend on the chunks
exactly when the stream has a CRLF (`chunks_agree_iff`).
-/

namespace FactoryTest.Process

/-- A `std::string`. -/
abbrev Text := List UInt8

def CR : UInt8 := 13
def LF : UInt8 := 10

/-- `K_READ_BUFFER_SIZE`. -/
def K_READ_BUFFER_SIZE : ℕ := 4096

/-- `ProcessOptions`; of the handlers, whether they are set. -/
structure ProcessOptions where
  timeout_ms : ℤ := 0
  max_output_bytes : ℕ := 1024 * 1024
  max_line_bytes : ℕ := 64 * 1024
  stdin_text : Text := []
  stdout_handler : Bool := false
  stderr_handler : Bool := false
  stdout_line_handler : Bool := false
  stderr_line_handler : Bool := false

/-- The pending line of a stream, the lines handed on so far, and whether one was cut. -/
structure Lines where
  pending_line : Text := []
  handled : List Text := []
  output_truncated : Bool := false
  deriving DecidableEq

/-- What is known of one output stream of the child. -/
structure Capture where
  lines : Lines := {}
  output : Text := []
  output_truncated : Bool := false
  /-- What the output handler was given. -/
  handled : List Text := []
  deriving DecidableEq

/-- A byte that ends a line. -/
def isDelimiter (c : UInt8) : Bool := c = CR ∨ c = LF

/-- The loop that hands on the finished lines. -/
def handle_lines (max_line_bytes : ℕ) (s : Lines) : Lines :=
  match h : s.pending_line.findIdx? isDelimiter with
  | none => s
  | some newline =>
    let line_size := min newline max_line_bytes
    let erase_count :=
      if s.pending_line[newline]? = some CR ∧ s.pending_line[newline + 1]? = some LF then 2 else 1
    handle_lines max_line_bytes {
      pending_line := s.pending_line.drop (newline + erase_count)
      handled := s.handled ++ [s.pending_line.take line_size]
      output_truncated := s.output_truncated || line_size < newline }
termination_by s.pending_line.length
decreasing_by
  have hlt := (List.findIdx?_eq_some_iff_getElem.1 h).1
  simp only [List.length_drop]
  split_ifs <;> omega

/-- The part of `append_output` for the line handler. -/
def append_line (max_line_bytes : ℕ) (s : Lines) (data : Text) : Lines :=
  let s := handle_lines max_line_bytes { s with pending_line := s.pending_line ++ data }
  if max_line_bytes < s.pending_line.length then
    { s with
      pending_line := s.pending_line.take max_line_bytes
      output_truncated := true }
  else s

/-- `append_output`. -/
def append_output (handler line_handler : Bool) (options : ProcessOptions) (s : Capture)
    (data : Text) : Capture :=
  let available := options.max_output_bytes - s.output.length
  let copy_size := min data.length available
  { lines := if line_handler then append_line options.max_line_bytes s.lines data else s.lines
    output := s.output ++ data.take copy_size
    output_truncated := s.output_truncated || copy_size < data.length
    handled := if handler then s.handled ++ [data] else s.handled }

/-- `flush_pending_output_line`. -/
def flush_pending_output_line (line_handler : Bool) (s : Lines) : Lines :=
  if !line_handler ∨ s.pending_line = [] then s
  else
    let line :=
      if s.pending_line.getLast? = some CR then s.pending_line.dropLast else s.pending_line
    { s with
      pending_line := []
      handled := s.handled ++ [line] }

/-! ## Bytes one by one -/

/-- What one byte does to the pending line, the line kept within the limit. -/
def push (max_line_bytes : ℕ) (s : Lines) (c : UInt8) : Lines :=
  if isDelimiter c then
    { s with
      pending_line := []
      handled := s.handled ++ [s.pending_line] }
  else
    { s with
      pending_line := (s.pending_line ++ [c]).take max_line_bytes
      output_truncated := s.output_truncated || max_line_bytes < s.pending_line.length + 1 }

/-- Every CRLF becomes a CR. -/
def collapse : Text → Text
  | [] => []
  | [c] => [c]
  | c :: d :: data => if c = CR ∧ d = LF then c :: collapse data else c :: collapse (d :: data)

/-- The pending line is short and has no delimiter, as it is between two chunks. -/
structure Settled (max_line_bytes : ℕ) (s : Lines) : Prop where
  short : s.pending_line.length ≤ max_line_bytes
  plain : ∀ c ∈ s.pending_line, isDelimiter c = false

theorem Settled.push {max : ℕ} {s : Lines} (h : Settled max s) (c : UInt8) :
    Settled max (push max s c) := by
  unfold Process.push
  split_ifs with hc
  · exact ⟨Nat.zero_le _, fun c hc => absurd hc List.not_mem_nil⟩
  · refine ⟨List.length_take_le _ _, fun d hd => ?_⟩
    rcases List.mem_append.1 (List.mem_of_mem_take hd) with hd | hd
    · exact h.plain d hd
    · rw [List.mem_singleton.1 hd]
      exact Bool.eq_false_iff.2 hc

theorem Settled.foldl {max : ℕ} {s : Lines} (h : Settled max s) (data : Text) :
    Settled max (data.foldl (Process.push max) s) := by
  induction data generalizing s with
  | nil => exact h
  | cons c data ih => exact ih (h.push c)

theorem take_append_take (max : ℕ) (front back : Text) :
    (front.take max ++ back).take max = (front ++ back).take max := by
  rw [List.take_append, List.take_append, List.take_take, Nat.min_self, List.length_take]
  congr 2
  omega

/-- Bytes without a delimiter only make the pending line longer. -/
theorem foldl_push_plain {max : ℕ} {s : Lines} (h : Settled max s) {data : Text}
    (hdata : ∀ c ∈ data, isDelimiter c = false) :
    data.foldl (push max) s =
      { s with
        pending_line := (s.pending_line ++ data).take max
        output_truncated := s.output_truncated || max < (s.pending_line ++ data).length } := by
  induction data using List.reverseRecOn with
  | nil =>
    have hshort := decide_eq_false (Nat.not_lt.2 h.short)
    rw [List.append_nil, List.take_of_length_le h.short, hshort, Bool.or_false]
    rfl
  | append_singleton data c ih =>
    rw [List.forall_mem_append, List.forall_mem_singleton] at hdata
    rw [List.foldl_append, ih hdata.1]
    show push max _ c = _
    rw [push, hdata.2, if_neg Bool.false_ne_true, take_append_take, List.append_assoc]
    congr 1
    rw [Bool.or_assoc, ← Bool.decide_or]
    congr 2
    simp only [List.length_take, List.length_append, List.length_singleton, eq_iff_iff]
    omega

/-! ## A chunk -/

theorem collapse_cons {c : UInt8} {data : Text} (h : ¬ (c = CR ∧ data.head? = some LF)) :
    collapse (c :: data) = c :: collapse data := by
  cases data with
  | nil => rfl
  | cons d data =>
    rw [collapse, if_neg]
    rintro ⟨hc, hd⟩
    exact h ⟨hc, congrArg some hd⟩

theorem collapse_crlf (data : Text) : collapse (CR :: LF :: data) = CR :: collapse data := by
  rw [collapse, if_pos ⟨rfl, rfl⟩]

/-- Without a delimiter there is nothing to replace. -/
theorem collapse_plain_append {front : Text} (hfront : ∀ c ∈ front, isDelimiter c = false)
    (data : Text) : collapse (front ++ data) = front ++ collapse data := by
  induction front with
  | nil => rfl
  | cons c front ih =>
    obtain ⟨hc, hfront⟩ := List.forall_mem_cons.1 hfront
    rw [List.cons_append, collapse_cons, ih hfront, List.cons_append]
    rintro ⟨rfl, -⟩
    exact absurd hc (by decide)

theorem handle_lines_plain {max : ℕ} {s : Lines}
    (h : ∀ c ∈ s.pending_line, isDelimiter c = false) : handle_lines max s = s := by
  rw [handle_lines]
  split
  · rfl
  next newline hsome =>
    rw [List.findIdx?_eq_none_iff.2 h] at hsome
    cases hsome

/-- The first delimiter ends a line; a CRLF is taken whole. -/
theorem handle_lines_delimiter {max : ℕ} {front rest : Text} {c : UInt8} {handled : List Text}
    {truncated : Bool} (hfront : ∀ d ∈ front, isDelimiter d = false) (hc : isDelimiter c = true) :
    handle_lines max ⟨front ++ c :: rest, handled, truncated⟩ =
      handle_lines max ⟨if c = CR ∧ rest.head? = some LF then rest.tail else rest,
        handled ++ [front.take max], truncated || max < front.length⟩ := by
  have hfind : (front ++ c :: rest).findIdx? isDelimiter = some front.length := by
    rw [List.findIdx?_append, List.findIdx?_eq_none_iff.2 hfront, List.findIdx?_cons, hc]
    simp
  rw [handle_lines]
  split
  next hnone =>
    rw [hfind] at hnone
    cases hnone
  next newline hsome =>
    obtain rfl := Option.some.inj (hfind.symm.trans hsome)
    have hfirst : (front ++ c :: rest)[front.length]? = some c := by simp
    have hsecond : (front ++ c :: rest)[front.length + 1]? = rest.head? := by
      rw [List.getElem?_append_right (Nat.le_succ _), Nat.succ_sub (Nat.le_refl _), Nat.sub_self,
        List.getElem?_cons_succ, List.head?_eq_getElem?]
    have hdrop (n : ℕ) : (front ++ c :: rest).drop (front.length + (n + 1)) = rest.drop n := by
      rw [List.drop_append, List.drop_of_length_le (by omega), Nat.add_sub_cancel_left]
      rfl
    have htake : (front ++ c :: rest).take (min front.length max) = front.take max := by
      rw [Nat.min_comm, ← List.take_take, List.take_left]
    have hcut : decide (min front.length max < front.length) = decide (max < front.length) := by
      rw [decide_eq_decide]
      omega
    dsimp only
    rw [hfirst, hsecond, htake, hcut]
    congr 2
    by_cases hcrlf : c = CR ∧ rest.head? = some LF
    · rw [if_pos hcrlf, if_pos ⟨congrArg some hcrlf.1, hcrlf.2⟩, hdrop 1, List.drop_one]
    · rw [if_neg hcrlf, if_neg fun h => hcrlf ⟨Option.some.inj h.1, h.2⟩, hdrop 0]
      rfl

/-- What follows a delimiter. -/
def afterDelimiter (c : UInt8) (rest : Text) : Text :=
  if c = CR ∧ rest.head? = some LF then rest.tail else rest

theorem collapse_delimiter (c : UInt8) (rest : Text) :
    collapse (c :: rest) = c :: collapse (afterDelimiter c rest) := by
  unfold afterDelimiter
  split_ifs with hcrlf
  · obtain ⟨rfl, hhead⟩ := hcrlf
    obtain ⟨rest, rfl⟩ := List.head?_eq_some_iff.1 hhead
    exact collapse_crlf rest
  · exact collapse_cons hcrlf

theorem length_afterDelimiter_le (c : UInt8) (rest : Text) :
    (afterDelimiter c rest).length ≤ rest.length := by
  unfold afterDelimiter
  split_ifs
  · rw [List.length_tail]
    exact Nat.sub_le _ _
  · exact Nat.le_refl _

/-- A chunk does to a settled line what its bytes do, with CR for CRLF. -/
theorem append_line_eq {max : ℕ} {s : Lines} (h : Settled max s) (data : Text) :
    append_line max s data = (collapse data).foldl (push max) s := by
  induction hlength : data.length using Nat.strong_induction_on generalizing s data with
  | _ n ih =>
    have hpending {front : Text} (hfront : ∀ c ∈ front, isDelimiter c = false) :
        ∀ c ∈ s.pending_line ++ front, isDelimiter c = false :=
      List.forall_mem_append.2 ⟨h.plain, hfront⟩
    rcases Segments.plain_or_cut (p := isDelimiter) data with
      hplain | ⟨front, c, rest, rfl, hfront, hc⟩
    · have hcollapse := collapse_plain_append hplain []
      rw [List.append_nil] at hcollapse
      rw [hcollapse, collapse, List.append_nil, foldl_push_plain h hplain, append_line,
        handle_lines_plain (hpending hplain)]
      dsimp only
      split_ifs with hlong
      · rw [decide_eq_true hlong, Bool.or_true]
      · rw [decide_eq_false hlong, Bool.or_false, List.take_of_length_le (Nat.not_lt.1 hlong)]
    · have hrest : (afterDelimiter c rest).length < n := by
        have hle := length_afterDelimiter_le c rest
        rw [List.length_append, List.length_cons] at hlength
        omega
      -- the line that the delimiter ends
      have hline : handle_lines max
          { s with pending_line := s.pending_line ++ (front ++ c :: rest) } =
          handle_lines max ⟨[] ++ afterDelimiter c rest,
            s.handled ++ [(s.pending_line ++ front).take max],
            s.output_truncated || max < (s.pending_line ++ front).length⟩ := by
        rw [← List.append_assoc, handle_lines_delimiter (hpending hfront) hc, List.nil_append]
        rfl
      have hsettled : Settled max ⟨[], s.handled ++ [(s.pending_line ++ front).take max],
          s.output_truncated || max < (s.pending_line ++ front).length⟩ :=
        ⟨Nat.zero_le _, fun d hd => absurd hd List.not_mem_nil⟩
      have hih := ih _ hrest hsettled _ rfl
      rw [append_line] at hih
      rw [append_line, hline, hih, collapse_plain_append hfront, List.foldl_append,
        foldl_push_plain h hfront, collapse_delimiter, List.foldl_cons]
      rw [push, hc, if_pos rfl]

/-! ## All chunks -/

/-- The lines for the line handler, the text, and whether anything was cut, after the last
chunk. -/
def received (options : ProcessOptions) (handler line_handler : Bool) (chunks : List Text) :
    List Text × Text × Bool :=
  let s := chunks.foldl (append_output handler line_handler options) {}
  let lines := flush_pending_output_line line_handler s.lines
  (lines.handled, s.output, s.output_truncated || lines.output_truncated)

/-- The reads that the chunks come from give the stream. -/
structure Splits (stream : Text) (chunks : List Text) : Prop where
  flatten : chunks.flatten = stream
  nonempty : ∀ chunk ∈ chunks, chunk ≠ []
  short : ∀ chunk ∈ chunks, chunk.length ≤ K_READ_BUFFER_SIZE

/-- The chunks leave the text, and the lines of their bytes. -/
theorem foldl_append_output (options : ProcessOptions) (handler line_handler : Bool)
    (chunks : List Text) :
    let s := chunks.foldl (append_output handler line_handler options) {}
    s.lines = (if line_handler then
        (chunks.map collapse).flatten.foldl (push options.max_line_bytes) {} else {}) ∧
      s.output = chunks.flatten.take options.max_output_bytes ∧
      s.output_truncated = decide (options.max_output_bytes < chunks.flatten.length) := by
  induction chunks using List.reverseRecOn with
  | nil => exact ⟨(ite_self _).symm, List.take_nil.symm, rfl⟩
  | append_singleton chunks data ih =>
    obtain ⟨hlines, houtput, htruncated⟩ := ih
    rw [List.foldl_append]
    dsimp only at hlines houtput htruncated ⊢
    refine ⟨?_, ?_, ?_⟩
    · show (if line_handler then append_line _ _ data else _) = _
      rw [hlines]
      cases line_handler with
      | false => rfl
      | true =>
        have hinit : Settled options.max_line_bytes {} :=
          ⟨Nat.zero_le _, fun c hc => absurd hc List.not_mem_nil⟩
        rw [if_pos rfl, if_pos rfl, if_pos rfl, append_line_eq (hinit.foldl _), ← List.foldl_append,
          List.map_append, List.map_singleton, List.flatten_append, List.flatten_singleton]
    · show _ ++ data.take _ = _
      rw [houtput, List.flatten_append, List.flatten_singleton, List.take_append, List.length_take]
      have havailable : options.max_output_bytes -
          min options.max_output_bytes chunks.flatten.length =
            options.max_output_bytes - chunks.flatten.length := by omega
      rw [havailable, Nat.min_comm, ← List.take_take, List.take_length]
    · show (_ || _) = _
      rw [houtput, htruncated, List.flatten_append, List.flatten_singleton, List.length_append,
        List.length_take, ← Bool.decide_or, decide_eq_decide]
      omega

/-- What is received, from the bytes. -/
theorem received_eq (options : ProcessOptions) (handler line_handler : Bool) (chunks : List Text) :
    received options handler line_handler chunks =
      let lines := flush_pending_output_line line_handler (if line_handler then
        (chunks.map collapse).flatten.foldl (push options.max_line_bytes) {} else {})
      (lines.handled, chunks.flatten.take options.max_output_bytes,
        decide (options.max_output_bytes < chunks.flatten.length) || lines.output_truncated) := by
  obtain ⟨hlines, houtput, htruncated⟩ := foldl_append_output options handler line_handler chunks
  rw [received]
  dsimp only at hlines houtput htruncated ⊢
  rw [hlines, houtput, htruncated]

/-! ## Two ways to split a stream -/

theorem collapse_of_no_crlf {data : Text} (h : ¬ [CR, LF] <:+: data) : collapse data = data := by
  induction data with
  | nil => rfl
  | cons c data ih =>
    rw [collapse_cons, ih fun hcrlf => h (hcrlf.trans (List.suffix_cons c data).isInfix)]
    rintro ⟨rfl, hhead⟩
    obtain ⟨rest, rfl⟩ := List.head?_eq_some_iff.1 hhead
    exact h ⟨[], rest, rfl⟩

theorem Splits.collapse {stream : Text} {chunks : List Text} (h : Splits stream chunks)
    (hstream : ¬ [CR, LF] <:+: stream) : (chunks.map Process.collapse).flatten = stream := by
  have hsame : chunks.map Process.collapse = chunks := by
    refine (List.map_congr_left fun chunk hchunk => ?_).trans (List.map_id _)
    obtain ⟨front, back, rfl⟩ := List.append_of_mem hchunk
    refine collapse_of_no_crlf fun hcrlf => hstream (hcrlf.trans ?_)
    rw [← h.flatten]
    exact ⟨front.flatten, back.flatten, by simp⟩
  rw [hsame, h.flatten]

/-- The stream read byte by byte. -/
def singles (data : Text) : List Text := data.map fun c => [c]

theorem flatten_singles (data : Text) : (singles data).flatten = data := by
  induction data with
  | nil => rfl
  | cons c data ih => exact congrArg (c :: ·) ih

theorem flatten_collapse_singles (data : Text) : ((singles data).map collapse).flatten = data := by
  induction data with
  | nil => rfl
  | cons c data ih => exact congrArg (c :: ·) ih

theorem splits_singles (data : Text) : Splits data (singles data) where
  flatten := flatten_singles data
  nonempty chunk hchunk := by
    obtain ⟨c, -, rfl⟩ := List.mem_map.1 hchunk
    exact List.cons_ne_nil _ _
  short chunk hchunk := by
    obtain ⟨c, -, rfl⟩ := List.mem_map.1 hchunk
    exact show 1 ≤ 4096 by decide

/-- The stream read byte by byte, but for one CRLF that is read as a whole. -/
theorem splits_around (front back : Text) :
    Splits (front ++ [CR, LF] ++ back) (singles front ++ [[CR, LF]] ++ singles back) where
  flatten := by simp [flatten_singles]
  nonempty chunk hchunk := by
    rcases List.mem_append.1 hchunk with hchunk | hchunk
    · rcases List.mem_append.1 hchunk with hchunk | hchunk
      · exact (splits_singles front).nonempty chunk hchunk
      · rw [List.mem_singleton.1 hchunk]
        exact List.cons_ne_nil _ _
    · exact (splits_singles back).nonempty chunk hchunk
  short chunk hchunk := by
    rcases List.mem_append.1 hchunk with hchunk | hchunk
    · rcases List.mem_append.1 hchunk with hchunk | hchunk
      · exact (splits_singles front).short chunk hchunk
      · rw [List.mem_singleton.1 hchunk]
        exact show 2 ≤ 4096 by decide
    · exact (splits_singles back).short chunk hchunk

/-- Further bytes add the same lines whatever has been handed on before. -/
theorem foldl_push_congr {max : ℕ} (data : Text) {s t : Lines}
    (h : s.pending_line = t.pending_line) :
    (data.foldl (push max) s).pending_line = (data.foldl (push max) t).pending_line ∧
      (data.foldl (push max) s).handled.length + t.handled.length =
        (data.foldl (push max) t).handled.length + s.handled.length := by
  induction data generalizing s t with
  | nil => exact ⟨h, Nat.add_comm _ _⟩
  | cons c data ih =>
    have hpush : (push max s c).pending_line = (push max t c).pending_line ∧
        (push max s c).handled.length + t.handled.length =
          (push max t c).handled.length + s.handled.length := by
      unfold push
      split_ifs
      · refine ⟨rfl, ?_⟩
        simp only [List.length_append, List.length_singleton]
        omega
      · exact ⟨by rw [h], Nat.add_comm _ _⟩
    obtain ⟨hpending, hlength⟩ := ih hpush.1
    refine ⟨hpending, ?_⟩
    simp only [List.foldl_cons]
    omega

theorem length_handled_flush (s : Lines) : (flush_pending_output_line true s).handled.length =
    s.handled.length + if s.pending_line = [] then 0 else 1 := by
  unfold flush_pending_output_line
  by_cases hpending : s.pending_line = []
  · simp [hpending]
  · simp [hpending]

/-- A CRLF that is read as a whole ends one line less than one that is read in two. -/
theorem received_crlf_ne (options : ProcessOptions) (handler : Bool) (front back : Text) :
    received options handler true (singles front ++ [[CR, LF]] ++ singles back) ≠
      received options handler true (singles (front ++ [CR, LF] ++ back)) := by
  intro heq
  have hhandled := congrArg (fun r => r.1.length) heq
  have hwhole : ((singles front ++ [[CR, LF]] ++ singles back).map collapse).flatten =
      front ++ [CR] ++ back := by
    rw [List.map_append, List.map_append, List.flatten_append, List.flatten_append,
      flatten_collapse_singles, flatten_collapse_singles]
    rfl
  simp only [received_eq, hwhole, flatten_collapse_singles, if_true, length_handled_flush,
    List.foldl_append] at hhandled
  obtain ⟨hpending, hlength⟩ := @foldl_push_congr options.max_line_bytes back
    ([CR].foldl (push options.max_line_bytes) (front.foldl (push options.max_line_bytes) {}))
    ([CR, LF].foldl (push options.max_line_bytes) (front.foldl (push options.max_line_bytes) {}))
    rfl
  rw [hpending] at hhandled
  have hmore (s : Lines) : ([CR, LF].foldl (push options.max_line_bytes) s).handled.length =
      ([CR].foldl (push options.max_line_bytes) s).handled.length + 1 := by
    simp [push, isDelimiter]
  rw [hmore] at hlength
  omega

/-- Whether the lines, the text and the flag depend on the chunks. -/
theorem chunks_agree_iff (options : ProcessOptions) (handler line_handler : Bool) (stream : Text) :
    (∀ chunks chunks', Splits stream chunks → Splits stream chunks' →
      received options handler line_handler chunks =
        received options handler line_handler chunks') ↔
      line_handler = false ∨ ¬ [CR, LF] <:+: stream := by
  constructor
  · intro hagree
    by_contra hcrlf
    rw [not_or, Bool.not_eq_false, not_not] at hcrlf
    obtain ⟨rfl, front, back, rfl⟩ := hcrlf
    exact received_crlf_ne options handler front back
      (hagree _ _ (splits_around front back) (splits_singles _))
  · rintro hplain chunks chunks' h h'
    rw [received_eq, received_eq, h.flatten, h'.flatten]
    rcases hplain with rfl | hplain
    · rfl
    · rw [h.collapse hplain, h'.collapse hplain]

/-- A carriage return and a line feed in two reads make an empty line. -/
theorem crlf_in_two_reads : ¬ ∀ options handler line_handler stream chunks chunks',
    Splits stream chunks → Splits stream chunks' →
      received options handler line_handler chunks =
        received options handler line_handler chunks' := by
  intro hclaim
  exact received_crlf_ne {} false [97] []
    (hclaim _ _ _ _ _ _ (splits_around [97] []) (splits_singles [97, CR, LF]))

end FactoryTest.Process
