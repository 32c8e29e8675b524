import Mathlib.Data.List.Basic
import Mathlib.Data.Nat.Notation

/-!
# Cutting a stream into lines

A stream is cut at every line feed, and carriage returns are dropped. The *lines* of a stream
are its closed segments, except the empty ones and those over a bound (`LineFormat.lines`).

A receiver with a bounded buffer sees the stream one item at a time. This one empties its buffer
whenever the buffer outgrows the bound, and goes on: of a segment that is too long it keeps what
follows the last overflow (`LineFormat.tail`). So it delivers the tails of the segments
(`lines_receive`), and these are the lines of the stream exactly when every segment over the
bound ends in an overflow (`delivers_lines_iff`).
-/

namespace FactoryTest

variable {α : Type*}

/-- What closes a line, what is dropped from it, and how long it may be. -/
structure LineFormat (α : Type*) where
  lf : α
  cr : α
  bound : ℕ
  lf_ne_cr : lf ≠ cr

/-- A receiver: what stands in its buffer, and the lines it has delivered. -/
structure Receiver (α : Type*) where
  buffer : List α := []
  lines : List (List α) := []
  deriving DecidableEq

namespace LineFormat

/-! ## Segments over the bound -/

section Tail

variable (F : LineFormat α)

/-- What is left of a segment when the buffer is emptied at every overflow. -/
def tail (segment : List α) : List α :=
  segment.drop (segment.length - segment.length % (F.bound + 1))

/-- Nothing is left of the segment, unless all of it is. -/
def Exact (segment : List α) : Prop :=
  segment.length ≤ F.bound ∨ F.bound + 1 ∣ segment.length

@[simp] theorem tail_nil : F.tail [] = [] := rfl

theorem length_tail (s : List α) : (F.tail s).length = s.length % (F.bound + 1) := by
  have hmod := Nat.mod_le s.length (F.bound + 1)
  rw [tail, List.length_drop]
  omega

theorem tail_of_le {s : List α} (h : s.length ≤ F.bound) : F.tail s = s := by
  rw [tail, Nat.mod_eq_of_lt (Nat.lt_succ_of_le h), Nat.sub_self, List.drop_zero]

theorem tail_eq_nil_iff {s : List α} : F.tail s = [] ↔ F.bound + 1 ∣ s.length := by
  rw [← List.length_eq_zero_iff, length_tail, Nat.dvd_iff_mod_eq_zero]

/-- The buffer after an item that belongs to a line. -/
def append (buffer : List α) (c : α) : List α :=
  if F.bound < (buffer ++ [c]).length then [] else buffer ++ [c]

/-- A buffer that holds the tail of a segment goes on to hold it. -/
theorem append_tail (s : List α) (c : α) : F.append (F.tail s) c = F.tail (s ++ [c]) := by
  have hlength := F.length_tail s
  have hlt := Nat.mod_lt s.length (Nat.succ_pos F.bound)
  unfold append
  rw [List.length_append, hlength, List.length_singleton]
  by_cases hfull : s.length % (F.bound + 1) = F.bound
  · rw [if_pos (Nat.lt_succ_of_le (Nat.le_of_eq hfull.symm)),
      eq_comm, tail_eq_nil_iff, Nat.dvd_iff_mod_eq_zero,
      List.length_append, List.length_singleton, Nat.succ_mod_succ_eq_zero_iff, hfull]
  · have hroom : s.length % (F.bound + 1) + 1 < F.bound + 1 :=
      Nat.succ_lt_succ (Nat.lt_of_le_of_ne (Nat.le_of_lt_succ hlt) hfull)
    have hnext : (s.length + 1) % (F.bound + 1) = s.length % (F.bound + 1) + 1 := by
      rw [← Nat.mod_add_mod, Nat.mod_eq_of_lt hroom]
    rw [if_neg (Nat.not_lt.2 (Nat.le_of_lt_succ hroom)), tail, tail, List.length_append,
      List.length_singleton, hnext, Nat.add_sub_add_right,
      List.drop_append_of_le_length (Nat.sub_le _ _)]

end Tail

/-! ## Segments, lines and the receiver -/

variable [DecidableEq α] (F : LineFormat α)

/-- The closed segments of a stream, without carriage returns. -/
def segments (stream : List α) : List (List α) :=
  (stream.splitOn F.lf).dropLast.map (·.filter (· ≠ F.cr))

/-- The lines of a stream. -/
def lines (stream : List α) : List (List α) :=
  (F.segments stream).filter fun s => s ≠ [] ∧ s.length ≤ F.bound

/-- One item arrives. -/
def push (r : Receiver α) (c : α) : Receiver α :=
  if c = F.cr then r
  else if c ≠ F.lf then { r with buffer := F.append r.buffer c }
  else ⟨[], if r.buffer = [] then r.lines else r.lines ++ [r.buffer]⟩

/-- A stream arrives. -/
def receive (r : Receiver α) (stream : List α) : Receiver α := stream.foldl F.push r

theorem receive_cons (r : Receiver α) (c : α) (stream : List α) :
    F.receive r (c :: stream) = F.receive (F.push r c) stream := rfl

theorem receive_append (r : Receiver α) (xs ys : List α) :
    F.receive r (xs ++ ys) = F.receive (F.receive r xs) ys :=
  List.foldl_append

@[simp] theorem segments_nil : F.segments [] = [] := rfl

theorem segments_lf (stream : List α) :
    F.segments (F.lf :: stream) = [] :: F.segments stream := by
  unfold segments
  rw [List.splitOn_cons_eq_if_modifyHead, if_pos (BEq.refl _),
    List.dropLast_cons_of_ne_nil (List.splitOn_ne_nil _ _), List.map_cons]
  rfl

theorem segments_cons {c : α} (hc : c ≠ F.lf) (stream : List α) :
    F.segments (c :: stream) =
      (F.segments stream).modifyHead ([c].filter (· ≠ F.cr) ++ ·) := by
  have hdrop (f : List α → List α) (l : List (List α)) :
      (l.modifyHead f).dropLast = l.dropLast.modifyHead f := by
    rcases l with _ | ⟨x, _ | ⟨y, l⟩⟩ <;> rfl
  unfold segments
  rw [List.splitOn_cons_eq_if_modifyHead, if_neg (by simpa using hc), hdrop]
  cases (stream.splitOn F.lf).dropLast with
  | nil => rfl
  | cons s l =>
    rw [List.modifyHead_cons, List.map_cons, List.map_cons, List.modifyHead_cons,
      ← List.filter_append]
    rfl

/-! ## What the receiver delivers -/

omit [DecidableEq α] in
theorem modifyHead_nil_append (l : List (List α)) : l.modifyHead ([] ++ ·) = l := by
  cases l <;> rfl

/-- What the receiver delivers of a stream when its buffer holds the tail of `s`. -/
theorem lines_receive_tail (s : List α) (ls : List (List α)) (stream : List α) :
    (F.receive ⟨F.tail s, ls⟩ stream).lines =
      ls ++ (((F.segments stream).modifyHead (s ++ ·)).map F.tail).filter (· ≠ []) := by
  induction stream generalizing s ls with
  | nil => simp [receive]
  | cons c stream ih =>
    rw [receive_cons]
    by_cases hlf : c = F.lf
    · subst hlf
      have hpush : F.push ⟨F.tail s, ls⟩ F.lf =
          ⟨F.tail [], if F.tail s = [] then ls else ls ++ [F.tail s]⟩ := by
        rw [push, if_neg F.lf_ne_cr, if_neg (not_not.2 rfl), tail_nil]
      rw [hpush, ih, segments_lf, modifyHead_nil_append]
      by_cases htail : F.tail s = [] <;> simp [htail]
    · rw [segments_cons F hlf, List.modifyHead_modifyHead]
      by_cases hcr : c = F.cr
      · rw [push, if_pos hcr, ih]
        simp [hcr, Function.comp_def]
      · rw [push, if_neg hcr, if_pos hlf, append_tail, ih]
        simp [hcr, Function.comp_def]

/-- The receiver delivers the tails of the segments that have one. -/
theorem lines_receive (stream : List α) :
    (F.receive {} stream).lines = ((F.segments stream).map F.tail).filter (· ≠ []) := by
  have h := F.lines_receive_tail [] [] stream
  rwa [tail_nil, List.nil_append, modifyHead_nil_append] at h

omit [DecidableEq α] in
theorem length_lines_le_tails (segments : List (List α)) :
    (segments.filter fun s => s ≠ [] ∧ s.length ≤ F.bound).length ≤
      ((segments.map F.tail).filter (· ≠ [])).length := by
  rw [List.filter_map, List.length_map, ← List.countP_eq_length_filter,
    ← List.countP_eq_length_filter]
  refine List.countP_mono_left fun s _ hs => ?_
  simp only [decide_eq_true_eq] at hs
  simpa [F.tail_of_le hs.2] using hs.1

omit [DecidableEq α] in
theorem tails_eq_lines_iff (segments : List (List α)) :
    (segments.map F.tail).filter (· ≠ []) =
        segments.filter (fun s => s ≠ [] ∧ s.length ≤ F.bound) ↔
      ∀ s ∈ segments, F.Exact s := by
  induction segments with
  | nil => simp
  | cons s segments ih =>
    rw [List.forall_mem_cons, ← ih, List.map_cons, List.filter_cons, List.filter_cons]
    by_cases hle : s.length ≤ F.bound
    · rw [F.tail_of_le hle]
      by_cases hnil : s = [] <;> simp [hnil, hle, Exact]
    · by_cases hdvd : F.bound + 1 ∣ s.length
      · simp [F.tail_eq_nil_iff.2 hdvd, hle, hdvd, Exact]
      · have htail : F.tail s ≠ [] := mt F.tail_eq_nil_iff.1 hdvd
        have hlength := F.length_lines_le_tails segments
        rw [if_pos (by simpa using htail), if_neg (by simp [hle])]
        refine iff_of_false (fun h => ?_) (by simp [Exact, hle, hdvd])
        have := congrArg List.length h
        rw [List.length_cons] at this
        omega

/-- The receiver delivers the lines of the stream exactly when every segment over the bound ends
in an overflow. -/
theorem delivers_lines_iff (stream : List α) :
    (F.receive {} stream).lines = F.lines stream ↔ ∀ s ∈ F.segments stream, F.Exact s := by
  rw [lines_receive]
  exact F.tails_eq_lines_iff _

end LineFormat

end FactoryTest
