import Mathlib.Data.List.Basic
import Mathlib.Data.List.DropRight
import Mathlib.Data.Nat.Init
import Mathlib.Tactic.Common

/-!
# The segments of a stream

A stream is cut at every delimiter (`p`). All segments but the last one are closed, the last one
is open. A stream is plain or it has a first delimiter (`segment_induction`), and what comes later
only closes the segment that was open (`closed_append`), so a reader may forget all but the open
segment.

A delimiter in front of a stream closes an empty segment and changes nothing else
(`closed_dropWhile`).

**White space.** `std::isspace`, and a text without the white space at its ends (`trim`).
-/

namespace FactoryTest

/-- `std::isspace` in the C locale. -/
def isspace (c : Char) : Bool := c = ' ' ∨ c = '\t' ∨ c = '\n' ∨ c = '\x0b' ∨ c = '\x0c' ∨ c = '\r'

/-- `trim`: the text without the white space at its ends. -/
def trim (text : List Char) : List Char := (text.dropWhile isspace).rdropWhile isspace

namespace Segments

variable {α : Type*} (p : α → Bool)

/-- No delimiter is in the list. -/
def Plain (xs : List α) : Prop := ∀ x ∈ xs, p x = false

/-- The segments that a delimiter ends. -/
def closed (xs : List α) : List (List α) := (xs.splitOnP p).dropLast

/-- What follows the last delimiter. -/
def rest (xs : List α) : List α := (xs.splitOnP p).getLast (List.splitOnP_ne_nil p xs)

variable {p}

theorem Plain.append {xs ys : List α} (hxs : Plain p xs) (hys : Plain p ys) :
    Plain p (xs ++ ys) := List.forall_mem_append.2 ⟨hxs, hys⟩

theorem Plain.drop {xs : List α} (h : Plain p xs) (n : ℕ) : Plain p (xs.drop n) :=
  fun x hx => h x (List.mem_of_mem_drop hx)

theorem plain_or_cut (xs : List α) : Plain p xs ∨
    ∃ front x back, xs = front ++ x :: back ∧ Plain p front ∧ p x = true := by
  induction xs with
  | nil => exact .inl fun x hx => absurd hx List.not_mem_nil
  | cons x xs ih =>
    by_cases hx : p x = true
    · exact .inr ⟨[], x, xs, rfl, fun y hy => absurd hy List.not_mem_nil, hx⟩
    · rw [Bool.not_eq_true] at hx
      rcases ih with hplain | ⟨front, y, back, rfl, hfront, hy⟩
      · exact .inl (List.forall_mem_cons.2 ⟨hx, hplain⟩)
      · exact .inr ⟨x :: front, y, back, rfl, List.forall_mem_cons.2 ⟨hx, hfront⟩, hy⟩

/-- A stream has no delimiter, or a first one. -/
theorem segment_induction {motive : List α → Prop} (plain : ∀ xs, Plain p xs → motive xs)
    (cut : ∀ front x back, Plain p front → p x = true → motive back →
      motive (front ++ x :: back)) (xs : List α) : motive xs := by
  induction hlength : xs.length using Nat.strong_induction_on generalizing xs with
  | _ n ih =>
    rcases plain_or_cut (p := p) xs with hplain | ⟨front, x, back, rfl, hfront, hx⟩
    · exact plain xs hplain
    · refine cut front x back hfront hx (ih _ ?_ back rfl)
      rw [List.length_append, List.length_cons] at hlength
      omega

@[simp] theorem closed_plain {xs : List α} (h : Plain p xs) : closed p xs = [] := by
  rw [closed, List.splitOnP_eq_singleton h, List.dropLast_singleton]

@[simp] theorem rest_plain {xs : List α} (h : Plain p xs) : rest p xs = xs := by
  simp only [rest, List.splitOnP_eq_singleton h, List.getLast_singleton]

theorem closed_cut {front : List α} {x : α} (hfront : Plain p front) (hx : p x = true)
    (back : List α) : closed p (front ++ x :: back) = front :: closed p back := by
  rw [closed, List.splitOnP_append_cons_of_forall_mem hfront x hx,
    List.dropLast_cons_of_ne_nil (List.splitOnP_ne_nil p back), closed]

theorem rest_cut {front : List α} {x : α} (hfront : Plain p front) (hx : p x = true)
    (back : List α) : rest p (front ++ x :: back) = rest p back := by
  simp only [rest, List.splitOnP_append_cons_of_forall_mem hfront x hx,
    List.getLast_cons (List.splitOnP_ne_nil p back)]

theorem closed_cons {x : α} (hx : p x = true) (xs : List α) :
    closed p (x :: xs) = [] :: closed p xs := closed_cut (List.forall_mem_nil _) hx xs

theorem rest_cons {x : α} (hx : p x = true) (xs : List α) : rest p (x :: xs) = rest p xs :=
  rest_cut (List.forall_mem_nil _) hx xs

theorem plain_rest (xs : List α) : Plain p (rest p xs) := by
  induction xs using segment_induction (p := p) with
  | plain xs h => rwa [rest_plain h]
  | cut front x back hfront hx ih => rwa [rest_cut hfront hx]

/-- A later delimiter closes what was open. -/
theorem closed_append (xs ys : List α) :
    closed p (xs ++ ys) = closed p xs ++ closed p (rest p xs ++ ys) := by
  induction xs using segment_induction (p := p) with
  | plain xs h => rw [closed_plain h, rest_plain h, List.nil_append]
  | cut front x back hfront hx ih =>
    rw [List.append_assoc, List.cons_append, closed_cut hfront hx, closed_cut hfront hx,
      rest_cut hfront hx, ih, List.cons_append]

theorem rest_append (xs ys : List α) : rest p (xs ++ ys) = rest p (rest p xs ++ ys) := by
  induction xs using segment_induction (p := p) with
  | plain xs h => rw [rest_plain h]
  | cut front x back hfront hx ih =>
    rw [List.append_assoc, List.cons_append, rest_cut hfront hx, rest_cut hfront hx, ih]

theorem closed_dropWhile (xs : List α) :
    (closed p (xs.dropWhile p)).filter (· ≠ []) = (closed p xs).filter (· ≠ []) := by
  induction xs with
  | nil => rfl
  | cons x xs ih =>
    by_cases hx : p x = true
    · rw [List.dropWhile_cons_of_pos hx, ih, closed_cons hx, List.filter_cons_of_neg (by simp)]
    · rw [List.dropWhile_cons_of_neg hx]

theorem rest_dropWhile (xs : List α) : rest p (xs.dropWhile p) = rest p xs := by
  induction xs with
  | nil => rfl
  | cons x xs ih =>
    by_cases hx : p x = true
    · rw [List.dropWhile_cons_of_pos hx, ih, rest_cons hx]
    · rw [List.dropWhile_cons_of_neg hx]

/-- What was open begins the next segment that is closed. -/
theorem exists_mem_closed_append (xs : List α) {ys : List α} (hys : ¬ Plain p ys) :
    ∃ front, rest p xs ++ front ∈ closed p (xs ++ ys) := by
  rcases plain_or_cut (p := p) ys with h | ⟨front, y, back, rfl, hfront, hy⟩
  · exact absurd h hys
  · refine ⟨front, ?_⟩
    rw [closed_append, ← List.append_assoc, closed_cut ((plain_rest xs).append hfront) hy]
    exact List.mem_append_right _ List.mem_cons_self

end Segments

end FactoryTest
