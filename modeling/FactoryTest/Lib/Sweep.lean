import Mathlib.Data.List.Nodup
import Mathlib.Data.List.Range
import Mathlib.Tactic.Common

/-!
# Loops over parts

A loop does something to each part of a state, and a round leaves the other parts alone.

**Theorem (`sweep`).** Then the loop does it to all of the parts.

**Buffers.** A loop that counts up from zero and may stop with an error is a fold over `List.range`.
If it is known what the loop has made after every round, the loop makes that (`foldlM_range_eq`). A
write past the end of a buffer has no value (`store`).
-/

namespace FactoryTest

/-! ## The parts of a state -/

section

variable {σ ι : Type*} {step : σ → ι → σ} {Global : σ → Prop} {Before After : ι → σ → Prop}

/-- The parts in the list are brought from one state to another, and the others stay. -/
theorem sweep (hstep : ∀ s i, Global s → Before i s → Global (step s i) ∧ After i (step s i))
    (hother : ∀ s i j, j ≠ i → Global s → Before i s →
      (Before j s → Before j (step s i)) ∧ (After j s → After j (step s i)))
    {l : List ι} (hnodup : l.Nodup) {s : σ} (hglobal : Global s) (hbefore : ∀ i ∈ l, Before i s) :
    Global (l.foldl step s) ∧ (∀ i ∈ l, After i (l.foldl step s)) ∧
      ∀ i ∉ l, After i s → After i (l.foldl step s) := by
  induction l generalizing s with
  | nil => exact ⟨hglobal, fun i hi => absurd hi List.not_mem_nil, fun i _ h => h⟩
  | cons first l ih =>
    obtain ⟨hfirst, hnodup⟩ := List.nodup_cons.1 hnodup
    have hhead := hbefore first List.mem_cons_self
    obtain ⟨hglobal', hafter⟩ := hstep s first hglobal hhead
    have hrest : ∀ i ∈ l, Before i (step s first) := by
      intro i hi
      have hne : i ≠ first := fun heq => hfirst (heq ▸ hi)
      exact (hother s first i hne hglobal hhead).1 (hbefore i (List.mem_cons_of_mem _ hi))
    obtain ⟨hend, hdone, hkept⟩ := ih hnodup hglobal' hrest
    refine ⟨hend, fun i hi => ?_, fun i hi h => ?_⟩
    · rcases List.mem_cons.1 hi with rfl | hi
      · exact hkept i hfirst hafter
      · exact hdone i hi
    · obtain ⟨hne, hi⟩ := not_or.1 (List.mem_cons.not.1 hi)
      exact hkept i hi ((hother s first i hne hglobal hhead).2 h)

/-- A loop over all parts. -/
theorem sweep_all {n : ℕ} {step : σ → Fin n → σ} (Global : σ → Prop)
    (Before After : Fin n → σ → Prop)
    (hstep : ∀ s i, Global s → Before i s → Global (step s i) ∧ After i (step s i))
    (hother : ∀ s i j, j ≠ i → Global s → Before i s →
      (Before j s → Before j (step s i)) ∧ (After j s → After j (step s i)))
    {s : σ} (hglobal : Global s) (hbefore : ∀ i, Before i s) :
    Global ((List.finRange n).foldl step s) ∧ ∀ i, After i ((List.finRange n).foldl step s) := by
  obtain ⟨hend, hafter, -⟩ := sweep hstep hother (List.nodup_finRange n) hglobal
    fun i _ => hbefore i
  exact ⟨hend, fun i => hafter i (List.mem_finRange i)⟩

/-- What no round changes, the loop does not change. -/
theorem foldl_unchanged {β : Type*} (f : σ → β) (h : ∀ s i, f (step s i) = f s) (l : List ι)
    (s : σ) : f (l.foldl step s) = f s := by
  induction l generalizing s with
  | nil => rfl
  | cons first l ih => exact (ih _).trans (h s first)

end

/-! ## Loops that fill a buffer -/

universe u v

section

variable {m : Type u → Type v} [Monad m] [LawfulMonad m] {β : Type u} {step : β → ℕ → m β}

/-- A loop whose value is known after every round. -/
theorem foldlM_range_eq (value : ℕ → β) {n : ℕ}
    (hstep : ∀ i < n, step (value i) i = pure (value (i + 1))) :
    (List.range n).foldlM step (value 0) = pure (value n) := by
  induction n with
  | zero => rfl
  | succ n ih =>
    rw [List.range_succ, List.foldlM_append, ih fun i hi => hstep i (Nat.lt_succ_of_lt hi),
      pure_bind, List.foldlM_cons, hstep n (Nat.lt_succ_self n), pure_bind]
    rfl

end

section

variable {α : Type u}

/-- `out[index] = value`. -/
def store (out : List α) (index : ℕ) (value : α) : Option (List α) :=
  if index < out.length then some (out.set index value) else none

/-- A write right after what is known. -/
theorem store_append (front : List α) (old value : α) (rest : List α) :
    store (front ++ old :: rest) front.length value = some (front ++ value :: rest) := by
  rw [store, if_pos (by simp), List.set_append_right _ _ le_rfl, Nat.sub_self]
  rfl

end

end FactoryTest
