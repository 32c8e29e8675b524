import Mathlib.Data.List.Flatten
import Mathlib.Data.List.TakeDrop
import Mathlib.Data.Nat.Notation

/-!
# Framing on a wire that may stop anywhere

Items are put on a wire one after another; an **attempt** may end before its item is through.
What is on the wire is *framed* when it is a sequence of whole items with at most one incomplete
item at its end. Attempts that put nothing on the wire do not count.

**Characterisation** (`framed_iff_pairwise`). A sequence of attempts is framed exactly when
nothing is put on the wire after a torn item, one that was begun and not finished.
-/

namespace FactoryTest

/-- An item together with how much of it went on the wire. -/
structure Attempt (α : Type*) where
  item : List α
  sent : ℕ

namespace Attempt

variable {α : Type*} {a b : Attempt α} {as bs : List (Attempt α)}

/-- What the attempt put on the wire. -/
def bytes (a : Attempt α) : List α := a.item.take a.sent

/-- The item was begun and not finished. -/
def Torn (a : Attempt α) : Prop := 0 < a.sent ∧ a.sent < a.item.length

instance : Decidable a.Torn := inferInstanceAs (Decidable (_ ∧ _))

/-- What a sequence of attempts put on the wire. -/
def wire (as : List (Attempt α)) : List α := as.flatMap bytes

/-- The attempts that put something on the wire are whole, except perhaps the last. -/
def Framed (as : List (Attempt α)) : Prop :=
  ∃ whole rest, as.filter (0 < ·.sent) = whole ++ rest ∧ (∀ a ∈ whole, a.bytes = a.item) ∧
    rest.length ≤ 1

theorem bytes_eq_item_iff : a.bytes = a.item ↔ a.item.length ≤ a.sent := by
  rw [bytes, List.take_eq_self_iff]

theorem not_torn_iff (ha : 0 < a.sent) : ¬ a.Torn ↔ a.bytes = a.item := by
  rw [bytes_eq_item_iff, Torn, not_and, Nat.not_lt]
  exact ⟨fun h => h ha, fun h _ => h⟩

/-- Nothing is put on the wire after a torn item. -/
theorem framed_iff_pairwise : Framed as ↔ as.Pairwise fun a b => a.Torn → b.sent = 0 := by
  induction as with
  | nil => exact ⟨fun _ => .nil, fun _ => ⟨[], [], rfl, nofun, by simp⟩⟩
  | cons a as ih =>
    rw [List.pairwise_cons, ← ih]
    by_cases ha : 0 < a.sent
    · have hfilter : (a :: as).filter (0 < ·.sent) = a :: as.filter (0 < ·.sent) :=
        List.filter_cons_of_pos (by simpa using ha)
      constructor
      · rintro ⟨whole, rest, hsplit, hwhole, hrest⟩
        rw [hfilter] at hsplit
        cases whole with
        | nil =>
          -- The first attempt is the last on the wire: nothing follows it.
          obtain rfl : a :: as.filter (0 < ·.sent) = rest := hsplit
          have hnone : as.filter (0 < ·.sent) = [] :=
            List.length_eq_zero_iff.1 (by simpa using hrest)
          have hzero : ∀ b ∈ as, b.sent = 0 := by simpa using hnone
          exact ⟨fun b hb _ => hzero b hb, [], [], hnone, nofun, by simp⟩
        | cons a' whole =>
          obtain ⟨rfl, htail⟩ := List.cons.inj hsplit
          refine ⟨fun b _ htorn => ?_, whole, rest, htail,
            fun b hb => hwhole b (List.mem_cons_of_mem _ hb), hrest⟩
          exact absurd htorn ((not_torn_iff ha).2 (hwhole a List.mem_cons_self))
      · rintro ⟨hlast, whole, rest, hsplit, hwhole, hrest⟩
        by_cases htorn : a.Torn
        · have hnone : as.filter (0 < ·.sent) = [] := by simpa using fun b hb => hlast b hb htorn
          exact ⟨[], [a], by rw [hfilter, hnone]; rfl, nofun, Nat.le_refl 1⟩
        · refine ⟨a :: whole, rest, by rw [hfilter, hsplit]; rfl, ?_, hrest⟩
          exact List.forall_mem_cons.2 ⟨(not_torn_iff ha).1 htorn, hwhole⟩
    · have hfilter : (a :: as).filter (0 < ·.sent) = as.filter (0 < ·.sent) :=
        List.filter_cons_of_neg (by simpa using ha)
      have htorn : ¬ a.Torn := fun h => ha h.1
      unfold Framed
      rw [hfilter]
      exact ⟨fun h => ⟨fun b _ h => absurd h htorn, h⟩, fun h => h.2⟩

/-- What goes on the wire after framed attempts must not follow a torn one. -/
theorem framed_concat_iff :
    Framed (as ++ [b]) ↔ Framed as ∧ (0 < b.sent → ∀ a ∈ as, ¬ a.Torn) := by
  rw [framed_iff_pairwise, framed_iff_pairwise, List.pairwise_append]
  constructor
  · rintro ⟨has, -, hb⟩
    exact ⟨has, fun hsent a ha htorn => by have := hb a ha b (by simp) htorn; omega⟩
  · rintro ⟨has, hb⟩
    refine ⟨has, List.pairwise_singleton _ _, fun a ha c hc htorn => ?_⟩
    obtain rfl := List.mem_singleton.1 hc
    by_contra hne
    exact hb (Nat.pos_of_ne_zero hne) a ha htorn

theorem Framed.initial (h : Framed bs) (hp : as <+: bs) : Framed as :=
  framed_iff_pairwise.2 ((framed_iff_pairwise.1 h).sublist hp.sublist)

end Attempt

end FactoryTest
