import Mathlib.Data.List.Pairwise
import Mathlib.Order.Defs.LinearOrder
import Mathlib.Order.Lattice

/-!
# Maps as strictly increasing association lists

A map over an ordered key type is the list of its entries in increasing order of the keys. The
list operations (`Assoc`) work on any list; on increasing lists they are the usual map
operations. `OrderedMap` bundles a list with the proof that it is increasing, so that two maps
are equal exactly when they have the same entries.

Two ways of adding an entry are distinguished: `emplace` keeps the value of a key that is
already there, `assign` replaces it.
-/

namespace FactoryTest

namespace Assoc

variable {κ ν : Type*} [LinearOrder κ]

/-- The entries are in strictly increasing order of their keys. -/
def Increasing (m : List (κ × ν)) : Prop := m.Pairwise fun a b => a.1 < b.1

/-- The value of the first entry with key `k`. -/
def find? (k : κ) : List (κ × ν) → Option ν
  | [] => none
  | e :: m => if e.1 = k then some e.2 else find? k m

/-- Add an entry unless the key is there. -/
def emplace (k : κ) (v : ν) : List (κ × ν) → List (κ × ν)
  | [] => [(k, v)]
  | e :: m => if k < e.1 then (k, v) :: e :: m else if k = e.1 then e :: m else e :: emplace k v m

/-- Add an entry, replacing the value if the key is there. -/
def assign (k : κ) (v : ν) : List (κ × ν) → List (κ × ν)
  | [] => [(k, v)]
  | e :: m =>
    if k < e.1 then (k, v) :: e :: m else if k = e.1 then (k, v) :: m else e :: assign k v m

theorem mem_emplace {k : κ} {v : ν} {m : List (κ × ν)} {e : κ × ν} (h : e ∈ emplace k v m) :
    e = (k, v) ∨ e ∈ m := by
  induction m with
  | nil => exact Or.inl (List.mem_singleton.1 h)
  | cons d m ih =>
    unfold emplace at h
    split_ifs at h
    · simpa using h
    · exact Or.inr h
    · rcases List.mem_cons.1 h with rfl | h
      · exact Or.inr List.mem_cons_self
      · exact (ih h).imp_right (List.mem_cons_of_mem _)

theorem mem_assign {k : κ} {v : ν} {m : List (κ × ν)} {e : κ × ν} (h : e ∈ assign k v m) :
    e = (k, v) ∨ e ∈ m := by
  induction m with
  | nil => exact Or.inl (List.mem_singleton.1 h)
  | cons d m ih =>
    unfold assign at h
    split_ifs at h
    · simpa using h
    · exact (List.mem_cons.1 h).imp_right (List.mem_cons_of_mem _)
    · rcases List.mem_cons.1 h with rfl | h
      · exact Or.inr List.mem_cons_self
      · exact (ih h).imp_right (List.mem_cons_of_mem _)

theorem Increasing.emplace {m : List (κ × ν)} (h : Increasing m) (k : κ) (v : ν) :
    Increasing (emplace k v m) := by
  induction m with
  | nil => exact List.pairwise_singleton _ _
  | cons d m ih =>
    obtain ⟨hd, hm⟩ := List.pairwise_cons.1 h
    unfold Assoc.emplace
    split_ifs with hlt heq
    · refine List.pairwise_cons.2 ⟨fun e he => ?_, h⟩
      rcases List.mem_cons.1 he with rfl | he
      · exact hlt
      · exact hlt.trans (hd e he)
    · exact h
    · refine List.pairwise_cons.2 ⟨fun e he => ?_, ih hm⟩
      rcases mem_emplace he with rfl | he
      · exact lt_of_le_of_ne (not_lt.1 hlt) (Ne.symm heq)
      · exact hd e he

theorem Increasing.assign {m : List (κ × ν)} (h : Increasing m) (k : κ) (v : ν) :
    Increasing (assign k v m) := by
  induction m with
  | nil => exact List.pairwise_singleton _ _
  | cons d m ih =>
    obtain ⟨hd, hm⟩ := List.pairwise_cons.1 h
    unfold Assoc.assign
    split_ifs with hlt heq
    · refine List.pairwise_cons.2 ⟨fun e he => ?_, h⟩
      rcases List.mem_cons.1 he with rfl | he
      · exact hlt
      · exact hlt.trans (hd e he)
    · exact List.pairwise_cons.2 ⟨fun e he => heq ▸ hd e he, hm⟩
    · refine List.pairwise_cons.2 ⟨fun e he => ?_, ih hm⟩
      rcases mem_assign he with rfl | he
      · exact lt_of_le_of_ne (not_lt.1 hlt) (Ne.symm heq)
      · exact hd e he

/-- An entry whose key exceeds every key goes to the end. -/
theorem emplace_of_forall_lt {k : κ} {v : ν} {m : List (κ × ν)} (h : ∀ e ∈ m, e.1 < k) :
    emplace k v m = m ++ [(k, v)] := by
  induction m with
  | nil => rfl
  | cons d m ih =>
    have hd : d.1 < k := h d List.mem_cons_self
    unfold emplace
    rw [if_neg hd.not_gt, if_neg hd.ne', ih fun e he => h e (List.mem_cons_of_mem _ he)]
    rfl

/-- Adding the entries of an increasing list one by one rebuilds the list. -/
theorem foldl_emplace {m n : List (κ × ν)} (h : Increasing (n ++ m)) :
    m.foldl (fun acc e => emplace e.1 e.2 acc) n = n ++ m := by
  induction m generalizing n with
  | nil => exact (List.append_nil n).symm
  | cons d m ih =>
    have hlt : ∀ e ∈ n, e.1 < d.1 := fun e he =>
      (List.pairwise_append.1 h).2.2 e he d List.mem_cons_self
    rw [List.foldl_cons, emplace_of_forall_lt hlt, ih (by simpa using h), List.append_assoc]
    rfl

/-- Adding an entry with a new key adds that entry. -/
theorem perm_emplace {k : κ} {v : ν} {m : List (κ × ν)} (h : ∀ e ∈ m, e.1 ≠ k) :
    (emplace k v m).Perm ((k, v) :: m) := by
  induction m with
  | nil => exact .refl _
  | cons d m ih =>
    unfold emplace
    split_ifs with hlt heq
    · exact .refl _
    · exact absurd heq.symm (h d List.mem_cons_self)
    · exact ((ih fun e he => h e (List.mem_cons_of_mem _ he)).cons d).trans (.swap _ _ _)

/-- Adding entries with new and distinct keys one by one adds these entries. -/
theorem perm_foldl_emplace {l m : List (κ × ν)} (h : ((l ++ m).map Prod.fst).Nodup) :
    (l.foldl (fun acc e => emplace e.1 e.2 acc) m).Perm (l ++ m) := by
  induction l generalizing m with
  | nil => exact .refl _
  | cons d l ih =>
    have hnew : ∀ e ∈ m, e.1 ≠ d.1 := by
      intro e he heq
      rw [List.cons_append, List.map_cons, List.nodup_cons, List.map_append] at h
      exact h.1 (List.mem_append_right _ (List.mem_map.2 ⟨e, he, heq⟩))
    have hmoved : (l ++ emplace d.1 d.2 m).Perm (d :: l ++ m) :=
      ((perm_emplace hnew).append_left l).trans List.perm_middle
    exact (ih ((hmoved.map Prod.fst).nodup_iff.2 h)).trans hmoved

theorem Increasing.foldl_emplace {m : List (κ × ν)} (h : Increasing m) (l : List (κ × ν)) :
    Increasing (l.foldl (fun acc e => Assoc.emplace e.1 e.2 acc) m) := by
  induction l generalizing m with
  | nil => exact h
  | cons d l ih => exact ih (h.emplace d.1 d.2)

/-- Adding entries with distinct keys one by one to the empty list sorts them. -/
theorem foldl_emplace_eq_mergeSort {l : List (κ × ν)} (h : (l.map Prod.fst).Nodup) :
    l.foldl (fun acc e => emplace e.1 e.2 acc) [] = l.mergeSort fun a b => a.1 ≤ b.1 := by
  have hperm := perm_foldl_emplace (m := []) (by rwa [List.append_nil])
  rw [List.append_nil] at hperm
  have hsort : Increasing (l.mergeSort fun a b => a.1 ≤ b.1) := by
    have hle := @List.pairwise_mergeSort _ (fun a b : κ × ν => decide (a.1 ≤ b.1))
      (fun a b c hab hbc => decide_eq_true ((of_decide_eq_true hab).trans (of_decide_eq_true hbc)))
      (fun a b => by simpa using le_total a.1 b.1) l
    have hne := (((List.mergeSort_perm l fun a b => a.1 ≤ b.1).map Prod.fst).nodup_iff).2 h
    rw [List.Nodup, List.pairwise_map] at hne
    exact (hle.and hne).imp fun h => lt_of_le_of_ne (of_decide_eq_true h.1) h.2
  refine (hperm.trans (List.mergeSort_perm l _).symm).eq_of_pairwise ?_
    (Increasing.foldl_emplace .nil l) hsort
  intro a b _ _ hab hba
  exact absurd (hab.trans hba) (lt_irrefl _)

end Assoc

/-- A finite map over an ordered key type. -/
@[ext] structure OrderedMap (κ ν : Type*) [LinearOrder κ] where
  entries : List (κ × ν)
  increasing : Assoc.Increasing entries

namespace OrderedMap

variable {κ ν : Type*} [LinearOrder κ]

instance [DecidableEq ν] : DecidableEq (OrderedMap κ ν) := fun a b =>
  decidable_of_iff (a.entries = b.entries) OrderedMap.ext_iff.symm

/-- The map without entries. -/
def empty : OrderedMap κ ν := ⟨[], List.Pairwise.nil⟩

/-- Add an entry unless the key is there. -/
def emplace (m : OrderedMap κ ν) (k : κ) (v : ν) : OrderedMap κ ν :=
  ⟨Assoc.emplace k v m.entries, m.increasing.emplace k v⟩

/-- Add an entry, replacing the value if the key is there. -/
def assign (m : OrderedMap κ ν) (k : κ) (v : ν) : OrderedMap κ ν :=
  ⟨Assoc.assign k v m.entries, m.increasing.assign k v⟩

/-- Assigning entries one by one adds no others. -/
theorem mem_foldl_assign {l : List (κ × ν)} {m : OrderedMap κ ν} {e : κ × ν}
    (h : e ∈ (l.foldl (fun acc e => acc.assign e.1 e.2) m).entries) :
    e ∈ l ∨ e ∈ m.entries := by
  induction l generalizing m with
  | nil => exact .inr h
  | cons d l ih =>
    rcases ih h with h | h
    · exact .inl (List.mem_cons_of_mem _ h)
    · exact (Assoc.mem_assign h).imp_left fun heq => List.mem_cons.2 (.inl heq)

/-- Adding the entries of a map one by one to the empty map rebuilds it. -/
theorem foldl_emplace_entries (m : OrderedMap κ ν) :
    m.entries.foldl (fun acc e => acc.emplace e.1 e.2) (empty : OrderedMap κ ν) = m := by
  have key : ∀ (l : List (κ × ν)) (a : OrderedMap κ ν),
      (l.foldl (fun acc e => acc.emplace e.1 e.2) a).entries =
        l.foldl (fun acc e => Assoc.emplace e.1 e.2 acc) a.entries := by
    intro l
    induction l with
    | nil => intro a; rfl
    | cons e l ih => intro a; exact ih _
  apply OrderedMap.ext
  rw [key]
  exact Assoc.foldl_emplace (n := []) m.increasing

end OrderedMap

end FactoryTest
