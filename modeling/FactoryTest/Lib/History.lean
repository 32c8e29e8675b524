import Mathlib.Data.List.Basic
import Mathlib.Data.List.Induction
import Mathlib.Data.List.Forall2

/-!
# Histories whose entries are justified by what precedes them

A history is *justified* by a relation `P` when every entry stands in the relation to the part
of the history before it. Extending a justified history only needs the new entries to be
justified (`justified_append`).

**Order** (`InOrder`). A history has entries for a list of predicates, in the order of the list
and with any others between them.
-/

namespace FactoryTest

variable {ο : Type*}

/-- Every entry is justified by what precedes it. -/
def Justified (P : List ο → ο → Prop) (h : List ο) : Prop :=
  ∀ before o after, h = before ++ o :: after → P before o

/-- Every entry of the second list is justified by the first list and the entries before it. -/
def JustifiedFrom (P : List ο → ο → Prop) : List ο → List ο → Prop
  | _, [] => True
  | h, o :: os => P h o ∧ JustifiedFrom P (h ++ [o]) os

theorem justified_nil (P : List ο → ο → Prop) : Justified P [] := by
  intro before o after h
  exact absurd h.symm (by simp)

theorem Justified.mono {P Q : List ο → ο → Prop} {h : List ο} (hj : Justified P h)
    (hPQ : ∀ before o, P before o → Q before o) : Justified Q h :=
  fun before o after heq => hPQ before o (hj before o after heq)

theorem Justified.of_mem {P : List ο → ο → Prop} {h : List ο} (hj : Justified P h) {o : ο}
    (ho : o ∈ h) : ∃ before, P before o := by
  obtain ⟨before, after, heq⟩ := List.append_of_mem ho
  exact ⟨before, hj before o after heq⟩

/-- An entry of a history is the last one, or comes before it. -/
theorem concat_eq_append_cons {h before after : List ο} {o last : ο}
    (heq : h ++ [last] = before ++ o :: after) :
    (after = [] ∧ before = h ∧ o = last) ∨
      ∃ rest, after = rest ++ [last] ∧ h = before ++ o :: rest := by
  rcases List.eq_nil_or_concat after with rfl | ⟨rest, last', rfl⟩
  · obtain ⟨hbefore, ho⟩ := List.append_inj' heq rfl
    exact .inl ⟨rfl, hbefore.symm, (List.singleton_inj.1 ho).symm⟩
  · rw [List.concat_eq_append, ← List.cons_append, ← List.append_assoc] at heq
    obtain ⟨hh, hlast⟩ := List.append_inj' heq rfl
    refine .inr ⟨rest, ?_, hh⟩
    rw [List.concat_eq_append, List.singleton_inj.1 hlast]

theorem justified_concat {P : List ο → ο → Prop} {h : List ο} {o : ο} :
    Justified P (h ++ [o]) ↔ Justified P h ∧ P h o := by
  constructor
  · intro hj
    refine ⟨fun before o' after heq => hj before o' (after ++ [o]) ?_, hj h o [] rfl⟩
    rw [heq, List.append_assoc, List.cons_append]
  · rintro ⟨hj, ho⟩ before o' after heq
    rcases concat_eq_append_cons heq with ⟨-, rfl, rfl⟩ | ⟨rest, -, hh⟩
    · exact ho
    · exact hj before o' rest hh

theorem justified_append {P : List ο → ο → Prop} {h os : List ο} :
    Justified P (h ++ os) ↔ Justified P h ∧ JustifiedFrom P h os := by
  induction os generalizing h with
  | nil => simp [JustifiedFrom]
  | cons o os ih =>
    rw [List.append_cons, ih, justified_concat, and_assoc]
    rfl

/-- Entries that any history justifies. -/
theorem justifiedFrom_of_forall {P : List ο → ο → Prop} {os : List ο}
    (hos : ∀ o ∈ os, ∀ h, P h o) (h : List ο) : JustifiedFrom P h os := by
  induction os generalizing h with
  | nil => trivial
  | cons o os ih =>
    exact ⟨hos o List.mem_cons_self h, ih (fun p hp => hos p (List.mem_cons_of_mem o hp)) _⟩

/-! ## Entries in order -/

/-- The history has an entry for each of the predicates, in this order. -/
def InOrder (ps : List (ο → Prop)) (h : List ο) : Prop :=
  ∃ seen, List.Sublist seen h ∧ List.Forall₂ (fun o p => p o) seen ps

theorem inOrder_nil (h : List ο) : InOrder [] h := ⟨[], List.nil_sublist h, .nil⟩

variable {ps qs : List (ο → Prop)} {p q : ο → Prop} {h : List ο}

theorem InOrder.append (hps : InOrder ps h) {os : List ο} (hqs : InOrder qs os) :
    InOrder (ps ++ qs) (h ++ os) := by
  obtain ⟨seen, hsub, hseen⟩ := hps
  obtain ⟨seen', hsub', hseen'⟩ := hqs
  exact ⟨seen ++ seen', hsub.append hsub', List.rel_append hseen hseen'⟩

/-- More entries do not matter. -/
theorem InOrder.grow (hps : InOrder ps h) (os : List ο) : InOrder ps (h ++ os) := by
  have happ := hps.append (inOrder_nil os)
  rwa [List.append_nil] at happ

theorem InOrder.concat (hps : InOrder ps h) {o : ο} (ho : p o) :
    InOrder (ps ++ [p]) (h ++ [o]) :=
  hps.append ⟨[o], List.Sublist.refl [o], .cons ho .nil⟩

theorem inOrder_append : InOrder (ps ++ qs) h ↔
    ∃ before after, h = before ++ after ∧ InOrder ps before ∧ InOrder qs after := by
  constructor
  · rintro ⟨seen, hsub, hseen⟩
    rw [← List.take_append_drop ps.length seen, List.append_sublist_iff] at hsub
    obtain ⟨before, after, heq, hbefore, hafter⟩ := hsub
    exact ⟨before, after, heq, ⟨_, hbefore, List.forall₂_take_append seen ps qs hseen⟩,
      ⟨_, hafter, List.forall₂_drop_append seen ps qs hseen⟩⟩
  · rintro ⟨before, after, rfl, hbefore, hafter⟩
    exact hbefore.append hafter

theorem InOrder.forget (hps : InOrder (ps ++ qs) h) : InOrder ps h := by
  obtain ⟨before, after, rfl, hbefore, -⟩ := inOrder_append.1 hps
  exact hbefore.grow after

theorem inOrder_singleton : InOrder [p] h ↔ ∃ o ∈ h, p o := by
  constructor
  · rintro ⟨seen, hsub, hseen⟩
    cases hseen with
    | cons ho _ => exact ⟨_, hsub.subset List.mem_cons_self, ho⟩
  · rintro ⟨o, hmem, ho⟩
    exact ⟨[o], List.singleton_sublist.2 hmem, .cons ho .nil⟩

theorem InOrder.weaken (hps : InOrder (ps ++ [p]) h) (hpq : ∀ o, p o → q o) :
    InOrder (ps ++ [q]) h := by
  obtain ⟨before, after, heq, hbefore, hafter⟩ := inOrder_append.1 hps
  obtain ⟨o, hmem, ho⟩ := inOrder_singleton.1 hafter
  exact inOrder_append.2
    ⟨before, after, heq, hbefore, inOrder_singleton.2 ⟨o, hmem, hpq o ho⟩⟩

end FactoryTest
