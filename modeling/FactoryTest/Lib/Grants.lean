import Mathlib.Data.List.Basic
import Mathlib.Order.Nat
import Mathlib.Tactic.Common

/-!
# Grants

A system grants a resource to a holder, who uses it and gives it back.

**The log** has the newest event first, so that what was the case at an earlier moment is what a
suffix of the log says. The grants that are *outstanding* were not released yet.

**Discipline** (`Sound`). A holder asks only if it holds nothing, and what it uses or releases is
outstanding. Then no holder has two grants at any moment (`Sound.length_held_le`), and a step of
one holder leaves what the others hold (`Sound.grant`, `Sound.use`, `Sound.release`).

**Exclusion** (`Exclusive`). What the system itself sees to: it grants nothing that is granted.
Some holders can see to it among themselves (`ExclusiveAmong`).

**Growth** (`Grows`). The log as one holder goes on with it. What it does tells nothing new about
the grants of others (`Grows.latest_eq`).
-/

namespace FactoryTest

/-- A grant. -/
structure Grant (Holder Tag : Type*) where
  id : ℕ
  holder : Holder
  tag : Tag

/-- What happens to grants. -/
inductive GrantEvent (Holder Tag Use : Type*)
  | granted (grant : Grant Holder Tag)
  | released (id : ℕ)
  | used (id : Option ℕ) (use : Use)

section

variable {Holder Tag Use : Type*}

/-- The grants that were not released. -/
def outstanding : List (GrantEvent Holder Tag Use) → List (Grant Holder Tag)
  | [] => []
  | .granted grant :: log => grant :: outstanding log
  | .released id :: log => (outstanding log).filter (·.id ≠ id)
  | .used _ _ :: log => outstanding log

variable [DecidableEq Holder]

/-- The grants of a holder. -/
def held (log : List (GrantEvent Holder Tag Use)) (holder : Holder) : List (Grant Holder Tag) :=
  (outstanding log).filter (·.holder = holder)

/-- An event that may follow a log. A new grant has an identity that none had before. -/
def GrantEvent.Follows (log : List (GrantEvent Holder Tag Use)) : GrantEvent Holder Tag Use → Prop
  | .granted grant => grant.id = log.length ∧ held log grant.holder = []
  | .released id => ∃ grant ∈ outstanding log, grant.id = id
  | .used id _ => ∃ grant ∈ outstanding log, id = some grant.id

/-- Every event follows what was before it. -/
def Sound : List (GrantEvent Holder Tag Use) → Prop
  | [] => True
  | event :: log => event.Follows log ∧ Sound log

variable {log : List (GrantEvent Holder Tag Use)} {holder other : Holder}

theorem mem_held {grant : Grant Holder Tag} :
    grant ∈ held log holder ↔ grant ∈ outstanding log ∧ grant.holder = holder := by
  rw [held, List.mem_filter, decide_eq_true_iff]

@[simp] theorem held_nil : held ([] : List (GrantEvent Holder Tag Use)) holder = [] := rfl

@[simp] theorem held_used (id : Option ℕ) (use : Use) :
    held (.used id use :: log) holder = held log holder := rfl

theorem held_granted_self (grant : Grant Holder Tag) :
    held (.granted grant :: log) grant.holder = grant :: held log grant.holder :=
  List.filter_cons_of_pos (decide_eq_true rfl)

theorem held_granted_other {grant : Grant Holder Tag} (h : other ≠ grant.holder) :
    held (.granted grant :: log) other = held log other :=
  List.filter_cons_of_neg (by simpa using h.symm)

theorem held_released (id : ℕ) :
    held (.released id :: log) holder = (held log holder).filter (·.id ≠ id) :=
  List.filter_comm _ _ _

namespace Sound

theorem suffix (h : Sound log) {moment : List (GrantEvent Holder Tag Use)} (hm : moment <:+ log) :
    Sound moment := by
  induction log with
  | nil => rwa [List.suffix_nil.1 hm]
  | cons event log ih =>
    rcases List.suffix_cons_iff.1 hm with rfl | hm
    · exact h
    · exact ih h.2 hm

theorem id_lt (h : Sound log) {grant : Grant Holder Tag} (hmem : grant ∈ outstanding log) :
    grant.id < log.length := by
  induction log with
  | nil => cases hmem
  | cons event log ih =>
    obtain ⟨hevent, h⟩ := h
    rw [List.length_cons]
    cases event with
    | granted first =>
      rcases List.mem_cons.1 hmem with rfl | hmem
      · exact Nat.lt_succ_of_le hevent.1.le
      · exact Nat.lt_succ_of_lt (ih h hmem)
    | released id => exact Nat.lt_succ_of_lt (ih h (List.mem_filter.1 hmem).1)
    | used id use => exact Nat.lt_succ_of_lt (ih h hmem)

/-- Outstanding grants are told apart by their identities. -/
theorem eq_of_id_eq (h : Sound log) {grant grant' : Grant Holder Tag}
    (hmem : grant ∈ outstanding log) (hmem' : grant' ∈ outstanding log)
    (hid : grant.id = grant'.id) : grant = grant' := by
  induction log with
  | nil => cases hmem
  | cons event log ih =>
    obtain ⟨hevent, h⟩ := h
    cases event with
    | granted first =>
      have hfirst : first.id = log.length := hevent.1
      rcases List.mem_cons.1 hmem with rfl | hold
      · rcases List.mem_cons.1 hmem' with rfl | hold'
        · rfl
        · have hlt := id_lt h hold'
          omega
      · rcases List.mem_cons.1 hmem' with rfl | hold'
        · have hlt := id_lt h hold
          omega
        · exact ih h hold hold'
    | released id => exact ih h (List.mem_filter.1 hmem).1 (List.mem_filter.1 hmem').1
    | used id use => exact ih h hmem hmem'

/-- No holder has two grants. -/
theorem length_held_le (h : Sound log) (holder : Holder) : (held log holder).length ≤ 1 := by
  induction log with
  | nil => exact Nat.zero_le 1
  | cons event log ih =>
    obtain ⟨hevent, h⟩ := h
    cases event with
    | granted grant =>
      by_cases hholder : holder = grant.holder
      · rw [hholder, held_granted_self, hevent.2]
        exact le_rfl
      · rw [held_granted_other hholder]
        exact ih h
    | released id =>
      rw [held_released]
      exact (List.length_filter_le _ _).trans (ih h)
    | used id use => exact ih h

/-! ## Steps of one holder -/

/-- A log that only one holder has gone on with. -/
structure Goes (holder : Holder) (log log' : List (GrantEvent Holder Tag Use)) : Prop where
  sound : Sound log'
  others : ∀ other ≠ holder, held log' other = held log other

theorem Goes.refl (h : Sound log) : Goes holder log log := ⟨h, fun _ _ => rfl⟩

theorem Goes.trans {log' log'' : List (GrantEvent Holder Tag Use)} (h : Goes holder log log')
    (h' : Goes holder log' log'') : Goes holder log log'' :=
  ⟨h'.sound, fun other hother => (h'.others other hother).trans (h.others other hother)⟩

/-- A grant to a holder that has none. -/
theorem grant (h : Sound log) (hheld : held log holder = []) (tag : Tag) :
    Goes holder log (.granted ⟨log.length, holder, tag⟩ :: log) ∧
      held (.granted ⟨log.length, holder, tag⟩ :: log) holder = [⟨log.length, holder, tag⟩] := by
  refine ⟨⟨⟨⟨rfl, hheld⟩, h⟩, fun other hother => held_granted_other hother⟩, ?_⟩
  exact (held_granted_self _).trans (congrArg _ hheld)

variable {grant : Grant Holder Tag}

/-- A holder uses its grant. -/
theorem use (h : Sound log) (hheld : held log holder = [grant]) (use : Use) :
    Goes holder log (.used (some grant.id) use :: log) := by
  have hmem : grant ∈ held log holder := hheld ▸ List.mem_singleton_self grant
  exact ⟨⟨⟨grant, (mem_held.1 hmem).1, rfl⟩, h⟩, fun _ _ => rfl⟩

/-- A holder gives its grant back. -/
theorem release (h : Sound log) (hheld : held log holder = [grant]) :
    Goes holder log (.released grant.id :: log) ∧ held (.released grant.id :: log) holder = [] := by
  have hmem : grant ∈ held log holder := hheld ▸ List.mem_singleton_self grant
  obtain ⟨hout, hholder⟩ := mem_held.1 hmem
  refine ⟨⟨⟨⟨grant, hout, rfl⟩, h⟩, fun other hother => ?_⟩, ?_⟩
  · -- no other holder has a grant of this identity
    rw [held_released, List.filter_eq_self]
    intro grant' hmem'
    obtain ⟨hout', hholder'⟩ := mem_held.1 hmem'
    refine decide_eq_true fun hid => hother ?_
    rw [← hholder', ← hholder, eq_of_id_eq h hout' hout hid]
  · rw [held_released, hheld]
    simp

end Sound

/-! ## Exclusive grants -/

section

variable {Place : Type*} {place : Tag → Place}

omit [DecidableEq Holder]

/-- The system grants no place that is granted. -/
def Exclusive (place : Tag → Place) (log : List (GrantEvent Holder Tag Use)) : Prop :=
  ∀ grant moment, .granted grant :: moment <:+ log →
    ∀ other ∈ outstanding moment, place other.tag ≠ place grant.tag

/-- Then no place is granted twice at any moment. -/
theorem Exclusive.nodup (h : Exclusive place log) :
    ((outstanding log).map fun grant => place grant.tag).Nodup := by
  induction log with
  | nil => exact List.nodup_nil
  | cons event log ih =>
    have hrest : Exclusive place log := fun grant moment hmoment =>
      h grant moment (hmoment.trans (List.suffix_cons event log))
    cases event with
    | granted grant =>
      refine List.nodup_cons.2 ⟨fun hmem => ?_, ih hrest⟩
      obtain ⟨other, hother, hplace⟩ := List.mem_map.1 hmem
      exact h grant log List.suffix_rfl other hother hplace
    | released id => exact (ih hrest).sublist (List.filter_sublist.map _)
    | used id use => exact ih hrest

theorem Exclusive.suffix (h : Exclusive place log) {moment : List (GrantEvent Holder Tag Use)}
    (hm : moment <:+ log) : Exclusive place moment :=
  fun grant earlier hearlier => h grant earlier (hearlier.trans hm)

end

/-! ## What one holder does -/

section

/-- What a holder may do at a moment: to have a grant made of some kind, and to release its grant or
to use it in some way. -/
inductive GrantEvent.By (holder : Holder) (made : Tag → Prop) (done : Use → Prop)
    (moment : List (GrantEvent Holder Tag Use)) : GrantEvent Holder Tag Use → Prop
  | granted (tag : Tag) : made tag → By holder made done moment
      (.granted ⟨moment.length, holder, tag⟩)
  | released (grant : Grant Holder Tag) : grant ∈ held moment holder →
      By holder made done moment (.released grant.id)
  | used (grant : Grant Holder Tag) (use : Use) : grant ∈ held moment holder → done use →
      By holder made done moment (.used (some grant.id) use)

/-- A log that a holder went on with. -/
inductive Grows (holder : Holder) (made : Tag → Prop) (done : Use → Prop)
    (log : List (GrantEvent Holder Tag Use)) : List (GrantEvent Holder Tag Use) → Prop
  | refl : Grows holder made done log log
  | event {moment : List (GrantEvent Holder Tag Use)} {event : GrantEvent Holder Tag Use} :
      Grows holder made done log moment → event.By holder made done moment →
      Grows holder made done log (event :: moment)

namespace Grows

variable {made made' : Tag → Prop} {done done' : Use → Prop}
  {log' log'' : List (GrantEvent Holder Tag Use)}

theorem suffix (h : Grows holder made done log log') : log <:+ log' := by
  induction h with
  | refl => exact List.suffix_rfl
  | event _ _ ih => exact ih.trans (List.suffix_cons _ _)

theorem trans (h : Grows holder made done log log') (h' : Grows holder made done log' log'') :
    Grows holder made done log log'' := by
  induction h' with
  | refl => exact h
  | event _ hevent ih => exact .event ih hevent

theorem mono (h : Grows holder made done log log') (hmade : ∀ tag, made tag → made' tag)
    (hdone : ∀ use, done use → done' use) : Grows holder made' done' log log' := by
  induction h with
  | refl => exact .refl
  | event _ hevent ih =>
    refine .event ih ?_
    cases hevent with
    | granted tag htag => exact .granted tag (hmade tag htag)
    | released grant hgrant => exact .released grant hgrant
    | used grant use hgrant huse => exact .used grant use hgrant (hdone use huse)

/-- What the holder has is of a kind that it had before, or of one that was made. -/
theorem tags (h : Grows holder made done log log')
    (hheld : ∀ grant ∈ held log holder, made grant.tag) :
    ∀ grant ∈ held log' holder, made grant.tag := by
  induction h with
  | refl => exact hheld
  | event _ hevent ih =>
    cases hevent with
    | granted tag htag =>
      intro grant hgrant
      rw [held_granted_self ⟨_, holder, tag⟩] at hgrant
      rcases List.mem_cons.1 hgrant with rfl | hgrant
      · exact htag
      · exact ih grant hgrant
    | released grant _ =>
      intro grant' hgrant'
      rw [held_released] at hgrant'
      exact ih grant' (List.mem_filter.1 hgrant').1
    | used grant use _ _ => exact ih

/-- What others have outstanding, they had before. -/
theorem of_outstanding (h : Grows holder made done log log') {grant : Grant Holder Tag}
    (hgrant : grant ∈ outstanding log') (hother : grant.holder ≠ holder) :
    grant ∈ outstanding log := by
  induction h with
  | refl => exact hgrant
  | event _ hevent ih =>
    cases hevent with
    | granted tag _ =>
      rcases List.mem_cons.1 hgrant with rfl | hgrant
      · exact absurd rfl hother
      · exact ih hgrant
    | released grant' _ => exact ih (List.mem_filter.1 hgrant).1
    | used grant' use _ _ => exact ih hgrant

end Grows

end

/-! ## Exclusion among some holders -/

section

variable {Place : Type*} {place : Tag → Place} {mine : Holder → Prop} {made : Tag → Prop}
  {done : Use → Prop} {log' : List (GrantEvent Holder Tag Use)}

omit [DecidableEq Holder] in
/-- Some holders have no place granted that one of them has. -/
def ExclusiveAmong (mine : Holder → Prop) (place : Tag → Place)
    (log : List (GrantEvent Holder Tag Use)) : Prop :=
  (outstanding log).Pairwise fun grant other =>
    mine grant.holder → mine other.holder → place grant.tag ≠ place other.tag

/-- A holder that asks for places which none of the others has. -/
theorem ExclusiveAmong.grows (h : ExclusiveAmong mine place log)
    (hgrows : Grows holder made done log log') (hsound : Sound log')
    (hfree : ∀ tag, made tag → ∀ other ∈ outstanding log, mine other.holder →
      other.holder ≠ holder → place tag ≠ place other.tag) :
    ∀ moment, log <:+ moment → moment <:+ log' → ExclusiveAmong mine place moment := by
  induction hgrows with
  | refl =>
    intro moment hlog hmoment
    rwa [hmoment.eq_of_length_le hlog.length_le]
  | @event last event hgrows hevent ih =>
    have ih := ih hsound.2
    have hlast := ih last hgrows.suffix List.suffix_rfl
    intro moment hlog hmoment
    rcases List.suffix_cons_iff.1 hmoment with rfl | hmoment
    · cases hevent with
      | granted tag htag =>
        refine List.pairwise_cons.2 ⟨fun other hmem _ hmine => ?_, hlast⟩
        have hnone : held last holder = [] := hsound.1.2
        -- The holder itself has nothing at the moment when it asks.
        have hother : other.holder ≠ holder := by
          intro heq
          have hheld := mem_held.2 ⟨hmem, heq⟩
          rw [hnone] at hheld
          cases hheld
        exact hfree tag htag other (hgrows.of_outstanding hmem hother) hmine hother
      | released grant _ => exact hlast.sublist List.filter_sublist
      | used grant use _ _ => exact hlast
    · exact ih moment hlog hmoment

end

/-! ## The last answer -/

section

variable {β : Type*} {answer : Tag → Use → Option β} {made : Tag → Prop} {done : Use → Prop}
  {log' : List (GrantEvent Holder Tag Use)}

omit [DecidableEq Holder] in
/-- What the last use answered that has an answer. -/
def latest (answer : Tag → Use → Option β) : List (GrantEvent Holder Tag Use) → Option β
  | [] => none
  | .granted _ :: log => latest answer log
  | .released _ :: log => latest answer log
  | .used id use :: log =>
    (((outstanding log).find? fun grant => id = some grant.id).bind fun grant =>
      answer grant.tag use).or (latest answer log)

theorem latest_used (h : Sound log) {grant : Grant Holder Tag} (hgrant : grant ∈ outstanding log)
    (use : Use) : latest answer (.used (some grant.id) use :: log) =
      (answer grant.tag use).or (latest answer log) := by
  have hfind : (outstanding log).find? (fun other => some grant.id = some other.id) =
      some grant := by
    cases hfound : (outstanding log).find? (fun other => some grant.id = some other.id) with
    | none =>
      have hnone := List.find?_eq_none.1 hfound grant hgrant
      simp at hnone
    | some other =>
      have hid := List.find?_some hfound
      simp only [Option.some.injEq, decide_eq_true_eq] at hid
      rw [h.eq_of_id_eq hgrant (List.mem_of_find?_eq_some hfound) hid]
  rw [latest, hfind]
  rfl

/-- Uses that have no answer change nothing. -/
theorem Grows.latest_eq (h : Grows holder made done log log') (hsound : Sound log')
    (hheld : ∀ grant ∈ held log holder, made grant.tag)
    (hmade : ∀ tag, made tag → ∀ use, answer tag use = none) :
    latest answer log' = latest answer log := by
  induction h with
  | refl => rfl
  | event hgrows hevent ih =>
    have ih := ih hsound.2
    cases hevent with
    | granted tag _ => exact ih
    | released grant _ => exact ih
    | used grant use hgrant _ =>
      rw [latest_used hsound.2 (mem_held.1 hgrant).1, hmade _ (hgrows.tags hheld grant hgrant)]
      exact ih

end

end

end FactoryTest
