import Mathlib.Data.List.Induction
import Mathlib.Data.Option.Basic

/-!
# Monitors

A *monitor* reads a history entry by entry. In each of its states it says which entries may come
next, so a history is good if the monitor can read all of it.

**Prefixes** (`At.allowed`). What is read of a good history is good, so a rule holds at every
moment of a run if the monitor reads the whole run.

**Since** (`Since`). What a state remembers of the history: an entry, and that nothing of some kind
came after it.
-/

namespace FactoryTest

/-- What may come next in each state, and the state after it. -/
structure Monitor (σ ο : Type) where
  init : σ
  step : σ → ο → Option σ

namespace Monitor

variable {σ ο : Type} (M : Monitor σ ο)

/-- The state after some entries, if they may come. -/
def run (s : σ) : List ο → Option σ
  | [] => some s
  | o :: os => (M.step s o).bind fun s' => run s' os

/-- The history may be seen, and leads to the state. -/
def At (s : σ) (h : List ο) : Prop := M.run M.init h = some s

variable {M} {s s' : σ} {h os : List ο} {o : ο}

theorem run_append (s : σ) (os os' : List ο) :
    M.run s (os ++ os') = (M.run s os).bind fun s' => M.run s' os' := by
  induction os generalizing s with
  | nil => rfl
  | cons o os ih =>
    rw [List.cons_append, run, run, Option.bind_assoc]
    exact congrArg _ (funext ih)

theorem at_nil : M.At M.init [] := rfl

theorem At.append (hs : M.At s h) (hos : M.run s os = some s') : M.At s' (h ++ os) := by
  rw [At, run_append, hs]
  exact hos

theorem At.concat (hs : M.At s h) (ho : M.step s o = some s') : M.At s' (h ++ [o]) :=
  hs.append (by rw [run, ho]; rfl)

/-- Every entry of a good history may come after what precedes it. -/
theorem At.allowed {before after : List ο} (hs : M.At s (before ++ o :: after)) :
    ∃ s' s'', M.At s' before ∧ M.step s' o = some s'' := by
  rw [At, run_append, Option.bind_eq_some_iff] at hs
  obtain ⟨s', hbefore, hrest⟩ := hs
  obtain ⟨s'', ho, -⟩ := Option.bind_eq_some_iff.1 hrest
  exact ⟨s', s'', hbefore, ho⟩

/-- What holds at first and is kept by every entry that may come holds of every good history. -/
theorem At.induction {P : σ → List ο → Prop} (hinit : P M.init [])
    (hstep : ∀ s s' h o, P s h → M.step s o = some s' → P s' (h ++ [o])) (hs : M.At s h) :
    P s h := by
  induction h using List.reverseRecOn generalizing s with
  | nil => exact Option.some.inj hs ▸ hinit
  | append_singleton h o ih =>
    rw [At, run_append, Option.bind_eq_some_iff] at hs
    obtain ⟨s', hbefore, ho⟩ := hs
    obtain ⟨s'', hs'', hend⟩ := Option.bind_eq_some_iff.1 ho
    exact hstep s' s h o (ih hbefore) (hs''.trans hend)

/-! ## Since -/

/-- There was an entry of the first kind, and none of the second kind since. -/
def Since (p q : ο → Prop) (h : List ο) : Prop :=
  ∃ earlier o later, h = earlier ++ o :: later ∧ p o ∧ ∀ o' ∈ later, ¬ q o'

theorem since_concat {p q : ο → Prop} (ho : p o) : Since p q (h ++ [o]) :=
  ⟨h, o, [], rfl, ho, fun _ hmem => absurd hmem List.not_mem_nil⟩

theorem Since.concat {p q : ο → Prop} (hh : Since p q h) (ho : ¬ q o) : Since p q (h ++ [o]) := by
  obtain ⟨earlier, o', later, rfl, ho', hlater⟩ := hh
  refine ⟨earlier, o', later ++ [o], by simp, ho', fun o'' hmem => ?_⟩
  rcases List.mem_append.1 hmem with hmem | hmem
  · exact hlater o'' hmem
  · exact List.mem_singleton.1 hmem ▸ ho

end Monitor

end FactoryTest
