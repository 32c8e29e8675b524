import Mathlib.Tactic.Common

/-!
# Runs of a machine that leaves a history

A *machine* answers an event by moving to a new state and by showing an observer a few things.
The observations of a run are appended to a history, so a property of a run is a property of
the last configuration: the state reached together with everything observed on the way.

**Conditions on a run** (`Along`). A condition relates the configuration before a step to the
event of that step; a run meets it when each of its steps does. Prefixes of a run that meets
the condition meet it too (`Along.left`), so a fact proved of the last configuration holds of
every configuration the run passes through.

**Induction** (`invariant`, `run_invariant`). What one step preserves, a run preserves.
-/

namespace FactoryTest

/-- A deterministic machine: states `σ`, events `ε`, observations `ο`. -/
structure Machine (σ ε ο : Type*) where
  step : σ → ε → σ × List ο

/-- A state together with everything observed so far. -/
structure Config (σ ο : Type*) where
  state : σ
  history : List ο

namespace Machine

variable {σ ε ο : Type*} (M : Machine σ ε ο)

/-- One step of a run: the observations of the step are appended to the history. -/
def next (c : Config σ ο) (e : ε) : Config σ ο :=
  ⟨(M.step c.state e).1, c.history ++ (M.step c.state e).2⟩

/-- A whole run. -/
def run (c : Config σ ο) : List ε → Config σ ο
  | [] => c
  | e :: es => run (M.next c e) es

@[simp] theorem run_nil (c : Config σ ο) : M.run c [] = c := rfl

@[simp] theorem run_cons (c : Config σ ο) (e : ε) (es : List ε) :
    M.run c (e :: es) = M.run (M.next c e) es := rfl

theorem run_append (c : Config σ ο) (es fs : List ε) :
    M.run c (es ++ fs) = M.run (M.run c es) fs := by
  induction es generalizing c with
  | nil => rfl
  | cons e es ih => exact ih (M.next c e)

/-- The history only grows. -/
theorem history_prefix (c : Config σ ο) (es : List ε) :
    c.history <+: (M.run c es).history := by
  induction es generalizing c with
  | nil => exact List.prefix_refl _
  | cons e es ih => exact (List.prefix_append _ _).trans (ih (M.next c e))

/-! ## Conditions on every step of a run -/

variable {M}

/-- Every step of the run meets `G`, a condition on the configuration before the step and on
its event. -/
def Along (M : Machine σ ε ο) (G : Config σ ο → ε → Prop) : Config σ ο → List ε → Prop
  | _, [] => True
  | c, e :: es => G c e ∧ Along M G (M.next c e) es

instance decidableAlong (G : Config σ ο → ε → Prop) [∀ c e, Decidable (G c e)] :
    ∀ (c : Config σ ο) (es : List ε), Decidable (M.Along G c es)
  | _, [] => instDecidableTrue
  | c, e :: es =>
    have := decidableAlong G (M.next c e) es
    inferInstanceAs (Decidable (G c e ∧ M.Along G (M.next c e) es))

theorem along_append {G : Config σ ο → ε → Prop} {c : Config σ ο} {es fs : List ε} :
    M.Along G c (es ++ fs) ↔ M.Along G c es ∧ M.Along G (M.run c es) fs := by
  induction es generalizing c with
  | nil => exact (true_and _).symm ▸ Iff.rfl
  | cons e es ih =>
    show G c e ∧ M.Along G (M.next c e) (es ++ fs) ↔ _
    rw [ih, ← and_assoc]
    rfl

theorem Along.left {G : Config σ ο → ε → Prop} {c : Config σ ο} {es fs : List ε}
    (h : M.Along G c (es ++ fs)) : M.Along G c es := (along_append.1 h).1

theorem Along.mono {G H : Config σ ο → ε → Prop} (hGH : ∀ c e, G c e → H c e)
    {c : Config σ ο} {es : List ε} (h : M.Along G c es) : M.Along H c es := by
  induction es generalizing c with
  | nil => trivial
  | cons e es ih => exact ⟨hGH c e h.1, ih h.2⟩

/-- A condition on the events alone. -/
theorem along_of_forall {P : ε → Prop} {c : Config σ ο} {es : List ε} (h : ∀ e ∈ es, P e) :
    M.Along (fun _ e => P e) c es := by
  induction es generalizing c with
  | nil => trivial
  | cons e es ih =>
    obtain ⟨he, hes⟩ := List.forall_mem_cons.1 h
    exact ⟨he, ih hes⟩

/-! ## Induction on runs -/

/-- What every step that meets `G` preserves, a run along `G` preserves. -/
theorem invariant {G : Config σ ο → ε → Prop} {I : Config σ ο → Prop}
    (hstep : ∀ c e, I c → G c e → I (M.next c e)) {c : Config σ ο} {es : List ε} (hc : I c)
    (hes : M.Along G c es) : I (M.run c es) := by
  induction es generalizing c with
  | nil => exact hc
  | cons e es ih => exact ih (hstep c e hc hes.1) hes.2

/-- What every step preserves, every run preserves. -/
theorem run_invariant {I : Config σ ο → Prop} (hstep : ∀ c e, I c → I (M.next c e))
    {c : Config σ ο} (hc : I c) (es : List ε) : I (M.run c es) := by
  induction es generalizing c with
  | nil => exact hc
  | cons e es ih => exact ih (hstep c e hc)

/-! ## Relations between two points of a run -/

theorem along_congr {G H : Config σ ο → ε → Prop} (hGH : ∀ c e, G c e ↔ H c e)
    {c : Config σ ο} {es : List ε} : M.Along G c es ↔ M.Along H c es :=
  ⟨Along.mono fun c e => (hGH c e).1, Along.mono fun c e => (hGH c e).2⟩

/-- Two conditions that agree wherever an invariant holds which the first one keeps. -/
theorem along_iff {I : Config σ ο → Prop} {G H : Config σ ο → ε → Prop}
    (hstep : ∀ c e, I c → G c e → I (M.next c e)) (hGH : ∀ c e, I c → (G c e ↔ H c e))
    {c : Config σ ο} (hc : I c) (es : List ε) : M.Along G c es ↔ M.Along H c es := by
  induction es generalizing c with
  | nil => exact Iff.rfl
  | cons e es ih =>
    exact ⟨fun h => ⟨(hGH c e hc).1 h.1, (ih (hstep c e hc h.1)).1 h.2⟩,
      fun h => have he := (hGH c e hc).2 h.1; ⟨he, (ih (hstep c e hc he)).2 h.2⟩⟩

/-- Along a run that meets `A`, two conditions agree if they do wherever an invariant holds which
`A` keeps. -/
theorem along_iff_along {I : Config σ ο → Prop} {A G H : Config σ ο → ε → Prop}
    (hstep : ∀ c e, I c → A c e → I (M.next c e))
    (hGH : ∀ c e, I c → A c e → (G c e ↔ H c e)) {c : Config σ ο} (hc : I c) {es : List ε}
    (hes : M.Along A c es) : M.Along G c es ↔ M.Along H c es := by
  induction es generalizing c with
  | nil => exact Iff.rfl
  | cons e es ih =>
    exact and_congr (hGH c e hc hes.1) (ih (hstep c e hc hes.1) hes.2)

/-- What holds at the start of a run holds everywhere on it iff every step leads to it. -/
theorem everywhere_iff_along {P : Config σ ο → Prop} {c : Config σ ο} (hc : P c) {es : List ε} :
    (∀ before after, es = before ++ after → P (M.run c before)) ↔
      M.Along (fun c e => P (M.next c e)) c es := by
  constructor
  · intro h
    induction es generalizing c with
    | nil => trivial
    | cons e es ih =>
      have he : P (M.next c e) := h [e] es rfl
      refine ⟨he, ih he fun before after heq => ?_⟩
      exact h (e :: before) after (by rw [heq]; rfl)
  · rintro h before after rfl
    exact invariant (fun _ _ _ hnext => hnext) hc h.left

/-- A preorder relates every point of a run to every later one iff it relates each step's
states. -/
theorem between_iff_along {R : σ → σ → Prop} (hrefl : ∀ s, R s s)
    (htrans : ∀ s s' s'', R s s' → R s' s'' → R s s'') {c : Config σ ο} {es : List ε} :
    (∀ before middle after, es = before ++ middle ++ after →
      R (M.run c before).state (M.run c (before ++ middle)).state) ↔
      M.Along (fun c e => R c.state (M.next c e).state) c es := by
  constructor
  · intro h
    induction es generalizing c with
    | nil => trivial
    | cons e es ih =>
      refine ⟨h [] [e] es rfl, ih fun before middle after heq => ?_⟩
      exact h (e :: before) middle after (by rw [heq]; rfl)
  · rintro h before middle after rfl
    have hmiddle := (along_append.1 h.left).2
    clear h
    rw [run_append]
    generalize M.run c before = d at hmiddle ⊢
    induction middle generalizing d with
    | nil => exact hrefl _
    | cons e middle ih => exact htrans _ _ _ hmiddle.1 (ih _ hmiddle.2)

end Machine

end FactoryTest
