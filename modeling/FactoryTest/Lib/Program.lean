import Mathlib.Tactic.Common

/-!
# Programs that may give up

A *program* over states yields a value or gives up, and moves to a new state either way: a
function that returns false in the middle leaves the state as it is at that point.

**Triples** (`Triple P m Q E`). From a state that meets `P`, the program yields a value and a
state related by `Q`, or gives up in a state that meets `E`. There is a rule for each way to
build programs, and a rule of consequence.

**Loops** (`loop`). A loop tests, runs its body and starts over while the body says so; it is
bounded by fuel. An invariant of one round is an invariant of the loop (`triple_loop`), and fuel
above a measure that every round lowers is never used up (`triple_loop_until`).
-/

namespace FactoryTest

/-- A program over states `σ`. -/
def Program (σ α : Type) := σ → Option α × σ

namespace Program

variable {σ α β γ : Type}

instance : Monad (Program σ) where
  pure a := fun s => (some a, s)
  bind m f := fun s =>
    match m s with
    | (some a, s') => f a s'
    | (none, s') => (none, s')

/-- The program that gives up at once. -/
def giveUp : Program σ α := fun s => (none, s)

/-- A program goes on only if the condition holds. -/
def proceed (c : Bool) : Program σ Unit := if c then pure () else giveUp

/-- The state. -/
def get : Program σ σ := fun s => (some s, s)

/-- The program runs, and giving up is an answer. -/
def attempt (m : Program σ α) : Program σ (Option α) := fun s => (some (m s).1, (m s).2)

/-- The second program runs if the first one gives up. -/
def otherwise (m n : Program σ α) : Program σ α := fun s =>
  match m s with
  | (some a, s') => (some a, s')
  | (none, s') => n s'

/-- The scope of an object: its destructor runs whichever way the scope is left. -/
def scope (m : Program σ α) (destructor : σ → σ) : Program σ α := fun s =>
  ((m s).1, destructor (m s).2)

/-- While the test is met the body runs; it goes on with a new value or leaves the loop. -/
def loop (test : Program σ Bool) (body : β → Program σ (β ⊕ α)) : ℕ → β → Program σ (β ⊕ α)
  | 0, b => pure (.inl b)
  | fuel + 1, b => do
    if ← test then
      match ← body b with
      | .inl b' => loop test body fuel b'
      | .inr a => pure (.inr a)
    else pure (.inl b)

theorem bind_apply (m : Program σ α) (f : α → Program σ β) (s : σ) :
    (m >>= f) s = match m s with
      | (some a, s') => f a s'
      | (none, s') => (none, s') := rfl

/-- A round of a loop. -/
theorem loop_round {test : Program σ Bool} {body : β → Program σ (β ⊕ α)} {s s' : σ}
    (htest : test s = (some true, s')) (fuel : ℕ) (b : β) :
    loop test body (fuel + 1) b s = match body b s' with
      | (some (.inl b'), s'') => loop test body fuel b' s''
      | (some (.inr a), s'') => (some (.inr a), s'')
      | (none, s'') => (none, s'') := by
  rw [loop, bind_apply, htest]
  dsimp only
  rw [if_pos rfl, bind_apply]
  rcases body b s' with ⟨_ | b' | a, s''⟩ <;> rfl

theorem bind_assoc (m : Program σ α) (f : α → Program σ β) (g : β → Program σ γ) :
    m >>= f >>= g = m >>= fun a => f a >>= g := by
  funext s
  rw [bind_apply, bind_apply, bind_apply]
  rcases m s with ⟨_ | a, s'⟩ <;> rfl

/-! ## Triples -/

/-- From `P`, the program yields a value with `Q` or gives up with `E`. -/
def Triple (P : σ → Prop) (m : Program σ α) (Q : α → σ → Prop) (E : σ → Prop) : Prop :=
  ∀ s, P s →
    match m s with
    | (some a, s') => Q a s'
    | (none, s') => E s'

variable {P P' : σ → Prop} {m : Program σ α} {Q Q' : α → σ → Prop} {E E' : σ → Prop}

/-- A program that never gives up yields a value. -/
theorem Triple.yields (hm : Triple P m Q fun _ => False) {s : σ} (hs : P s) :
    ∃ a s', m s = (some a, s') ∧ Q a s' := by
  have h := hm s hs
  cases hr : m s with
  | mk r s' =>
    rw [hr] at h
    cases r with
    | none => exact False.elim h
    | some a => exact ⟨a, s', rfl, h⟩

theorem triple_true : Triple P m (fun _ _ => True) fun _ => True := by
  intro s _
  cases hr : m s with
  | mk r s' => cases r <;> trivial

theorem triple_pure {a : α} (h : ∀ s, P s → Q a s) : Triple P (pure a) Q E := h

theorem triple_giveUp (h : ∀ s, P s → E s) : Triple P (giveUp : Program σ α) Q E := h

theorem Triple.bind {f : α → Program σ β} {R : β → σ → Prop} (hm : Triple P m Q E)
    (hf : ∀ a, Triple (Q a) (f a) R E) : Triple P (m >>= f) R E := by
  intro s hs
  have h := hm s hs
  rw [bind_apply]
  cases hr : m s with
  | mk r s' =>
    rw [hr] at h
    cases r with
    | none => exact h
    | some a => exact hf a s' h

/-- The rule of consequence. -/
theorem Triple.mono (hm : Triple P m Q E) (hP : ∀ s, P' s → P s) (hQ : ∀ a s, Q a s → Q' a s)
    (hE : ∀ s, E s → E' s) : Triple P' m Q' E' := by
  intro s hs
  have h := hm s (hP s hs)
  cases hr : m s with
  | mk r s' =>
    rw [hr] at h
    cases r with
    | none => exact hE s' h
    | some a => exact hQ a s' h

theorem Triple.post (hm : Triple P m Q E) (hQ : ∀ a s, Q a s → Q' a s) : Triple P m Q' E :=
  hm.mono (fun _ h => h) hQ fun _ h => h

theorem Triple.pre (hm : Triple P m Q E) (hP : ∀ s, P' s → P s) : Triple P' m Q E :=
  hm.mono hP (fun _ _ h => h) fun _ h => h

theorem Triple.escape (hm : Triple P m Q E) (hE : ∀ s, E s → E' s) : Triple P m Q E' :=
  hm.mono (fun _ h => h) (fun _ _ h => h) hE

/-- Two triples of one program. -/
theorem Triple.and {P₂ : σ → Prop} {Q₂ : α → σ → Prop} {E₂ : σ → Prop} (hm : Triple P m Q E)
    (hm₂ : Triple P₂ m Q₂ E₂) :
    Triple (fun s => P s ∧ P₂ s) m (fun a s => Q a s ∧ Q₂ a s) (fun s => E s ∧ E₂ s) := by
  intro s hs
  have h := hm s hs.1
  have h₂ := hm₂ s hs.2
  cases hr : m s with
  | mk r s' =>
    rw [hr] at h h₂
    cases r with
    | none => exact ⟨h, h₂⟩
    | some a => exact ⟨h, h₂⟩

/-- A second triple that says nothing of how the program gives up. -/
theorem Triple.beside {P₂ : σ → Prop} {Q₂ : α → σ → Prop} (hm : Triple P m Q E)
    (hm₂ : Triple P₂ m Q₂ fun _ => True) :
    Triple (fun s => P s ∧ P₂ s) m (fun a s => Q a s ∧ Q₂ a s) E :=
  (hm.and hm₂).escape fun _ h => h.1

theorem Triple.or (hm : Triple P m Q E) (hm' : Triple P' m Q E) :
    Triple (fun s => P s ∨ P' s) m Q E :=
  fun s hs => hs.elim (hm s) (hm' s)

theorem triple_proceed {c : Bool} (hE : c = false → ∀ s, P s → E s) :
    Triple P (proceed c) (fun _ s => c = true ∧ P s) E := by
  intro s hs
  cases c with
  | true => exact ⟨rfl, hs⟩
  | false => exact hE rfl s hs

theorem triple_attempt (hm : Triple P m Q E) {R : Option α → σ → Prop}
    (hsome : ∀ a s, Q a s → R (some a) s) (hnone : ∀ s, E s → R none s) :
    Triple P m.attempt R E' := by
  intro s hs
  have h := hm s hs
  show R (m s).1 (m s).2
  cases hr : m s with
  | mk r s' =>
    rw [hr] at h
    cases r with
    | none => exact hnone s' h
    | some a => exact hsome a s' h

/-- The answer tells how the program ended. -/
theorem Triple.attempt (hm : Triple P m Q E) :
    Triple P m.attempt (fun r s => r.elim (E s) fun a => Q a s) E' :=
  triple_attempt hm (fun _ _ h => h) fun _ h => h

/-- A program that ends the same way with and without a value. -/
theorem triple_attempt_same {R : σ → Prop} (hm : Triple P m (fun _ => R) R) :
    Triple P m.attempt (fun _ => R) E' :=
  triple_attempt hm (fun _ _ h => h) fun _ h => h

/-- What holds of the state however the program ends. -/
theorem Triple.ends {R : σ → Prop} (hm : Triple P m (fun _ => R) R) {s : σ} (hs : P s) :
    R (m s).2 := by
  have h := hm s hs
  cases hr : m s with
  | mk r s' =>
    rw [hr] at h
    cases r with
    | none => exact h
    | some a => exact h

/-- What a program keeps however it ends. -/
def Keeps (P : σ → Prop) (m : Program σ α) : Prop := Triple P m (fun _ => P) P

theorem Keeps.apply (hm : Keeps P m) {s : σ} (hs : P s) : P (m s).2 := Triple.ends hm hs

theorem Triple.otherwise {n : Program σ α} (hm : Triple P m Q E) (hn : Triple E n Q E') :
    Triple P (m.otherwise n) Q E' := by
  intro s hs
  have h := hm s hs
  unfold Program.otherwise
  cases hr : m s with
  | mk r s' =>
    rw [hr] at h
    cases r with
    | none => exact hn s' h
    | some a => exact h

theorem Triple.scope {destructor : σ → σ} (hm : Triple P m Q E)
    (hQ : ∀ a s, Q a s → Q' a (destructor s)) (hE : ∀ s, E s → E' (destructor s)) :
    Triple P (m.scope destructor) Q' E' := by
  intro s hs
  have h := hm s hs
  unfold Program.scope
  cases hr : m s with
  | mk r s' =>
    rw [hr] at h
    cases r with
    | none => exact hE s' h
    | some a => exact hQ a s' h

theorem triple_ite {c : Prop} [Decidable c] {n : Program σ α} (ht : c → Triple P m Q E)
    (he : ¬ c → Triple P n Q E) : Triple P (if c then m else n) Q E := by
  split
  · exact ht ‹_›
  · exact he ‹_›

/-- What the precondition says besides the state may be assumed. -/
theorem triple_of_pre {p : Prop} (h : p → Triple P m Q E) : Triple (fun s => p ∧ P s) m Q E :=
  fun s hs => h hs.1 s hs.2

theorem triple_exists {ι : Type} {P : ι → σ → Prop} (h : ∀ i, Triple (P i) m Q E) :
    Triple (fun s => ∃ i, P i s) m Q E :=
  fun s ⟨i, hi⟩ => h i s hi

/-- What every round keeps, the loop keeps. -/
theorem triple_loop {test : Program σ Bool} {body : β → Program σ (β ⊕ α)} {I : β → σ → Prop}
    (htest : ∀ b, Triple (I b) test (fun _ => I b) E)
    (hbody : ∀ b, Triple (I b) (body b) (fun r => r.elim I Q) E) (fuel : ℕ) (b : β) :
    Triple (I b) (loop test body fuel b) (fun r => r.elim I Q) E := by
  induction fuel generalizing b with
  | zero => exact triple_pure fun _ h => h
  | succ fuel ih =>
    refine (htest b).bind fun more => ?_
    cases more with
    | false => exact triple_pure fun _ h => h
    | true =>
      refine (hbody b).bind fun r => ?_
      cases r with
      | inl b' => exact ih b'
      | inr a => exact triple_pure fun _ h => h

/-- If every round lowers a measure, a loop with fuel above it is left by the test or the body. -/
theorem triple_loop_until {test : Program σ Bool} {body : β → Program σ (β ⊕ α)}
    {I D : β → σ → Prop}
    (measure : σ → ℕ)
    (htest : ∀ b n, Triple (fun s => I b s ∧ measure s ≤ n) test
      (fun more s => if more then I b s ∧ measure s ≤ n ∧ 0 < measure s else D b s) E)
    (hbody : ∀ b n, Triple (fun s => I b s ∧ measure s ≤ n + 1) (body b)
      (fun r s => r.elim (fun b' => I b' s ∧ measure s ≤ n) fun a => Q a s) E) (fuel : ℕ) (b : β) :
    Triple (fun s => I b s ∧ measure s < fuel) (loop test body fuel b) (fun r => r.elim D Q) E := by
  induction fuel generalizing b with
  | zero => exact fun s hs => absurd hs.2 (Nat.not_lt_zero _)
  | succ fuel ih =>
    refine ((htest b fuel).pre fun s hs => ⟨hs.1, Nat.le_of_lt_succ hs.2⟩).bind fun more => ?_
    cases more with
    | false => exact triple_pure fun _ h => h
    | true =>
      cases fuel with
      | zero => exact fun s hs => absurd (Nat.lt_of_lt_of_le hs.2.2 hs.2.1) (Nat.lt_irrefl 0)
      | succ fuel =>
        refine ((hbody b fuel).pre fun s hs => ⟨hs.1, hs.2.1⟩).bind fun r => ?_
        cases r with
        | inl b' => exact (ih b').pre fun s hs => ⟨hs.1, Nat.lt_succ_of_le hs.2⟩
        | inr a => exact triple_pure fun _ h => h

end Program

end FactoryTest
