import FactoryTest.Lib.Program
import Mathlib.Data.List.Basic

/-!
# Plans

A *plan* is a list of steps, each with what is reported if it fails. It is carried out in order up
to the first step that fails, which leaves a trace of the steps with whether they succeeded.

**Order** (`Carried.before`). In the trace of a plan, whatever was begun comes after all that the
plan has before it, and all of that succeeded.

**Programs** (`Follows`). A program follows a plan if it carries out the plan, yields a value if
all of it succeeded, and gives up with the report of the step that failed. Programs that follow
plans one after the other follow the plans one after the other.
-/

namespace FactoryTest

variable {α β : Type}

/-- The trace of a plan that succeeds. -/
def completed (plan : List (α × β)) : List (α × Bool) := plan.map fun step => (step.1, true)

/-- A step failed, after all before it had succeeded. -/
def Stopped (plan : List (α × β)) (report : β) (trace : List (α × Bool)) : Prop :=
  ∃ earlier step later, plan = earlier ++ (step, report) :: later ∧
    trace = completed earlier ++ [(step, false)]

/-- The plan was carried out, as far as it could be. -/
def Carried (plan : List (α × β)) (trace : List (α × Bool)) : Prop :=
  trace = completed plan ∨ ∃ report, Stopped plan report trace

section

variable {plan plan' : List (α × β)} {report : β} {trace : List (α × Bool)}

@[simp] theorem completed_append :
    completed (plan ++ plan') = completed plan ++ completed plan' := List.map_append

theorem stopped_singleton (step : α) (report : β) :
    Stopped [(step, report)] report [(step, false)] :=
  ⟨[], step, [], rfl, rfl⟩

theorem Stopped.append_right (h : Stopped plan report trace) (plan' : List (α × β)) :
    Stopped (plan ++ plan') report trace := by
  obtain ⟨earlier, step, later, rfl, rfl⟩ := h
  exact ⟨earlier, step, later ++ plan', by rw [List.append_assoc, List.cons_append], rfl⟩

theorem Stopped.append_left (h : Stopped plan' report trace) (plan : List (α × β)) :
    Stopped (plan ++ plan') report (completed plan ++ trace) := by
  obtain ⟨earlier, step, later, rfl, rfl⟩ := h
  exact ⟨plan ++ earlier, step, later, by rw [List.append_assoc],
    by rw [completed_append, List.append_assoc]⟩

/-- What comes before an entry of a completed plan. -/
theorem completed_before {before after : List (α × Bool)} {step : α} {ok : Bool}
    (h : completed plan = before ++ (step, ok) :: after) :
    ∃ earlier report later, plan = earlier ++ (step, report) :: later ∧
      before = completed earlier := by
  obtain ⟨earlier, rest, rfl, hbefore, hrest⟩ := List.map_eq_append_iff.1 h
  obtain ⟨⟨step', report⟩, later, rfl, hstep, -⟩ := List.map_eq_cons_iff.1 hrest
  obtain rfl : step' = step := congrArg Prod.fst hstep
  exact ⟨earlier, report, later, rfl, hbefore.symm⟩

/-- Everything that the plan has before a step succeeded before that step was begun. -/
theorem Carried.before (h : Carried plan trace) {before after : List (α × Bool)} {step : α}
    {ok : Bool} (htrace : trace = before ++ (step, ok) :: after) :
    ∃ earlier report later, plan = earlier ++ (step, report) :: later ∧
      before = completed earlier := by
  rcases h with rfl | ⟨report, earlier, stopped, later, rfl, rfl⟩
  · exact completed_before htrace
  · rcases List.eq_nil_or_concat after with rfl | ⟨after, last, rfl⟩
    · obtain ⟨hbefore, hlast⟩ := List.append_inj' htrace rfl
      obtain rfl : stopped = step := congrArg Prod.fst (List.singleton_inj.1 hlast)
      exact ⟨earlier, report, later, rfl, hbefore.symm⟩
    · rw [List.concat_eq_append, ← List.cons_append, ← List.append_assoc] at htrace
      obtain ⟨hearlier, -⟩ := List.append_inj' htrace rfl
      obtain ⟨earlier', report', later', rfl, hbefore⟩ := completed_before hearlier
      exact ⟨earlier', report', later' ++ (stopped, report) :: later,
        by rw [List.append_assoc, List.cons_append], hbefore⟩

end

/-! ## Programs -/

namespace Program

variable {σ : Type} (Did : List (α × Bool) → σ → Prop) (Failed : β → List (α × Bool) → σ → Prop)

/-- The program carries out the plan, whatever was done before. -/
def Follows (plan : List (α × β)) (m : Program σ Unit) : Prop :=
  ∀ done, Triple (Did done) m (fun _ => Did (done ++ completed plan)) fun s =>
    ∃ report trace, Stopped plan report trace ∧ Failed report (done ++ trace) s

variable {Did Failed} {plan plan' : List (α × β)} {m n : Program σ Unit}

/-- What leaves no trace. -/
theorem follows_nil (h : ∀ done, Triple (Did done) m (fun _ => Did done) fun _ => False) :
    Follows Did Failed [] m := by
  intro done
  rw [completed, List.map_nil, List.append_nil]
  exact (h done).escape fun _ => False.elim

theorem follows_step {step : α} {report : β}
    (h : ∀ done, Triple (Did done) m (fun _ => Did (done ++ [(step, true)]))
      (Failed report (done ++ [(step, false)]))) :
    Follows Did Failed [(step, report)] m :=
  fun done => (h done).escape fun _ hfailed => ⟨report, _, stopped_singleton step report, hfailed⟩

theorem Follows.bind (hm : Follows Did Failed plan m) (hn : Follows Did Failed plan' n) :
    Follows Did Failed (plan ++ plan') (do m; n) := by
  intro done
  refine ((hm done).escape ?_).bind fun _ => ((hn (done ++ completed plan)).post ?_).escape ?_
  · rintro s ⟨report, trace, hstopped, hfailed⟩
    exact ⟨report, trace, hstopped.append_right plan', hfailed⟩
  · intro _ s hdone
    rwa [completed_append, ← List.append_assoc]
  · rintro s ⟨report, trace, hstopped, hfailed⟩
    refine ⟨report, _, hstopped.append_left plan, ?_⟩
    rwa [← List.append_assoc]

end Program

end FactoryTest
