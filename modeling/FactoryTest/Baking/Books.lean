import FactoryTest.Baking.Service
import Mathlib.Tactic.Common

/-!
# The books of the baking service

**The property** (`KeepsBooks`). After every step the flag of a workload is set exactly if one
child runs it, no workload is run by two children, and a child is crossed off only when `waitpid`
has reported it as exited or unknown.

**Where it fails.** A child may outlive `SIGKILL` and the bounded wait behind it. The next cycle
then clears the flag of its workload and launches the workload once more
(`stuck_child_breaks_books`); `stop` clears the flags as well, and `start` forgets the child.

**Where it holds** (`books_kept_iff`). Exactly if no child is left whenever the flags are cleared
or the list is. The proof carries the invariant `Inv`: besides the books, what the worker is about
to launch has no child.
-/

namespace FactoryTest.Baking

/-! ## The property -/

/-- How many children run the workload. -/
def children_of (children : List ChildProcess) (i : WorkloadIndex) : ℕ :=
  children.countP (·.workload_index = i)

/-- The flags and the list of children agree, and no workload has two children. -/
structure Books (s : BakingPiService) : Prop where
  flag : ∀ i, s.snapshot.workload_running i = true ↔ children_of s.child_processes i = 1
  single : ∀ i, children_of s.child_processes i ≤ 1

/-- `waitpid` reports that the child has exited or is unknown. -/
def Obs.Reports (pid : ℕ) (o : Obs) : Prop :=
  o = .waitpid pid .unknown ∨ ∃ status, o = .waitpid pid (.exited status)

/-- What a step must do. -/
structure KeepsBooks (c : Config BakingPiService Obs) (e : Event) : Prop where
  books : Books (service.next c e).state
  /-- A child that is no longer in the list was reported in this step. -/
  reported : ∀ child ∈ c.state.child_processes,
    child ∉ (service.next c e).state.child_processes → ∃ o ∈ (step c.state e).2, o.Reports child.pid

/-- The step clears the flags, or the list. -/
def Clears (s : BakingPiService) : Event → Prop
  | .start => s.stopping = .idle ∧ s.running = false
  | .stop => False
  | .stop_proceed _ => s.stopping = .clearing
  | .work _ => s.worker = .at .cycle ∧ s.stop_requested = false

/-- A child is left when the flags or the list are cleared. -/
def ClearsLeft (c : Config BakingPiService Obs) (e : Event) : Prop :=
  Clears c.state e ∧ c.state.child_processes ≠ []

/-! ## Flags -/

@[simp] theorem workload_running_set (s : BakingPiSnapshot) (i j : WorkloadIndex) (b : Bool) :
    (s.set_workload_running i b).workload_running j =
      if i = j then b else s.workload_running j := by
  cases i <;> cases j <;> rfl

@[simp] theorem workload_running_clear (s : BakingPiSnapshot) (i : WorkloadIndex) :
    s.clear_workloads.workload_running i = false := by cases i <;> rfl

@[simp] theorem workload_running_recount (s : BakingPiSnapshot) (n : ℕ) (i : WorkloadIndex) :
    ({ s with restart_count := n } : BakingPiSnapshot).workload_running i =
      s.workload_running i := by cases i <;> rfl

/-! ## Counting -/

@[simp] theorem children_of_nil (i : WorkloadIndex) : children_of [] i = 0 := rfl

theorem children_of_cons (child : ChildProcess) (children : List ChildProcess) (i : WorkloadIndex) :
    children_of (child :: children) i =
      children_of children i + if child.workload_index = i then 1 else 0 := by
  simp [children_of, List.countP_cons]

theorem children_of_concat (children : List ChildProcess) (pid : ℕ) (i j : WorkloadIndex) :
    children_of (children ++ [⟨pid, i⟩]) j =
      children_of children j + if i = j then 1 else 0 := by
  simp [children_of, List.countP_append, List.countP_cons]

theorem children_of_pos {child : ChildProcess} {children : List ChildProcess}
    (h : child ∈ children) : 0 < children_of children child.workload_index :=
  List.countP_pos_iff.2 ⟨child, h, by simp⟩

/-- The flag of each workload says how many children it has: one or none. -/
def Tally (children : List ChildProcess) (snapshot : BakingPiSnapshot) : Prop :=
  ∀ i, children_of children i = if snapshot.workload_running i then 1 else 0

theorem Tally.books {s : BakingPiService} (h : Tally s.child_processes s.snapshot) : Books s where
  flag i := by
    rw [h i]
    cases s.snapshot.workload_running i <;> simp
  single i := by
    rw [h i]
    split <;> omega

/-- A change of the snapshot that leaves the flags alone. -/
theorem Tally.of_flags {children : List ChildProcess} {snapshot snapshot' : BakingPiSnapshot}
    (h : Tally children snapshot)
    (hflags : ∀ i, snapshot'.workload_running i = snapshot.workload_running i) :
    Tally children snapshot' := by
  intro i
  rw [hflags, h i]

/-- A workload without children is launched. -/
theorem Tally.launch {children : List ChildProcess} {snapshot : BakingPiSnapshot}
    (h : Tally children snapshot) {i : WorkloadIndex} (hi : snapshot.workload_running i = false)
    (pid : ℕ) : Tally (children ++ [⟨pid, i⟩]) (snapshot.set_workload_running i true) := by
  intro j
  rw [children_of_concat, h j, workload_running_set]
  by_cases hij : i = j
  · simp [← hij, hi]
  · simp [hij]

/-! ## Reaping -/

section Reap

variable {waitpid : ℕ → WaitResult}

/-- The exits of a workload. -/
def exits_of (exited : List WorkloadExit) (i : WorkloadIndex) : ℕ :=
  (exited.map (·.workload_index)).count i

/-- Every child is kept, or exits and clears its flag. -/
theorem reap_loop_spec (children : List ChildProcess) (snapshot : BakingPiSnapshot)
    (i : WorkloadIndex) :
    let reaped := BakingPiService.reap_loop waitpid children snapshot
    children_of reaped.1 i + exits_of reaped.2.2 i = children_of children i ∧
      reaped.2.1.workload_running i =
        (snapshot.workload_running i && exits_of reaped.2.2 i = 0) := by
  induction children generalizing snapshot with
  | nil => simp [BakingPiService.reap_loop, exits_of]
  | cons child children ih =>
    have hkeep := ih snapshot
    have herase := ih (snapshot.set_workload_running child.workload_index false)
    have hexits : ∀ status (exited : List WorkloadExit),
        exits_of (⟨child.workload_index, status⟩ :: exited) i =
          exits_of exited i + if child.workload_index = i then 1 else 0 := by
      intro status exited
      simp [exits_of, List.count_cons]
    simp only [workload_running_set] at herase
    rw [children_of_cons]
    cases hw : waitpid child.pid <;> simp only [BakingPiService.reap_loop, hw]
    case running | error =>
      rw [children_of_cons]
      exact ⟨by omega, hkeep.2⟩
    case exited status | unknown =>
      rw [hexits]
      refine ⟨by omega, ?_⟩
      rw [herase.2]
      by_cases hi : child.workload_index = i <;> simp [hi]

/-- A child that is not kept was reported. -/
theorem reap_loop_reported {children : List ChildProcess} {snapshot : BakingPiSnapshot}
    {child : ChildProcess} (hchild : child ∈ children)
    (hgone : child ∉ (BakingPiService.reap_loop waitpid children snapshot).1) :
    (Obs.waitpid child.pid (waitpid child.pid)).Reports child.pid := by
  induction children generalizing snapshot with
  | nil => cases hchild
  | cons first children ih =>
    cases hw : waitpid first.pid <;> simp only [BakingPiService.reap_loop, hw] at hgone
    case running | error =>
      rw [List.mem_cons, not_or] at hgone
      exact ih ((List.mem_cons.1 hchild).resolve_left hgone.1) hgone.2
    case exited status =>
      obtain rfl | hchild := List.mem_cons.1 hchild
      · exact .inr ⟨status, by rw [hw]⟩
      · exact ih hchild hgone
    case unknown =>
      obtain rfl | hchild := List.mem_cons.1 hchild
      · exact .inl (by rw [hw])
      · exact ih hchild hgone

variable {children : List ChildProcess} {snapshot : BakingPiSnapshot}

theorem Tally.reap (h : Tally children snapshot) :
    Tally (BakingPiService.reap_loop waitpid children snapshot).1
      (BakingPiService.reap_loop waitpid children snapshot).2.1 := by
  intro i
  obtain ⟨hcount, hflag⟩ := @reap_loop_spec waitpid children snapshot i
  have hi := h i
  rw [hflag]
  cases hrunning : snapshot.workload_running i <;> simp [hrunning] at hi ⊢
  · omega
  · split <;> omega

/-- What exits had one child, and has none now. -/
theorem Tally.exits (h : Tally children snapshot) (waitpid : ℕ → WaitResult) :
    let reaped := BakingPiService.reap_loop waitpid children snapshot
    (reaped.2.2.map (·.workload_index)).Nodup ∧
      ∀ i ∈ reaped.2.2.map (·.workload_index), reaped.2.1.workload_running i = false := by
  constructor
  · refine List.nodup_iff_count.2 fun i => ?_
    have hcount := (@reap_loop_spec waitpid children snapshot i).1
    have hi := h i
    rw [exits_of] at hcount
    cases hrunning : snapshot.workload_running i <;> simp [hrunning] at hi <;> omega
  · intro i hi
    have hflag := (@reap_loop_spec waitpid children snapshot i).2
    have hpos : exits_of (BakingPiService.reap_loop waitpid children snapshot).2.2 i ≠ 0 :=
      Nat.ne_of_gt (List.count_pos_iff.2 hi)
    rw [hflag]
    simp [hpos]

/-- Reaping sets no flag. -/
theorem reap_loop_flag {i : WorkloadIndex} (h : snapshot.workload_running i = false) :
    (BakingPiService.reap_loop waitpid children snapshot).2.1.workload_running i = false := by
  rw [(reap_loop_spec children snapshot i).2, h]
  rfl

end Reap

/-! ## The invariant -/

/-- What the worker is about to launch whatever the flags say. -/
def Worker.due : Worker → List WorkloadIndex
  | .at (.launching rest) => rest
  | .at (.restarting exited) => exited.map (·.workload_index)
  | _ => []

/-- The books are kept, and what is about to be launched has no child. -/
structure Inv (s : BakingPiService) : Prop where
  tally : Tally s.child_processes s.snapshot
  once : s.worker.due.Nodup
  fresh : ∀ i ∈ s.worker.due, s.snapshot.workload_running i = false

theorem Inv.init : Inv {} :=
  ⟨fun i => by cases i <;> rfl, List.nodup_nil, fun _ h => by cases h⟩

/-- Nothing is about to be launched. -/
theorem Inv.of_tally {s : BakingPiService} (h : Tally s.child_processes s.snapshot)
    (hdue : s.worker.due = []) : Inv s :=
  ⟨h, hdue ▸ List.nodup_nil, by simp [hdue]⟩

section Steps

variable {s : BakingPiService} {answers : Answers}

theorem Tally.launch_workload (h : Tally s.child_processes s.snapshot) {i : WorkloadIndex}
    (hi : s.snapshot.workload_running i = false) :
    Tally (s.launch_workload i answers).child_processes (s.launch_workload i answers).snapshot := by
  rw [BakingPiService.launch_workload]
  split
  · exact h
  · split
    · intro j
      rw [h j, workload_running_set]
      by_cases hij : i = j
      · simp [← hij, hi]
      · simp [hij]
    · exact h.launch hi _

/-- Launching a workload leaves the flags of the others alone. -/
theorem launch_workload_flag {i j : WorkloadIndex} (hij : i ≠ j) :
    (s.launch_workload i answers).snapshot.workload_running j = s.snapshot.workload_running j := by
  rw [BakingPiService.launch_workload]
  split
  · rfl
  · split <;> simp [hij]

/-- The next of the workloads that are due is launched. -/
theorem Inv.launch (h : Inv s) {i : WorkloadIndex} (rest : List WorkloadIndex) {worker : Worker}
    (hdue : s.worker.due = i :: rest) (hrest : worker.due = rest) :
    Inv { s.launch_workload i answers with worker } := by
  have honce := h.once
  have hfresh := h.fresh
  rw [hdue] at honce hfresh
  obtain ⟨hi, honce⟩ := List.nodup_cons.1 honce
  refine ⟨h.tally.launch_workload (hfresh i List.mem_cons_self), hrest ▸ honce, fun j hj => ?_⟩
  replace hj : j ∈ rest := hrest ▸ hj
  show (s.launch_workload i answers).snapshot.workload_running j = false
  have hij : i ≠ j := fun hij => hi (hij ▸ hj)
  rw [launch_workload_flag hij]
  exact hfresh j (List.mem_cons_of_mem i hj)

/-- Counting a restart changes no flag. -/
theorem Inv.recount (h : Inv s) (n : ℕ) : Inv { s with snapshot.restart_count := n } where
  tally := h.tally.of_flags fun i => workload_running_recount _ _ i
  once := h.once
  fresh i hi := (workload_running_recount _ _ _).trans (h.fresh i hi)

theorem Tally.reap_children (h : Tally s.child_processes s.snapshot) (answers : Answers) :
    Tally (s.reap_children answers).1.child_processes (s.reap_children answers).1.snapshot :=
  h.reap

/-- A round of `wait_children_` reaps. -/
theorem Inv.wait_round (h : Inv s) (answers : Answers) : Inv (s.wait_round answers).1 where
  tally := h.tally.reap
  once := h.once
  fresh i hi := reap_loop_flag (h.fresh i hi)

/-- What the worker does, unless it clears the flags of children. -/
theorem Inv.work (h : Inv s) {pc : Pc} (hw : s.worker = .at pc)
    (hclear : pc = .cycle → s.stop_requested = false → s.child_processes = []) :
    Inv (s.work answers pc).1 := by
  have htally := h.tally
  cases pc with
  | cycle =>
    by_cases hstop : s.stop_requested = true
    · simp only [BakingPiService.work, hstop, if_true]
      exact .of_tally htally rfl
    · rw [BakingPiService.work, if_neg hstop]
      have hnone := hclear rfl (by simpa using hstop)
      refine ⟨fun i => ?_, show WorkloadIndex.all.Nodup by decide,
        fun i _ => workload_running_clear _ i⟩
      simp [hnone]
  | launching rest =>
    cases rest with
    | nil => exact .of_tally htally rfl
    | cons i rest => exact h.launch rest (by rw [hw]; rfl) rfl
  | monitoring =>
    by_cases hstop : s.stop_requested = true
    · simp only [BakingPiService.work, hstop, if_true]
      exact .of_tally htally rfl
    · rw [BakingPiService.work, if_neg hstop]
      exact .of_tally htally rfl
  | reaping =>
    have hreap := htally.reap_children answers
    have hexits := htally.exits answers.waitpid
    simp only [BakingPiService.work]
    split
    · exact .of_tally hreap rfl
    · split
      · exact .of_tally hreap rfl
      · split
        · exact .of_tally hreap rfl
        · exact ⟨hreap, hexits.1, hexits.2⟩
  | restarting exited =>
    cases exited with
    | nil => exact .of_tally htally rfl
    | cons workload_exit exited =>
      exact (h.recount _).launch (exited.map (·.workload_index))
        (show s.worker.due = _ by rw [hw]; rfl) rfl
  | retrying rest =>
    cases rest with
    | nil => exact .of_tally htally rfl
    | cons i rest =>
      simp only [BakingPiService.work]
      by_cases hstop : s.stop_requested = true
      · rw [if_pos hstop]
        exact .of_tally htally rfl
      · rw [if_neg hstop]
        by_cases hrunning : s.snapshot.workload_running i = true
        · rw [if_pos hrunning]
          exact .of_tally htally rfl
        · rw [if_neg hrunning]
          refine .of_tally (Tally.launch_workload (h.recount _).tally ?_) rfl
          rw [workload_running_recount]
          simpa using hrunning
  | terminating =>
    have hround := h.wait_round answers
    simp only [BakingPiService.work]
    cases (s.wait_round answers).2.1 with
    | true => exact .of_tally hround.tally rfl
    | false => exact hround
  | killing =>
    have hround := h.wait_round answers
    simp only [BakingPiService.work]
    cases (s.wait_round answers).2.1 with
    | false => exact hround
    | true =>
      simp only [Bool.not_true, Bool.false_eq_true, if_false]
      split
      · exact .of_tally hround.tally rfl
      · exact .of_tally (hround.tally.of_flags fun i => by cases i <;> rfl) rfl
  | ending =>
    have hround := h.wait_round answers
    simp only [BakingPiService.work]
    cases (s.wait_round answers).2.1 with
    | true => exact .of_tally (hround.tally.of_flags fun i => by cases i <;> rfl) rfl
    | false => exact hround

/-- What the user interface does in `stop`, unless it clears the flags of children. -/
theorem Inv.stop_proceed (h : Inv s)
    (hclear : s.stopping = .clearing → s.child_processes = []) :
    Inv (s.stop_proceed answers).1 := by
  rw [BakingPiService.stop_proceed]
  split
  · exact h
  · exact h
  · exact .of_tally h.tally rfl
  · have hround := h.wait_round answers
    simp only
    split
    · exact ⟨hround.tally, hround.once, hround.fresh⟩
    · exact hround
  · rename_i hstopping
    refine ⟨fun i => ?_, h.once, fun i _ => workload_running_clear _ i⟩
    simp [hclear hstopping]

/-- What a step keeps, unless it clears the flags or the list of children. -/
theorem Inv.step (h : Inv s) {e : Event} (hclear : Clears s e → s.child_processes = []) :
    Inv (step s e).1 := by
  cases e with
  | start =>
    by_cases hidle : s.stopping = .idle
    · rw [Baking.step, if_pos hidle, BakingPiService.start]
      split
      · exact h
      · exact .of_tally (fun i => by cases i <;> rfl) rfl
    · rw [Baking.step, if_neg hidle]
      exact h
  | stop =>
    by_cases hidle : s.stopping = .idle
    · rw [Baking.step, if_pos hidle, BakingPiService.stop]
      split
      · exact h
      · exact ⟨h.tally, h.once, h.fresh⟩
    · rw [Baking.step, if_neg hidle]
      exact h
  | stop_proceed answers => exact h.stop_proceed hclear
  | work answers =>
    cases hw : s.worker with
    | none | ended =>
      simp only [Baking.step, hw]
      exact h
    | «at» pc =>
      simp only [Baking.step, hw]
      exact h.work hw fun hpc hstop => hclear ⟨hpc ▸ hw, hstop⟩

/-- Who leaves the list of `s` with this result was reported by it. -/
def Crossed (s : BakingPiService) (result : BakingPiService × List Obs) : Prop :=
  ∀ child ∈ s.child_processes, child ∉ result.1.child_processes →
    ∃ o ∈ result.2, o.Reports child.pid

/-- Nobody leaves. -/
theorem Crossed.of_keeps {result : BakingPiService × List Obs}
    (h : ∀ child ∈ s.child_processes, child ∈ result.1.child_processes) : Crossed s result :=
  fun child hchild hgone => absurd (h child hchild) hgone

/-- Who leaves is reaped. -/
theorem Crossed.of_reap {result : BakingPiService × List Obs}
    (hleft : result.1.child_processes = (s.reap_children answers).1.child_processes)
    (hseen : (s.reap_children answers).2.2 ⊆ result.2) : Crossed s result := by
  intro child hchild hgone
  rw [hleft] at hgone
  exact ⟨_, hseen (List.mem_map_of_mem hchild), reap_loop_reported hchild hgone⟩

theorem launch_workload_keeps (i : WorkloadIndex) :
    s.child_processes ⊆ (s.launch_workload i answers).child_processes := by
  intro child hchild
  rw [BakingPiService.launch_workload]
  split
  · exact hchild
  · split
    · exact hchild
    · exact List.mem_append_left _ hchild

theorem work_crossed (pc : Pc) : Crossed s (s.work answers pc) := by
  cases pc with
  | cycle | monitoring =>
    rw [BakingPiService.work]
    split <;> exact .of_keeps fun _ h => h
  | launching rest =>
    cases rest with
    | nil => exact .of_keeps fun _ h => h
    | cons i rest => exact .of_keeps fun _ h => launch_workload_keeps i h
  | reaping =>
    simp only [BakingPiService.work]
    split
    · exact .of_reap rfl (List.subset_append_left _ _)
    · split
      · exact .of_reap rfl (List.Subset.refl _)
      · split <;> exact .of_reap rfl (List.Subset.refl _)
  | restarting exited =>
    cases exited with
    | nil => exact .of_keeps fun _ h => h
    | cons workload_exit exited =>
      refine .of_keeps fun child h => ?_
      exact launch_workload_keeps
        (s := { s with snapshot.restart_count := s.snapshot.restart_count + 1 }) _ h
  | retrying rest =>
    cases rest with
    | nil => exact .of_keeps fun _ h => h
    | cons i rest =>
      simp only [BakingPiService.work]
      split
      · exact .of_keeps fun _ h => h
      · split
        · exact .of_keeps fun _ h => h
        · refine .of_keeps fun child h => ?_
          exact launch_workload_keeps
            (s := { s with snapshot.restart_count := s.snapshot.restart_count + 1 }) _ h
  | terminating =>
    simp only [BakingPiService.work]
    split
    · exact .of_reap rfl (List.subset_append_left _ _)
    · exact .of_reap rfl (List.Subset.refl _)
  | killing =>
    simp only [BakingPiService.work]
    split
    · exact .of_reap rfl (List.Subset.refl _)
    · split
      · exact .of_reap rfl (List.subset_append_left _ _)
      · exact .of_reap rfl (List.Subset.refl _)
  | ending =>
    simp only [BakingPiService.work]
    split <;> exact .of_reap rfl (List.Subset.refl _)

theorem stop_proceed_crossed : Crossed s (s.stop_proceed answers) := by
  rw [BakingPiService.stop_proceed]
  split
  · exact .of_keeps fun _ h => h
  · exact .of_keeps fun _ h => h
  · exact .of_keeps fun _ h => h
  · simp only
    split <;> exact .of_reap rfl (List.Subset.refl _)
  · exact .of_keeps fun _ h => h

/-- A child that leaves the list was reported, unless the list is cleared. -/
theorem step_crossed {e : Event} (hclear : Clears s e → s.child_processes = []) :
    Crossed s (step s e) := by
  cases e with
  | start =>
    rw [step]
    split
    · rename_i hidle
      rw [BakingPiService.start]
      split
      · exact .of_keeps fun _ h => h
      · rename_i hrunning
        have hnone := hclear ⟨hidle, by simpa using hrunning⟩
        exact .of_keeps fun _ h => by simp [hnone] at h
    · exact .of_keeps fun _ h => h
  | stop =>
    rw [step]
    split
    · rw [BakingPiService.stop]
      split <;> exact .of_keeps fun _ h => h
    · exact .of_keeps fun _ h => h
  | stop_proceed answers => exact stop_proceed_crossed
  | work answers =>
    cases hw : s.worker with
    | none | ended =>
      simp only [step, hw]
      exact .of_keeps fun _ h => h
    | «at» pc =>
      simp only [step, hw]
      exact work_crossed pc

/-- Clearing the flags or the list of children breaks the books. -/
theorem clears_breaks {c : Config BakingPiService Obs} {e : Event} (h : ClearsLeft c e) :
    ¬ KeepsBooks c e := by
  obtain ⟨hclears, hleft⟩ := h
  obtain ⟨child, hchild⟩ := List.exists_mem_of_ne_nil _ hleft
  rintro ⟨hbooks, hreported⟩
  -- A child in the list keeps its flag set.
  have hflag : child ∈ (step c.state e).1.child_processes →
      (step c.state e).1.snapshot.workload_running child.workload_index = false → False := by
    intro hmem hclear
    have hone := Nat.le_antisymm (hbooks.single child.workload_index) (children_of_pos hmem)
    rw [show (step c.state e).1.snapshot.workload_running child.workload_index = true from
      (hbooks.flag child.workload_index).2 hone] at hclear
    cases hclear
  cases e with
  | start =>
    have hstep : step c.state .start = (c.state.start, []) := if_pos hclears.1
    have hnone : c.state.start.child_processes = [] := by
      simp [BakingPiService.start, hclears.2]
    obtain ⟨o, ho, -⟩ := hreported child hchild (by
      show child ∉ (step c.state .start).1.child_processes
      simp [hstep, hnone])
    rw [hstep] at ho
    cases ho
  | stop => exact hclears
  | stop_proceed answers =>
    have hstop : c.state.stopping = .clearing := hclears
    refine hflag ?_ ?_
    · simpa [step, BakingPiService.stop_proceed, hstop] using hchild
    · simp [step, BakingPiService.stop_proceed, hstop]
  | work answers =>
    obtain ⟨hw, hstop⟩ := hclears
    refine hflag ?_ ?_
    · simpa [step, BakingPiService.work, hw, hstop] using hchild
    · simp [step, BakingPiService.work, hw, hstop]

end Steps

/-! ## The runs -/

/-- **The books are kept** in every step of a run exactly if no child is left in it when the flags
or the list of children are cleared. -/
theorem books_kept_iff (events : List Event) :
    service.Along KeepsBooks ⟨{}, []⟩ events ↔
      service.Along (fun c e => ¬ ClearsLeft c e) ⟨{}, []⟩ events := by
  have hempty : ∀ {c : Config BakingPiService Obs} {e}, ¬ ClearsLeft c e →
      Clears c.state e → c.state.child_processes = [] := by
    intro c e hnot hclears
    by_cases hleft : c.state.child_processes = []
    · exact hleft
    · exact absurd ⟨hclears, hleft⟩ hnot
  have hiff : ∀ c e, Inv c.state → (KeepsBooks c e ↔ ¬ ClearsLeft c e) := by
    intro c e h
    refine ⟨fun hkeeps hleft => clears_breaks hleft hkeeps, fun hnot => ?_⟩
    exact ⟨(h.step (hempty hnot)).tally.books, step_crossed (hempty hnot)⟩
  exact Machine.along_iff (M := service) (I := fun c => Inv c.state)
    (fun c e h hkeeps => h.step (hempty ((hiff c e h).1 hkeeps))) hiff Inv.init events

/-! ## A stuck child -/

/-- The first cycle launches the CPU workload in process 7, which never ends; the second cycle
begins. -/
def stuck_run : List Event :=
  let late : Answers := { late := true }
  [.start, .work {}, .work { spawned := some 7 }, .work {}, .work {}, .work {}, .work {},
    .work late, .work late, .work late, .work {}]

/-- The list holds the child, and its flag is clear. -/
theorem stuck_child_breaks_books : ¬ service.Along KeepsBooks ⟨{}, []⟩ stuck_run := by
  intro h
  rw [show stuck_run = stuck_run.dropLast ++ [.work {}] from rfl, Machine.along_append] at h
  have hkeeps := h.2.1
  have hflag := (hkeeps.books.flag .CPU_WORKLOAD).2 (by decide)
  exact absurd hflag (by decide)

end FactoryTest.Baking
