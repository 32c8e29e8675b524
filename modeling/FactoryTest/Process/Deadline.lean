import FactoryTest.Process.Status

/-!
# The deadline

Whether `run_spawned_command` can wait for a child that lives and has not been killed. The deadline
is only looked at inside the loop: the text for the child is written before it, and the last
`waitpid` comes after it. So the deadline is kept exactly when the text fits into the pipe and the
loop is not left, in time, by a child that lives on (`enforced_iff`).
-/

namespace FactoryTest.Process

/-- A call that can wait without a bound, made while the child lives. -/
def Event.Blocks : Event → Prop
  | .write size space alive => alive = true ∧ space < size
  | .waitpid alive _ => alive = true
  | _ => False

/-- Such a call is made only after `SIGKILL`. -/
def Enforced (events : List Event) : Prop :=
  ∀ front e back, events = front ++ e :: back → e.Blocks → Event.kill ∈ front

/-- Every write while the child lives fits into the free space, as far as the writing comes. -/
def WritesFit (rest : ℕ) : List Writing → Prop
  | [] => True
  | w :: writes => rest = 0 ∨ ((w.alive = true → rest ≤ w.space) ∧
    match w.answer with
    | some (.count count) => 0 < count → WritesFit (rest - count) writes
    | some .interrupted => WritesFit rest writes
    | _ => True)

/-- The bit of `poll` for `stdout`. -/
def Polled.stdout : Polled → Bool
  | .events stdout _ => stdout
  | _ => false

/-- The bit of `poll` for `stderr`. -/
def Polled.stderr : Polled → Bool
  | .events _ stderr => stderr
  | _ => false

/-- The deadline has not passed, and the child is not reported. -/
def Round.Unnoticed (options : ProcessOptions) (r : Round) : Prop :=
  r.expired options = false ∧ ∀ status, r.waited ≠ .reported status

/-- `poll` fails. -/
def Round.Fails (r : Round) : Prop := ∃ message, r.polled = .failed message

/-- Both output pipes are read to their end, or `poll` fails, in rounds that find neither the
deadline passed nor the child done. -/
def Abandoned (options : ProcessOptions) (rounds : List Round) : Prop :=
  ∃ front, front <+: rounds ∧ (∀ r ∈ front, r.Unnoticed options) ∧
    ((∃ r ∈ front, r.Fails) ∨
      (∃ r ∈ front, r.polled.stdout = true ∧ r.stdout_read.closes = true) ∧
        ∃ r ∈ front, r.polled.stderr = true ∧ r.stderr_read.closes = true)

/-! ## Events -/

theorem enforced_concat {events : List Event} {e : Event} :
    Enforced (events ++ [e]) ↔ Enforced events ∧ (e.Blocks → Event.kill ∈ events) := by
  constructor
  · intro h
    refine ⟨fun front d back heq => h front d (back ++ [e]) ?_, h events e [] rfl⟩
    rw [heq, List.append_assoc, List.cons_append]
  · rintro ⟨hevents, hlast⟩ front d back heq hblocks
    rcases List.eq_nil_or_concat back with rfl | ⟨back, c, rfl⟩
    · obtain ⟨rfl, hd⟩ := List.append_inj' heq rfl
      obtain rfl := List.singleton_inj.1 hd
      exact hlast hblocks
    · rw [List.concat_eq_append, ← List.cons_append, ← List.append_assoc] at heq
      exact hevents front d back (List.append_inj' heq rfl).1 hblocks

/-- A call that cannot wait changes nothing. -/
theorem enforced_concat_of_not {events : List Event} {e : Event} (h : ¬ e.Blocks) :
    Enforced (events ++ [e]) ↔ Enforced events :=
  enforced_concat.trans (and_iff_left fun hblocks => absurd hblocks h)

/-- Without `SIGKILL` no call may wait. -/
theorem enforced_iff_of_notMem {events : List Event} (h : Event.kill ∉ events) :
    Enforced events ↔ ∀ e ∈ events, ¬ e.Blocks := by
  constructor
  · intro henforced e he hblocks
    obtain ⟨front, back, rfl⟩ := List.append_of_mem he
    exact h (List.mem_append_left _ (henforced front e back rfl hblocks))
  · rintro hnone front e back rfl hblocks
    exact absurd hblocks (hnone e (List.mem_append_right _ List.mem_cons_self))

theorem writesFit_iff (rest : ℕ) (writes : List Writing) :
    (∀ e ∈ (write_stdin rest writes).2, ¬ e.Blocks) ↔ WritesFit rest writes := by
  induction writes generalizing rest with
  | nil => exact iff_of_true (fun e he => absurd he List.not_mem_nil) trivial
  | cons w writes ih =>
    unfold write_stdin WritesFit
    by_cases hrest : rest = 0
    · rw [if_pos hrest]
      exact iff_of_true (fun e he => absurd he List.not_mem_nil) (.inl hrest)
    · rw [if_neg hrest, List.forall_mem_cons, or_iff_right hrest]
      refine and_congr ?_ ?_
      · show ¬ (w.alive = true ∧ w.space < rest) ↔ _
        rw [not_and, Nat.not_lt]
      · have hnone : ∀ e ∈ ([] : List Event), ¬ e.Blocks := fun e he => absurd he List.not_mem_nil
        cases w.answer with
        | none => exact iff_of_true hnone trivial
        | some written =>
          cases written with
          | count count =>
            dsimp only
            split_ifs with hcount
            · rw [ih]
              exact ⟨fun h _ => h, fun h => h hcount⟩
            · exact iff_of_true hnone fun h => absurd h hcount
          | interrupted => exact ih rest
          | failed => exact iff_of_true hnone trivial

/-! ## The loop -/

/-- Whether the deadline is kept is still the same, and the child that is not done has not been
killed. -/
structure Kept (p : Prop) (w : Watch) : Prop where
  enforced : Enforced w.events ↔ p
  unkilled : w.child_done = false → Event.kill ∉ w.events

theorem Kept.wait_nohang {p : Prop} {s : Loop} (h : Kept p s.toWatch) (answer : Wait) :
    Kept p (s.wait_nohang answer).toWatch := by
  unfold Loop.wait_nohang
  split_ifs with hdone
  · exact h
  rw [Bool.not_eq_true] at hdone
  have hevents : Enforced (s.events ++ [.waitpid_nohang answer]) ↔ p :=
    (enforced_concat_of_not id).trans h.enforced
  have hunkilled : Event.kill ∉ s.events ++ [.waitpid_nohang answer] := fun hmem =>
    (List.mem_append.1 hmem).elim (h.unkilled hdone) (by simp)
  cases answer <;> exact ⟨hevents, fun _ => hunkilled⟩

theorem Kept.expire {p : Prop} {s : Loop} (h : Kept p s.toWatch) (options : ProcessOptions)
    (r : Round) :
    (expire options s r).Meets (fun _ => False) (Kept p ·.toWatch) (Enforced ·.events ↔ p) := by
  have hdeadline : Enforced (s.events ++ [.deadline]) ↔ p :=
    (enforced_concat_of_not id).trans h.enforced
  unfold Process.expire
  dsimp only
  split_ifs with hdone
  · exact ⟨hdeadline, fun hpending => absurd (hdone.symm.trans hpending) (by decide)⟩
  · -- the wait comes after the kill
    have hwait : Enforced (s.events ++ [.deadline] ++ [.kill] ++
        [.waitpid r.killed.alive r.killed.answer]) ↔ p := by
      rw [enforced_concat, enforced_concat_of_not (e := .kill) id, hdeadline]
      exact and_iff_left fun _ => List.mem_append_right _ (List.mem_singleton.2 rfl)
    cases hanswer : r.killed.answer with
    | none =>
      rw [hanswer] at hwait
      exact hwait
    | some answer =>
      rw [hanswer] at hwait
      refine ⟨?_, fun hpending => absurd hpending (Bool.noConfusion : ¬ true = false)⟩
      cases answer <;> exact hwait

theorem Kept.turn {p : Prop} {s : Loop} (h : Kept p s.toWatch) (options : ProcessOptions)
    (r : Round) :
    (turn options s r).Meets (Kept p ·.toWatch) (Kept p ·.toWatch) (Enforced ·.events ↔ p) := by
  have hwait := h.wait_nohang r.waited
  refine turn_meets (hwait.expire options r) (fun message => ?_) fun stdout stderr => ?_
  · exact ⟨hwait.enforced, hwait.unkilled⟩
  · rw [toWatch_read_polled]
    exact hwait

theorem Kept.run_loop {p : Prop} {s : Loop} (h : Kept p s.toWatch) (options : ProcessOptions)
    (rounds : List Round) :
    (run_loop options s rounds).Meets (fun _ => False) (Kept p ·.toWatch)
      (Enforced ·.events ↔ p) :=
  run_loop_meets (I := (Kept p ·.toWatch)) (fun _ r hs => hs.turn options r) (fun _ hs => hs)
    (fun _ hs => hs.enforced) h rounds

/-! ## Leaving the loop early -/

/-- After the deadline the child is done. -/
theorem expire_done (options : ProcessOptions) (s : Loop) (r : Round) :
    (expire options s r).Meets (fun _ => False) (·.child_done = true) fun _ => True := by
  unfold Process.expire
  dsimp only
  split_ifs with hdone
  · exact hdone
  · cases r.killed.answer with
    | none => trivial
    | some answer => rfl

theorem child_done_wait_nohang {s : Loop} (hdone : s.child_done = false) (answer : Wait) :
    (s.wait_nohang answer).child_done = false ↔ ∀ status, answer ≠ .reported status := by
  unfold Loop.wait_nohang
  rw [hdone, if_neg Bool.false_ne_true]
  cases answer with
  | reported status => exact iff_of_false (by simp) fun h => h status rfl
  | nothing | interrupted | gone => exact iff_of_true hdone (by simp)

/-- A child that is done stays done. -/
theorem turn_done (options : ProcessOptions) {s : Loop} (hdone : s.child_done = true) (r : Round) :
    (turn options s r).Meets (·.child_done = true) (·.child_done = true) fun _ => True := by
  have hwait : (s.wait_nohang r.waited).child_done = true := by
    rw [Loop.wait_nohang, if_pos hdone]
    exact hdone
  refine turn_meets (expire_done options _ r) (fun message => hwait) fun stdout stderr => ?_
  exact (congrArg Watch.child_done (toWatch_read_polled options _ r _ _)).trans hwait

theorem run_loop_done {options : ProcessOptions} {s s' : Loop} {rounds : List Round}
    (hdone : s.child_done = true) (hleaves : run_loop options s rounds = .leaves s') :
    s'.child_done = true := by
  have hloop := run_loop_meets (I := (·.child_done = true)) (fun s r hs => turn_done options hs r)
    (fun s hs => hs) (fun _ _ => trivial) hdone rounds
  rw [hleaves] at hloop
  exact hloop

theorem stdout_open_read_stdout (options : ProcessOptions) (s : Loop) (r : Reading) :
    (s.read_stdout options r).stdout_open = (s.stdout_open && !r.closes) := by
  unfold Loop.read_stdout read_available
  cases s.stdout_open <;> rfl

theorem stderr_open_read_stderr (options : ProcessOptions) (s : Loop) (r : Reading) :
    (s.read_stderr options r).stderr_open = (s.stderr_open && !r.closes) := by
  unfold Loop.read_stderr read_available
  cases s.stderr_open <;> rfl

/-- What a round does to the pipes while the child is not done. -/
theorem pipes_read_polled (options : ProcessOptions) {s : Loop} (hdone : s.child_done = false)
    (r : Round) (stdout stderr : Bool) :
    (read_polled options s r stdout stderr).stdout_open =
        (s.stdout_open && !(stdout && r.stdout_read.closes)) ∧
      (read_polled options s r stdout stderr).stderr_open =
        (s.stderr_open && !(stderr && r.stderr_read.closes)) := by
  have hkeep (b : Bool) : b = (b && !(false && r.stdout_read.closes)) := by simp
  have hout := stdout_open_read_stdout options s r.stdout_read
  have herr (s : Loop) := stderr_open_read_stderr options s r.stderr_read
  have hrest (s : Loop) (hs : s.child_done = false) :
      (if s.child_done then s.read_both options r.stdout_rest r.stderr_rest else s) = s := by
    rw [hs]
    rfl
  unfold read_polled
  cases stdout with
  | false =>
    cases stderr with
    | false =>
      have h := hrest s hdone
      exact ⟨(congrArg Loop.stdout_open h).trans (hkeep _),
        (congrArg Loop.stderr_open h).trans (hkeep _)⟩
    | true =>
      have h := hrest (s.read_stderr options r.stderr_read) hdone
      exact ⟨(congrArg Loop.stdout_open h).trans (hkeep _),
        (congrArg Loop.stderr_open h).trans (herr s)⟩
  | true =>
    cases stderr with
    | false =>
      have h := hrest (s.read_stdout options r.stdout_read) hdone
      exact ⟨(congrArg Loop.stdout_open h).trans hout,
        (congrArg Loop.stderr_open h).trans (hkeep _)⟩
    | true =>
      have h := hrest (s.read_both options r.stdout_read r.stderr_read) hdone
      exact ⟨(congrArg Loop.stdout_open h).trans hout,
        (congrArg Loop.stderr_open h).trans (herr _)⟩

/-- A round with a child that is not done: the child is done after it unless the round does not
notice anything. -/
theorem turn_pending (options : ProcessOptions) {s : Loop} (hdone : s.child_done = false)
    (r : Round) :
    match turn options s r with
    | .again s' => ¬ r.Fails ∧ (s'.child_done = false ↔ r.Unnoticed options) ∧
        (s'.child_done = false →
          s'.stdout_open = (s.stdout_open && !(r.polled.stdout && r.stdout_read.closes)) ∧
          s'.stderr_open = (s.stderr_open && !(r.polled.stderr && r.stderr_read.closes)))
    | .leaves s' => (s'.child_done = false ↔ r.Unnoticed options) ∧ (r.Unnoticed options → r.Fails)
    | .hangs _ => ¬ r.Unnoticed options := by
  have hreported := child_done_wait_nohang hdone r.waited
  have hpipes : (s.wait_nohang r.waited).stdout_open = s.stdout_open ∧
      (s.wait_nohang r.waited).stderr_open = s.stderr_open := by
    unfold Loop.wait_nohang
    rw [hdone, if_neg Bool.false_ne_true]
    cases r.waited <;> exact ⟨rfl, rfl⟩
  have hread (stdout stderr : Bool) := toWatch_read_polled options
    (s.wait_nohang r.waited) r stdout stderr
  unfold Process.turn
  dsimp only
  by_cases hexpired : r.expired options = true
  · rw [if_pos hexpired]
    have hnoticed : ¬ r.Unnoticed options := fun h => absurd (hexpired.symm.trans h.1) (by decide)
    have hexpire := expire_done options (s.wait_nohang r.waited) r
    cases hr : Process.expire options (s.wait_nohang r.waited) r with
    | again s' =>
      rw [hr] at hexpire
      exact hexpire.elim
    | leaves s' =>
      rw [hr] at hexpire
      exact ⟨iff_of_false (fun h => absurd (hexpire.symm.trans h) (by decide)) hnoticed,
        fun h => absurd h hnoticed⟩
    | hangs s' => exact hnoticed
  · rw [if_neg hexpired]
    rw [Bool.not_eq_true] at hexpired
    have hunnoticed : (s.wait_nohang r.waited).child_done = false ↔ r.Unnoticed options :=
      hreported.trans ⟨fun h => ⟨hexpired, h⟩, fun h => h.2⟩
    have hagain (stdout stderr : Bool) (hout : r.polled.stdout = stdout)
        (herr : r.polled.stderr = stderr) (hfails : ¬ r.Fails) :
        let s' := read_polled options (s.wait_nohang r.waited) r stdout stderr
        ¬ r.Fails ∧ (s'.child_done = false ↔ r.Unnoticed options) ∧
        (s'.child_done = false →
          s'.stdout_open = (s.stdout_open && !(r.polled.stdout && r.stdout_read.closes)) ∧
          s'.stderr_open = (s.stderr_open && !(r.polled.stderr && r.stderr_read.closes))) := by
      have hdone' := congrArg Watch.child_done (hread stdout stderr)
      refine ⟨hfails, by rw [← hunnoticed]; exact hdone' ▸ Iff.rfl, fun h => ?_⟩
      rw [hout, herr, ← hpipes.1, ← hpipes.2]
      exact pipes_read_polled options (hdone'.symm.trans h) r stdout stderr
    cases hpolled : r.polled with
    | failed message =>
      exact ⟨hunnoticed, fun _ => ⟨message, hpolled⟩⟩
    | interrupted =>
      have h := hagain false false (by rw [hpolled]; rfl) (by rw [hpolled]; rfl) fun ⟨m, hm⟩ => by
        rw [hpolled] at hm
        cases hm
      rw [hpolled] at h
      exact h
    | events stdout stderr =>
      have h := hagain stdout stderr (by rw [hpolled]; rfl) (by rw [hpolled]; rfl) fun ⟨m, hm⟩ => by
        rw [hpolled] at hm
        cases hm
      rw [hpolled] at h
      exact h

/-- Rounds that find nothing, until `poll` fails or neither pipe is open any more. -/
def AbandonedFrom (options : ProcessOptions) (stdout_open stderr_open : Bool)
    (rounds : List Round) : Prop :=
  ∃ front, front <+: rounds ∧ (∀ r ∈ front, r.Unnoticed options) ∧
    ((∃ r ∈ front, r.Fails) ∨
      (stdout_open = false ∨ ∃ r ∈ front, r.polled.stdout = true ∧ r.stdout_read.closes = true) ∧
        (stderr_open = false ∨ ∃ r ∈ front, r.polled.stderr = true ∧ r.stderr_read.closes = true))

theorem abandonedFrom_true (options : ProcessOptions) (rounds : List Round) :
    AbandonedFrom options true true rounds ↔ Abandoned options rounds := by
  simp [AbandonedFrom, Abandoned]

theorem abandonedFrom_closed (options : ProcessOptions) (rounds : List Round) :
    AbandonedFrom options false false rounds :=
  ⟨[], List.nil_prefix, fun _ hr => absurd hr List.not_mem_nil, .inr ⟨.inl rfl, .inl rfl⟩⟩

theorem open_eq_false_or (isOpen polled closes : Bool) (p : Prop) :
    ((isOpen && !(polled && closes)) = false ∨ p) ↔
      (isOpen = false ∨ (polled = true ∧ closes = true) ∨ p) := by
  cases isOpen <;> cases polled <;> cases closes <;> simp

/-- While a pipe is open, the first round has to find nothing. -/
theorem abandonedFrom_cons {options : ProcessOptions} {stdout_open stderr_open : Bool}
    {r : Round} {rounds : List Round}
    (hopen : stdout_open = true ∨ stderr_open = true) :
    AbandonedFrom options stdout_open stderr_open (r :: rounds) ↔ r.Unnoticed options ∧ (r.Fails ∨
      AbandonedFrom options (stdout_open && !(r.polled.stdout && r.stdout_read.closes))
        (stderr_open && !(r.polled.stderr && r.stderr_read.closes)) rounds) := by
  unfold AbandonedFrom
  constructor
  · rintro ⟨front, hfront, hunnoticed, hends⟩
    cases front with
    | nil => simp_all
    | cons r' front =>
      obtain ⟨rfl, hrest⟩ := List.cons_prefix_cons.1 hfront
      obtain ⟨hr, hunnoticed⟩ := List.forall_mem_cons.1 hunnoticed
      simp only [List.exists_mem_cons_iff] at hends
      refine ⟨hr, ?_⟩
      rcases hends with (hfails | hfails) | hclosed
      · exact .inl hfails
      · exact .inr ⟨front, hrest, hunnoticed, .inl hfails⟩
      · refine .inr ⟨front, hrest, hunnoticed, .inr ?_⟩
        rwa [open_eq_false_or, open_eq_false_or]
  · rintro ⟨hr, hfails | ⟨front, hfront, hunnoticed, hends⟩⟩
    · exact ⟨[r], List.cons_prefix_cons.2 ⟨rfl, List.nil_prefix⟩, List.forall_mem_singleton.2 hr,
        .inl ⟨r, List.mem_singleton.2 rfl, hfails⟩⟩
    · refine ⟨r :: front, List.cons_prefix_cons.2 ⟨rfl, hfront⟩,
        List.forall_mem_cons.2 ⟨hr, hunnoticed⟩, ?_⟩
      simp only [List.exists_mem_cons_iff]
      rw [open_eq_false_or, open_eq_false_or] at hends
      exact hends.imp_left .inr

theorem run_loop_pending (options : ProcessOptions) {s : Loop} (hdone : s.child_done = false)
    (rounds : List Round) :
    (∃ s', run_loop options s rounds = .leaves s' ∧ s'.child_done = false) ↔
      AbandonedFrom options s.stdout_open s.stderr_open rounds := by
  induction rounds generalizing s with
  | nil =>
    unfold Process.run_loop
    split_ifs with hopen
    · refine iff_of_false ?_ ?_
      · rintro ⟨s', hs', -⟩
        cases hs'
      · rintro ⟨front, hfront, -, hends⟩
        rw [List.prefix_nil.1 hfront] at hends
        simp_all
    · rw [not_or, Bool.not_eq_true, Bool.not_eq_true] at hopen
      rw [hopen.1, hopen.2]
      exact iff_of_true ⟨s, rfl, hdone⟩ (abandonedFrom_closed options [])
  | cons r rounds ih =>
    unfold Process.run_loop
    split_ifs with hopen
    · rw [abandonedFrom_cons hopen]
      have hturn := turn_pending options hdone r
      cases hr : Process.turn options s r with
      | again s₁ =>
        rw [hr] at hturn
        obtain ⟨hfails, hdone₁, hpipes⟩ := hturn
        rw [or_iff_right hfails, ← hdone₁]
        cases hd : s₁.child_done with
        | false =>
          obtain ⟨hout, herr⟩ := hpipes hd
          rw [← hout, ← herr]
          exact (ih hd).trans (and_iff_right rfl).symm
        | true =>
          refine iff_of_false ?_ fun h => Bool.noConfusion h.1
          rintro ⟨s', hs', hdone'⟩
          exact absurd ((run_loop_done hd hs').symm.trans hdone') (by decide)
      | leaves s₁ =>
        rw [hr] at hturn
        obtain ⟨hdone₁, hfails⟩ := hturn
        constructor
        · rintro ⟨s', hs', hdone'⟩
          obtain rfl := Turn.leaves.inj hs'
          exact ⟨hdone₁.1 hdone', .inl (hfails (hdone₁.1 hdone'))⟩
        · rintro ⟨hunnoticed, -⟩
          exact ⟨s₁, rfl, hdone₁.2 hunnoticed⟩
      | hangs s₁ =>
        rw [hr] at hturn
        refine iff_of_false ?_ fun h => hturn h.1
        rintro ⟨s', hs', -⟩
        cases hs'
    · rw [not_or, Bool.not_eq_true, Bool.not_eq_true] at hopen
      rw [hopen.1, hopen.2]
      exact iff_of_true ⟨s, rfl, hdone⟩ (abandonedFrom_closed options _)

/-! ## The run -/

/-- The child is started. -/
def Started (executable : Text) (options : ProcessOptions) (env : Environment) : Prop :=
  unspawned executable options env = none ∧ env.spawned = none

theorem kept_spawned (argv : List Text) (rest : ℕ) (writes : List Writing) :
    Kept (WritesFit rest writes)
      ({ events := [.spawn argv] ++ (write_stdin rest writes).2 } : Watch) := by
  have hkill : Event.kill ∉ [.spawn argv] ++ (write_stdin rest writes).2 := by
    intro hmem
    rcases List.mem_append.1 hmem with hmem | hmem
    · cases List.mem_singleton.1 hmem
    · obtain ⟨size, space, alive, heq⟩ := mem_write_stdin hmem
      cases heq
  refine ⟨?_, fun _ => hkill⟩
  rw [enforced_iff_of_notMem hkill, List.forall_mem_append, List.forall_mem_singleton,
    writesFit_iff]
  exact and_iff_right id

/-- What follows the loop may wait only for a child that does not live, or was killed. -/
theorem Kept.finish {p : Prop} {options : ProcessOptions} {s : Loop} (h : Kept p s.toWatch)
    (ending : Waiting) : Enforced (finish options ending s).2 ↔
      p ∧ (s.child_done = false → ending.alive = false) := by
  unfold Process.finish
  cases hdone : s.child_done with
  | true => exact h.enforced.trans (and_iff_left fun hpending => by cases hpending).symm
  | false =>
    have hlast : Enforced (s.events ++ [.waitpid ending.alive ending.answer]) ↔
        p ∧ (false = false → ending.alive = false) := by
      rw [enforced_concat, h.enforced]
      refine and_congr_right fun _ => ?_
      show (ending.alive = true → _) ↔ _
      cases ending.alive with
      | false => exact iff_of_true (fun halive => by cases halive) fun _ => rfl
      | true =>
        exact iff_of_false (fun hkill => h.unkilled hdone (hkill rfl)) fun h => by cases h rfl
    cases hanswer : ending.answer with
    | none =>
      rw [hanswer] at hlast
      exact hlast
    | some answer =>
      rw [hanswer] at hlast
      exact hlast

/-- The deadline is kept exactly when the child is not started, or what is written to it fits
while it lives and, if the loop is reached, it is not left in time by a child that lives on. -/
theorem enforced_iff (executable : Text) (args : List Text) (options : ProcessOptions)
    (env : Environment) :
    Enforced (run_spawned_command executable args options env).2 ↔
      (Started executable options env → WritesFit options.stdin_text.length env.writes ∧
        ((write_stdin options.stdin_text.length env.writes).1 = true →
          Abandoned options env.rounds → env.ending.alive = false)) := by
  have hnone {events : List Event} (hevents : ∀ e ∈ events, ¬ e.Blocks) : Enforced events := by
    rintro front e back rfl hblocks
    exact absurd hblocks (hevents e (List.mem_append_right _ List.mem_cons_self))
  unfold run_spawned_command
  cases hunspawned : unspawned executable options env with
  | some error =>
    refine iff_of_true (hnone fun e he => absurd he List.not_mem_nil) fun hstarted => ?_
    cases hunspawned.symm.trans hstarted.1
  | none =>
    cases hspawned : env.spawned with
    | some error =>
      refine iff_of_true (hnone (List.forall_mem_singleton.2 id)) fun hstarted => ?_
      cases hspawned.symm.trans hstarted.2
    | none =>
      have hstarted : Started executable options env := ⟨hunspawned, hspawned⟩
      have hkept := kept_spawned (executable :: args) options.stdin_text.length env.writes
      rw [forall_prop_of_true hstarted]
      dsimp only
      cases hwritten : (write_stdin options.stdin_text.length env.writes).1 with
      | false => exact hkept.enforced.trans (and_iff_left fun h => by cases h).symm
      | true =>
        have hpending := run_loop_pending options (s := {
          events := [.spawn (executable :: args)] ++
            (write_stdin options.stdin_text.length env.writes).2 }) rfl env.rounds
        have hloop := Kept.run_loop (s := {
          events := [.spawn (executable :: args)] ++
            (write_stdin options.stdin_text.length env.writes).2 }) hkept options env.rounds
        rw [abandonedFrom_true] at hpending
        rw [forall_prop_of_true rfl, ← hpending]
        cases hr : run_loop options { events := [.spawn (executable :: args)] ++
            (write_stdin options.stdin_text.length env.writes).2 } env.rounds with
        | again s =>
          rw [hr] at hloop
          exact hloop.elim
        | hangs s =>
          rw [hr] at hloop
          exact hloop.trans (and_iff_left fun ⟨s', hs', _⟩ => by cases hs').symm
        | leaves s =>
          rw [hr] at hloop
          refine (Kept.finish hloop env.ending).trans (and_congr_right fun _ => ?_)
          refine ⟨fun h ⟨s', hs', hdone⟩ => h ?_, fun h hdone => h ⟨s, rfl, hdone⟩⟩
          obtain rfl := Turn.leaves.inj hs'
          exact hdone

/-- A child that closes its output and runs on is waited for without a bound. -/
theorem closed_child_waits : ¬ ∀ executable args (options : ProcessOptions) env,
    0 < options.timeout_ms → Enforced (run_spawned_command executable args options env).2 := by
  intro hclaim
  have henforced := hclaim [116] [] { timeout_ms := 1000 }
    { rounds := [closing .nothing], ending := ⟨true, none⟩ } (by decide)
  have hkill := henforced [.spawn [[116]], .waitpid_nohang .nothing] (.waitpid true none) [] rfl rfl
  simp at hkill

end FactoryTest.Process
