import FactoryTest.Process.Run

/-!
# The status of the child

What `run_spawned_command` says about the end of the child. `child_status` begins as 0, which reads
as a normal exit with code 0, and a `waitpid` that fails leaves it alone. So the result is right
exactly in the runs in which no blocking `waitpid` fails (`sound_iff`).
-/

namespace FactoryTest.Process

/-- The status that a `waitpid` reported. -/
def Event.reports : Event → Option ℕ
  | .waitpid_nohang (.reported status) => some status
  | .waitpid _ (some (.reported status)) => some status
  | _ => none

/-- A blocking `waitpid` came back without the child. -/
def Event.fails : Event → Prop
  | .waitpid _ (some (.reported _)) => False
  | .waitpid _ (some _) => True
  | _ => False

/-- The fields that say how the child ended. -/
def ProcessResult.ended (r : ProcessResult) : Bool × ℤ × ℤ := (r.exited, r.exit_code, r.term_signal)

/-- A success stands on a report of exit code 0 before the deadline, and a result that says how the
child ended says what was reported. -/
structure Sound (result : ProcessResult) (events : List Event) : Prop where
  success : result.success = true → ∃ front e back status, events = front ++ e :: back ∧
    e.reports = some status ∧ Event.deadline ∉ front ∧ WIFEXITED status = true ∧
      WEXITSTATUS status = 0
  ended : result.ended ≠ ProcessResult.ended {} → ∃ e ∈ events, ∃ status,
    e.reports = some status ∧ result.ended = (fill_exit_status status {}).ended

/-! ## The loop -/

/-- Reading does not touch what is known of the child. -/
theorem toWatch_read_polled (options : ProcessOptions) (s : Loop) (r : Round)
    (stdout stderr : Bool) :
    (read_polled options s r stdout stderr).toWatch = s.toWatch := by
  unfold read_polled
  cases stdout <;> cases stderr <;> dsimp only <;> split_ifs <;> rfl

/-- What is known while the deadline has not passed. -/
structure InTime (w : Watch) : Prop where
  timed_out : w.timed_out = false
  deadline : Event.deadline ∉ w.events
  unfailed : ∀ e ∈ w.events, ¬ e.fails
  done : w.child_done = true → ∃ e ∈ w.events, e.reports = some w.child_status
  pending : w.child_done = false → w.child_status = 0 ∧ ∀ e ∈ w.events, e.reports = none

/-- The status was reported and no blocking `waitpid` failed, or it is still the 0 from the
beginning because one did. -/
def Told (status : ℕ) (events : List Event) : Prop :=
  ((∃ e ∈ events, e.reports = some status) ∧ ∀ e ∈ events, ¬ e.fails) ∨
    (status = 0 ∧ (∀ e ∈ events, e.reports = none) ∧ ∃ e ∈ events, e.fails)

/-- What is known where the loop is left: the deadline has not passed, or the child is done. -/
def Left (w : Watch) : Prop :=
  InTime w ∨ (w.timed_out = true ∧ w.child_done = true ∧ Told w.child_status w.events)

theorem InTime.wait_nohang {s : Loop} (h : InTime s.toWatch) (answer : Wait) :
    InTime (s.wait_nohang answer).toWatch := by
  unfold Loop.wait_nohang
  split_ifs with hdone
  · exact h
  rw [Bool.not_eq_true] at hdone
  obtain ⟨hstatus, hreports⟩ := h.pending hdone
  cases answer with
  | reported status =>
    refine ⟨h.timed_out, ?_, ?_, fun _ => ⟨.waitpid_nohang (.reported status), ?_, rfl⟩,
      fun hpending => absurd hpending (by simp)⟩
    · exact fun hmem => (List.mem_append.1 hmem).elim h.deadline (by simp)
    · exact List.forall_mem_append.2 ⟨h.unfailed, List.forall_mem_singleton.2 id⟩
    · exact List.mem_append_right _ (List.mem_singleton.2 rfl)
  | _ =>
    refine ⟨h.timed_out, ?_, ?_, fun hpending => absurd (hdone.symm.trans hpending) (by simp),
      fun _ => ⟨hstatus, ?_⟩⟩
    · exact fun hmem => (List.mem_append.1 hmem).elim h.deadline (by simp)
    · exact List.forall_mem_append.2 ⟨h.unfailed, List.forall_mem_singleton.2 id⟩
    · exact List.forall_mem_append.2 ⟨hreports, List.forall_mem_singleton.2 rfl⟩

/-- A blocking `waitpid` for a child that has not been reported. -/
theorem told_waited {s : Loop} (events : List Event) (hstatus : s.child_status = 0)
    (hreports : ∀ e ∈ events, e.reports = none) (hunfailed : ∀ e ∈ events, ¬ e.fails) (alive : Bool)
    (answer : Wait) :
    Told (s.waited answer).child_status (events ++ [.waitpid alive (some answer)]) := by
  cases answer with
  | reported status =>
    refine .inl ⟨⟨.waitpid alive (some (.reported status)), ?_, rfl⟩, ?_⟩
    · exact List.mem_append_right _ (List.mem_singleton.2 rfl)
    · exact List.forall_mem_append.2 ⟨hunfailed, List.forall_mem_singleton.2 id⟩
  | nothing | interrupted | gone =>
    refine .inr ⟨hstatus, ?_, ⟨_, List.mem_append_right _ (List.mem_singleton.2 rfl), trivial⟩⟩
    exact List.forall_mem_append.2 ⟨hreports, List.forall_mem_singleton.2 rfl⟩

theorem InTime.expire {s : Loop} (h : InTime s.toWatch) (options : ProcessOptions) (r : Round) :
    (expire options s r).Meets (fun _ => False) (Left ·.toWatch) fun _ => True := by
  unfold Process.expire
  dsimp only
  split_ifs with hdone
  · obtain ⟨e, he, hreports⟩ := h.done hdone
    refine .inr ⟨rfl, hdone, .inl ⟨⟨e, List.mem_append_left _ he, hreports⟩, ?_⟩⟩
    exact List.forall_mem_append.2 ⟨h.unfailed, List.forall_mem_singleton.2 id⟩
  · rw [Bool.not_eq_true] at hdone
    obtain ⟨hstatus, hreports⟩ := h.pending hdone
    cases hanswer : r.killed.answer with
    | none => trivial
    | some answer =>
      have htold := told_waited (s.events ++ [.deadline] ++ [.kill]) hstatus
        (List.forall_mem_append.2 ⟨List.forall_mem_append.2
          ⟨hreports, List.forall_mem_singleton.2 rfl⟩, List.forall_mem_singleton.2 rfl⟩)
        (List.forall_mem_append.2 ⟨List.forall_mem_append.2
          ⟨h.unfailed, List.forall_mem_singleton.2 id⟩, List.forall_mem_singleton.2 id⟩)
        r.killed.alive answer
      refine .inr ⟨?_, rfl, ?_⟩
      · cases answer <;> rfl
      · cases answer <;> exact htold

/-- One round keeps what is known. -/
theorem InTime.turn {s : Loop} (h : InTime s.toWatch) (options : ProcessOptions) (r : Round) :
    (turn options s r).Meets (InTime ·.toWatch) (Left ·.toWatch) fun _ => True := by
  have hwait := h.wait_nohang r.waited
  refine turn_meets (hwait.expire options r) (fun message => ?_) fun stdout stderr => ?_
  · exact .inl ⟨hwait.timed_out, hwait.deadline, hwait.unfailed, hwait.done, hwait.pending⟩
  · rw [toWatch_read_polled]
    exact hwait

/-- The loop keeps what is known. -/
theorem InTime.run_loop {options : ProcessOptions} {s s' : Loop} {rounds : List Round}
    (h : InTime s.toWatch) (hleaves : run_loop options s rounds = .leaves s') :
    Left s'.toWatch := by
  have hloop := run_loop_meets (I := (InTime ·.toWatch)) (fun s r hs => hs.turn options r)
    (fun s hs => .inl hs) (fun _ _ => trivial) h rounds
  rw [hleaves] at hloop
  exact hloop

/-! ## The result -/

theorem ended_fill_exit_status (status : ℕ) {result : ProcessResult}
    (h : result.ended = ProcessResult.ended {}) :
    (fill_exit_status status result).ended = (fill_exit_status status {}).ended := by
  simp only [ProcessResult.ended, Prod.mk.injEq] at h
  obtain ⟨hexited, hcode, hsignal⟩ := h
  unfold fill_exit_status ProcessResult.ended
  split_ifs
  · rw [hsignal]
  · rw [hcode]
  · rw [hexited, hcode, hsignal]

/-- How a result that comes back is related to the events. -/
inductive Outcome (result : ProcessResult) (events : List Event) : Prop
  /-- Nothing was spawned. -/
  | unspawned (ended : result.ended = ProcessResult.ended {}) (waits : ∀ e ∈ events, ¬ e.fails)
  | spawned (status : ℕ) (ended : result.ended = (fill_exit_status status {}).ended)
      (told : Told status events) (in_time : result.timed_out = false → Event.deadline ∉ events)

theorem timed_out_fill_exit_status (status : ℕ) (result : ProcessResult) :
    (fill_exit_status status result).timed_out = result.timed_out := by
  unfold fill_exit_status
  split_ifs <;> rfl

theorem Left.finish {options : ProcessOptions} {ending : Waiting} {s : Loop}
    {result : ProcessResult} (h : Left s.toWatch)
    (hfinish : (finish options ending s).1 = some result) :
    Outcome result (Process.finish options ending s).2 := by
  unfold Process.finish at hfinish ⊢
  split_ifs at hfinish ⊢ with hdone
  · obtain rfl := Option.some.inj hfinish
    refine .spawned s.child_status (ended_fill_exit_status _ rfl) ?_ fun hin_time => ?_
    · rcases h with hin | ⟨-, -, htold⟩
      · exact .inl ⟨hin.done hdone, hin.unfailed⟩
      · exact htold
    · rw [Loop.result, timed_out_fill_exit_status] at hin_time
      rcases h with hin | ⟨hout, -⟩
      · exact hin.deadline
      · exact absurd (hin_time.symm.trans hout) (by decide)
  · rw [Bool.not_eq_true] at hdone
    rcases h with hin | ⟨-, hnot, -⟩
    · obtain ⟨hstatus, hreports⟩ := hin.pending hdone
      cases hanswer : ending.answer with
      | none =>
        rw [hanswer] at hfinish
        cases hfinish
      | some answer =>
        rw [hanswer] at hfinish
        obtain rfl := Option.some.inj hfinish
        refine .spawned _ (ended_fill_exit_status _ rfl) ?_ fun _ => ?_
        · have htold := told_waited s.events hstatus hreports hin.unfailed ending.alive answer
          cases answer <;> exact htold
        · exact fun hmem => (List.mem_append.1 hmem).elim hin.deadline (by simp)
    · exact absurd (hdone.symm.trans hnot) (by decide)

/-- The writing makes no other calls. -/
theorem mem_write_stdin {rest : ℕ} {writes : List Writing} {e : Event}
    (h : e ∈ (write_stdin rest writes).2) : ∃ size space alive, e = .write size space alive := by
  induction writes generalizing rest with
  | nil => exact absurd h List.not_mem_nil
  | cons w writes ih =>
    unfold write_stdin at h
    split_ifs at h with hrest
    · exact absurd h List.not_mem_nil
    · rcases List.mem_cons.1 h with rfl | h
      · exact ⟨rest, w.space, w.alive, rfl⟩
      · split at h
        · exact absurd h List.not_mem_nil
        · split_ifs at h
          · exact ih h
          · exact absurd h List.not_mem_nil
        · exact ih h
        · exact absurd h List.not_mem_nil

/-- Before the loop nothing has been waited for. -/
theorem inTime_spawned (argv : List Text) (rest : ℕ) (writes : List Writing) :
    InTime ({ events := [.spawn argv] ++ (write_stdin rest writes).2 } : Watch) := by
  have hevent {p : Event → Prop} (hspawn : p (.spawn argv))
      (hwrite : ∀ size space alive, p (.write size space alive)) :
      ∀ e ∈ [.spawn argv] ++ (write_stdin rest writes).2, p e := by
    intro e he
    rcases List.mem_append.1 he with he | he
    · exact List.mem_singleton.1 he ▸ hspawn
    · obtain ⟨size, space, alive, rfl⟩ := mem_write_stdin he
      exact hwrite size space alive
  refine ⟨rfl, fun hmem => ?_, hevent id fun _ _ _ => id,
    fun hdone => absurd hdone Bool.false_ne_true,
    fun _ => ⟨rfl, hevent rfl fun _ _ _ => rfl⟩⟩
  exact hevent (p := fun e => e ≠ .deadline) (by simp) (by simp) _ hmem rfl

theorem run_outcome {executable : Text} {args : List Text} {options : ProcessOptions}
    {env : Environment} {result : ProcessResult}
    (h : (run_spawned_command executable args options env).1 = some result) :
    Outcome result (run_spawned_command executable args options env).2 := by
  unfold run_spawned_command at h ⊢
  cases hunspawned : Process.unspawned executable options env with
  | some error =>
    rw [hunspawned] at h
    obtain rfl := Option.some.inj h
    exact .unspawned rfl fun e he => absurd he List.not_mem_nil
  | none =>
    rw [hunspawned] at h
    cases hspawned : env.spawned with
    | some error =>
      simp only [hspawned] at h ⊢
      obtain rfl := Option.some.inj h
      exact .unspawned rfl (List.forall_mem_singleton.2 id)
    | none =>
      simp only [hspawned] at h ⊢
      split_ifs at h ⊢
      have hinit := inTime_spawned (executable :: args) options.stdin_text.length env.writes
      cases hloop : run_loop options
          { events := [.spawn (executable :: args)] ++
            (write_stdin options.stdin_text.length env.writes).2 } env.rounds with
      | again s =>
        rw [hloop] at h
        cases h
      | hangs s =>
        rw [hloop] at h
        cases h
      | leaves s =>
        rw [hloop] at h
        exact (hinit.run_loop hloop).finish h

theorem success_iff (r : ProcessResult) : r.success = true ↔
    r.exited = true ∧ r.exit_code = 0 ∧ r.timed_out = false ∧ r.error_message = [] := by
  simp [ProcessResult.success]

/-- A result that says code 0 comes from a status that does. -/
theorem exit_zero {status : ℕ} {result : ProcessResult}
    (hended : result.ended = (fill_exit_status status {}).ended) (hexited : result.exited = true)
    (hcode : result.exit_code = 0) : WIFEXITED status = true ∧ WEXITSTATUS status = 0 := by
  unfold fill_exit_status at hended
  have hexited' := (congrArg (fun t => t.1) hended).symm.trans hexited
  split_ifs at hended hexited' with hnormal
  · have hcode' : result.exit_code = WEXITSTATUS status := congrArg (fun t => t.2.1) hended
    exact ⟨hnormal, by omega⟩
  · exact absurd hexited' Bool.false_ne_true
  · exact absurd hexited' Bool.false_ne_true

/-- The result of a run is sound exactly when no blocking `waitpid` of the run fails. -/
theorem sound_iff (executable : Text) (args : List Text) (options : ProcessOptions)
    (env : Environment) (result : ProcessResult)
    (h : (run_spawned_command executable args options env).1 = some result) :
    Sound result (run_spawned_command executable args options env).2 ↔
      ∀ e ∈ (run_spawned_command executable args options env).2, ¬ e.fails := by
  have houtcome := run_outcome h
  generalize (run_spawned_command executable args options env).2 = events at houtcome ⊢
  cases houtcome with
  | unspawned hended hwaits =>
    refine iff_of_true ⟨fun hsuccess => ?_, fun hne => absurd hended hne⟩ hwaits
    have hexited := ((success_iff result).1 hsuccess).1
    exact absurd (hexited.symm.trans (congrArg (fun t => t.1) hended)) (by decide)
  | spawned status hended htold hin_time =>
    rcases htold with ⟨⟨e, he, hreports⟩, hunfailed⟩ | ⟨rfl, hreports, e, he, hfails⟩
    · refine iff_of_true ⟨fun hsuccess => ?_, fun _ => ⟨e, he, status, hreports, hended⟩⟩ hunfailed
      obtain ⟨hexited, hcode, hnot_out, -⟩ := (success_iff result).1 hsuccess
      obtain ⟨front, back, rfl⟩ := List.append_of_mem he
      have hdeadline := hin_time hnot_out
      exact ⟨front, e, back, status, rfl, hreports,
        fun hmem => hdeadline (List.mem_append_left _ hmem), exit_zero hended hexited hcode⟩
    · -- the 0 of the beginning reads as a normal exit
      refine iff_of_false (fun hsound => ?_) fun hunfailed => hunfailed e he hfails
      have hne : result.ended ≠ ProcessResult.ended {} := by
        rw [hended]
        decide
      obtain ⟨e', he', status, hstatus, -⟩ := hsound.ended hne
      rw [hreports e' he'] at hstatus
      cases hstatus

/-- A round in which both pipes close. -/
def closing (waited : Wait) : Round where
  waited := waited
  polled := .events true true
  stdout_read := { closes := true }
  stderr_read := { closes := true }

/-- A child that is reported with exit code 3 after its pipes have closed. -/
theorem sound_exit_three : Sound (fill_exit_status 768 {})
    [.spawn [[116]], .waitpid_nohang .nothing, .waitpid true (some (.reported 768))] := by
  refine (sound_iff [116] [] {}
    { rounds := [closing .nothing], ending := ⟨true, some (.reported 768)⟩ }
    (fill_exit_status 768 {}) rfl).2 ?_
  show ∀ e ∈ [Event.spawn [[116]], .waitpid_nohang .nothing, .waitpid true (some (.reported 768))],
    ¬ e.fails
  simp [Event.fails]

/-- A child that is already gone for every `waitpid` has succeeded. -/
theorem gone_succeeds : ¬ ∀ executable args options env result,
    (run_spawned_command executable args options env).1 = some result →
      Sound result (run_spawned_command executable args options env).2 := by
  intro hclaim
  have hsound := hclaim [116] [] {} { rounds := [closing .gone], ending := ⟨false, some .gone⟩ }
    (fill_exit_status 0 {}) rfl
  obtain ⟨e, he, status, hstatus, -⟩ := hsound.ended (by decide)
  have hnone : ∀ e ∈ [Event.spawn [[116]], .waitpid_nohang .gone, .waitpid false (some .gone)],
      e.reports = none := by
    simp [Event.reports]
  rw [hnone e he] at hstatus
  cases hstatus

end FactoryTest.Process
