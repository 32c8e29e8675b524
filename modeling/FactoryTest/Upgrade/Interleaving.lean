import FactoryTest.Upgrade.Page

/-!
# Any order of steps

What is observed of the page of the upgrade, whatever the order of the steps of its two threads.
-/

namespace FactoryTest.Upgrade.Page

open DeviceInfo Process

/-- The upgrade that is observed. -/
def Obs.number : Obs → ℕ
  | .started n _ | .stored n _ | .copied n | .handled n _ | .reboot n => n

/-- The upgrade has stored a result. -/
def HasStored (n : ℕ) (os : List Obs) : Prop := ∃ result, Obs.stored n result ∈ os

/-- The upgrade has stored that it succeeded. -/
def HasSucceeded (n : ℕ) (os : List Obs) : Prop :=
  ∃ result, Obs.stored n result ∈ os ∧ result.success = true

/-- When the job state was copied last, the upgrade had succeeded or not. -/
def Copied (n : ℕ) (success : Bool) (os : List Obs) : Prop :=
  ∃ earlier later, os = earlier ++ .copied n :: later ∧ (∀ m, Obs.copied m ∉ later) ∧
    (success = true ↔ HasSucceeded n earlier)

/-- What may be observed, given what was observed before. -/
def Right (archive_path : Text) (before : List Obs) : Obs → Prop
  | .started n _ => ∀ m job, Obs.started m job ∈ before → m < n ∧ HasStored m before
  | .stored n result => (∃ job, Obs.started n job ∈ before ∧
      (job.world archive_path).threw = false ∧ result = (job.world archive_path).result) ∧
      ¬ HasStored n before
  | .copied _ => True
  | .handled n success => HasStored n before ∧ Copied n success before ∧
      ∀ success', Obs.handled n success' ∉ before
  | .reboot n => Obs.reboot n ∉ before ∧ ∃ job, Obs.started n job ∈ before ∧
      (job.world archive_path).result.success = true

/-- What the worker and the flags tell of each other. -/
def Phase (archive_path : Text) (s : State) (os : List Obs) : Prop :=
  match s.worker with
  | .absent => s.closed = true ∨
      s.job_state.running = false ∧ (0 < s.upgrades → HasStored s.upgrades os)
  | .working _ result => s.job_state.running = true ∧ s.job_state.done = false ∧
      (∃ job, Obs.started s.upgrades job ∈ os ∧ result = job.returned archive_path) ∧
      ¬ HasStored s.upgrades os
  | .stored => s.job_state.running = true ∧ HasStored s.upgrades os
  | .stopped | .finished => s.job_state.running = false ∧ HasStored s.upgrades os

/-- What holds in every state. -/
structure Inv (archive_path : Text) (s : State) (os : List Obs) : Prop where
  phase : Phase archive_path s os
  number : ∀ o ∈ os, o.number ≤ s.upgrades
  started : ∀ n job, Obs.started n job ∈ os → 0 < n ∧ (n < s.upgrades → HasStored n os)
  stored : ∀ n result, Obs.stored n result ∈ os → ∃ job, Obs.started n job ∈ os ∧
    (job.world archive_path).threw = false ∧ result = (job.world archive_path).result
  success : s.job_state.success = true ↔ HasSucceeded s.upgrades os
  done : s.job_state.done = true → HasStored s.upgrades os
  handled : ∀ success, Obs.handled s.upgrades success ∈ os → s.completion_handled = true
  reboot : ∀ n, Obs.reboot n ∈ os → Obs.handled n true ∈ os
  refresh : ∀ snapshot, s.refresh = .copied snapshot ∨ s.refresh = .shown snapshot →
    Copied s.upgrades snapshot.success os
  right : Justified (Right archive_path) os

variable {archive_path : Text} {s s' : State} {os : List Obs} {o : Obs} {n : ℕ}

theorem HasStored.concat (h : HasStored n os) : HasStored n (os ++ [o]) := by
  obtain ⟨result, hmem⟩ := h
  exact ⟨result, List.mem_append_left _ hmem⟩

theorem hasStored_concat_iff (ho : ∀ result, o ≠ .stored n result) :
    HasStored n (os ++ [o]) ↔ HasStored n os := by
  constructor
  · rintro ⟨result, hmem⟩
    rcases List.mem_append.1 hmem with hmem | hmem
    · exact ⟨result, hmem⟩
    · exact absurd (List.mem_singleton.1 hmem).symm (ho result)
  · exact HasStored.concat

theorem hasSucceeded_concat_iff (ho : ∀ result, o ≠ .stored n result) :
    HasSucceeded n (os ++ [o]) ↔ HasSucceeded n os := by
  refine exists_congr fun result => and_congr_left fun _ => ?_
  rw [List.mem_append, List.mem_singleton]
  exact or_iff_left fun heq => ho result heq.symm

theorem Copied.concat {success : Bool} (h : Copied n success os) (ho : ∀ m, o ≠ .copied m) :
    Copied n success (os ++ [o]) := by
  obtain ⟨earlier, later, rfl, hlater, hsuccess⟩ := h
  refine ⟨earlier, later ++ [o], by simp, fun m hmem => ?_, hsuccess⟩
  rcases List.mem_append.1 hmem with hmem | hmem
  · exact hlater m hmem
  · exact ho m (List.mem_singleton.1 hmem).symm

/-- A step that nothing is observed of. -/
theorem Inv.silent (h : Inv archive_path s os) (hphase : Phase archive_path s' os)
    (hupgrades : s'.upgrades = s.upgrades)
    (hsuccess : s'.job_state.success = s.job_state.success)
    (hdone : s'.job_state.done = true → s.job_state.done = true ∨ HasStored s.upgrades os)
    (hhandled : s.completion_handled = true → s'.completion_handled = true)
    (hrefresh : ∀ snapshot, s'.refresh = .copied snapshot ∨ s'.refresh = .shown snapshot →
      s.refresh = .copied snapshot ∨ s.refresh = .shown snapshot) :
    Inv archive_path s' os where
  phase := hphase
  number := hupgrades ▸ h.number
  started := hupgrades ▸ h.started
  stored := h.stored
  success := by rw [hsuccess, hupgrades, h.success]
  done hd := by
    rw [hupgrades]
    exact (hdone hd).elim h.done id
  handled success hmem := hhandled (h.handled success (hupgrades ▸ hmem))
  reboot := h.reboot
  refresh snapshot hs := hupgrades ▸ h.refresh snapshot (hrefresh snapshot hs)
  right := h.right

/-- An observation that is neither the beginning of an upgrade nor its result. -/
theorem Inv.note (h : Inv archive_path s os) (hnumber : o.number ≤ s.upgrades)
    (hstarted : ∀ n job, o ≠ .started n job) (hstored : ∀ n result, o ≠ .stored n result)
    (hhandled : ∀ success, o = .handled s.upgrades success → s.completion_handled = true)
    (hreboot : ∀ n, o = .reboot n → Obs.handled n true ∈ os)
    (hrefresh : ∀ snapshot, s.refresh = .copied snapshot ∨ s.refresh = .shown snapshot →
      Copied s.upgrades snapshot.success (os ++ [o])) (hright : Right archive_path os o) :
    Inv archive_path s (os ++ [o]) where
  phase := by
    have hphase := h.phase
    unfold Phase at hphase ⊢
    have hno : HasStored s.upgrades (os ++ [o]) ↔ HasStored s.upgrades os :=
      hasStored_concat_iff (hstored s.upgrades)
    cases hworker : s.worker with
    | absent => simpa [hworker, hno] using hphase
    | working publications result =>
      simp only [hworker, hno] at hphase ⊢
      obtain ⟨hrunning, hdone, ⟨job, hmem, hresult⟩, hnone⟩ := hphase
      exact ⟨hrunning, hdone, ⟨job, List.mem_append_left _ hmem, hresult⟩, hnone⟩
    | stored => simpa [hworker, hno] using hphase
    | stopped => simpa [hworker, hno] using hphase
    | finished => simpa [hworker, hno] using hphase
  number o' hmem := by
    rcases List.mem_append.1 hmem with hmem | hmem
    · exact h.number o' hmem
    · exact List.mem_singleton.1 hmem ▸ hnumber
  started n job hmem := by
    rcases List.mem_append.1 hmem with hmem | hmem
    · obtain ⟨hpos, hearlier⟩ := h.started n job hmem
      exact ⟨hpos, fun hlt => (hearlier hlt).concat⟩
    · exact absurd (List.mem_singleton.1 hmem).symm (hstarted n job)
  stored n result hmem := by
    rcases List.mem_append.1 hmem with hmem | hmem
    · obtain ⟨job, hjob, hresult⟩ := h.stored n result hmem
      exact ⟨job, List.mem_append_left _ hjob, hresult⟩
    · exact absurd (List.mem_singleton.1 hmem).symm (hstored n result)
  success := by rw [h.success, hasSucceeded_concat_iff (hstored s.upgrades)]
  done hd := (h.done hd).concat
  handled success hmem := by
    rcases List.mem_append.1 hmem with hmem | hmem
    · exact h.handled success hmem
    · exact hhandled success (List.mem_singleton.1 hmem).symm
  reboot n hmem := by
    rcases List.mem_append.1 hmem with hmem | hmem
    · exact List.mem_append_left _ (h.reboot n hmem)
    · exact List.mem_append_left _ (hreboot n (List.mem_singleton.1 hmem).symm)
  refresh := hrefresh
  right := justified_concat.2 ⟨h.right, hright⟩

/-! ## The worker -/

theorem store_spec (job_state : JobState) (result : Result) :
    (job_state.store result).running = job_state.running ∧
      (job_state.store result).done = job_state.done ∧
      (job_state.store result).success = result.success := by
  unfold JobState.store
  dsimp only
  split_ifs <;> exact ⟨rfl, rfl, rfl⟩

/-- The worker stores its result. -/
theorem inv_store {result : Result} (h : Inv archive_path s os)
    (hworker : s.worker = .working [] (some result)) :
    Inv archive_path { s with job_state := s.job_state.store result, worker := .stored }
      (os ++ [.stored s.upgrades result]) := by
  have hphase := h.phase
  rw [Phase, hworker] at hphase
  obtain ⟨hrunning, hdone, ⟨job, hjob, hreturned⟩, hnone⟩ := hphase
  have hresult := Job.returned_eq hreturned.symm
  obtain ⟨hstore_running, hstore_done, hstore_success⟩ := store_spec s.job_state result
  have hnew : Obs.stored s.upgrades result ∈ os ++ [.stored s.upgrades result] :=
    List.mem_append_right _ (List.mem_singleton_self _)
  have hold : ∀ {o}, o ∈ os ++ [Obs.stored s.upgrades result] →
      o ∈ os ∨ o = .stored s.upgrades result := fun hmem =>
    (List.mem_append.1 hmem).imp_right List.mem_singleton.1
  constructor
  case phase => exact ⟨hstore_running.trans hrunning, result, hnew⟩
  case number =>
    intro o hmem
    rcases hold hmem with hmem | rfl
    · exact h.number o hmem
    · exact le_refl _
  case started =>
    intro n job hmem
    rcases hold hmem with hmem | heq
    · obtain ⟨hpos, hearlier⟩ := h.started n job hmem
      exact ⟨hpos, fun hlt => (hearlier hlt).concat⟩
    · exact Obs.noConfusion heq
  case stored =>
    intro n result' hmem
    rcases hold hmem with hmem | heq
    · obtain ⟨job, hjob, hresult⟩ := h.stored n result' hmem
      exact ⟨job, List.mem_append_left _ hjob, hresult⟩
    · obtain ⟨rfl, rfl⟩ := Obs.stored.inj heq
      exact ⟨job, List.mem_append_left _ hjob, hresult⟩
  case success =>
    show (s.job_state.store result).success = true ↔ _
    rw [hstore_success]
    refine ⟨fun hsuccess => ⟨result, hnew, hsuccess⟩, ?_⟩
    rintro ⟨result', hmem, hsuccess⟩
    rcases hold hmem with hmem | heq
    · exact absurd ⟨result', hmem⟩ hnone
    · obtain ⟨-, rfl⟩ := Obs.stored.inj heq
      exact hsuccess
  case done => exact fun _ => ⟨result, hnew⟩
  case handled =>
    intro success hmem
    rcases hold hmem with hmem | heq
    · exact h.handled success hmem
    · exact Obs.noConfusion heq
  case reboot =>
    intro n hmem
    rcases hold hmem with hmem | heq
    · exact List.mem_append_left _ (h.reboot n hmem)
    · exact Obs.noConfusion heq
  case refresh =>
    exact fun snapshot hs => (h.refresh snapshot hs).concat fun _ => Obs.noConfusion
  case right => exact justified_concat.2 ⟨h.right, ⟨job, hjob, hresult⟩, hnone⟩

theorem inv_worker_step (h : Inv archive_path s os) :
    Inv archive_path (worker_step s).1 (os ++ (worker_step s).2) := by
  have hphase := h.phase
  unfold Phase at hphase
  unfold worker_step
  cases hworker : s.worker with
  | absent =>
    rw [List.append_nil]
    exact h
  | working publications result =>
    rw [hworker] at hphase
    cases publications with
    | nil =>
      cases result with
      | some result => exact inv_store h hworker
      | none =>
        rw [List.append_nil]
        refine h.silent (.inl rfl) rfl rfl (fun hd => .inl hd) id ?_
        rintro snapshot (hs | hs) <;> exact Refresh.noConfusion hs
    | cons publication publications =>
      rw [List.append_nil]
      exact h.silent hphase rfl rfl (fun hd => .inl hd) id fun _ hs => hs
  | stored =>
    rw [hworker] at hphase
    rw [List.append_nil]
    exact h.silent ⟨rfl, hphase.2⟩ rfl rfl (fun hd => .inl hd) id fun _ hs => hs
  | stopped =>
    rw [hworker] at hphase
    rw [List.append_nil]
    exact h.silent hphase rfl rfl (fun _ => .inr hphase.2) id fun _ hs => hs
  | finished =>
    rw [List.append_nil]
    exact h

theorem inv_worker_steps (n : ℕ) (h : Inv archive_path s os) :
    Inv archive_path (worker_steps n s).1 (os ++ (worker_steps n s).2) := by
  induction n generalizing s os with
  | zero =>
    rw [worker_steps, List.append_nil]
    exact h
  | succ n ih =>
    have hrest := ih (inv_worker_step h)
    rwa [List.append_assoc] at hrest

/-- The worker begins no refresh. -/
theorem worker_steps_refresh (n : ℕ) (h : s.refresh = .idle) :
    (worker_steps n s).1.refresh = .idle := by
  have hstep : ∀ s : State, s.refresh = .idle → (worker_step s).1.refresh = .idle := by
    intro s hs
    unfold worker_step
    rcases s.worker with _ | ⟨_ | _, _ | _⟩ | _ | _ | _ <;> first | exact hs | rfl
  induction n generalizing s with
  | zero => exact h
  | succ n ih => exact ih (hstep s h)

/-- A worker that is not running ends nothing. -/
theorem worker_steps_closed (n : ℕ) (h : Inv archive_path s os)
    (hrunning : s.job_state.running = false) :
    (worker_steps n s).1.closed = s.closed := by
  have hstep : ∀ {s os}, Inv archive_path s os → s.job_state.running = false →
      (worker_step s).1.closed = s.closed ∧ (worker_step s).1.job_state.running = false := by
    intro s os h hrunning
    have hphase := h.phase
    unfold Phase at hphase
    unfold worker_step
    cases hworker : s.worker with
    | absent => exact ⟨rfl, hrunning⟩
    | working publications result =>
      rw [hworker] at hphase
      exact absurd (hphase.1.symm.trans hrunning) (by decide)
    | stored => exact ⟨rfl, rfl⟩
    | stopped => exact ⟨rfl, hrunning⟩
    | finished => exact ⟨rfl, hrunning⟩
  induction n generalizing s os with
  | zero => rfl
  | succ n ih =>
    obtain ⟨hclosed, hstill⟩ := hstep h hrunning
    exact (ih (inv_worker_step h) hstill).trans hclosed

theorem remaining_worker_step (s : State) :
    (worker_step s).1.worker.remaining ≤ s.worker.remaining - 1 := by
  unfold worker_step
  rcases hworker : s.worker with _ | ⟨_ | _, _ | _⟩ | _ | _ | _ <;>
    simp [Worker.remaining, hworker]

theorem remaining_worker_steps (n : ℕ) (s : State) :
    (worker_steps n s).1.worker.remaining ≤ s.worker.remaining - n := by
  induction n generalizing s with
  | zero => exact le_refl _
  | succ n ih =>
    have hrest := ih (worker_step s).1
    have hstep := remaining_worker_step s
    exact hrest.trans (by omega)

/-- When the worker is joined, it has taken all of its steps. -/
theorem inv_join (h : Inv archive_path s os) :
    Inv archive_path (join s).1 (os ++ (join s).2) := by
  have hsteps := inv_worker_steps s.worker.remaining h
  have hremaining := remaining_worker_steps s.worker.remaining s
  rw [Nat.sub_self, Nat.le_zero] at hremaining
  unfold join
  dsimp only
  generalize worker_steps s.worker.remaining s = answer at hsteps hremaining ⊢
  obtain ⟨s', os'⟩ := answer
  dsimp only at hsteps hremaining ⊢
  refine hsteps.silent ?_ rfl rfl (fun hd => .inl hd) id fun _ hs => hs
  have hphase := hsteps.phase
  unfold Phase at hphase
  cases hworker : s'.worker with
  | absent =>
    rw [hworker] at hphase
    exact hphase
  | working publications result => simp [hworker, Worker.remaining] at hremaining
  | stored => simp [hworker, Worker.remaining] at hremaining
  | stopped => simp [hworker, Worker.remaining] at hremaining
  | finished =>
    rw [hworker] at hphase
    exact .inr ⟨hphase.1, fun _ => hphase.2⟩

theorem join_worker (s : State) : (join s).1.worker = .absent := rfl

theorem join_refresh (h : s.refresh = .idle) : (join s).1.refresh = .idle :=
  worker_steps_refresh _ h

theorem join_closed (h : Inv archive_path s os) (hrunning : s.job_state.running = false) :
    (join s).1.closed = s.closed := worker_steps_closed _ h hrunning

/-! ## The page -/

/-- A worker is started when there is none, and no refresh. -/
theorem inv_start {job : Job} {publications : List (ℤ × String)} {job_state : JobState}
    (h : Inv archive_path s os) (hworker : s.worker = .absent) (hrefresh : s.refresh = .idle)
    (hopen : s.closed = false)
    (hrunning : job_state.running = true) (hdone : job_state.done = false)
    (hsuccess : job_state.success = false) :
    Inv archive_path { s with
      job_state
      worker := .working publications (job.returned archive_path)
      upgrades := s.upgrades + 1
      nav := false
      completion_handled := false } (os ++ [.started (s.upgrades + 1) job]) := by
  have hphase := h.phase
  rw [Phase, hworker] at hphase
  obtain ⟨-, hphase⟩ := hphase.resolve_left (by simp [hopen])
  have hnew : ∀ {o}, o ∈ os ++ [Obs.started (s.upgrades + 1) job] → o.number = s.upgrades + 1 →
      o = .started (s.upgrades + 1) job := by
    intro o hmem ho
    rcases List.mem_append.1 hmem with hmem | hmem
    · exact absurd (h.number o hmem) (by omega)
    · exact List.mem_singleton.1 hmem
  have hnone : ¬ HasStored (s.upgrades + 1) (os ++ [Obs.started (s.upgrades + 1) job]) := by
    rintro ⟨result, hmem⟩
    exact Obs.noConfusion (hnew hmem rfl)
  have hearlier : ∀ n job, Obs.started n job ∈ os → n < s.upgrades + 1 ∧ HasStored n os := by
    intro n job hmem
    obtain ⟨hpos, hstored⟩ := h.started n job hmem
    have hle : n ≤ s.upgrades := h.number _ hmem
    refine ⟨Nat.lt_succ_of_le hle, ?_⟩
    rcases Nat.lt_or_eq_of_le hle with hlt | rfl
    · exact hstored hlt
    · exact hphase hpos
  constructor
  case phase =>
    exact ⟨hrunning, hdone, ⟨job, List.mem_append_right _ (List.mem_singleton_self _), rfl⟩, hnone⟩
  case number =>
    intro o hmem
    rcases List.mem_append.1 hmem with hmem | hmem
    · exact Nat.le_succ_of_le (h.number o hmem)
    · rw [List.mem_singleton.1 hmem]
      exact le_refl _
  case started =>
    intro n job' hmem
    rcases List.mem_append.1 hmem with hmem | hmem
    · exact ⟨(h.started n job' hmem).1, fun _ => (hearlier n job' hmem).2.concat⟩
    · obtain ⟨rfl, -⟩ := Obs.started.inj (List.mem_singleton.1 hmem)
      exact ⟨Nat.succ_pos _, fun hlt => absurd hlt (Nat.lt_irrefl _)⟩
  case stored =>
    intro n result hmem
    rcases List.mem_append.1 hmem with hmem | hmem
    · obtain ⟨job, hjob, hresult⟩ := h.stored n result hmem
      exact ⟨job, List.mem_append_left _ hjob, hresult⟩
    · exact Obs.noConfusion (List.mem_singleton.1 hmem)
  case success =>
    refine iff_of_false (by simp [hsuccess]) ?_
    rintro ⟨result, hmem, -⟩
    exact hnone ⟨result, hmem⟩
  case done => exact fun hd => absurd (hdone.symm.trans hd) (by decide)
  case handled => exact fun success hmem => Obs.noConfusion (hnew hmem rfl)
  case reboot =>
    intro n hmem
    rcases List.mem_append.1 hmem with hmem | hmem
    · exact List.mem_append_left _ (h.reboot n hmem)
    · exact Obs.noConfusion (List.mem_singleton.1 hmem)
  case refresh =>
    intro snapshot hs
    rcases hs with hs | hs <;> exact Refresh.noConfusion (hrefresh.symm.trans hs)
  case right => exact justified_concat.2 ⟨h.right, hearlier⟩

theorem inv_start_upgrade_ (h : Inv archive_path s os) (hrefresh : s.refresh = .idle)
    (hopen : s.closed = false) (job : Job) :
    Inv archive_path (start_upgrade_ archive_path job s).1
      (os ++ (start_upgrade_ archive_path job s).2) := by
  unfold start_upgrade_
  split_ifs with hrunning
  · rw [List.append_nil]
    exact h
  · dsimp only
    rw [← List.append_assoc]
    exact inv_start (inv_join h) (join_worker s) (join_refresh hrefresh)
      ((join_closed h (Bool.eq_false_iff.2 hrunning)).trans hopen) rfl rfl rfl

/-- The end of an upgrade is handled. -/
theorem inv_handle {snapshot : Snapshot} {reboots : Bool} (h : Inv archive_path s os)
    (hrefresh : s.refresh = .idle) (hdone : s.job_state.done = true)
    (hhandled : s.completion_handled = false)
    (hcopied : Copied s.upgrades snapshot.success os) :
    Inv archive_path (handle s snapshot reboots).1 (os ++ (handle s snapshot reboots).2) := by
  have hnone : ∀ success, Obs.handled s.upgrades success ∉ os := fun success hmem =>
    absurd ((h.handled success hmem).symm.trans hhandled) (by decide)
  have hidle : ∀ {os' : List Obs} snapshot', s.refresh = .copied snapshot' ∨
      s.refresh = .shown snapshot' → Copied s.upgrades snapshot'.success os' := by
    intro os' snapshot' hs
    rcases hs with hs | hs <;> exact Refresh.noConfusion (hrefresh.symm.trans hs)
  have hmarked : Inv archive_path { s with completion_handled := true, nav := true }
      (os ++ [.handled s.upgrades snapshot.success]) := by
    have hsame : Inv archive_path { s with completion_handled := true, nav := true } os :=
      h.silent h.phase rfl rfl (fun hd => .inl hd) (fun _ => rfl) fun _ hs => hs
    exact hsame.note (le_refl _) (fun _ _ => Obs.noConfusion) (fun _ _ => Obs.noConfusion)
      (fun _ _ => rfl) (fun _ => Obs.noConfusion) hidle ⟨h.done hdone, hcopied, hnone⟩
  unfold handle
  dsimp only
  by_cases hsuccess : snapshot.success = true
  · rw [hsuccess] at hmarked
    rw [if_pos hsuccess]
    have hjob : ∃ job, Obs.started s.upgrades job ∈ os ∧
        (job.world archive_path).result.success = true := by
      obtain ⟨earlier, later, rfl, -, hcopy⟩ := hcopied
      obtain ⟨result, hmem, hresult⟩ := hcopy.1 hsuccess
      obtain ⟨job, hjob, -, rfl⟩ := h.stored s.upgrades result (List.mem_append_left _ hmem)
      exact ⟨job, hjob, hresult⟩
    have hright : Right archive_path (os ++ [.handled s.upgrades true]) (.reboot s.upgrades) := by
      obtain ⟨job, hjob, hresult⟩ := hjob
      refine ⟨fun hmem => ?_, job, List.mem_append_left _ hjob, hresult⟩
      rcases List.mem_append.1 hmem with hmem | hmem
      · exact hnone true (h.reboot _ hmem)
      · exact Obs.noConfusion (List.mem_singleton.1 hmem)
    have hreboot := hmarked.note (o := .reboot s.upgrades) (le_refl _)
      (fun _ _ => Obs.noConfusion) (fun _ _ => Obs.noConfusion) (fun _ => Obs.noConfusion)
      (fun n heq => List.mem_append_right _ (by rw [Obs.reboot.inj heq]; simp)) hidle hright
    rw [List.append_assoc] at hreboot
    split_ifs
    · exact hreboot.silent hreboot.phase rfl rfl (fun hd => .inl hd) id fun _ hs => hs
    · exact hreboot.silent hreboot.phase rfl rfl (fun hd => .inl hd) id fun _ hs => hs
  · rw [if_neg hsuccess]
    rwa [Bool.eq_false_iff.2 hsuccess] at hmarked

theorem show_spec (s : State) (snapshot : Snapshot) :
    ∃ progress info, show_ s snapshot = { s with progress, info } := by
  unfold show_
  by_cases hstatus : snapshot.status ≠ ""
  · rw [if_pos hstatus]
    exact ⟨_, _, rfl⟩
  · rw [if_neg hstatus]
    exact ⟨s.progress, s.info, rfl⟩

theorem inv_refresh_step (h : Inv archive_path s os) (reboots : Bool) :
    Inv archive_path (refresh_step s reboots).1 (os ++ (refresh_step s reboots).2) := by
  unfold refresh_step
  cases hrefresh : s.refresh with
  | idle =>
    have hcopy : Copied s.upgrades s.job_state.success (os ++ [.copied s.upgrades]) :=
      ⟨os, [], rfl, fun _ => List.not_mem_nil, h.success⟩
    have hnone : ∀ snapshot, ¬ (s.refresh = .copied snapshot ∨ s.refresh = .shown snapshot) := by
      rintro snapshot (hs | hs) <;> exact Refresh.noConfusion (hrefresh.symm.trans hs)
    have hnote := h.note (o := .copied s.upgrades) (le_refl _) (fun _ _ => Obs.noConfusion)
      (fun _ _ => Obs.noConfusion) (fun _ => Obs.noConfusion) (fun _ => Obs.noConfusion)
      (fun snapshot hs => absurd hs (hnone snapshot)) trivial
    refine { hnote with refresh := ?_ }
    rintro snapshot (hs | hs)
    · obtain rfl := Refresh.copied.inj hs
      exact hcopy
    · exact Refresh.noConfusion hs
  | copied snapshot =>
    obtain ⟨progress, info, hshow⟩ := show_spec s snapshot
    dsimp only
    rw [List.append_nil, hshow]
    refine h.silent h.phase rfl rfl (fun hd => .inl hd) id ?_
    rintro snapshot' (hs | hs)
    · exact Refresh.noConfusion hs
    · obtain rfl := Refresh.shown.inj hs
      exact .inl hrefresh
  | shown snapshot =>
    have hidle : Inv archive_path { s with refresh := .idle } os := by
      refine h.silent h.phase rfl rfl (fun hd => .inl hd) id ?_
      rintro snapshot' (hs | hs) <;> exact Refresh.noConfusion hs
    dsimp only
    split_ifs with hend
    · exact inv_handle hidle rfl hend.1 hend.2 (h.refresh snapshot (.inr hrefresh))
    · rw [List.append_nil]
      exact hidle

theorem refresh_of_free (h : s.free = true) : s.refresh = .idle ∧ s.closed = false := by
  unfold State.free at h
  cases hrefresh : s.refresh with
  | idle => simpa [hrefresh] using h
  | copied snapshot => simp [hrefresh] at h
  | shown snapshot => simp [hrefresh] at h

/-- A step of one of the threads. -/
theorem inv_step (h : Inv archive_path s os) (e : Event) :
    Inv archive_path (step archive_path s e).1 (os ++ (step archive_path s e).2) := by
  have hdialog : ∀ dialog, Inv archive_path { s with dialog } os := fun dialog =>
    h.silent h.phase rfl rfl (fun hd => .inl hd) id fun _ hs => hs
  have hstay : Inv archive_path s (os ++ []) := by rwa [List.append_nil]
  cases e with
  | ask =>
    rw [step, List.append_nil]
    split_ifs
    · exact hdialog true
    · exact h
  | cancel =>
    rw [step, List.append_nil]
    split_ifs
    · exact hdialog false
    · exact h
  | confirm job =>
    rw [step]
    split_ifs with hfree
    · obtain ⟨hrefresh, hopen⟩ := refresh_of_free hfree.1
      exact inv_start_upgrade_ (hdialog false) hrefresh hopen job
    · exact hstay
  | refresh reboots =>
    rw [step]
    split_ifs
    · exact hstay
    · exact inv_refresh_step h reboots
  | worker => exact inv_worker_step h
  | leave =>
    rw [step]
    split_ifs
    · have hjoin := inv_join h
      exact hjoin.silent (.inl rfl) rfl rfl (fun hd => .inl hd) id fun _ hs => hs
    · exact hstay

theorem inv_init : Inv archive_path {} [] where
  phase := .inr ⟨rfl, fun hpos => absurd hpos (Nat.lt_irrefl 0)⟩
  number _ hmem := absurd hmem List.not_mem_nil
  started _ _ hmem := absurd hmem List.not_mem_nil
  stored _ _ hmem := absurd hmem List.not_mem_nil
  success := iff_of_false (by decide) (by rintro ⟨_, hmem, -⟩; exact absurd hmem List.not_mem_nil)
  done hd := absurd hd (by decide)
  handled _ hmem := absurd hmem List.not_mem_nil
  reboot _ hmem := absurd hmem List.not_mem_nil
  refresh _ hs := by rcases hs with hs | hs <;> exact Refresh.noConfusion hs
  right := justified_nil _

/-- Whatever the order of the steps is, what is observed is justified by what was observed. -/
theorem page_justified (archive_path : Text) (es : List Event) :
    Justified (Right archive_path) ((machine archive_path).run ⟨{}, []⟩ es).history :=
  ((machine archive_path).run_invariant (I := fun c => Inv archive_path c.state c.history)
    (fun _ e h => inv_step h e) inv_init es).right

end FactoryTest.Upgrade.Page
