import FactoryTest.Precheck.Model
import Mathlib.Tactic.Common

/-!
# The counters describe the items

**The property** (`Describes`). The three counters of a snapshot are the numbers of items that
passed, that failed and that are done, and a final state says what the items say.

**Where it fails.** A worker that `retry_failed` starts skips the camera and the IMU of the
smaller product once more, and counts them once more: `completed` is then two too large
(`retried_lite_overcounts`).

**Where it holds** (`counters_describe_iff`). The property holds at every point of a run exactly
if no worker started by `retry_failed` skips items in it. The proof carries the invariant `Inv`:
the counters are right, and at each place of the worker the items before the loop index are
done.
-/

namespace FactoryTest.Precheck

/-! ## The property -/

/-- The item counts as completed. -/
def CheckState.done : CheckState → Bool
  | .PASSED | .FAILED | .SKIPPED => true
  | .PENDING | .RUNNING | .CANCELED => false

/-- The states of the items. -/
def Snapshot.states (s : Snapshot) : List CheckState := s.items.map (·.state)

/-- The counters and the final state say what the items say. -/
structure Describes (s : Snapshot) : Prop where
  passed : s.passed.toNat = s.states.count .PASSED
  failed : s.failed.toNat = s.states.count .FAILED
  completed : s.completed.toNat = s.states.countP CheckState.done
  bounded : s.completed.toNat ≤ s.items.length
  all_passed : s.state = .PASSED → ∀ st ∈ s.states, st = .PASSED ∨ st = .SKIPPED
  some_failed : s.state = .FAILED → .FAILED ∈ s.states

/-- The step skips items of the smaller product in a worker that `retry_failed` started. -/
def SkipsAgain (model : ProductModel) (c : Config PrecheckModel Call) (e : Event) : Prop :=
  skip_camera_and_imu model = true ∧ e = .work ∧ c.state.worker = .at .skip ∧
    c.history.getLast? = some .retry_failed

instance (model : ProductModel) (c : Config PrecheckModel Call) (e : Event) :
    Decidable (SkipsAgain model c e) := inferInstanceAs (Decidable (_ ∧ _))

/-! ## What a write does to the states -/

section States

variable {s : Snapshot} {i : ℕ} {f : CheckItem → CheckItem}

/-- A write that gives its item one state whatever it was. -/
theorem states_write {st : CheckState} (hf : ∀ item, (f item).state = st) :
    (s.write i f).states = s.states.set i st := by
  apply List.ext_getElem?
  intro j
  simp only [Snapshot.states, Snapshot.write, List.getElem?_map, List.getElem?_modify,
    List.getElem?_set, List.length_map]
  by_cases hij : i = j
  · subst hij
    by_cases hi : i < s.items.length <;> simp [hi, hf]
  · cases s.items[j]? <;> simp [hij]

/-- A write that leaves the state of its item alone. -/
theorem states_write_keep (hf : ∀ item, (f item).state = item.state) :
    (s.write i f).states = s.states := by
  apply List.ext_getElem?
  intro j
  simp only [Snapshot.states, Snapshot.write, List.getElem?_map, List.getElem?_modify]
  by_cases hij : i = j
  · cases s.items[j]? <;> simp [hij, hf]
  · cases s.items[j]? <;> simp [hij]

@[simp] theorem states_publish (state : RunState) (headline : String) :
    (s.publish state headline).states = s.states := rfl

@[simp] theorem states_skip_item (index : ℕ) :
    (s.skip_item index).states = s.states.set index .SKIPPED := states_write fun _ => rfl

@[simp] theorem states_begin_check : (s.begin_check i).states = s.states.set i .RUNNING :=
  states_write fun _ => rfl

@[simp] theorem states_cancel_check : (s.cancel_check i).states = s.states.set i .CANCELED :=
  states_write fun _ => rfl

@[simp] theorem states_end_check (passed : Bool) :
    (s.end_check i passed).states = s.states.set i (if passed then .PASSED else .FAILED) :=
  states_write fun _ => rfl

theorem length_states : s.states.length = s.items.length := List.length_map _

theorem item_state_eq : item_state s.items i = s.states[i]? := (List.getElem?_map ..).symm

end States

/-! ## The numbers -/

/-- The counters are the numbers of items in the states. -/
structure Counts (s : Snapshot) : Prop where
  size : s.states.length = 14
  passed : s.passed.toNat = s.states.count .PASSED
  failed : s.failed.toNat = s.states.count .FAILED
  completed : s.completed.toNat = s.states.countP CheckState.done

theorem Counts.of_eq {s t : Snapshot} (h : Counts s) (hstates : t.states = s.states)
    (hpassed : t.passed = s.passed) (hfailed : t.failed = s.failed)
    (hcompleted : t.completed = s.completed) : Counts t :=
  ⟨by rw [hstates, h.size], by rw [hstates, hpassed, h.passed],
    by rw [hstates, hfailed, h.failed], by rw [hstates, hcompleted, h.completed]⟩

/-- The number of items with a property after one of them has changed. -/
theorem countP_set_of {l : List CheckState} {i : ℕ} {old : CheckState} (hi : l[i]? = some old)
    (new : CheckState) (p : CheckState → Bool) :
    (l.set i new).countP p + (if p old then 1 else 0) = l.countP p + if p new then 1 else 0 := by
  obtain ⟨hlt, rfl⟩ := List.getElem?_eq_some_iff.1 hi
  have hle : (if p l[i] then 1 else 0) ≤ l.countP p := List.boole_getElem_le_countP hlt
  rw [List.countP_set hlt]
  omega

theorem toNat_succ {n : UInt64} (hn : n.toNat < 14) : (n + 1).toNat = n.toNat + 1 := by
  rw [UInt64.toNat_add, UInt64.toNat_one]
  omega

/-- An item begins to be checked, or its check is canceled: no item is counted more or less. -/
theorem Counts.set_undone {s t : Snapshot} (h : Counts s) {i : ℕ} {old new : CheckState}
    (hold : s.states[i]? = some old) (hundone : old.done = false) (hnew : new.done = false)
    (hstates : t.states = s.states.set i new) (hpassed : t.passed = s.passed)
    (hfailed : t.failed = s.failed) (hcompleted : t.completed = s.completed) : Counts t := by
  have hcount : ∀ p : CheckState → Bool, p old = false → p new = false →
      (s.states.set i new).countP p = s.states.countP p := by
    intro p ho hn
    simpa [ho, hn] using countP_set_of hold new p
  refine ⟨by rw [hstates, List.length_set, h.size], ?_, ?_, ?_⟩
  · rw [hstates, hpassed, h.passed]
    exact (hcount (· == .PASSED) (by cases old <;> trivial) (by cases new <;> trivial)).symm
  · rw [hstates, hfailed, h.failed]
    exact (hcount (· == .FAILED) (by cases old <;> trivial) (by cases new <;> trivial)).symm
  · rw [hstates, hcompleted, h.completed]
    exact (hcount CheckState.done hundone hnew).symm

/-- Fewer items than there are have a property that a running item does not have. -/
theorem Counts.countP_lt {s : Snapshot} (h : Counts s) {i : ℕ}
    (hi : s.states[i]? = some .RUNNING) {p : CheckState → Bool} (hp : p .RUNNING = false) :
    s.states.countP p < 14 := by
  rw [← h.size]
  apply Nat.lt_of_le_of_ne List.countP_le_length
  intro heq
  have hmem := List.countP_eq_length.1 heq _ (List.mem_of_getElem? hi)
  simp [hp] at hmem

/-- A running item ends. -/
theorem Counts.end_check {s : Snapshot} (h : Counts s) {i : ℕ}
    (hi : s.states[i]? = some .RUNNING) (passed : Bool) : Counts (s.end_check i passed) := by
  have hcount := countP_set_of hi (if passed then .PASSED else .FAILED)
  have hpassed := toNat_succ (n := s.passed) (by rw [h.passed]; exact h.countP_lt hi rfl)
  have hfailed := toNat_succ (n := s.failed) (by rw [h.failed]; exact h.countP_lt hi rfl)
  have hcompleted := toNat_succ (n := s.completed) (by rw [h.completed]; exact h.countP_lt hi rfl)
  rw [h.passed] at hpassed
  rw [h.failed] at hfailed
  rw [h.completed] at hcompleted
  refine ⟨by simp [h.size], ?_, ?_, ?_⟩
  all_goals rw [states_end_check]
  · have := hcount (· == .PASSED)
    cases passed
    · exact h.passed.trans this.symm
    · exact hpassed.trans this.symm
  · have := hcount (· == .FAILED)
    cases passed
    · exact hfailed.trans this.symm
    · exact h.failed.trans this.symm
  · have := hcount CheckState.done
    cases passed
    · exact hcompleted.trans this.symm
    · exact hcompleted.trans this.symm

/-! ## What a retry does to the states -/

/-- What becomes of a state when the failed items are to be checked again. -/
def CheckState.retried (st : CheckState) : CheckState := if st = .FAILED then .PENDING else st

theorem retry_items_states (items : List CheckItem) (completed failed : UInt64) :
    (PrecheckModel.retry_items items completed failed).1.map (·.state) =
      (items.map (·.state)).map CheckState.retried := by
  induction items generalizing completed failed with
  | nil => rfl
  | cons item items ih =>
    by_cases hitem : item.state = .FAILED
    · simp [PrecheckModel.retry_items, PrecheckModel.retry_item, CheckState.retried, hitem, ih]
    · simp [PrecheckModel.retry_items, CheckState.retried, hitem, ih]

/-- Both counters go down by the number of items that failed. -/
theorem retry_items_counters (items : List CheckItem) (completed failed : UInt64)
    (hcompleted : (items.map (·.state)).count .FAILED ≤ completed.toNat)
    (hfailed : (items.map (·.state)).count .FAILED ≤ failed.toNat) :
    let retried := PrecheckModel.retry_items items completed failed
    retried.2.1.toNat = completed.toNat - (items.map (·.state)).count .FAILED ∧
      retried.2.2.toNat = failed.toNat - (items.map (·.state)).count .FAILED := by
  induction items generalizing completed failed with
  | nil => exact ⟨rfl, rfl⟩
  | cons item items ih =>
    by_cases hitem : item.state = .FAILED
    · simp only [List.map_cons, hitem, List.count_cons_self] at hcompleted hfailed
      have hone : ∀ n : UInt64, (items.map (·.state)).count .FAILED + 1 ≤ n.toNat →
          (n - 1).toNat = n.toNat - 1 := by
        intro n hn
        exact UInt64.toNat_sub_of_le _ _ (UInt64.le_iff_toNat_le.2 (by simp; omega))
      have hrest := ih (completed - 1) (failed - 1) (by rw [hone _ hcompleted]; omega)
        (by rw [hone _ hfailed]; omega)
      rw [hone _ hcompleted, hone _ hfailed] at hrest
      simp only [PrecheckModel.retry_items, hitem, if_true, List.map_cons, List.count_cons_self]
      omega
    · have hcount : ((item :: items).map (·.state)).count .FAILED =
          (items.map (·.state)).count .FAILED := by
        rw [List.map_cons, List.count_cons_of_ne hitem]
      rw [hcount] at hcompleted hfailed ⊢
      simp only [PrecheckModel.retry_items, hitem, if_false]
      exact ih completed failed hcompleted hfailed

theorem count_retried (states : List CheckState) :
    (states.map CheckState.retried).count .PASSED = states.count .PASSED ∧
      (states.map CheckState.retried).count .FAILED = 0 ∧
      (states.map CheckState.retried).countP CheckState.done + states.count .FAILED =
        states.countP CheckState.done := by
  induction states with
  | nil => exact ⟨rfl, rfl, rfl⟩
  | cons st states ih =>
    obtain ⟨hpassed, hfailed, hdone⟩ := ih
    simp only [List.map_cons, List.count_cons, List.countP_cons, hpassed, hfailed]
    generalize (states.map CheckState.retried).countP CheckState.done = d at hdone ⊢
    cases st <;> simp [CheckState.retried, CheckState.done] <;> omega

/-- A retry keeps the counters right. -/
theorem Counts.retry {s t : Snapshot} (h : Counts s)
    (ht : PrecheckModel.retry_items s.items s.completed s.failed =
      (t.items, t.completed, t.failed)) (hpassed : t.passed = s.passed) : Counts t := by
  have hstates := retry_items_states s.items s.completed s.failed
  obtain ⟨hcountPassed, hcountFailed, hcountDone⟩ := count_retried s.states
  have hcounters := retry_items_counters s.items s.completed s.failed
    (show s.states.count .FAILED ≤ _ by rw [h.completed]; omega)
    (show s.states.count .FAILED ≤ _ from h.failed ▸ Nat.le_refl _)
  rw [ht] at hstates hcounters
  replace hstates : t.states = s.states.map CheckState.retried := hstates
  obtain ⟨hcompleted, hfailed⟩ := hcounters
  replace hcompleted : t.completed.toNat = s.completed.toNat - s.states.count .FAILED := hcompleted
  replace hfailed : t.failed.toNat = s.failed.toNat - s.states.count .FAILED := hfailed
  refine ⟨by rw [hstates, List.length_map, h.size], ?_, ?_, ?_⟩
  · rw [hstates, hpassed, h.passed, hcountPassed]
  · rw [hstates, hfailed, h.failed, hcountFailed, Nat.sub_self]
  · rw [hstates, hcompleted, h.completed]
    omega

theorem mem_retried {states : List CheckState} {st : CheckState}
    (h : st ∈ states.map CheckState.retried) : st = .PENDING ∨ st ∈ states := by
  obtain ⟨old, hold, rfl⟩ := List.mem_map.1 h
  by_cases hfailed : old = .FAILED
  · exact .inl (if_pos hfailed)
  · exact .inr (by rwa [CheckState.retried, if_neg hfailed])

/-! ## The invariant -/

/-- The smaller product has skipped its camera and its IMU. -/
def Skipped (model : ProductModel) (states : List CheckState) : Prop :=
  skip_camera_and_imu model = true →
    states[K_CAMERA_ITEM]? = some .SKIPPED ∧ states[K_IMU_ITEM]? = some .SKIPPED

/-- What a snapshot says in the loop: the items before `i` are done, and those from `k` on are
done or wait. -/
structure InLoop (model : ProductModel) (s : Snapshot) (i k : ℕ) : Prop where
  running : s.state = .RUNNING
  done : ∀ j st, j < i → s.states[j]? = some st → st.done = true
  ready : ∀ j st, k ≤ j → s.states[j]? = some st → st = .PENDING ∨ st.done = true
  skipped : Skipped model s.states

/-- What a snapshot says while no worker runs. -/
def Rests (model : ProductModel) (s : Snapshot) : Prop :=
  match s.state with
  | .IDLE | .CANCELED => True
  | .RUNNING => False
  | .PASSED => (∀ st ∈ s.states, st = .PASSED ∨ st = .SKIPPED) ∧ Skipped model s.states
  | .FAILED =>
    .FAILED ∈ s.states ∧ (∀ st ∈ s.states, st.done = true) ∧ Skipped model s.states

/-- What a snapshot says while the worker is where it is; `spawned` is the call that started
it. -/
def Stands (model : ProductModel) (spawned : Option Call) (s : Snapshot) : Worker → Prop
  | .none | .ended => Rests model s
  | .at .skip => s.state = .RUNNING ∧
      (spawned = some .start ∧ s.states = List.replicate 14 .PENDING ∨
        spawned = some .retry_failed ∧ Skipped model s.states ∧
          ∀ st ∈ s.states, st = .PENDING ∨ st.done = true)
  | .at (.head i) | .at (.begin i) => InLoop model s i i
  | .at (.checking i) => InLoop model s i (i + 1) ∧ s.states[i]? = some .RUNNING

/-- The counters are right, and the items are as the worker's place says. -/
structure Inv (model : ProductModel) (c : Config PrecheckModel Call) : Prop where
  counts : Counts c.state.snapshot
  stands : Stands model c.history.getLast? c.state.snapshot c.state.worker

theorem Inv.init (model : ProductModel) : Inv model ⟨{}, []⟩ :=
  ⟨⟨rfl, rfl, rfl, rfl⟩, trivial⟩

theorem Stands.rests {model : ProductModel} {spawned : Option Call} {s : Snapshot}
    {worker : Worker} (h : Stands model spawned s worker) (hstate : s.state ≠ .RUNNING) :
    Rests model s := by
  cases worker with
  | none | ended => exact h
  | «at» pc =>
    refine absurd ?_ hstate
    cases pc with
    | skip => exact h.1
    | head i | begin i => exact h.running
    | checking i => exact h.1.running

theorem Inv.describes {model : ProductModel} {c : Config PrecheckModel Call}
    (h : Inv model c) : Describes c.state.snapshot where
  passed := h.counts.passed
  failed := h.counts.failed
  completed := h.counts.completed
  bounded := by
    rw [h.counts.completed, ← length_states]
    exact List.countP_le_length
  all_passed hstate := by
    have hrests := h.stands.rests (by simp [hstate])
    rw [Rests, hstate] at hrests
    exact hrests.1
  some_failed hstate := by
    have hrests := h.stands.rests (by simp [hstate])
    rw [Rests, hstate] at hrests
    exact hrests.1

/-! ## What a step keeps -/

section Steps

variable {model : ProductModel} {c : Config PrecheckModel Call}

/-- The worker is past one more item. -/
theorem InLoop.next {s : Snapshot} {i k : ℕ} (h : InLoop model s i k) (hk : k ≤ i + 1)
    (hi : ∀ st, s.states[i]? = some st → st.done = true) : InLoop model s (i + 1) (i + 1) where
  running := h.running
  done j st hj hst := by
    by_cases hij : j = i
    · exact hi st (hij ▸ hst)
    · exact h.done j st (by omega) hst
  ready j st hj := h.ready j st (by omega)
  skipped := h.skipped

/-- An item that is not skipped may change. -/
theorem Skipped.set {states : List CheckState} {i : ℕ} (h : Skipped model states)
    {old : CheckState} (hi : states[i]? = some old) (hold : old ≠ .SKIPPED) (st : CheckState) :
    Skipped model (states.set i st) := by
  intro hmodel
  obtain ⟨hcamera, himu⟩ := h hmodel
  have hne : ∀ j, states[j]? = some .SKIPPED → i ≠ j := by
    intro j hj hij
    rw [hij, hj] at hi
    exact hold (Option.some.inj hi).symm
  exact ⟨by rw [List.getElem?_set_ne (hne _ hcamera), hcamera],
    by rw [List.getElem?_set_ne (hne _ himu), himu]⟩

theorem Skipped.retried {states : List CheckState} (h : Skipped model states) :
    Skipped model (states.map CheckState.retried) := by
  intro hmodel
  obtain ⟨hcamera, himu⟩ := h hmodel
  simp [hcamera, himu, CheckState.retried]

/-- The item at the index of the loop changes. -/
theorem InLoop.set {s t : Snapshot} {i k : ℕ} {old new : CheckState} (h : InLoop model s i k)
    (hik : i ≤ k) (hk : k ≤ i + 1) (hold : s.states[i]? = some old) (hne : old ≠ .SKIPPED)
    (hstate : t.state = s.state) (hstates : t.states = s.states.set i new) :
    InLoop model t i (i + 1) ∧ t.states[i]? = some new where
  left :=
    { running := hstate.trans h.running
      done j st hj hst := by
        rw [hstates, List.getElem?_set_ne (by omega)] at hst
        exact h.done j st hj hst
      ready j st hj hst := by
        rw [hstates, List.getElem?_set_ne (by omega)] at hst
        exact h.ready j st (by omega) hst
      skipped := hstates ▸ h.skipped.set hold hne new }
  right := by
    have hlt := (List.getElem?_eq_some_iff.1 hold).1
    simp [hstates, hlt]

/-- At the end of the loop every item is done. -/
theorem InLoop.all {s : Snapshot} {i k : ℕ} (h : InLoop model s i k)
    (hi : s.states.length ≤ i) : ∀ st ∈ s.states, st.done = true := by
  intro st hst
  obtain ⟨j, hj⟩ := List.mem_iff_getElem?.1 hst
  have hlt : j < s.states.length := (List.getElem?_eq_some_iff.1 hj).1
  exact h.done j st (by omega) hj

/-- The items of the smaller product are skipped for the first time. -/
theorem Counts.skip_unsupported {s : Snapshot} (h : Counts s)
    (hstates : s.states = List.replicate 14 .PENDING) : Counts s.skip_unsupported := by
  obtain ⟨_, hpassed, hfailed, hcompleted⟩ := h
  have hskipped : s.skip_unsupported.states =
      ((List.replicate 14 .PENDING).set 12 .SKIPPED).set 13 .SKIPPED := by
    simp [Snapshot.skip_unsupported, K_CAMERA_ITEM, K_IMU_ITEM, hstates]
  rw [hstates] at hpassed hfailed hcompleted
  refine ⟨by simp [hskipped], hskipped ▸ hpassed, hskipped ▸ hfailed, ?_⟩
  have hzero : s.completed = 0 := UInt64.toNat_inj.1 hcompleted
  show (s.completed + 1 + 1).toNat = _
  rw [hskipped, hzero]
  rfl

/-- After the items of the smaller product were skipped, the loop begins. -/
theorem InLoop.skip_unsupported {s : Snapshot} (hstate : s.state = .RUNNING)
    (hstates : s.states = List.replicate 14 .PENDING) : InLoop model s.skip_unsupported 0 0 where
  running := hstate
  done j st hj := by omega
  ready j st _ hst := by
    have hmem := List.mem_of_getElem? hst
    simp [Snapshot.skip_unsupported, K_CAMERA_ITEM, K_IMU_ITEM, hstates] at hmem
    rcases hmem with rfl | rfl
    · exact .inl rfl
    · exact .inr rfl
  skipped _ := by
    simp [Snapshot.skip_unsupported, K_CAMERA_ITEM, K_IMU_ITEM, hstates]

theorem Counts.conclude {s : Snapshot} (h : Counts s) : Counts s.conclude := by
  by_cases hzero : s.failed = 0
  · rw [Snapshot.conclude, if_pos hzero]
    exact h.of_eq rfl rfl rfl rfl
  · rw [Snapshot.conclude, if_neg hzero]
    exact h.of_eq rfl rfl rfl rfl

/-- The verdict at the end of the loop is that of the items. -/
theorem Rests.conclude {s : Snapshot} (h : Counts s) (hdone : ∀ st ∈ s.states, st.done = true)
    (hskipped : Skipped model s.states) : Rests model s.conclude := by
  have hfailed := h.failed
  by_cases hzero : s.failed = 0
  · rw [Snapshot.conclude, if_pos hzero]
    rw [hzero] at hfailed
    refine ⟨fun st hst => ?_, hskipped⟩
    have hne : st ≠ .FAILED := fun heq => List.count_eq_zero.1 hfailed.symm (heq ▸ hst)
    have hst := hdone st hst
    cases st <;> simp_all [CheckState.done]
  · rw [Snapshot.conclude, if_neg hzero]
    refine ⟨List.count_pos_iff.1 ?_, hdone, hskipped⟩
    rw [states_publish, ← hfailed]
    exact Nat.pos_of_ne_zero fun heq => hzero (UInt64.toNat_inj.1 heq)

/-- The worker takes a step outside `run_check_`. -/
theorem Inv.run {s : PrecheckModel} {spawned : Option Call} (hcounts : Counts s.snapshot)
    {pc : Pc} (hw : s.worker = .at pc) (hstands : Stands model spawned s.snapshot (.at pc))
    (hskip : pc = .skip → skip_camera_and_imu model = true → spawned ≠ some .retry_failed) :
    Counts (s.run model pc).snapshot ∧
      Stands model spawned (s.run model pc).snapshot (s.run model pc).worker := by
  cases pc with
  | skip =>
    obtain ⟨hstate, hstands⟩ := hstands
    by_cases hmodel : skip_camera_and_imu model = true
    · have hstates := (hstands.resolve_right fun h => hskip rfl hmodel h.1).2
      simp only [PrecheckModel.run, hmodel, if_true]
      exact ⟨hcounts.skip_unsupported hstates, InLoop.skip_unsupported hstate hstates⟩
    · rw [PrecheckModel.run, if_neg hmodel]
      refine ⟨hcounts, hstate, fun j st hj => by omega, fun j st _ hst => ?_,
        fun h => absurd h hmodel⟩
      have hmem := List.mem_of_getElem? hst
      rcases hstands with ⟨-, hstates⟩ | ⟨-, -, hready⟩
      · rw [hstates] at hmem
        exact .inl (List.eq_of_mem_replicate hmem)
      · exact hready st hmem
  | head i =>
    by_cases hi : i < s.snapshot.items.length
    · by_cases hcancel : s.cancel_requested = true
      · simp only [PrecheckModel.run, hi, hcancel, if_true]
        exact ⟨hcounts.of_eq rfl rfl rfl rfl, trivial⟩
      · simp only [PrecheckModel.run, hi, hcancel, if_true]
        exact ⟨hcounts, hstands⟩
    · simp only [PrecheckModel.run, hi, if_false]
      have hall := InLoop.all hstands (by rw [length_states]; omega)
      exact ⟨hcounts.conclude, Rests.conclude hcounts hall hstands.skipped⟩
  | begin i =>
    by_cases hpending : item_state s.snapshot.items i = some .PENDING
    · simp only [PrecheckModel.run, hpending, if_true]
      rw [item_state_eq] at hpending
      exact ⟨hcounts.set_undone hpending rfl rfl states_begin_check rfl rfl rfl,
        InLoop.set hstands (Nat.le_refl i) (Nat.le_succ i) hpending (by simp) rfl
          states_begin_check⟩
    · simp only [PrecheckModel.run, hpending, if_false]
      rw [item_state_eq] at hpending
      refine ⟨hcounts, InLoop.next hstands (Nat.le_succ i) fun st hst => ?_⟩
      exact (hstands.ready i st (Nat.le_refl i) hst).resolve_left fun h => hpending (h ▸ hst)
  | checking i =>
    rw [← hw] at hstands
    exact ⟨hcounts, hstands⟩

/-- A check returns. -/
theorem Inv.check_returned {s : PrecheckModel} {spawned : Option Call}
    (hcounts : Counts s.snapshot) {i : ℕ} (hloop : InLoop model s.snapshot i (i + 1))
    (hi : s.snapshot.states[i]? = some .RUNNING) (passed : Bool) :
    Counts (s.check_returned i passed).snapshot ∧
      Stands model spawned (s.check_returned i passed).snapshot
        (s.check_returned i passed).worker := by
  by_cases hcancel : s.cancel_requested = true
  · rw [PrecheckModel.check_returned, if_pos hcancel]
    exact ⟨hcounts.set_undone hi rfl rfl states_cancel_check rfl rfl rfl, trivial⟩
  · rw [PrecheckModel.check_returned, if_neg hcancel]
    refine ⟨hcounts.end_check hi passed, ?_⟩
    obtain ⟨hloop, hnew⟩ := hloop.set (t := s.snapshot.end_check i passed) (Nat.le_succ i)
      (Nat.le_refl _) hi (by simp) rfl (states_end_check passed)
    refine hloop.next (Nat.le_refl _) fun st hst => ?_
    rw [hnew, Option.some.injEq] at hst
    cases passed <;> exact hst ▸ rfl

/-- A call gets past the join. -/
theorem Inv.after_join {s : PrecheckModel} (hcounts : Counts s.snapshot)
    (hrests : Rests model s.snapshot) (spawned : Option Call) (call : Call) :
    Counts (s.after_join call).1.snapshot ∧
      Stands model ((s.after_join call).2.getLast?.or spawned) (s.after_join call).1.snapshot
        (s.after_join call).1.worker := by
  have hstate : s.snapshot.state ≠ .RUNNING := by
    intro hstate
    rw [Rests, hstate] at hrests
    exact hrests
  cases call with
  | start =>
    simp only [PrecheckModel.after_join, PrecheckModel.start, hstate, if_false]
    exact ⟨⟨rfl, rfl, rfl, rfl⟩, rfl, .inl ⟨rfl, rfl⟩⟩
  | cancel =>
    simp only [PrecheckModel.after_join, PrecheckModel.cancel, hstate, if_false]
    exact ⟨hcounts, hrests⟩
  | retry_failed =>
    by_cases hfinal : s.snapshot.state ≠ .FAILED ∧ s.snapshot.state ≠ .PASSED
    · rw [PrecheckModel.after_join, PrecheckModel.retry_failed, if_pos hfinal]
      exact ⟨hcounts, hrests⟩
    · rw [PrecheckModel.after_join, PrecheckModel.retry_failed, if_neg hfinal]
      have hdone : (∀ st ∈ s.snapshot.states, st.done = true) ∧
        Skipped model s.snapshot.states := by
        rw [Rests] at hrests
        cases hs : s.snapshot.state <;> simp only [hs] at hrests hfinal
        case PASSED =>
          exact ⟨fun st hst => by rcases hrests.1 st hst with rfl | rfl <;> rfl, hrests.2⟩
        case FAILED => exact hrests.2
        all_goals simp at hfinal
      have hready : Skipped model (s.snapshot.states.map CheckState.retried) ∧
          ∀ st ∈ s.snapshot.states.map CheckState.retried, st = .PENDING ∨ st.done = true :=
        ⟨hdone.2.retried, fun st hst => (mem_retried hst).imp_right (hdone.1 st)⟩
      rw [Snapshot.states,
        ← retry_items_states _ s.snapshot.completed s.snapshot.failed] at hready
      exact ⟨hcounts.retry rfl rfl, rfl, .inr ⟨rfl, hready⟩⟩

/-- A step that starts no worker keeps the last start. -/
theorem Inv.of_silent {e : Event} (hsilent : (step model c.state e).2 = [])
    (h : Counts (step model c.state e).1.snapshot ∧ Stands model c.history.getLast?
      (step model c.state e).1.snapshot (step model c.state e).1.worker) :
    Inv model ((precheck model).next c e) := by
  have hhistory : ((precheck model).next c e).history = c.history := by
    show c.history ++ (step model c.state e).2 = _
    rw [hsilent, List.append_nil]
  exact ⟨h.1, hhistory.symm ▸ h.2⟩

/-- What a step keeps, unless it skips items again. -/
theorem Inv.next (h : Inv model c) {e : Event} (hskip : ¬ SkipsAgain model c e) :
    Inv model ((precheck model).next c e) := by
  obtain ⟨hcounts, hstands⟩ := h
  cases e with
  | call call =>
    by_cases hcalling : c.state.calling = none
    all_goals
      apply of_silent
      · simp [step, hcalling]
      · simpa [step, hcalling] using And.intro hcounts hstands
  | proceed =>
    cases hcalling : c.state.calling with
    | none =>
      apply of_silent
      · simp [step, hcalling]
      · simpa [step, hcalling] using And.intro hcounts hstands
    | some call =>
      cases hw : c.state.worker with
      | none | ended =>
        rw [hw] at hstands
        have hjoined := Inv.after_join hcounts hstands c.history.getLast? call
        have hstep : step model c.state .proceed = c.state.after_join call := by
          simp [step, hcalling, hw]
        refine ⟨?_, ?_⟩
        · show Counts (step model c.state .proceed).1.snapshot
          rw [hstep]
          exact hjoined.1
        · show Stands model (c.history ++ (step model c.state .proceed).2).getLast?
            (step model c.state .proceed).1.snapshot (step model c.state .proceed).1.worker
          rw [hstep, List.getLast?_append]
          exact hjoined.2
      | «at» pc =>
        apply of_silent
        · simp [step, hcalling, hw]
        · simpa [step, hcalling, hw] using And.intro hcounts (hw ▸ hstands)
  | work =>
    cases hw : c.state.worker with
    | none | ended =>
      rw [hw] at hstands
      apply of_silent
      · simp [step, hw]
      · simpa [step, hw] using And.intro hcounts hstands
    | «at» pc =>
      rw [hw] at hstands
      refine of_silent (by simp [step, hw]) ?_
      simp only [step, hw]
      refine Inv.run hcounts hw hstands fun hpc hmodel hspawned => ?_
      exact hskip ⟨hmodel, rfl, hpc ▸ hw, hspawned⟩
  | report detail cap_sub_items ir_sub_items =>
    by_cases hw : ∃ i, c.state.worker = .at (.checking i)
    · obtain ⟨i, hw⟩ := hw
      rw [hw] at hstands
      obtain ⟨hloop, hi⟩ := hstands
      refine of_silent (by simp [step, hw]) ?_
      simp only [step, hw]
      have hstates : (c.state.snapshot.write i fun item =>
          { item with detail, cap_sub_items, ir_sub_items }).states = c.state.snapshot.states :=
        states_write_keep fun _ => rfl
      exact ⟨hcounts.of_eq hstates rfl rfl rfl,
        ⟨hloop.running, hstates.symm ▸ hloop.done, hstates.symm ▸ hloop.ready,
          hstates.symm ▸ hloop.skipped⟩, hstates.symm ▸ hi⟩
    · have hstep : step model c.state (.report detail cap_sub_items ir_sub_items) =
          (c.state, []) := by
        rw [step]
        split
        · rename_i i hi
          exact absurd ⟨i, hi⟩ hw
        · rfl
      exact of_silent (by rw [hstep]) (by rw [hstep]; exact ⟨hcounts, hstands⟩)
  | checked passed =>
    by_cases hw : ∃ i, c.state.worker = .at (.checking i)
    · obtain ⟨i, hw⟩ := hw
      rw [hw] at hstands
      refine of_silent (by simp [step, hw]) ?_
      simp only [step, hw]
      exact Inv.check_returned hcounts hstands.1 hstands.2 passed
    · have hstep : step model c.state (.checked passed) = (c.state, []) := by
        rw [step]
        split
        · rename_i i hi
          exact absurd ⟨i, hi⟩ hw
        · rfl
      exact of_silent (by rw [hstep]) (by rw [hstep]; exact ⟨hcounts, hstands⟩)

/-- A step that skips items again counts two items too many. -/
theorem Inv.overcounts (h : Inv model c) {e : Event} (hskip : SkipsAgain model c e) :
    ¬ Describes ((precheck model).next c e).state.snapshot := by
  obtain ⟨hmodel, rfl, hw, hspawned⟩ := hskip
  obtain ⟨hcounts, hstands⟩ := h
  rw [hw] at hstands
  obtain ⟨hcamera, himu⟩ :=
    (hstands.2.resolve_left fun h => by simp [hspawned] at h).2.1 hmodel
  have hnext : ((precheck model).next c .work).state.snapshot =
      c.state.snapshot.skip_unsupported := by
    simp [Machine.next, precheck, step, hw, PrecheckModel.run, hmodel]
  have hset : ∀ (states : List CheckState) i, states[i]? = some .SKIPPED →
      states.set i .SKIPPED = states := by
    intro states i hi
    obtain ⟨hlt, heq⟩ := List.getElem?_eq_some_iff.1 hi
    rw [← heq, List.set_getElem_self]
  intro hdescribes
  have hcompleted := hdescribes.completed
  have hbounded := hcounts.completed
  rw [hnext] at hcompleted
  have hstates : c.state.snapshot.skip_unsupported.states = c.state.snapshot.states := by
    show (((c.state.snapshot.skip_item K_CAMERA_ITEM).skip_item K_IMU_ITEM)).states = _
    rw [states_skip_item, states_skip_item, hset _ _ hcamera, hset _ _ himu]
  rw [hstates, ← hbounded] at hcompleted
  replace hcompleted : (c.state.snapshot.completed + 1 + 1).toNat =
    c.state.snapshot.completed.toNat := hcompleted
  simp only [UInt64.toNat_add, UInt64.toNat_one] at hcompleted
  omega

end Steps

/-! ## The runs -/

/-- **The counters describe the items.** They do at every point of a run exactly if no worker
started by `retry_failed` skips items of the smaller product in it. -/
theorem counters_describe_iff (model : ProductModel) (events : List Event) :
    (∀ before after, events = before ++ after →
      Describes ((precheck model).run ⟨{}, []⟩ before).state.snapshot) ↔
      (precheck model).Along (fun c e => ¬ SkipsAgain model c e) ⟨{}, []⟩ events := by
  have hiff : ∀ c e, Inv model c →
      (Describes ((precheck model).next c e).state.snapshot ↔ ¬ SkipsAgain model c e) :=
    fun c e h => ⟨fun hdescribes hskip => h.overcounts hskip hdescribes,
      fun hskip => (h.next hskip).describes⟩
  refine (Machine.everywhere_iff_along (P := fun c : Config PrecheckModel Call =>
    Describes c.state.snapshot) (Inv.init model).describes).trans ?_
  exact Machine.along_iff (fun c e h hnext => h.next ((hiff c e h).1 hnext)) hiff
    (Inv.init model) events

/-! ## A retry of the smaller product -/

/-- On the smaller product every check passes, and then `retry_failed` is called. -/
def retried_run : List Event :=
  [.call .start, .proceed, .work] ++
    (List.replicate 12 [.work, .work, .checked true]).flatten ++
    [.work, .work, .work, .work, .work, .call .retry_failed, .proceed, .work]

/-- Sixteen of fourteen items are completed. -/
theorem retried_lite_overcounts :
    ¬ ∀ before after, retried_run = before ++ after →
      Describes ((precheck .CARDPUTER_ZERO_LITE).run ⟨{}, []⟩ before).state.snapshot := by
  intro h
  have hcompleted :
      ((precheck .CARDPUTER_ZERO_LITE).run ⟨{}, []⟩ retried_run).state.snapshot.completed = 16 := by
    decide +kernel
  have hitems :
      ((precheck .CARDPUTER_ZERO_LITE).run ⟨{}, []⟩ retried_run).state.snapshot.items.length =
        14 := by
    decide +kernel
  have hbounded := (h retried_run [] (by simp)).bounded
  rw [hcompleted, hitems] at hbounded
  exact absurd hbounded (by decide)

end FactoryTest.Precheck
