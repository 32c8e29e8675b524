import FactoryTest.Lib.Monitor
import FactoryTest.Upgrade.Service

/-!
# The progress of an upgrade

A monitor (`progress`) reads the percentages that are published. Its states are the milestones.

**Theorem (`run_progress`).** A run passes the milestones in their order, and what the lines of the
script publish while the firmware is written stays between two of them, whatever they say. The last
milestone is reached exactly if the run succeeds.
-/

namespace FactoryTest.Upgrade

open DeviceInfo Process Program

/-- The milestones, each with the one after it. -/
def milestones : List (ℤ × ℤ) :=
  [(0, 2), (2, 10), (10, 20), (20, 30), (30, 38), (38, 45), (45, 55), (55, 92), (92, 100)]

/-- What may be published: the next milestone, or what is between two of them while the firmware is
written. -/
def next_percent (milestone : ℤ) : Obs → Option ℤ
  | .published percent _ =>
    if (milestone, percent) ∈ milestones then some percent
    else if milestone = 55 ∧ 55 ≤ percent ∧ percent ≤ 90 then some milestone else none
  | _ => some milestone

def progress : Monitor ℤ Obs := ⟨0, next_percent⟩

/-- The milestone that was reached, and the run has not succeeded yet. -/
structure Reached (milestone : ℤ) (w : World) : Prop where
  milestone : progress.At milestone w.history
  failed : w.result.success = false

section

variable {α : Type} {milestone : ℤ} {w w' : World}

theorem Reached.next (h : Reached milestone w) {o : Obs} {milestone' : ℤ}
    (hhistory : w'.history = w.history ++ [o]) (ho : next_percent milestone o = some milestone')
    (hresult : w'.result.success = w.result.success) : Reached milestone' w' := by
  refine ⟨?_, hresult.trans h.failed⟩
  rw [hhistory]
  exact h.milestone.concat ho

theorem Reached.same (h : Reached milestone w) (hhistory : w'.history = w.history)
    (hresult : w'.result.success = w.result.success) : Reached milestone w' :=
  ⟨hhistory ▸ h.milestone, hresult.trans h.failed⟩

/-- A run that has not come to its end. -/
def Unfinished (w : World) : Prop := ∃ milestone ≠ 100, Reached milestone w

/-- The next milestone. -/
theorem publish_reaches {percent : ℤ} (status : String)
    (h : (milestone, clamp percent 0 100) ∈ milestones) :
    Triple (Reached milestone) (publish percent status)
      (fun _ => Reached (clamp percent 0 100)) Unfinished := by
  intro w hw
  refine hw.next rfl ?_ rfl
  rw [next_percent, if_pos h]

theorem require_file_reached (path : Text) (status message : String) :
    Keeps (Reached milestone) (require_file path status message) := by
  have hlook : Triple (Reached milestone) (is_regular_file path) (fun _ => Reached milestone)
      (Reached milestone) := by
    intro w h
    unfold is_regular_file
    cases w.surroundings.is_regular_file w.moment with
    | none => exact h.next rfl rfl rfl
    | some regular => exact h.next rfl rfl rfl
  refine hlook.bind fun regular => triple_ite (fun _ => ?_) fun _ => ?_
  · exact triple_pure fun _ h => h
  · exact fun w h => h.same rfl rfl

theorem relay_reached {line_handler : Text → Run Unit}
    (hhandler : ∀ line, Keeps (Reached milestone) (line_handler line)) (lines : List Text) :
    Keeps (Reached milestone) (relay line_handler lines) := by
  induction lines with
  | nil => exact triple_pure fun _ h => h
  | cons line lines ih => exact (hhandler line).bind fun _ => ih

theorem run_process_reached (argv : List Text) (stdin_text : Text) (timeout_ms : ℕ)
    (fallback status : String) {line_handler : Text → Run Unit}
    (hhandler : ∀ line, Keeps (Reached milestone) (line_handler line)) :
    Keeps (Reached milestone)
      (orFail status (run_process argv stdin_text timeout_ms line_handler fallback)) := by
  have hspawn : Triple (Reached milestone) (fun w => (some (w.surroundings.process w.moment), w.note
        (.done (.command argv stdin_text timeout_ms) (w.surroundings.process w.moment).1.success)))
      (fun _ => Reached milestone) (Reached milestone) := fun w h => h.next rfl rfl rfl
  have hprocess : Keeps (Reached milestone)
      (run_process argv stdin_text timeout_ms line_handler fallback) := by
    refine hspawn.bind ?_
    rintro ⟨result, lines⟩
    refine (relay_reached hhandler lines).bind fun _ => triple_ite (fun _ => ?_) fun _ => ?_
    · exact triple_pure fun _ h => h
    · exact fun w h => h.same rfl rfl
  exact hprocess.otherwise fun w h => h.same rfl rfl

theorem read_version_reached (force_refresh : Bool) :
    Keeps (Reached milestone) (read_py32_firmware_version force_refresh) := by
  intro w h
  unfold read_py32_firmware_version
  dsimp only
  generalize read_cached_ioe1_register w.major_cache _ = major
  have hmajor : Reached milestone
      ({ w with major_cache := major.1 }.note (.register_read 0x02 major.2)) := h.next rfl rfl rfl
  cases major.2.value with
  | none => exact hmajor
  | some major_version =>
    dsimp only
    generalize World.note _ _ = w' at hmajor ⊢
    generalize read_cached_ioe1_register w'.minor_cache _ = minor
    cases minor.2.value with
    | none => exact hmajor.next rfl rfl rfl
    | some minor_version => exact hmajor.next rfl rfl rfl

/-- Whatever a line says, it is between the milestones. -/
theorem upgrade_line_handler_reached (line : Text) :
    Keeps (Reached 55) (upgrade_line_handler line) := by
  unfold upgrade_line_handler
  cases parse_firmware_percent line with
  | none => exact triple_pure fun _ h => h
  | some percent =>
    intro w h
    refine h.next rfl ?_ rfl
    have hbetween : ∃ shown, clamp (55 + clamp percent 0 100 * 35 / 100) 0 100 = shown ∧
        55 ≤ shown ∧ shown ≤ 90 := by
      refine ⟨_, rfl, ?_⟩
      unfold clamp
      omega
    obtain ⟨shown, hshown, hlow, hhigh⟩ := hbetween
    have hnone : ((55 : ℤ), shown) ∉ milestones := by
      intro hmem
      have hnext : shown = 92 := by simpa [milestones] using hmem
      omega
    rw [hshown, next_percent, if_neg hnone, if_pos ⟨rfl, hlow, hhigh⟩]

/-! ## Runs -/

/-- The milestone is not the last one, so giving up here is no success. -/
theorem Reached.unfinished (h : Reached milestone w) (hmilestone : milestone ≠ 100) :
    Unfinished w := ⟨milestone, hmilestone, h⟩

/-- What keeps the milestone before the last one. -/
theorem keeps_unfinished {m : Run α} (hm : Keeps (Reached milestone) m)
    (hmilestone : milestone ≠ 100) :
    Triple (Reached milestone) m (fun _ => Reached milestone) Unfinished :=
  hm.escape fun _ h => h.unfinished hmilestone

theorem require_file_unfinished (path : Text) (status message : String)
    (hmilestone : milestone ≠ 100) :
    Triple (Reached milestone) (require_file path status message) (fun _ => Reached milestone)
      Unfinished :=
  keeps_unfinished (require_file_reached path status message) hmilestone

/-- A command whose lines are only logged. -/
theorem run_process_unfinished (argv : List Text) (fallback status : String)
    (hmilestone : milestone ≠ 100) : Triple (Reached milestone)
      (orFail status (run_process argv [] 30000 (fun _ => pure ()) fallback))
      (fun _ => Reached milestone) Unfinished :=
  keeps_unfinished (run_process_reached argv [] 30000 fallback status
    fun _ => triple_pure fun _ h => h) hmilestone

theorem check_package_reaches (archive_path : Text) :
    Triple (Reached 2) (check_package archive_path) (fun _ => Reached 10) Unfinished := by
  refine (require_file_unfinished _ _ _ (by decide)).bind fun _ => ?_
  refine (require_file_unfinished _ _ _ (by decide)).bind fun _ => ?_
  refine (publish_reaches _ (by decide)).bind fun _ => ?_
  exact run_process_unfinished _ _ _ (by decide)

theorem prepare_reaches (archive_path dir : Text) :
    Triple (Reached 10) (prepare archive_path dir) (fun _ => Reached 45) Unfinished := by
  refine (publish_reaches _ (by decide)).bind fun _ => ?_
  refine (run_process_unfinished _ _ _ (by decide)).bind fun _ => ?_
  refine (require_file_unfinished _ _ _ (by decide)).bind fun _ => ?_
  refine (publish_reaches _ (by decide)).bind fun _ => ?_
  refine (run_process_unfinished _ _ _ (by decide)).bind fun _ => ?_
  refine (require_file_unfinished _ _ _ (by decide)).bind fun _ => ?_
  refine (require_file_unfinished _ _ _ (by decide)).bind fun _ => ?_
  refine (publish_reaches _ (by decide)).bind fun _ => ?_
  refine (run_process_unfinished _ _ _ (by decide)).bind fun _ => ?_
  refine (publish_reaches _ (by decide)).bind fun _ => ?_
  exact run_process_unfinished _ _ _ (by decide)

theorem program_reaches (dir : Text) :
    Triple (Reached 45) (program dir) (fun _ => Reached 55) Unfinished :=
  (publish_reaches _ (by decide)).bind fun _ => keeps_unfinished
    (run_process_reached _ _ _ _ _ upgrade_line_handler_reached) (by decide)

/-- The last milestone, with success. -/
structure Passed (w : World) : Prop where
  milestone : progress.At 100 w.history
  success : w.result.success = true

theorem verify_version_reaches :
    Triple (Reached 55) verify_version (fun _ => Passed) Unfinished := by
  refine (publish_reaches _ (by decide)).bind fun _ => ?_
  refine (keeps_unfinished (read_version_reached true) (by decide)).bind fun current_version => ?_
  have hassign : Triple (Reached 92) (assign fun r => { r with current_version })
      (fun _ => Reached 92) Unfinished := fun w h => h.same rfl rfl
  refine hassign.bind fun _ => triple_ite (fun _ => ?_) fun _ => ?_
  · exact fun w h => Reached.unfinished (h.same rfl rfl) (by decide)
  · exact fun w h => ⟨Monitor.At.concat h.milestone (by decide), rfl⟩

/-- Where the progress is when the run is over. -/
def Arrived (w : World) : Prop :=
  ∃ milestone, progress.At milestone w.history ∧ (milestone = 100 ↔ w.result.success = true)

theorem Unfinished.arrived (h : Unfinished w) : Arrived w := by
  obtain ⟨milestone, hmilestone, h⟩ := h
  exact ⟨milestone, h.milestone, iff_of_false hmilestone (by simp [h.failed])⟩

theorem run_arrives (archive_path : Text) :
    Triple (Reached 0) (run archive_path) (fun _ => Arrived) Arrived := by
  have hdirectory : ∀ dir, Triple (Reached 10)
      (Program.scope (do prepare archive_path dir; program dir; verify_version)
        (temporary_directory dir)) (fun _ => Arrived) Arrived := by
    intro dir
    refine Triple.scope ((prepare_reaches archive_path dir).bind fun _ =>
      (program_reaches dir).bind fun _ => verify_version_reaches) (fun _ w h => ?_) fun w h => ?_
    · rcases temporary_directory_eq dir w with heq | heq <;> rw [heq]
      · exact ⟨100, h.milestone, iff_of_true rfl h.success⟩
      · exact ⟨100, h.milestone.concat rfl, iff_of_true rfl h.success⟩
    · obtain ⟨milestone, hmilestone, h⟩ := h
      rcases temporary_directory_eq dir w with heq | heq <;> rw [heq]
      · exact Unfinished.arrived ⟨milestone, hmilestone, h⟩
      · exact Unfinished.arrived ⟨milestone, hmilestone, h.next rfl rfl rfl⟩
  have hread : Triple (Reached 2) (read_py32_firmware_version true) (fun _ => Reached 2) Arrived :=
    (read_version_reached true).escape fun _ h => (h.unfinished (by decide)).arrived
  have hassign : ∀ previous_version, Triple (Reached 2)
      (assign fun r => { r with previous_version }) (fun _ => Reached 2) Arrived :=
    fun previous_version w h => h.same rfl rfl
  have hmake : Keeps (Reached 10)
      (orFail "Temporary directory creation failed" make_temporary_directory) := by
    refine Triple.otherwise (E := Reached 10) ?_ fun w h => h.same rfl rfl
    intro w h
    unfold make_temporary_directory
    rcases w.surroundings.temp_directory_path w.moment with message | temp
    · exact h.next rfl rfl rfl
    · rcases w.surroundings.create_directories w.moment with message | _ | _ <;>
        exact h.next rfl rfl rfl
  refine ((publish_reaches _ (by decide)).escape fun _ => Unfinished.arrived).bind fun _ => ?_
  refine hread.bind fun previous_version => (hassign previous_version).bind fun _ => ?_
  refine triple_ite (fun _ => ?_) fun _ => ?_
  · exact fun w h => (Reached.unfinished (h.same rfl rfl) (by decide)).arrived
  · refine ((check_package_reaches _).escape fun _ => Unfinished.arrived).bind fun _ => ?_
    exact (hmake.escape fun _ h => (h.unfinished (by decide)).arrived).bind hdirectory

/-- The milestones are passed in their order, and the last one exactly with success. -/
theorem run_progress (archive_path : Text) (surroundings : Surroundings)
    (major_cache minor_cache : Ioe1RegisterCache) :
    Arrived (upgrade archive_path surroundings major_cache minor_cache) :=
  (run_arrives archive_path).ends ⟨Monitor.at_nil, rfl⟩

end

end FactoryTest.Upgrade
