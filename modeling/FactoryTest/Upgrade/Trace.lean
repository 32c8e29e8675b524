import FactoryTest.Lib.History
import FactoryTest.Lib.Plan
import FactoryTest.Upgrade.Service

/-!
# What an upgrade does

The actions of a run that can fail, in the order of its plan.

**Theorem (`run_ends`).** A run carries out its plan up to the first action that fails, and the
status of that action is what it reports. Where the file system cannot tell whether a path is the
one of a regular file, the run is left by an exception and reports nothing. If the temporary
directory was created, removing it is the last action of the run, unless it was left by an exception
that nothing catches. The run succeeds if and only if all of the plan succeeded and the registers,
read again after the firmware was written, hold the target version.

**Theorem (`programs_checked`).** When the command that writes the firmware is run, both lists of
checksums were verified, the script and the firmware were there, and both rehearsals succeeded.
-/

namespace FactoryTest.Upgrade

open DeviceInfo Process Program

/-! ## Plans -/

/-- The command of `verify_checksums`. -/
def verification (directory checksum_file : Text) : Action :=
  .command [utf8 "/bin/sh", utf8 "-c", verify_command directory checksum_file] [] 30000

/-- The commands of the script. -/
def script (dir : Text) (options : List Text) (stdin_text : Text) (timeout_ms : ℕ) : Action :=
  .command (utf8 "python3" :: utf8 "-u" :: script_path dir :: options) stdin_text timeout_ms

/-- The command that writes the firmware. -/
def programming (dir : Text) : Action :=
  script dir [utf8 "-b", utf8 "/dev/i2c-1", utf8 "-f", firmware_path dir] (utf8 "\n\n") 180000

/-- What is done before there is a temporary directory, with the status of each failure. -/
def package_plan (archive_path : Text) : List (Action × String) :=
  [(.file archive_path, "Firmware package not found"),
    (.file (archive_path ++ utf8 ".sha256sum"), "Firmware checksum file not found"),
    (verification (parent_path archive_path) (archive_path ++ utf8 ".sha256sum"),
      "Firmware package verification failed")]

/-- What is done in the temporary directory before anything is written. -/
def prepare_plan (archive_path dir : Text) : List (Action × String) :=
  [(.command [utf8 "tar", utf8 "-xzf", archive_path, utf8 "-C", dir] [] 30000,
      "Firmware package extraction failed"),
    (.file (internal_checksums dir), "Extracted firmware checksums not found"),
    (verification (package_path dir) (internal_checksums dir),
      "Extracted firmware verification failed"),
    (.file (script_path dir), "Upgrade files not found"),
    (.file (firmware_path dir), "Upgrade files not found"),
    (script dir [utf8 "-f", firmware_path dir, utf8 "--firmware-only"] [] 30000,
      "Firmware validation failed"),
    (script dir [utf8 "-b", utf8 "/dev/i2c-1", utf8 "-f", firmware_path dir, utf8 "--dry-run"] []
      30000, "Upgrade dry run failed")]

/-- The whole plan. -/
def plan (archive_path dir : Text) : List (Action × String) :=
  package_plan archive_path ++ [(.directory dir, "Temporary directory creation failed")] ++
    prepare_plan archive_path dir ++ [(programming dir, "Firmware upgrade failed")]

/-! ## Histories -/

/-- An action that can fail, and whether it did. -/
def effect : Obs → Option (Action × Bool)
  | .done action ok => some (action, ok)
  | _ => none

/-- What was done. -/
def effects (os : List Obs) : List (Action × Bool) := os.filterMap effect

/-- An access to a register, with what it gave. -/
def reading : Obs → Option (UInt8 × Option UInt8)
  | .register_read command call => some (command, call.access.join)
  | _ => none

/-- The accesses to registers. -/
def readings (os : List Obs) : List (UInt8 × Option UInt8) := os.filterMap reading

/-- What the registers of the target version give. -/
def target_readings : List (UInt8 × Option UInt8) := [(0x02, some 0x5A), (0xBA, some 0x01)]

/-- The package does not have its name. -/
def Misnamed (archive_path : Text) : Prop :=
  archive_path = [] ∨ filename archive_path ≠ K_ARCHIVE_NAME

/-- The last that was done is a look at a path that the file system had no answer to. -/
def Thrown (surroundings : Surroundings) (os : List Obs) : Prop :=
  ∃ front path, os = front ++ [.done (.file path) false] ∧
    surroundings.is_regular_file front.length = none

/-- What a run reports that failed after this history. -/
structure Reported (w : World) (os : List Obs) (status : String) : Prop where
  failed : w.result.success = false
  threw : w.threw = true ↔ Thrown w.surroundings os
  status : w.threw = false → w.result.error_status = status

/-- The directory is removed, except where an exception ends the program. -/
def removal (w : World) (dir : Text) : List Obs :=
  if w.threw && !w.surroundings.unwinds then [] else [.removed dir]

/-- How a run of this package ends. -/
inductive Ends (archive_path : Text) (w : World) : Prop
  | misnamed (hname : Misnamed archive_path) (hnone : effects w.history = [])
      (hkept : ∀ path, .removed path ∉ w.history)
      (hreported : Reported w w.history "Firmware package not found")
  /-- Something failed before there was a directory, or when it was created. -/
  | unprepared (dir : Text) (status : String) (hname : ¬ Misnamed archive_path)
      (hstopped : Stopped (package_plan archive_path ++
        [(.directory dir, "Temporary directory creation failed")]) status (effects w.history))
      (hkept : ∀ path, .removed path ∉ w.history) (hreported : Reported w w.history status)
  /-- Something failed in the directory. -/
  | stopped (dir : Text) (os : List Obs) (trace : List (Action × Bool)) (status : String)
      (hname : ¬ Misnamed archive_path) (hhistory : w.history = os ++ removal w dir)
      (hstopped : Stopped (prepare_plan archive_path dir ++
        [(programming dir, "Firmware upgrade failed")]) status trace)
      (htrace : effects os =
        completed (package_plan archive_path) ++ (.directory dir, true) :: trace)
      (hkept : ∀ path, .removed path ∉ os) (hreported : Reported w os status)
  /-- All of the plan succeeded, and the registers were read again after the last of it. -/
  | carried (dir : Text) (os before after : List Obs) (hname : ¬ Misnamed archive_path)
      (hhistory : w.history = os ++ [.removed dir])
      (htrace : effects os = completed (plan archive_path dir))
      (hwritten : os = before ++ .done (programming dir) true :: after)
      (hkept : ∀ path, .removed path ∉ os) (hreturned : w.threw = false)
      (hsuccess : w.result.success = true ↔ readings after = target_readings)
      (hstatus : w.result.success = false → w.result.error_status = "Version verification failed")

/-! ## Steps -/

/-- So far everything has succeeded, and no directory was removed. -/
structure Did (done : List (Action × Bool)) (w : World) : Prop where
  moment : w.moment = w.history.length
  effects : effects w.history = done
  directory : ∀ path, .removed path ∉ w.history
  failed : w.result.success = false
  threw : w.threw = false
  answered : ¬ Thrown w.surroundings w.history

/-- Something failed, and the run ends with this status. -/
structure Failed (status : String) (done : List (Action × Bool)) (w : World) : Prop where
  effects : effects w.history = done
  directory : ∀ path, .removed path ∉ w.history
  reported : Reported w w.history status

/-- One more observation, at the next moment. -/
structure Noted (w : World) (o : Obs) (w' : World) : Prop where
  history : w'.history = w.history ++ [o]
  moment : w'.moment = w.moment + 1
  surroundings : w'.surroundings = w.surroundings
  success : w'.result.success = w.result.success
  threw : w'.threw = w.threw

section

variable {done : List (Action × Bool)} {w w' : World} {o : Obs}

theorem effects_concat (os : List Obs) (o : Obs) :
    effects (os ++ [o]) = effects os ++ (effect o).toList := by
  rw [effects, List.filterMap_append, ← effects]
  cases h : effect o <;> simp [h]

theorem thrown_concat_iff {surroundings : Surroundings} {os : List Obs} :
    Thrown surroundings (os ++ [o]) ↔ (∃ path, o = .done (.file path) false) ∧
      surroundings.is_regular_file os.length = none := by
  constructor
  · rintro ⟨front, path, heq, hnone⟩
    obtain ⟨rfl, ho⟩ := List.append_inj' heq rfl
    exact ⟨⟨path, List.singleton_inj.1 ho⟩, hnone⟩
  · rintro ⟨⟨path, rfl⟩, hnone⟩
    exact ⟨os, path, rfl, hnone⟩

/-- An observation that is no removal, and no look at a path without an answer. -/
theorem Did.noted (h : Did done w) (hnoted : Noted w o w') (ho : ∀ path, o ≠ .removed path)
    (hanswer : (∃ path, o = .done (.file path) false) →
      w.surroundings.is_regular_file w.moment ≠ none) : Did (done ++ (effect o).toList) w' where
  moment := by
    rw [hnoted.moment, hnoted.history, h.moment, List.length_append, List.length_singleton]
  effects := by rw [hnoted.history, effects_concat, h.effects]
  directory path hmem := by
    rw [hnoted.history] at hmem
    rcases List.mem_append.1 hmem with hmem | hmem
    · exact h.directory path hmem
    · exact ho path (List.mem_singleton.1 hmem).symm
  failed := hnoted.success.trans h.failed
  threw := hnoted.threw.trans h.threw
  answered := by
    rw [hnoted.history, hnoted.surroundings, thrown_concat_iff, ← h.moment]
    exact fun hthrown => hanswer hthrown.1 hthrown.2

/-- What leaves nothing that could fail. -/
theorem Did.silent (h : Did done w) (hnoted : Noted w o w') (heffect : effect o = none)
    (ho : ∀ path, o ≠ .removed path) : Did done w' := by
  have hnext := h.noted hnoted ho fun ⟨_, hfile⟩ =>
    absurd (heffect.symm.trans (congrArg effect hfile)) (by simp [effect])
  rwa [heffect, Option.toList_none, List.append_nil] at hnext

/-- An action that is no look at a path. -/
theorem Did.next (h : Did done w) {action : Action} {ok : Bool}
    (hnoted : Noted w (.done action ok) w') (haction : ∀ path, action ≠ .file path) :
    Did (done ++ [(action, ok)]) w' :=
  h.noted hnoted (fun _ => Obs.noConfusion) fun ⟨path, hfile⟩ =>
    absurd (Obs.done.inj hfile).1 (haction path)

/-- The result is assigned. -/
theorem Did.assigned (h : Did done w) {r : Result} (hr : r.success = w.result.success) :
    Did done { w with result := r } :=
  ⟨h.moment, h.effects, h.directory, hr.trans h.failed, h.threw, h.answered⟩

/-- The run returns with an error. -/
theorem Did.fails (h : Did done w) {r : Result} {status : String}
    (hstatus : r.error_status = status) (hr : r.success = w.result.success) :
    Failed status done { w with result := r } :=
  ⟨h.effects, h.directory, hr.trans h.failed, iff_of_false (by simp [h.threw]) h.answered,
    fun _ => hstatus⟩

theorem publish_did (percent : ℤ) (status : String) :
    Triple (Did done) (publish percent status) (fun _ => Did done) fun _ => False :=
  fun _ h => h.silent ⟨rfl, rfl, rfl, rfl, rfl⟩ rfl fun _ => Obs.noConfusion

theorem follows_publish (percent : ℤ) (status : String) :
    Follows Did Failed [] (publish percent status) :=
  follows_nil fun _ => publish_did percent status

theorem assign_did {update : Result → Result} (h : ∀ r, (update r).success = r.success) :
    Triple (Did done) (assign update) (fun _ => Did done) fun _ => False :=
  fun w hw => hw.assigned (h w.result)

theorem fail_did {α : Type} (status : String) (message : Text) :
    Triple (Did done) (fail status message : Run α) (fun _ _ => False) (Failed status done) :=
  fun _ h => h.fails rfl rfl

/-- The file system answers, or throws. -/
theorem is_regular_file_did (path : Text) (status : String) :
    Triple (Did done) (is_regular_file path) (fun regular => Did (done ++ [(.file path, regular)]))
      (Failed status (done ++ [(.file path, false)])) := by
  intro w h
  unfold is_regular_file
  cases hanswer : w.surroundings.is_regular_file w.moment with
  | some regular =>
    have hnoted : Noted w (.done (.file path) regular) (w.note (.done (.file path) regular)) :=
      ⟨rfl, rfl, rfl, rfl, rfl⟩
    exact h.noted hnoted (fun _ => Obs.noConfusion) fun _ => by simp [hanswer]
  | none =>
    have hthrown : Thrown w.surroundings (w.history ++ [.done (.file path) false]) :=
      thrown_concat_iff.2 ⟨⟨path, rfl⟩, h.moment ▸ hanswer⟩
    refine ⟨?_, fun path' hmem => ?_, h.failed, iff_of_true rfl hthrown, fun hreturned => ?_⟩
    · show effects (w.history ++ [_]) = _
      rw [effects_concat, h.effects]
      rfl
    · rcases List.mem_append.1 hmem with hmem | hmem
      · exact h.directory path' hmem
      · exact Obs.noConfusion (List.mem_singleton.1 hmem)
    · exact Bool.noConfusion hreturned

theorem follows_require_file (path : Text) (status message : String) :
    Follows Did Failed [(.file path, status)] (require_file path status message) := by
  refine follows_step fun done => ?_
  refine (is_regular_file_did path status).bind fun regular => triple_ite (fun h => ?_) fun h => ?_
  · obtain rfl := h
    exact triple_pure fun _ hdone => hdone
  · obtain rfl := Bool.eq_false_iff.2 h
    exact (fail_did status _).post fun _ _ => False.elim

theorem relay_did {line_handler : Text → Run Unit} {lines : List Text}
    (hhandler : ∀ line, Triple (Did done) (line_handler line) (fun _ => Did done) fun _ => False) :
    Triple (Did done) (relay line_handler lines) (fun _ => Did done) fun _ => False := by
  induction lines with
  | nil => exact triple_pure fun _ h => h
  | cons line lines ih => exact (hhandler line).bind fun _ => ih

theorem run_process_did {argv : List Text} {stdin_text : Text} {timeout_ms : ℕ}
    {line_handler : Text → Run Unit} {fallback : String}
    (hhandler : ∀ done line, Triple (Did done) (line_handler line) (fun _ => Did done)
      fun _ => False) :
    Triple (Did done) (run_process argv stdin_text timeout_ms line_handler fallback)
      (fun _ => Did (done ++ [(.command argv stdin_text timeout_ms, true)]))
      (Did (done ++ [(.command argv stdin_text timeout_ms, false)])) := by
  have hspawn : Triple (Did done) (fun w => (some (w.surroundings.process w.moment), w.note
        (.done (.command argv stdin_text timeout_ms) (w.surroundings.process w.moment).1.success)))
      (fun answer => Did (done ++ [(.command argv stdin_text timeout_ms, answer.1.success)]))
      fun _ => False :=
    fun w h => h.next ⟨rfl, rfl, rfl, rfl, rfl⟩ fun _ => Action.noConfusion
  refine (hspawn.escape fun _ => False.elim).bind ?_
  rintro ⟨result, lines⟩
  refine ((relay_did (hhandler _)).escape fun _ => False.elim).bind fun _ => ?_
  refine triple_ite (fun h => ?_) fun h => ?_
  · rw [h]
    exact triple_pure fun _ hdone => hdone
  · rw [Bool.eq_false_iff.2 h]
    have hassign : Triple (Did (done ++ [(.command argv stdin_text timeout_ms, false)]))
        (assign fun r => { r with error_message := process_error result fallback })
        (fun _ => Did (done ++ [(.command argv stdin_text timeout_ms, false)])) fun _ => False :=
      assign_did fun _ => rfl
    refine (hassign.escape fun _ => False.elim).bind fun _ => ?_
    exact triple_giveUp fun _ hdone => hdone

/-- A step that assigns its message itself, and whose failure has this status. -/
theorem orFail_did {α : Type} {m : Run α} {status : String} {Q : α → World → Prop}
    {done' : List (Action × Bool)} (hm : Triple (Did done) m Q (Did done')) :
    Triple (Did done) (orFail status m) Q (Failed status done') :=
  hm.otherwise fun _ h => h.fails rfl rfl

/-- A command whose failure has this status. -/
theorem follows_run_process {argv : List Text} {stdin_text : Text} {timeout_ms : ℕ}
    {line_handler : Text → Run Unit} {fallback status : String}
    (hhandler : ∀ done line, Triple (Did done) (line_handler line) (fun _ => Did done)
      fun _ => False) :
    Follows Did Failed [(.command argv stdin_text timeout_ms, status)]
      (orFail status (run_process argv stdin_text timeout_ms line_handler fallback)) :=
  follows_step fun _ => orFail_did (run_process_did hhandler)

theorem ignored_line (done : List (Action × Bool)) (line : Text) :
    Triple (Did done) ((fun _ => pure () : Text → Run Unit) line) (fun _ => Did done)
      fun _ => False := triple_pure fun _ h => h

theorem upgrade_line_handler_did (done : List (Action × Bool)) (line : Text) :
    Triple (Did done) (upgrade_line_handler line) (fun _ => Did done) fun _ => False := by
  unfold upgrade_line_handler
  cases parse_firmware_percent line with
  | none => exact triple_pure fun _ h => h
  | some percent => exact publish_did _ _

theorem make_temporary_directory_did :
    Triple (Did done) (orFail "Temporary directory creation failed" make_temporary_directory)
      (fun dir => Did (done ++ [(.directory dir, true)]))
      (fun w => ∃ dir, Failed "Temporary directory creation failed"
        (done ++ [(.directory dir, false)]) w) := by
  have hmake : Triple (Did done) make_temporary_directory
      (fun dir => Did (done ++ [(.directory dir, true)]))
      (fun w => ∃ dir, Did (done ++ [(.directory dir, false)]) w) := by
    intro w h
    have hnext : ∀ {dir ok w'}, Noted w (.done (.directory dir) ok) w' →
        Did (done ++ [(.directory dir, ok)]) w' :=
      fun hnoted => h.next hnoted fun _ => Action.noConfusion
    unfold make_temporary_directory
    rcases w.surroundings.temp_directory_path w.moment with message | temp
    · exact ⟨_, hnext ⟨rfl, rfl, rfl, rfl, rfl⟩⟩
    · rcases w.surroundings.create_directories w.moment with message | _ | _
      · exact ⟨_, hnext ⟨rfl, rfl, rfl, rfl, rfl⟩⟩
      · exact ⟨_, hnext ⟨rfl, rfl, rfl, rfl, rfl⟩⟩
      · exact hnext ⟨rfl, rfl, rfl, rfl, rfl⟩
  refine hmake.otherwise ?_
  rintro w ⟨dir, h⟩
  exact ⟨dir, h.fails rfl rfl⟩

end

/-! ## The version -/

theorem K_TARGET_VERSION_eq : K_TARGET_VERSION = version_text 0x5A 0x01 := by decide

/-- A forced access always reads the register. -/
theorem forced_read (cache : Ioe1RegisterCache) (read : Read) (h : read.force_refresh = true) :
    (read_cached_ioe1_register cache read).2.access = some read.answer ∧
      (read_cached_ioe1_register cache read).2.value = read.answer := by
  have hfresh : cache.fresh read = false := by simp [Ioe1RegisterCache.fresh, h]
  unfold read_cached_ioe1_register
  rw [hfresh, h]
  cases read.answer <;> exact ⟨rfl, rfl⟩

theorem read_version_did {done : List (Action × Bool)} :
    Triple (Did done) (read_py32_firmware_version true) (fun _ => Did done) fun _ => False := by
  intro w h
  unfold read_py32_firmware_version
  dsimp only
  generalize read_cached_ioe1_register w.major_cache _ = major
  have hmajor : Did done ({ w with major_cache := major.1 }.note (.register_read 0x02 major.2)) :=
    h.silent ⟨rfl, rfl, rfl, rfl, rfl⟩ rfl fun _ => Obs.noConfusion
  cases major.2.value with
  | none => exact hmajor
  | some major_version =>
    dsimp only
    generalize World.note _ _ = w' at hmajor ⊢
    generalize read_cached_ioe1_register w'.minor_cache _ = minor
    have hminor : Did done
        ({ w' with minor_cache := minor.1 }.note (.register_read 0xBA minor.2)) :=
      hmajor.silent ⟨rfl, rfl, rfl, rfl, rfl⟩ rfl fun _ => Obs.noConfusion
    cases minor.2.value with
    | none => exact hminor
    | some minor_version => exact hminor

/-- What was read of the registers since the action was done. -/
def Since (action : Action) (ok : Bool) (read : List (UInt8 × Option UInt8)) (w : World) : Prop :=
  ∃ before after, w.history = before ++ .done action ok :: after ∧ readings after = read

section

variable {action : Action} {ok : Bool} {read : List (UInt8 × Option UInt8)} {w w' : World}

theorem Since.concat (h : Since action ok read w) {o : Obs}
    (hhistory : w'.history = w.history ++ [o]) :
    Since action ok (read ++ (reading o).toList) w' := by
  obtain ⟨before, after, heq, rfl⟩ := h
  refine ⟨before, after ++ [o], ?_, ?_⟩
  · rw [hhistory, heq, List.append_assoc, List.cons_append]
  · rw [readings, List.filterMap_append, ← readings]
    cases ho : reading o <;> simp [ho]

/-- What reads nothing. -/
theorem Since.silent (h : Since action ok read w) {o : Obs}
    (hhistory : w'.history = w.history ++ [o]) (ho : reading o = none) :
    Since action ok read w' := by
  have hnext := h.concat hhistory
  rwa [ho, Option.toList_none, List.append_nil] at hnext

theorem publish_since (percent : ℤ) (status : String) :
    Triple (Since action ok read) (publish percent status) (fun _ => Since action ok read)
      fun _ => False := fun _ h => h.silent rfl rfl

theorem relay_since {line_handler : Text → Run Unit} {lines : List Text}
    (hhandler : ∀ line, Triple (Since action ok read) (line_handler line)
      (fun _ => Since action ok read) fun _ => True) :
    Triple (Since action ok read) (relay line_handler lines) (fun _ => Since action ok read)
      fun _ => True := by
  induction lines with
  | nil => exact triple_pure fun _ h => h
  | cons line lines ih => exact (hhandler line).bind fun _ => ih

theorem upgrade_line_handler_since (line : Text) : Triple (Since action ok read)
    (upgrade_line_handler line) (fun _ => Since action ok read) fun _ => True := by
  unfold upgrade_line_handler
  cases parse_firmware_percent line with
  | none => exact triple_pure fun _ h => h
  | some percent => exact (publish_since _ _).escape fun _ => False.elim

/-- The version that is read is the target exactly if the registers gave it. -/
theorem read_version_since : Triple (Since action ok read) (read_py32_firmware_version true)
    (fun version w => ∃ more, Since action ok (read ++ more) w ∧
      (version = K_TARGET_VERSION ↔ more = target_readings)) fun _ => False := by
  intro w h
  unfold read_py32_firmware_version
  dsimp only
  obtain ⟨haccess, hvalue⟩ := forced_read w.major_cache
    ⟨w.surroundings.now w.moment, true, w.surroundings.register w.moment⟩ rfl
  generalize read_cached_ioe1_register w.major_cache _ = major at haccess hvalue ⊢
  have hmajor : Since action ok (read ++ (reading (.register_read 0x02 major.2)).toList)
      ({ w with major_cache := major.1 }.note (.register_read 0x02 major.2)) := h.concat rfl
  rw [reading, haccess] at hmajor
  rw [hvalue]
  cases hfirst : w.surroundings.register w.moment with
  | none => exact ⟨_, hmajor, iff_of_false (by decide) (by simp [hfirst, target_readings])⟩
  | some major_version =>
    rw [hfirst] at hmajor
    dsimp only
    generalize World.note _ _ = w' at hmajor ⊢
    obtain ⟨haccess, hvalue⟩ := forced_read w'.minor_cache
      ⟨w'.surroundings.now w'.moment, true, w'.surroundings.register w'.moment⟩ rfl
    generalize read_cached_ioe1_register w'.minor_cache _ = minor at haccess hvalue ⊢
    have hminor : Since action ok (read ++ [(0x02, some major_version)] ++
        (reading (.register_read 0xBA minor.2)).toList)
        ({ w' with minor_cache := minor.1 }.note (.register_read 0xBA minor.2)) := hmajor.concat rfl
    rw [reading, haccess, List.append_assoc] at hminor
    rw [hvalue]
    cases hsecond : w'.surroundings.register w'.moment with
    | none =>
      exact ⟨_, hminor, iff_of_false (by decide) (by simp [hsecond, target_readings])⟩
    | some minor_version =>
      refine ⟨_, hminor, ?_⟩
      rw [hsecond, K_TARGET_VERSION_eq, version_text_inj]
      simp [target_readings]

end

/-! ## Runs -/

theorem follows_prepare (archive_path dir : Text) :
    Follows Did Failed (prepare_plan archive_path dir) (prepare archive_path dir) := by
  have hrun : ∀ (argv : List Text) (fallback status : String),
      Follows Did Failed [(.command argv [] 30000, status)]
        (orFail status (run_process argv [] 30000 (fun _ => pure ()) fallback)) :=
    fun argv fallback status => follows_run_process ignored_line
  refine (follows_publish _ _).bind ((hrun _ "Command failed" _).bind ?_)
  refine (follows_require_file _ _ _).bind ((follows_publish _ _).bind ?_)
  refine (hrun _ "SHA256 verification failed" _).bind ((follows_require_file _ _ _).bind ?_)
  refine (follows_require_file _ _ _).bind ((follows_publish _ _).bind ?_)
  exact (hrun _ "Command failed" _).bind ((follows_publish _ _).bind (hrun _ "Command failed" _))

/-- The registers hold the target version, and the run has succeeded. -/
structure Finished (action : Action) (done : List (Action × Bool)) (w : World) : Prop where
  effects : effects w.history = done
  directory : ∀ path, .removed path ∉ w.history
  success : w.result.success = true
  threw : w.threw = false
  read : Since action true target_readings w

/-- The registers do not hold the target version. -/
structure Missed (action : Action) (done : List (Action × Bool)) (w : World) : Prop
    extends Failed "Version verification failed" done w where
  returned : w.threw = false
  read : ∃ read ≠ target_readings, Since action true read w

theorem verify_version_did {action : Action} {done : List (Action × Bool)} :
    Triple (fun w => Did done w ∧ Since action true [] w) verify_version
      (fun _ => Finished action done) (Missed action done) := by
  have hpublish : Triple (fun w => Did done w ∧ Since action true [] w)
      (publish 92 "Verifying upgraded version...")
      (fun _ w => Did done w ∧ Since action true [] w) fun w => False ∧ False :=
    (publish_did _ _).and (publish_since _ _)
  refine (hpublish.escape fun _ h => h.1.elim).bind fun _ => ?_
  refine ((read_version_did.and read_version_since).escape fun _ h => h.1.elim).bind
    fun current_version => ?_
  have hassign : Triple
      (fun w => Did done w ∧ ∃ more, Since action true ([] ++ more) w ∧
        (current_version = K_TARGET_VERSION ↔ more = target_readings))
      (assign fun r => { r with current_version })
      (fun _ w => Did done w ∧ ∃ more, Since action true more w ∧
        (current_version = K_TARGET_VERSION ↔ more = target_readings))
      (Missed action done) := fun w h => ⟨h.1.assigned rfl, h.2⟩
  refine hassign.bind fun _ => triple_ite (fun hversion => ?_) fun hversion => ?_
  · rintro w ⟨hdid, more, hsince, hmore⟩
    exact ⟨hdid.fails rfl rfl, hdid.threw, more, fun heq => hversion (hmore.2 heq), hsince⟩
  · rintro w ⟨hdid, more, hsince, hmore⟩
    obtain rfl := hmore.1 (not_not.1 hversion)
    have hend : Did done (w.note (.published 100 "Upgrade complete (0x5A01). Please reboot.")) :=
      hdid.silent ⟨rfl, rfl, rfl, rfl, rfl⟩ rfl fun _ => Obs.noConfusion
    exact ⟨hend.effects, hend.directory, rfl, hend.threw, hsince.silent rfl rfl⟩

theorem follows_program (dir : Text) :
    Follows Did Failed [(programming dir, "Firmware upgrade failed")] (program dir) :=
  (follows_publish _ _).bind (follows_run_process upgrade_line_handler_did)

/-- Nothing was read since the firmware was written. -/
theorem program_since (dir : Text) : Triple (fun _ => True) (program dir)
    (fun _ => Since (programming dir) true []) fun _ => True := by
  have hspawn : Triple (fun _ => True) (fun w => (some (w.surroundings.process w.moment), w.note
        (.done (programming dir) (w.surroundings.process w.moment).1.success)))
      (fun answer => Since (programming dir) answer.1.success []) fun _ => True :=
    fun w _ => ⟨w.history, [], rfl, rfl⟩
  refine triple_true.bind fun _ => Triple.otherwise (E := fun _ => True) ?_ fun _ _ => trivial
  refine hspawn.bind ?_
  rintro ⟨result, lines⟩
  refine (relay_since upgrade_line_handler_since).bind fun _ => triple_ite (fun h => ?_) fun _ => ?_
  · rw [h]
    exact triple_pure fun _ hsince => hsince
  · exact triple_true.bind fun _ => triple_giveUp fun _ _ => trivial

/-- What is done in the directory. -/
theorem directory_did (archive_path dir : Text) (done : List (Action × Bool)) :
    Triple (Did done) (do prepare archive_path dir; program dir; verify_version)
      (fun _ => Finished (programming dir) (done ++ completed (prepare_plan archive_path dir ++
        [(programming dir, "Firmware upgrade failed")])))
      (fun w => (∃ status trace, Stopped (prepare_plan archive_path dir ++
          [(programming dir, "Firmware upgrade failed")]) status trace ∧
            Failed status (done ++ trace) w) ∨
        Missed (programming dir) (done ++ completed (prepare_plan archive_path dir ++
          [(programming dir, "Firmware upgrade failed")])) w) := by
  have hsince : Triple (fun _ => True) (do prepare archive_path dir; program dir)
      (fun _ => Since (programming dir) true []) fun _ => True :=
    triple_true.bind fun _ => program_since dir
  have hprogram := ((follows_prepare archive_path dir).bind (follows_program dir) done).beside
    hsince
  have hall := Triple.bind ((hprogram.pre fun _ h => ⟨h, trivial⟩).escape fun _ h => Or.inl h)
    fun _ => verify_version_did.escape fun _ h => Or.inr h
  rwa [bind_assoc] at hall

theorem follows_check_package (archive_path : Text) :
    Follows Did Failed (package_plan archive_path) (check_package archive_path) :=
  (follows_require_file _ _ _).bind ((follows_require_file _ _ _).bind
    ((follows_publish _ _).bind (follows_run_process ignored_line)))

theorem temporary_directory_spec (dir : Text) (w : World) :
    (temporary_directory dir w).history = w.history ++ removal (temporary_directory dir w) dir ∧
      (temporary_directory dir w).result = w.result ∧
      (temporary_directory dir w).threw = w.threw ∧
      (temporary_directory dir w).surroundings = w.surroundings := by
  unfold temporary_directory removal
  by_cases hkept : (w.threw && !w.surroundings.unwinds) = true
  · rw [if_pos hkept, if_pos hkept]
    exact ⟨(List.append_nil _).symm, rfl, rfl, rfl⟩
  · rw [if_neg hkept]
    exact ⟨congrArg (w.history ++ ·) (if_neg hkept).symm, rfl, rfl, rfl⟩

theorem Reported.ends {w w' : World} {os : List Obs} {status : String} (h : Reported w os status)
    (hresult : w'.result = w.result) (hthrew : w'.threw = w.threw)
    (hsurroundings : w'.surroundings = w.surroundings) : Reported w' os status :=
  ⟨hresult ▸ h.failed, by rw [hthrew, hsurroundings, h.threw],
    by rw [hthrew, hresult]; exact h.status⟩

theorem plan_eq (archive_path dir : Text) : plan archive_path dir =
    package_plan archive_path ++ ((.directory dir, "Temporary directory creation failed") ::
      (prepare_plan archive_path dir ++ [(programming dir, "Firmware upgrade failed")])) := rfl

theorem in_directory_ends {archive_path : Text} (hname : ¬ Misnamed archive_path) (dir : Text) :
    Triple (Did (completed (package_plan archive_path) ++ [(.directory dir, true)]))
      (Program.scope (do prepare archive_path dir; program dir; verify_version)
        (temporary_directory dir)) (fun _ => Ends archive_path) (Ends archive_path) := by
  have hplan : completed (package_plan archive_path) ++ [(.directory dir, true)] ++
      completed (prepare_plan archive_path dir ++ [(programming dir, "Firmware upgrade failed")]) =
        completed (plan archive_path dir) := by
    rw [plan_eq, completed_append, List.append_assoc]
    rfl
  refine (directory_did archive_path dir _).scope (fun _ w h => ?_) fun w h => ?_
  · obtain ⟨hhistory, hresult, hthrew, -⟩ := temporary_directory_spec dir w
    obtain ⟨before, after, hwritten, hread⟩ := h.read
    rw [removal, hthrew, h.threw] at hhistory
    refine .carried dir w.history before after hname hhistory (h.effects.trans hplan) hwritten
      h.directory (hthrew.trans h.threw) ?_ ?_
    · exact iff_of_true (hresult ▸ h.success) hread
    · exact fun hfailed => absurd (hfailed.symm.trans (hresult ▸ h.success)) (by decide)
  · obtain ⟨hhistory, hresult, hthrew, hsurroundings⟩ := temporary_directory_spec dir w
    rcases h with ⟨status, trace, hstopped, h⟩ | h
    · refine .stopped dir w.history trace status hname hhistory hstopped ?_ h.directory
        (h.reported.ends hresult hthrew hsurroundings)
      rw [h.effects, List.append_assoc]
      rfl
    · obtain ⟨read, hread, before, after, hwritten, rfl⟩ := h.read
      rw [removal, hthrew, h.returned] at hhistory
      refine .carried dir w.history before after hname hhistory (h.effects.trans hplan) hwritten
        h.directory (hthrew.trans h.returned) ?_ ?_
      · exact iff_of_false (by simp [hresult, h.reported.failed]) hread
      · exact fun _ => hresult ▸ h.reported.status h.returned

theorem run_did (archive_path : Text) :
    Triple (Did []) (run archive_path) (fun _ => Ends archive_path) (Ends archive_path) := by
  refine ((publish_did 2 _).escape fun _ => False.elim).bind fun _ => ?_
  refine (read_version_did.escape fun _ => False.elim).bind fun previous_version => ?_
  have hassign : Triple (Did []) (assign fun r => { r with previous_version }) (fun _ => Did [])
      (Ends archive_path) := fun w h => h.assigned rfl
  refine hassign.bind fun _ => triple_ite (fun hname => ?_) fun hname => ?_
  · have hfail : Triple (Did []) (fail "Firmware package not found"
        (utf8 "Firmware package not found") : Run Unit) (fun _ _ => False) _ := fail_did _ _
    refine hfail.mono (fun _ h => h) (fun _ _ => False.elim) fun w h => ?_
    exact .misnamed hname h.effects h.directory h.reported
  · have hunprepared : ∀ dir w, (∃ status trace, Stopped (package_plan archive_path ++
        [(.directory dir, "Temporary directory creation failed")]) status trace ∧
          Failed status trace w) → Ends archive_path w := by
      rintro dir w ⟨status, trace, hstopped, h⟩
      exact .unprepared dir status hname (h.effects ▸ hstopped) h.directory h.reported
    refine ((follows_check_package archive_path []).escape ?_).bind fun _ => ?_
    · rintro w ⟨status, trace, hstopped, h⟩
      exact hunprepared [] w ⟨status, trace, hstopped.append_right _, h⟩
    refine (make_temporary_directory_did.escape ?_).bind fun dir => in_directory_ends hname dir
    rintro w ⟨dir, h⟩
    exact hunprepared dir w ⟨_, _, (stopped_singleton _ _).append_left _, h⟩

/-- A run carries out its plan up to the first failure, reports that, and removes its directory. -/
theorem run_ends (archive_path : Text) (surroundings : Surroundings)
    (major_cache minor_cache : Ioe1RegisterCache) :
    Ends archive_path (upgrade archive_path surroundings major_cache minor_cache) :=
  (run_did archive_path).ends
    ⟨rfl, rfl, fun _ => List.not_mem_nil, rfl, rfl, fun ⟨_, _, heq, _⟩ => by simp at heq⟩

/-! ## What was checked -/

/-- The firmware is only written when everything before it has succeeded, in the directory that was
created for it and is still there. -/
def Checked (archive_path : Text) (before : List Obs) (o : Obs) : Prop :=
  ∀ dir ok, o = .done (programming dir) ok → ∃ created, programming dir = programming created ∧
    effects before = completed (package_plan archive_path ++
      (.directory created, "Temporary directory creation failed") ::
        prepare_plan archive_path created) ∧
    ¬ Misnamed archive_path ∧ ∀ path, .removed path ∉ before

theorem not_programming (archive_path created dir : Text) :
    ∀ step ∈ package_plan archive_path ++
      (.directory created, "Temporary directory creation failed") ::
        prepare_plan archive_path created, step.1 ≠ programming dir := by
  simp [package_plan, prepare_plan, programming, verification, script]

/-- Only the last step of the plan writes. -/
theorem programming_last {archive_path created dir : Text} {report : String}
    {earlier later : List (Action × String)}
    (h : plan archive_path created = earlier ++ (programming dir, report) :: later) :
    programming dir = programming created ∧ earlier = package_plan archive_path ++
      (.directory created, "Temporary directory creation failed") ::
        prepare_plan archive_path created := by
  have hplan : plan archive_path created = (package_plan archive_path ++
      (.directory created, "Temporary directory creation failed") ::
        prepare_plan archive_path created) ++ [(programming created, "Firmware upgrade failed")] :=
    rfl
  rw [hplan] at h
  rcases concat_eq_append_cons h with ⟨-, rfl, hlast⟩ | ⟨rest, -, hrest⟩
  · exact ⟨congrArg Prod.fst hlast, rfl⟩
  · refine absurd rfl (not_programming archive_path created dir (programming dir, report) ?_)
    rw [hrest]
    exact List.mem_append_right _ List.mem_cons_self

/-- A history that carries out the plan. -/
theorem checked_of_carried {archive_path created : Text} {os : List Obs}
    (hname : ¬ Misnamed archive_path) (hkept : ∀ path, .removed path ∉ os)
    (hcarried : Carried (plan archive_path created) (effects os)) :
    Justified (Checked archive_path) os := by
  rintro before o after rfl dir ok rfl
  have heffects : effects (before ++ .done (programming dir) ok :: after) =
      effects before ++ (programming dir, ok) :: effects after := by
    rw [effects, List.filterMap_append]
    rfl
  obtain ⟨earlier, report, later, hplan, hbefore⟩ := hcarried.before heffects
  obtain ⟨hprogramming, rfl⟩ := programming_last hplan
  exact ⟨created, hprogramming, hbefore, hname,
    fun path hmem => hkept path (List.mem_append_left _ hmem)⟩

/-- Nothing is written when the directory is removed. -/
theorem checked_removed {archive_path dir : Text} {os : List Obs}
    (h : Justified (Checked archive_path) os) :
    Justified (Checked archive_path) (os ++ [.removed dir]) :=
  justified_concat.2 ⟨h, fun _ _ heq => Obs.noConfusion heq⟩

/-- Nothing is written at all. -/
theorem checked_of_none {archive_path : Text} {os : List Obs}
    (h : ∀ dir ok, (programming dir, ok) ∉ effects os) : Justified (Checked archive_path) os := by
  rintro before o after rfl dir ok rfl
  refine absurd ?_ (h dir ok)
  exact List.mem_filterMap.2 ⟨_, List.mem_append_right _ List.mem_cons_self, rfl⟩

/-- Whenever the firmware is written, everything before it was checked. -/
theorem programs_checked (archive_path : Text) (surroundings : Surroundings)
    (major_cache minor_cache : Ioe1RegisterCache) : Justified (Checked archive_path)
      (upgrade archive_path surroundings major_cache minor_cache).history := by
  have hends := run_ends archive_path surroundings major_cache minor_cache
  generalize upgrade archive_path surroundings major_cache minor_cache = w at hends ⊢
  cases hends with
  | misnamed hname hnone => exact checked_of_none fun dir ok => by simp [hnone]
  | unprepared created status hname hstopped =>
    refine checked_of_none fun dir ok hmem => ?_
    obtain ⟨before, after, htrace⟩ := List.append_of_mem hmem
    obtain ⟨earlier, report, later, hplan, -⟩ := Carried.before (.inr ⟨status, hstopped⟩) htrace
    refine not_programming archive_path created dir (programming dir, report) ?_ rfl
    rw [List.append_cons]
    exact List.mem_append_left _ (hplan ▸ List.mem_append_right _ List.mem_cons_self)
  | stopped created os trace status hname hhistory hstopped htrace hkept =>
    have hcarried : Carried (plan archive_path created) (effects os) := by
      rw [htrace, plan_eq]
      exact .inr ⟨status, (hstopped.append_left [(.directory created, _)]).append_left
        (package_plan archive_path)⟩
    have hchecked := checked_of_carried hname hkept hcarried
    rw [hhistory, removal]
    split_ifs
    · rwa [List.append_nil]
    · exact checked_removed hchecked
  | carried created os before after hname hhistory htrace hwritten hkept =>
    rw [hhistory]
    exact checked_removed (checked_of_carried hname hkept (.inl htrace))

end FactoryTest.Upgrade
