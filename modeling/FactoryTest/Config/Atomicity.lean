import FactoryTest.Config.Store

/-!
# Saving the configuration, call by call

`write_atomic` of `src/model/app_config.cpp` writes a temporary file, syncs it and renames it over
the configuration file. Here every call of the file system may fail by itself, and a write may take
only a part. What `Config.save` says of a save is all that its caller sees (`save_refines`).

**Theorem (`saves_atomically_iff`).** A save that returns false leaves the file as it was, unless
the directory cannot be synced after the file has been replaced.
-/

namespace FactoryTest.Config

/-- The bytes of a text. -/
def bytes (text : String) : List UInt8 := text.toUTF8.data.toList

/-- The configuration file, and what has the name of the next temporary file. -/
structure Disk where
  file : Option (List UInt8)
  temporary : Option (List UInt8) := none
  deriving DecidableEq

/-- What the calls of `write_atomic` answer: the message of those that fail with one, how much
each write takes as long as it is not all, and whether the others succeed. -/
structure DiskAnswers where
  create_directories : Option String := none
  permissions : Option String := none
  open_error : Option String := none
  writes : List ℤ := []
  sync : Bool := true
  rename : Option String := none
  remove : Bool := true
  open_directory : Bool := true
  directory_sync : Bool := true
  deriving DecidableEq

/-- `write_all`: what is in the file after it, and whether that is all. -/
def write_all : List ℤ → List UInt8 → List UInt8 × Bool
  | _, [] => ([], true)
  | [], text => (text, true)
  | written :: writes, text =>
    if written ≤ 0 then ([], false)
    else
      let rest := write_all writes (text.drop written.toNat)
      (text.take written.toNat ++ rest.1, rest.2)

/-- `sync_directory`. -/
def sync_directory (a : DiskAnswers) : Bool := a.open_directory && a.directory_sync

/-- Why the temporary file cannot be created; it must not be there. -/
def Disk.open_error (disk : Disk) (a : DiskAnswers) : Option String :=
  if disk.temporary.isSome then some "File exists" else a.open_error

/-- The temporary file is removed. -/
def Disk.remove (disk : Disk) (a : DiskAnswers) : Disk :=
  if a.remove then { disk with temporary := none } else disk

/-- `write_atomic`, with the error message if it fails. -/
def Disk.write_atomic (disk : Disk) (text : List UInt8) (a : DiskAnswers) : Disk × Option String :=
  match a.create_directories with
  | some message => (disk, some ("failed to create config directory: " ++ message))
  | none =>
    match a.permissions with
    | some message => (disk, some ("failed to secure config directory: " ++ message))
    | none =>
      match disk.open_error a with
      | some message => (disk, some ("failed to create temporary config file: " ++ message))
      | none =>
        let (content, written) := write_all a.writes text
        let synced := written && a.sync
        let disk := { disk with temporary := some content }
        if !written || !synced then
          (disk.remove a, some (if written then "failed to sync temporary config file"
            else "failed to write temporary config file"))
        else
          match a.rename with
          | some message => (disk.remove a, some ("failed to replace config file: " ++ message))
          | none =>
            let disk := { file := disk.temporary : Disk }
            if !sync_directory a then (disk, some "failed to sync config directory")
            else (disk, none)

/-- `save`. -/
def Disk.save (disk : Disk) (store : AppConfigStore) (a : DiskAnswers) :
    Disk × AppConfigStore × Bool :=
  if store.path = "" then
    (disk, { store with last_error := "HOME is not set; cannot resolve config path" }, false)
  else
    match disk.write_atomic (bytes (config_text store.config)) a with
    | (disk, none) => (disk, { store with last_error := "" }, true)
    | (disk, some error_message) => (disk, { store with last_error := error_message }, false)

/-! ## The calls -/

variable {disk : Disk} {store : AppConfigStore} {a : DiskAnswers} {text : List UInt8}

/-- A file that was written in full holds the text. -/
theorem write_all_complete {writes : List ℤ} (h : (write_all writes text).2 = true) :
    (write_all writes text).1 = text := by
  induction writes generalizing text with
  | nil => cases text <;> rfl
  | cons written writes ih =>
    cases text with
    | nil => rfl
    | cons byte text =>
      rw [write_all] at h ⊢
      · by_cases hfailed : written ≤ 0
        · rw [if_pos hfailed] at h
          cases h
        · rw [if_neg hfailed] at h ⊢
          show _ ++ (write_all writes _).1 = _
          rw [ih h, List.take_append_drop]
      · simp
      · simp

/-- The temporary file is created. -/
structure Creates (disk : Disk) (a : DiskAnswers) : Prop where
  create_directories : a.create_directories = none
  permissions : a.permissions = none
  opens : disk.open_error a = none

/-- The temporary file is complete, and takes the place of the configuration file. -/
structure Replaces (text : List UInt8) (a : DiskAnswers) : Prop where
  written : (write_all a.writes text).2 = true
  synced : a.sync = true
  renamed : a.rename = none

/-- How a `write_atomic` ends. -/
inductive Written (disk : Disk) (text : List UInt8) (a : DiskAnswers) : Disk × Option String → Prop
  | refused (message : String) (hcreate : ¬ Creates disk a) :
    Written disk text a (disk, some message)
  | abandoned (message : String) (content : List UInt8) (hcreate : Creates disk a)
      (hreplace : ¬ Replaces text a) :
      Written disk text a ({ disk with temporary := some content }.remove a, some message)
  | replaced (hcreate : Creates disk a) (hreplace : Replaces text a) :
      Written disk text a ({ file := some text }, if sync_directory a then none
        else some "failed to sync config directory")

theorem write_atomic_cases (disk : Disk) (text : List UInt8) (a : DiskAnswers) :
    Written disk text a (disk.write_atomic text a) := by
  unfold Disk.write_atomic
  cases hdirectories : a.create_directories with
  | some message => exact .refused _ fun h => by simp [h.create_directories] at hdirectories
  | none => ?_
  cases hpermissions : a.permissions with
  | some message => exact .refused _ fun h => by simp [h.permissions] at hpermissions
  | none => ?_
  cases hopen : disk.open_error a with
  | some message => exact .refused _ fun h => by simp [h.opens] at hopen
  | none => ?_
  have hcreate : Creates disk a := ⟨hdirectories, hpermissions, hopen⟩
  dsimp only
  split
  · rename_i hshort
    refine .abandoned _ _ hcreate fun h => ?_
    simp [h.written, h.synced] at hshort
  rename_i hfull
  have hdone : (write_all a.writes text).2 = true ∧ a.sync = true := by simpa using hfull
  split
  · rename_i message hrename
    refine .abandoned _ _ hcreate fun h => ?_
    rw [h.renamed] at hrename
    cases hrename
  · rename_i hrename
    rw [write_all_complete hdone.1]
    have h : Written disk text a _ := .replaced hcreate ⟨hdone.1, hdone.2, hrename⟩
    cases hsync : sync_directory a <;> simpa [hsync] using h

/-! ## Saving -/

/-- The save leaves the file with the new text or as it was, as it says, and nothing else. -/
structure SavesAtomically (disk : Disk) (store : AppConfigStore) (a : DiskAnswers) : Prop where
  saved : (disk.save store a).2.2 = true →
    (disk.save store a).1.file = some (bytes (config_text store.config))
  kept : (disk.save store a).2.2 = false → (disk.save store a).1.file = disk.file
  tidied : (disk.save store a).1.temporary = disk.temporary

/-- What `save` adds to `write_atomic`. -/
theorem save_of_path (hpath : store.path ≠ "") : ∃ store',
    disk.save store a = ((disk.write_atomic (bytes (config_text store.config)) a).1, store',
      (disk.write_atomic (bytes (config_text store.config)) a).2.isNone) := by
  unfold Disk.save
  rw [if_neg hpath]
  cases hw : disk.write_atomic (bytes (config_text store.config)) a with
  | mk disk' error_message => cases error_message <;> exact ⟨_, rfl⟩

theorem Creates.unused (h : Creates disk a) : disk.temporary = none := by
  have hopen := h.opens
  unfold Disk.open_error at hopen
  split at hopen
  · cases hopen
  · rename_i hnone
    exact Option.not_isSome_iff_eq_none.1 hnone

/-- A save is atomic if and only if the directory is synced after the file was replaced, or the
file held the text anyway, and a temporary file that is given up can be removed. -/
theorem saves_atomically_iff (disk : Disk) (store : AppConfigStore) (a : DiskAnswers) :
    SavesAtomically disk store a ↔ (store.path ≠ "" → Creates disk a →
      (Replaces (bytes (config_text store.config)) a →
        sync_directory a = true ∨ disk.file = some (bytes (config_text store.config))) ∧
      (¬ Replaces (bytes (config_text store.config)) a → a.remove = true)) := by
  by_cases hpath : store.path = ""
  · refine iff_of_true ?_ fun h => absurd hpath h
    have hsave : disk.save store a = (disk,
        { store with last_error := "HOME is not set; cannot resolve config path" }, false) := by
      rw [Disk.save, if_pos hpath]
    exact ⟨by simp [hsave], by simp [hsave], by simp [hsave]⟩
  obtain ⟨store', hsave⟩ := @save_of_path disk store a hpath
  have hcases := write_atomic_cases disk (bytes (config_text store.config)) a
  cases hw : disk.write_atomic (bytes (config_text store.config)) a with
  | mk disk' message =>
    rw [hw] at hsave hcases
    cases hcases with
    | refused message hcreate =>
      refine iff_of_true ?_ fun _ h => absurd h hcreate
      exact ⟨by simp [hsave], by simp [hsave], by simp [hsave]⟩
    | abandoned message content hcreate hreplace =>
      constructor
      · intro h _ _
        refine ⟨fun hr => absurd hr hreplace, fun _ => ?_⟩
        have htidied := h.tidied
        rw [hsave, hcreate.unused] at htidied
        by_contra hremove
        simp [Disk.remove, hremove] at htidied
      · intro h
        have hremove := (h hpath hcreate).2 hreplace
        refine ⟨by simp [hsave], fun _ => ?_, ?_⟩
        · simp [hsave, Disk.remove, hremove]
        · simp [hsave, Disk.remove, hremove, hcreate.unused]
    | replaced hcreate hreplace =>
      cases hsync : sync_directory a with
      | true =>
        refine iff_of_true ⟨?_, ?_, ?_⟩ fun _ _ => ⟨fun _ => .inl rfl, fun hr => absurd hreplace hr⟩
        · simp [hsave]
        · simp [hsave, hsync]
        · simp [hsave, hcreate.unused]
      | false =>
        constructor
        · intro h _ _
          refine ⟨fun _ => .inr ?_, fun hr => absurd hreplace hr⟩
          have hkept := h.kept (by simp [hsave, hsync])
          rw [hsave] at hkept
          exact hkept.symm
        · intro h
          have hsame := ((h hpath hcreate).1 hreplace).resolve_left Bool.false_ne_true
          refine ⟨?_, fun _ => ?_, ?_⟩
          · simp [hsave, hsync]
          · rw [hsave, hsame]
          · simp [hsave, hcreate.unused]

/-- Everything succeeds but the last call. -/
theorem unsynced_directory_replaces :
    ¬ SavesAtomically ⟨none, none⟩ { path := "config.json" } { directory_sync := false } := by
  intro h
  have hfailed : ((⟨none, none⟩ : Disk).save { path := "config.json" }
      { directory_sync := false }).2.2 = false := by decide +kernel
  have hthere : ((⟨none, none⟩ : Disk).save { path := "config.json" }
      { directory_sync := false }).1.file.isSome = true := by decide +kernel
  rw [h.kept hfailed] at hthere
  cases hthere

/-! ## What the caller sees -/

/-- How far `write_atomic` gets. -/
def Disk.answer (disk : Disk) (text : List UInt8) (a : DiskAnswers) : WriteAnswer :=
  match a.create_directories with
  | some message => .directory_error message
  | none =>
    match a.permissions with
    | some message => .permissions_error message
    | none =>
      match disk.open_error a with
      | some message => .open_error message
      | none =>
        if (write_all a.writes text).2 = false then .write_error
        else if a.sync = false then .sync_error
        else
          match a.rename with
          | some message => .rename_error message
          | none => if sync_directory a then .written else .directory_sync_error

/-- The file of the world of `load` and `save` is the file on the disk. -/
def Shows (disk : Disk) (file : Option String) : Prop := disk.file = file.map bytes

theorem file_remove (disk : Disk) (a : DiskAnswers) : (disk.remove a).file = disk.file := by
  unfold Disk.remove
  split <;> rfl

theorem write_atomic_refines {file : Option String} (hshows : Shows disk file) (text : String) :
    (disk.write_atomic (bytes text) a).2 =
        (write_atomic file text (disk.answer (bytes text) a)).2 ∧
      Shows (disk.write_atomic (bytes text) a).1
        (write_atomic file text (disk.answer (bytes text) a)).1 := by
  unfold Disk.write_atomic Disk.answer
  cases a.create_directories with
  | some message => exact ⟨rfl, hshows⟩
  | none => ?_
  cases a.permissions with
  | some message => exact ⟨rfl, hshows⟩
  | none => ?_
  cases disk.open_error a with
  | some message => exact ⟨rfl, hshows⟩
  | none => ?_
  dsimp only
  cases hwritten : (write_all a.writes (bytes text)).2 with
  | false => exact ⟨rfl, (file_remove _ a).trans hshows⟩
  | true => ?_
  cases hsync : a.sync with
  | false => exact ⟨rfl, (file_remove _ a).trans hshows⟩
  | true => ?_
  cases a.rename with
  | some message => exact ⟨rfl, (file_remove _ a).trans hshows⟩
  | none => ?_
  rw [write_all_complete hwritten]
  cases sync_directory a <;> exact ⟨rfl, rfl⟩

/-- A save does what the caller is told in `Config.save`. -/
theorem save_refines {file : Option String} (hshows : Shows disk file) : ∃ write : WriteAnswer,
    (save ⟨store, file⟩ write).2 = (disk.save store a).2.2 ∧
      (save ⟨store, file⟩ write).1.store = (disk.save store a).2.1 ∧
      Shows (disk.save store a).1 (save ⟨store, file⟩ write).1.file := by
  refine ⟨disk.answer (bytes (config_text store.config)) a, ?_⟩
  unfold save Disk.save
  by_cases hpath : store.path = ""
  · rw [if_pos hpath, if_pos hpath]
    exact ⟨rfl, rfl, hshows⟩
  rw [if_neg hpath, if_neg hpath]
  obtain ⟨hmessage, hfile⟩ := @write_atomic_refines disk a file hshows (config_text store.config)
  cases hfine : disk.write_atomic (bytes (config_text store.config)) a with
  | mk disk' message =>
    cases hcoarse : write_atomic file (config_text store.config)
        (disk.answer (bytes (config_text store.config)) a) with
    | mk file' message' =>
      rw [hfine, hcoarse] at hmessage hfile
      obtain rfl : message = message' := hmessage
      cases message <;> exact ⟨rfl, rfl, hfile⟩

end FactoryTest.Config
