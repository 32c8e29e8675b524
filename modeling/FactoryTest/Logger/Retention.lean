import FactoryTest.Logger.Model

/-!
# Retention

`make_directory_room_locked` counts sizes as `std::uintmax_t`. Below 2^64 bytes in the directory
what it removes is the shortest beginning of the managed files, the oldest first, that makes the
rest small enough (`make_directory_room_locked_spec`).
-/

namespace FactoryTest.Logger

variable {w : World} {a : Answers}

/-! ## Sizes -/

/-- The directory of the logger. -/
def World.directory (w : World) : Directory Text UInt8 := w.files w.state.directory

/-- The size of all files. -/
def total (d : Directory Text UInt8) : ℕ := d.size fun _ => true

theorem directory_remove (w : World) (name : Text) :
    (w.remove w.state.directory name).directory = w.directory.remove name :=
  Function.update_self ..

/-! ## The order of removal -/

/-- The regular log files other than the current one are managed. -/
theorem mem_managed_files {s : LoggerState} {directory : Directory Text UInt8}
    {file : ManagedFile} :
    file ∈ managed_files s directory ↔ is_log_name file.name = true ∧
      some (s.directory, file.name) ≠ s.current_path ∧ ∃ content,
        directory.find? file.name = some (.file content file.write_time) ∧
          content.length = file.size := by
  unfold managed_files
  rw [List.mem_filterMap]
  constructor
  · rintro ⟨⟨name, node⟩, hentry, hfile⟩
    cases node with
    | other => cases hfile
    | file content time =>
      dsimp only at hfile
      split at hfile
      · cases hfile
      next hlog =>
        cases hfile
        rw [not_or] at hlog
        exact ⟨Bool.not_eq_false _ ▸ hlog.1, hlog.2, content, Directory.find?_eq_some.2 hentry, rfl⟩
  · rintro ⟨hlog, hpath, content, hfile, hsize⟩
    refine ⟨⟨file.name, .file content file.write_time⟩, Directory.find?_eq_some.1 hfile, ?_⟩
    dsimp only
    rw [if_neg, hsize]
    rintro (hnot | hcurrent)
    · exact absurd (hlog.symm.trans hnot) (by decide)
    · exact hpath hcurrent

theorem nodup_managed_files (s : LoggerState) (directory : Directory Text UInt8) :
    ((managed_files s directory).map ManagedFile.name).Nodup := by
  refine directory.nodup.sublist ?_
  unfold managed_files
  rw [List.map_filterMap]
  induction directory.entries with
  | nil => exact .slnil
  | cons e entries ih =>
    obtain ⟨name, node⟩ := e
    cases node with
    | other => exact ih.cons _
    | file content time =>
      rw [List.filterMap_cons]
      dsimp only
      split
      next hnone => exact ih.cons _
      next hsome =>
        split at hsome
        · cases hsome
        · cases hsome
          exact ih.cons_cons _

/-- The file was written earlier, or at the same time and its name is smaller. -/
def ManagedFile.Older (lhs rhs : ManagedFile) : Prop :=
  lhs.write_time < rhs.write_time ∨ lhs.write_time = rhs.write_time ∧ lhs.name < rhs.name

theorem ManagedFile.before_iff {lhs rhs : ManagedFile} : lhs.before rhs ↔ lhs.Older rhs := by
  unfold ManagedFile.before ManagedFile.Older
  split_ifs with htime
  · exact ⟨.inl, fun h => h.resolve_right fun h => htime h.1⟩
  · rw [not_not] at htime
    exact ⟨fun h => .inr ⟨htime, h⟩, fun h => (h.resolve_left htime.not_lt).2⟩

theorem ManagedFile.Older.trans {f g h : ManagedFile} (hfg : f.Older g) (hgh : g.Older h) :
    f.Older h := by
  rcases hfg with hfg | ⟨hfg, hname⟩
  · rcases hgh with hgh | ⟨hgh, -⟩
    · exact .inl (hfg.trans hgh)
    · exact .inl (hgh ▸ hfg)
  · rcases hgh with hgh | ⟨hgh, hname'⟩
    · exact .inl (hfg ▸ hgh)
    · exact .inr ⟨hfg.trans hgh, List.lt_trans hname hname'⟩

/-- Of two files with different names one is older. -/
theorem ManagedFile.older_or {f g : ManagedFile} (hname : f.name ≠ g.name) :
    f.Older g ∨ g.Older f := by
  rcases lt_trichotomy f.write_time g.write_time with htime | htime | htime
  · exact .inl (.inl htime)
  · by_cases hlt : f.name < g.name
    · exact .inl (.inr ⟨htime, hlt⟩)
    · by_cases hgt : g.name < f.name
      · exact .inr (.inr ⟨htime.symm, hgt⟩)
      · exact absurd (List.le_antisymm hgt hlt) hname
  · exact .inr (.inl htime)

/-- Files with different names are sorted, the oldest first. -/
theorem pairwise_older {files : List ManagedFile} (hnames : (files.map ManagedFile.name).Nodup) :
    (files.insertionSort ManagedFile.before).Pairwise ManagedFile.Older := by
  induction files with
  | nil => exact .nil
  | cons file files ih =>
    obtain ⟨hnot, hnames⟩ := List.nodup_cons.1 hnames
    have hsorted := ih hnames
    have hnew : ∀ g ∈ files.insertionSort ManagedFile.before, file.name ≠ g.name := by
      intro g hg heq
      exact hnot (heq ▸ List.mem_map_of_mem ((List.mem_insertionSort _).1 hg))
    rw [List.insertionSort_cons]
    generalize files.insertionSort ManagedFile.before = sorted at hsorted hnew
    induction sorted with
    | nil => exact List.pairwise_singleton _ _
    | cons g sorted ih' =>
      obtain ⟨hg, hsorted⟩ := List.pairwise_cons.1 hsorted
      obtain ⟨hfg, hnew⟩ := List.forall_mem_cons.1 hnew
      rw [List.orderedInsert_cons]
      split_ifs with hbefore
      · rw [ManagedFile.before_iff] at hbefore
        refine List.pairwise_cons.2 ⟨fun h hh => ?_, List.pairwise_cons.2 ⟨hg, hsorted⟩⟩
        rcases List.mem_cons.1 hh with rfl | hh
        · exact hbefore
        · exact hbefore.trans (hg h hh)
      · rw [ManagedFile.before_iff] at hbefore
        refine List.pairwise_cons.2 ⟨fun h hh => ?_, ih' hsorted hnew⟩
        rcases List.mem_cons.1 ((List.perm_orderedInsert _ _ _).mem_iff.1 hh) with rfl | hh
        · exact (ManagedFile.older_or hfg).resolve_left hbefore
        · exact hg h hh

/-! ## What is removed -/

/-- The files are removed one after the other. -/
def World.removeAll (w : World) (files : List ManagedFile) : World :=
  files.foldl (fun w file => w.remove w.state.directory file.name) w

theorem history_removeAll (w : World) (files : List ManagedFile) : (w.removeAll files).history =
    w.history ++ files.map fun file => .removed w.state.directory file.name := by
  induction files generalizing w with
  | nil => exact (List.append_nil _).symm
  | cons file files ih =>
    refine (ih _).trans ?_
    rw [List.map_cons, List.append_cons]
    rfl

theorem find?_removeAll (w : World) (files : List ManagedFile) (name : Text) :
    (w.removeAll files).directory.find? name =
      if name ∈ files.map ManagedFile.name then none else w.directory.find? name := by
  induction files generalizing w with
  | nil => rfl
  | cons file files ih =>
    refine (ih _).trans ?_
    rw [directory_remove, Directory.find?_remove, List.map_cons]
    by_cases hname : name = file.name <;> simp [hname]

/-- The loop removes the shortest beginning that makes the rest small enough, or everything. -/
theorem remove_files_oldest (hremoves : ∀ name, a.removes name = true) {target : ℕ}
    (hcounted : total w.directory < 2 ^ 64) {files : List ManagedFile}
    (hnames : (files.map ManagedFile.name).Nodup)
    (hfiles : ∀ file ∈ files, ∃ content,
      w.directory.find? file.name = some (.file content file.write_time) ∧
        content.length = file.size) :
    ∃ n ≤ files.length,
      remove_files_locked w a target files (total w.directory) =
        (w.removeAll (files.take n), some (total (w.removeAll (files.take n)).directory)) ∧
      (∀ m < n, target < total (w.removeAll (files.take m)).directory) ∧
      (n < files.length → total (w.removeAll (files.take n)).directory ≤ target) := by
  induction files generalizing w with
  | nil =>
    exact ⟨0, le_rfl, rfl, fun m hm => absurd hm (Nat.not_lt_zero _),
      fun h => absurd h (lt_irrefl _)⟩
  | cons file files ih =>
    by_cases hsmall : total w.directory ≤ target
    · refine ⟨0, Nat.zero_le _, ?_, fun m hm => absurd hm (Nat.not_lt_zero _), fun _ => hsmall⟩
      rw [remove_files_locked, if_pos hsmall]
      rfl
    obtain ⟨hnot, hnames⟩ := List.nodup_cons.1 hnames
    obtain ⟨⟨content, hfile, hsize⟩, hrest⟩ := List.forall_mem_cons.1 hfiles
    have hremove : total w.directory =
        total (w.remove w.state.directory file.name).directory + file.size := by
      have hremove := Directory.size_remove (p := fun _ => true) hfile
      rw [if_pos rfl, Node.size, hsize] at hremove
      rw [directory_remove]
      exact hremove
    -- The difference is that of natural numbers.
    have htotal : (total w.directory + 2 ^ 64 - file.size) % 2 ^ 64 =
        total (w.remove w.state.directory file.name).directory := by
      omega
    have hfiles' : ∀ f ∈ files, ∃ content,
        (w.remove w.state.directory file.name).directory.find? f.name =
          some (.file content f.write_time) ∧ content.length = f.size := by
      intro f hf
      have hother : f.name ≠ file.name := fun heq => hnot (heq ▸ List.mem_map_of_mem hf)
      rw [directory_remove, Directory.find?_remove, if_neg hother]
      exact hrest f hf
    obtain ⟨n, hn, hrest, hshort, henough⟩ := ih (by omega) hnames hfiles'
    refine ⟨n + 1, Nat.succ_le_succ hn, ?_, fun m hm => ?_, fun hlt => ?_⟩
    · rw [remove_files_locked, if_neg hsmall, hremoves, Bool.not_true, if_neg Bool.false_ne_true,
        htotal, hrest]
      rfl
    · cases m with
      | zero => exact not_le.1 hsmall
      | succ m => exact hshort m (Nat.lt_of_succ_lt_succ hm)
    · exact henough (Nat.lt_of_succ_lt_succ hlt)

/-- `order` has the managed files, the oldest first. The first `n` of them were removed, the
fewest that bring the rest and the reservation under the limit, or all; the answer is whether the
limit is kept. -/
structure Retained (w w' : World) (reserved : ℕ) (answer : Bool) (order : List ManagedFile)
    (n : ℕ) : Prop where
  managed : ∀ file, file ∈ order ↔ is_log_name file.name = true ∧
    some (w.state.directory, file.name) ≠ w.state.current_path ∧ ∃ content,
      w.directory.find? file.name = some (.file content file.write_time) ∧
        content.length = file.size
  oldest : order.Pairwise ManagedFile.Older
  world : w' = w.removeAll (order.take n)
  le : n ≤ order.length
  shortest : ∀ m < n,
    w.state.max_directory_size < total (w.removeAll (order.take m)).directory + reserved
  enough : n < order.length → total w'.directory + reserved ≤ w.state.max_directory_size
  answer : answer = true ↔ total w'.directory + reserved ≤ w.state.max_directory_size

/-- No name occurs twice in the order. -/
theorem Retained.nodup {w' : World} {reserved : ℕ} {answer : Bool} {order : List ManagedFile}
    {n : ℕ}
    (h : Retained w w' reserved answer order n) : (order.map ManagedFile.name).Nodup := by
  refine List.pairwise_map.2 (h.oldest.imp_of_mem fun {f g} hf hg holder hname => ?_)
  obtain ⟨-, -, content, hfile, -⟩ := (h.managed f).1 hf
  obtain ⟨-, -, content', hfile', -⟩ := (h.managed g).1 hg
  rw [hname, hfile'] at hfile
  rcases holder with htime | ⟨-, hlt⟩
  · exact htime.ne (Node.file.inj (Option.some.inj hfile)).2.symm
  · exact List.lt_irrefl _ (hname ▸ hlt)

/-- Retention as a law: what a call does. -/
def Retains (w : World) (a : Answers) (reserved : ℕ) : Prop :=
  ∃ order n, Retained w (make_directory_room_locked w a reserved).1 reserved
    (make_directory_room_locked w a reserved).2 order n

/-- Within the limit, and below 2^64 bytes, room is made as the law says. -/
theorem retains (hlists : a.lists = true) (hremoves : ∀ name, a.removes name = true)
    {reserved : ℕ} (hreserved : reserved ≤ w.state.max_directory_size)
    (hcounted : total w.directory < 2 ^ 64) : Retains w a reserved := by
  have hperm := List.perm_insertionSort ManagedFile.before (managed_files w.state w.directory)
  have hnodup := nodup_managed_files w.state w.directory
  obtain ⟨n, hn, hremove, hshort, henough⟩ := @remove_files_oldest w a hremoves
    (w.state.max_directory_size - reserved) hcounted _ ((hperm.map _).nodup_iff.2 hnodup)
    fun file hfile => (mem_managed_files.1 (hperm.mem_iff.1 hfile)).2.2
  generalize horder : (managed_files w.state w.directory).insertionSort ManagedFile.before =
    order at hperm hn hremove hshort henough
  have hroom : make_directory_room_locked w a reserved = (w.removeAll (order.take n),
      decide (total (w.removeAll (order.take n)).directory ≤
        w.state.max_directory_size - reserved)) := by
    rw [make_directory_room_locked, if_neg (not_lt.2 hreserved), hlists, Bool.not_true,
      if_neg Bool.false_ne_true]
    dsimp only
    rw [← World.directory, ← total, Nat.mod_eq_of_lt hcounted, horder, hremove]
  refine ⟨order, n, ?_⟩
  rw [hroom]
  exact {
    managed := fun file => hperm.mem_iff.trans mem_managed_files
    oldest := horder ▸ pairwise_older hnodup
    world := rfl
    le := hn
    shortest := fun m hm => by
      have hlarge := hshort m hm
      omega
    enough := fun hlt => by
      have hsmall := henough hlt
      dsimp only
      omega
    answer := by
      rw [decide_eq_true_iff]
      dsimp only
      omega }

/-- A reservation within the limit is made room for; for one over the limit nothing is removed. -/
theorem make_directory_room_locked_spec (w : World) (a : Answers) (reserved : ℕ)
    (hlists : a.lists = true) (hremoves : ∀ name, a.removes name = true) :
    (reserved ≤ w.state.max_directory_size → total w.directory < 2 ^ 64 → Retains w a reserved) ∧
      (w.state.max_directory_size < reserved →
        make_directory_room_locked w a reserved = (w, false)) := by
  constructor
  · exact retains hlists hremoves
  · intro hreserved
    rw [make_directory_room_locked, if_pos hreserved]

/-- Two log files of two bytes and a foreign one of three, in a directory for ten. -/
def three_files : World where
  state := { directory := ascii "d", max_directory_size := 10 }
  files := fun _ => ⟨[(ascii "factory-test-b.log", .file [1, 2] 5),
    (ascii "keep", .file [1, 2, 3] 0), (ascii "factory-test-a.log", .file [1, 2] 5),
    (ascii "factory-test-c.log", .other)], by decide⟩
  history := []

/-- For a reservation of four bytes one log file has to go. -/
theorem make_directory_room_locked_three : Retains three_files {} 4 ∧
    make_directory_room_locked three_files {} 11 = (three_files, false) :=
  ⟨(make_directory_room_locked_spec three_files {} 4 rfl fun _ => rfl).1 (by decide)
      (by decide +kernel),
    (make_directory_room_locked_spec three_files {} 11 rfl fun _ => rfl).2 (by decide)⟩

/-- A directory that is given no room at all. -/
def no_room : World := { three_files with state.max_directory_size := 0 }

/-- For a reservation over the limit nothing is removed, though there are files to remove. -/
theorem reservation_over_limit : ¬ ∀ (w : World) (a : Answers) (reserved : ℕ), a.lists = true →
    (∀ name, a.removes name = true) → Retains w a reserved := by
  intro hclaim
  obtain ⟨order, n, hretained⟩ := hclaim no_room {} 1 rfl fun _ => rfl
  have hkept : make_directory_room_locked no_room {} 1 = (no_room, false) := by
    rw [make_directory_room_locked, if_pos (by decide)]
  rw [hkept] at hretained
  have hmem : (⟨ascii "factory-test-a.log", 2, 5⟩ : ManagedFile) ∈ order :=
    (hretained.managed _).2 ⟨by decide, by decide, [1, 2], by decide, rfl⟩
  have hall : ¬ n < order.length := fun hlt =>
    absurd (hretained.enough hlt) (Nat.not_succ_le_zero _)
  have hhistory := congrArg World.history hretained.world
  rw [List.take_of_length_le (not_lt.1 hall), history_removeAll] at hhistory
  have hnone : order = [] := List.map_eq_nil_iff.1 hhistory.symm
  rw [hnone] at hmem
  exact absurd hmem List.not_mem_nil

/-- Three files with the same content. -/
def three_copies (content : Text) : World where
  state := { directory := ascii "d", max_directory_size := 2 ^ 64 - 1 }
  files := fun _ => ⟨[(ascii "a", .file content 0), (ascii "b", .file content 0),
    (ascii "c", .file content 0)], by simp [ascii]⟩
  history := []

/-- Three files as large as a file can be pass for less than 2^64 bytes. -/
theorem three_copies_pass {content : Text} (hlength : content.length = 2 ^ 63 - 1) :
    ¬ Retains (three_copies content) {} 0 := by
  rintro ⟨order, n, hretained⟩
  have hmax : (three_copies content).state.max_directory_size = 2 ^ 64 - 1 := rfl
  have htotal : total (three_copies content).directory = 3 * (2 ^ 63 - 1) := by
    simp only [total, Directory.size, World.directory, three_copies, List.filter_true,
      List.map_cons, List.map_nil, Node.size, hlength, List.sum_cons, List.sum_nil]
    omega
  have hnone :
      managed_files (three_copies content).state (three_copies content).directory = [] := by
    have hnames : is_log_name (ascii "a") = false ∧ is_log_name (ascii "b") = false ∧
        is_log_name (ascii "c") = false := by decide
    simp [managed_files, World.directory, three_copies, hnames]
  have hkept : make_directory_room_locked (three_copies content) {} 0 =
      (three_copies content, true) := by
    have hlists : ¬ (!({} : Answers).lists) = true := by decide
    rw [make_directory_room_locked, if_neg (Nat.not_lt_zero _), if_neg hlists]
    dsimp only
    rw [← World.directory, ← total, htotal, hnone, List.insertionSort_nil, remove_files_locked,
      hmax]
    dsimp only
    rw [decide_eq_true (by omega)]
  rw [hkept] at hretained
  have hfits := hretained.answer.1 rfl
  rw [htotal, hmax] at hfits
  omega

/-- The sizes are added up modulo 2^64, so a directory that is too large can pass. -/
theorem total_size_wraps : ¬ ∀ (w : World) (a : Answers) (reserved : ℕ), a.lists = true →
    (∀ name, a.removes name = true) → reserved ≤ w.state.max_directory_size →
    Retains w a reserved := fun hclaim =>
  three_copies_pass List.length_replicate
    (hclaim (three_copies (List.replicate (2 ^ 63 - 1) 0)) {} 0 rfl (fun _ => rfl) (Nat.zero_le _))

end FactoryTest.Logger
