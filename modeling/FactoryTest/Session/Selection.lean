import FactoryTest.Session.Files

/-!
# Which session is recovered

`load_latest_recoverable` looks for the session file that was written last, and among those
written at one time for the one with the greatest name.

**The property** (`Picks`). Of the readable session files of the directory the loop picks the
greatest, in whatever order they are listed.

**Where it fails.** An entry whose type cannot be read leaves `ec` set, and the loop then passes
over every entry that follows (`dangling_link_hides_session`).

**Where it holds** (`latest_session_iff`). Exactly if every session file listed after such an
entry is not later than one that is listed before the first of them.
-/

namespace FactoryTest.Session

/-! ## The property -/

/-- The file is not later than the one of this name and time. -/
def NotLater (filename : String) (write_time : ℤ) (file : String × ℤ) : Prop :=
  file.2 < write_time ∨ file.2 = write_time ∧ file.1 ≤ filename

/-- The name and the time of a regular file with the suffix of a session, if they can be read. -/
def DirectoryEntry.session_file (entry : DirectoryEntry) : Option (String × ℤ) :=
  if entry.is_regular_file = some true ∧ has_suffix entry.filename K_SESSION_SUFFIX = true then
    entry.last_write_time.map (entry.filename, ·)
  else none

/-- The session files of a directory that are to be considered. -/
def Listing.session_files (listing : Listing) : List (String × ℤ) :=
  if listing.is_directory then listing.entries.filterMap (·.session_file) else []

/-- The session file that `load_latest_recoverable` finds, with its time. -/
def Listing.found (listing : Listing) : Option (String × ℤ) :=
  if listing.is_directory then latest_loop listing.entries false none else none

theorem latest_session_found (listing : Listing) :
    latest_session listing = listing.found.map Prod.fst := by
  rw [latest_session, Listing.found]
  split <;> rfl

/-- The greatest of the files is picked, and none only if there are none. -/
def Picks (files : List (String × ℤ)) : Option (String × ℤ) → Prop
  | none => files = []
  | some file => file ∈ files ∧ ∀ other ∈ files, NotLater file.1 file.2 other

/-! ## The order of the files -/

theorem NotLater.refl (file : String × ℤ) : NotLater file.1 file.2 file := .inr ⟨rfl, le_rfl⟩

theorem NotLater.trans {first second third : String × ℤ} (h : NotLater first.1 first.2 second)
    (h' : NotLater second.1 second.2 third) : NotLater first.1 first.2 third := by
  obtain h | ⟨h, hname⟩ := h
  · obtain h' | ⟨h', -⟩ := h'
    · exact .inl (h'.trans h)
    · exact .inl (h' ▸ h)
  · obtain h' | ⟨h', hname'⟩ := h'
    · exact .inl (h ▸ h')
    · exact .inr ⟨h'.trans h, hname'.trans hname⟩

/-- The loop's comparison. -/
theorem notLater_iff (name latest_name : String) (time latest_time : ℤ) :
    NotLater latest_name latest_time (name, time) ↔
      ¬ (latest_time < time ∨ time = latest_time ∧ latest_name < name) := by
  simp only [NotLater, not_or, not_and, not_lt]
  constructor
  · rintro (h | ⟨h, hname⟩)
    · exact ⟨h.le, fun heq => absurd heq h.ne⟩
    · exact ⟨h.le, fun _ => hname⟩
  · rintro ⟨h, hname⟩
    obtain h | h := h.lt_or_eq
    · exact .inl h
    · exact .inr ⟨h, hname h⟩

theorem notLater_total {first second : String × ℤ} (h : ¬ NotLater first.1 first.2 second) :
    NotLater second.1 second.2 first := by
  rw [show second = (second.1, second.2) from rfl, notLater_iff, not_not] at h
  obtain h | ⟨h, hname⟩ := h
  · exact .inl h
  · exact .inr ⟨h.symm, hname.le⟩

/-- At most one file is the greatest. -/
theorem Picks.unique {files : List (String × ℤ)} {a b : Option (String × ℤ)} (ha : Picks files a)
    (hb : Picks files b) : a = b := by
  cases a with
  | none =>
    cases b with
    | none => rfl
    | some file => exact absurd hb.1 (by rw [show files = [] from ha]; simp)
  | some file =>
    cases b with
    | none => exact absurd ha.1 (by rw [show files = [] from hb]; simp)
    | some other =>
      obtain hab | ⟨htime, hname⟩ := ha.2 _ hb.1
      · obtain hba | ⟨htime, -⟩ := hb.2 _ ha.1
        · exact absurd hab hba.not_gt
        · exact absurd htime hab.ne'
      · obtain hba | ⟨-, hname'⟩ := hb.2 _ ha.1
        · exact absurd htime hba.ne'
        · exact congrArg some (Prod.ext (le_antisymm hname' hname) htime.symm)

/-! ## The loop -/

/-- The type of the entry can be read. -/
def DirectoryEntry.typed (entry : DirectoryEntry) : Bool := entry.is_regular_file.isSome

/-- With `ec` set, the loop passes over everything. -/
theorem latest_loop_error (entries : List DirectoryEntry) (latest : Option (String × ℤ)) :
    latest_loop entries true latest = latest := by
  induction entries with
  | nil => rfl
  | cons entry entries ih => rw [latest_loop, if_pos rfl, ih]

/-- The later one of a file and the latest one so far. -/
def later (latest : Option (String × ℤ)) (file : String × ℤ) : Option (String × ℤ) :=
  match latest with
  | none => some file
  | some old => if old.2 < file.2 ∨ file.2 = old.2 ∧ old.1 < file.1 then some file else latest

/-- An entry whose type can be read is compared if it is a session file, and passed over
otherwise. -/
theorem latest_loop_typed {entry : DirectoryEntry} (hentry : entry.typed = true)
    (entries : List DirectoryEntry) (latest : Option (String × ℤ)) :
    latest_loop (entry :: entries) false latest =
      latest_loop entries false (entry.session_file.elim latest (later latest)) := by
  obtain ⟨name, _ | regular, time⟩ := entry
  · exact absurd hentry (by simp [DirectoryEntry.typed])
  rw [latest_loop, if_neg Bool.false_ne_true]
  by_cases hfile : regular = true ∧ has_suffix name K_SESSION_SUFFIX = true
  · obtain ⟨rfl, hname⟩ := hfile
    cases time with
    | none => simp [hname, DirectoryEntry.session_file]
    | some time =>
      cases latest with
      | none => simp [hname, DirectoryEntry.session_file, later]
      | some old =>
        simp only [hname, DirectoryEntry.session_file, later, Bool.not_true, Bool.or_self,
          Bool.false_eq_true, if_false, and_self, if_true, Option.map_some, Option.elim_some]
        split <;> rfl
  · have hnone : DirectoryEntry.session_file ⟨name, some regular, time⟩ = none := by
      rw [DirectoryEntry.session_file, if_neg]
      rintro ⟨hregular, hname⟩
      exact hfile ⟨Option.some.inj hregular, hname⟩
    have hskip : (!regular || !has_suffix name K_SESSION_SUFFIX) = true := by
      cases regular <;> simp_all
    rw [hnone]
    simp only [hskip, if_true, Option.elim_none]

/-- An entry whose type cannot be read ends the search. -/
theorem latest_loop_untyped {entry : DirectoryEntry} (hentry : entry.typed = false)
    (entries : List DirectoryEntry) (latest : Option (String × ℤ)) :
    latest_loop (entry :: entries) false latest = latest := by
  obtain ⟨name, _ | regular, time⟩ := entry
  · rw [latest_loop, if_neg Bool.false_ne_true]
    exact latest_loop_error entries latest
  · exact absurd hentry (by simp [DirectoryEntry.typed])

/-- One more file is considered. -/
theorem Picks.later {files : List (String × ℤ)} {latest : Option (String × ℤ)}
    (h : Picks files latest) (file : String × ℤ) : Picks (files ++ [file]) (later latest file) := by
  cases latest with
  | none =>
    obtain rfl : files = [] := h
    simp [Session.later, Picks, NotLater.refl file]
  | some old =>
    obtain ⟨hmem, hgreatest⟩ := h
    have hcompare := notLater_iff file.1 old.1 file.2 old.2
    by_cases hnot : NotLater old.1 old.2 file
    · rw [Session.later, if_neg (hcompare.1 hnot)]
      refine ⟨List.mem_append_left _ hmem, fun other hother => ?_⟩
      rcases List.mem_append.1 hother with hother | hother
      · exact hgreatest other hother
      · exact List.mem_singleton.1 hother ▸ hnot
    · rw [Session.later, if_pos (not_not.1 fun hcond => hnot (hcompare.2 hcond))]
      refine ⟨List.mem_append_right _ (List.mem_singleton_self file), fun other hother => ?_⟩
      rcases List.mem_append.1 hother with hother | hother
      · exact (notLater_total hnot).trans (hgreatest other hother)
      · exact List.mem_singleton.1 hother ▸ NotLater.refl file

/-- The loop picks the greatest of the session files that are listed before an entry whose type
cannot be read. -/
theorem latest_loop_picks (entries : List DirectoryEntry) {files : List (String × ℤ)}
    {latest : Option (String × ℤ)} (h : Picks files latest) :
    Picks (files ++ (entries.takeWhile (·.typed)).filterMap (·.session_file))
      (latest_loop entries false latest) := by
  induction entries generalizing files latest with
  | nil => simpa [latest_loop] using h
  | cons entry entries ih =>
    by_cases hentry : entry.typed = true
    · rw [latest_loop_typed hentry, List.takeWhile_cons_of_pos hentry, List.filterMap_cons]
      cases hfile : entry.session_file with
      | none => exact ih h
      | some file =>
        have hnext := ih (h.later file)
        rwa [List.append_assoc] at hnext
    · rw [latest_loop_untyped (by simpa using hentry), List.takeWhile_cons_of_neg hentry]
      simpa using h

/-! ## Where it holds -/

/-- No session file listed after an entry whose type cannot be read is later than all those
listed before the first such entry. -/
def Listing.Unhidden (listing : Listing) : Prop :=
  listing.is_directory = true →
    ∀ file ∈ (listing.entries.dropWhile (·.typed)).filterMap (·.session_file),
      ∃ seen ∈ (listing.entries.takeWhile (·.typed)).filterMap (·.session_file),
        NotLater seen.1 seen.2 file

/-- The greatest file of the first part is that of all iff it is with each file of the second. -/
theorem picks_append_iff {seen hidden : List (String × ℤ)} {picked : Option (String × ℤ)}
    (h : Picks seen picked) :
    Picks (seen ++ hidden) picked ↔
      ∀ file ∈ hidden, ∃ old ∈ seen, NotLater old.1 old.2 file := by
  cases picked with
  | none =>
    obtain rfl : seen = [] := h
    constructor
    · intro hall file hfile
      obtain rfl : hidden = [] := hall
      cases hfile
    · intro hhidden
      refine List.eq_nil_iff_forall_not_mem.2 fun file hfile => ?_
      obtain ⟨old, hold, -⟩ := hhidden file hfile
      cases hold
  | some latest =>
    obtain ⟨hmem, hgreatest⟩ := h
    constructor
    · intro hall file hfile
      exact ⟨latest, hmem, hall.2 file (List.mem_append_right _ hfile)⟩
    · intro hhidden
      refine ⟨List.mem_append_left _ hmem, fun file hfile => ?_⟩
      rcases List.mem_append.1 hfile with hfile | hfile
      · exact hgreatest file hfile
      · obtain ⟨old, hold, hnot⟩ := hhidden file hfile
        exact (hgreatest old hold).trans hnot

/-- The files of a directory are those seen before an entry whose type cannot be read, and those
behind it. -/
theorem filterMap_session_file (entries : List DirectoryEntry) :
    entries.filterMap (·.session_file) =
      (entries.takeWhile (·.typed)).filterMap (·.session_file) ++
        (entries.dropWhile (·.typed)).filterMap (·.session_file) := by
  rw [← List.filterMap_append, List.takeWhile_append_dropWhile]

/-- **The latest session is recovered**, whatever the entries of the directory and their order,
exactly if none that is later is listed after an entry whose type cannot be read. -/
theorem latest_session_iff (listing : Listing) :
    Picks listing.session_files listing.found ↔ listing.Unhidden := by
  by_cases hdirectory : listing.is_directory = true
  · have hpicks := latest_loop_picks listing.entries (show Picks [] none from rfl)
    rw [Listing.session_files, Listing.found, if_pos hdirectory, if_pos hdirectory,
      filterMap_session_file]
    exact (picks_append_iff hpicks).trans ⟨fun h _ => h, fun h => h hdirectory⟩
  · simp [Listing.session_files, Listing.found, Listing.Unhidden, hdirectory, Picks]

/-! ## The session that was written last -/

/-- The listing shows the session file as the one that was written last, and hides no entry. -/
structure Listing.Latest (listing : Listing) (filename : String) (write_time : ℤ) : Prop where
  is_directory : listing.is_directory = true
  session : has_suffix filename K_SESSION_SUFFIX = true
  listed : ⟨filename, some true, some write_time⟩ ∈ listing.entries
  regular : ∀ entry ∈ listing.entries, entry.is_regular_file ≠ none
  newest : ∀ entry ∈ listing.entries, has_suffix entry.filename K_SESSION_SUFFIX = true →
    entry.is_regular_file = some true → ∀ time, entry.last_write_time = some time →
      time < write_time ∨ time = write_time ∧ entry.filename ≤ filename

/-- Only session files are recovered. -/
theorem latest_loop_session {entries : List DirectoryEntry} {ec : Bool}
    {latest : Option (String × ℤ)} {file : String × ℤ}
    (hlatest : ∀ file, latest = some file → has_suffix file.1 K_SESSION_SUFFIX = true)
    (h : latest_loop entries ec latest = some file) :
    has_suffix file.1 K_SESSION_SUFFIX = true := by
  have hnew {entry : DirectoryEntry} {regular : Bool} {write_time : ℤ}
      (hfile : ¬ (!regular || !has_suffix entry.filename K_SESSION_SUFFIX) = true) :
      ∀ file, some (entry.filename, write_time) = some file →
        has_suffix file.1 K_SESSION_SUFFIX = true := by
    rintro file heq
    cases heq
    simp only [Bool.or_eq_true, not_or, Bool.not_eq_true', Bool.not_eq_false] at hfile
    exact hfile.2
  fun_induction latest_loop entries ec latest with
  | case1 => exact hlatest file h
  | case2 _ _ _ ih | case3 _ _ _ _ _ _ ih | case4 _ _ _ _ _ _ _ _ ih
    | case5 _ _ _ _ _ _ _ _ _ ih | case8 _ _ _ _ _ _ _ _ _ _ _ _ ih => exact ih hlatest h
  | case6 _ _ _ _ _ _ hfile _ _ ih => exact ih (hnew hfile) h
  | case7 _ _ _ _ _ _ hfile _ _ _ _ _ ih => exact ih (hnew hfile) h

theorem latest_session_session {listing : Listing} {filename : String}
    (h : latest_session listing = some filename) :
    has_suffix filename K_SESSION_SUFFIX = true := by
  rw [latest_session_found] at h
  obtain ⟨file, hfound, rfl⟩ := Option.map_eq_some_iff.1 h
  obtain ⟨-, hfile⟩ := Option.ite_none_right_eq_some.1 hfound
  exact latest_loop_session (fun _ hnone => by cases hnone) hfile

/-- Of the session files in a directory the one that was written last is recovered. -/
theorem latest_session_eq {listing : Listing} {filename : String} {write_time : ℤ}
    (h : listing.Latest filename write_time) : latest_session listing = some filename := by
  have htyped : ∀ entry ∈ listing.entries, entry.typed = true := fun entry hentry =>
    Option.isSome_iff_ne_none.2 (h.regular entry hentry)
  have hpicks := latest_loop_picks listing.entries (show Picks [] none from rfl)
  rw [List.takeWhile_eq_self_iff.2 htyped, List.nil_append] at hpicks
  have hlatest : Picks (listing.entries.filterMap (·.session_file))
      (some (filename, write_time)) := by
    refine ⟨List.mem_filterMap.2 ⟨_, h.listed, ?_⟩, fun other hother => ?_⟩
    · simp [DirectoryEntry.session_file, h.session]
    · obtain ⟨entry, hentry, hother⟩ := List.mem_filterMap.1 hother
      rw [DirectoryEntry.session_file] at hother
      split at hother
      · rename_i hfile
        obtain ⟨time, htime, rfl⟩ := Option.map_eq_some_iff.1 hother
        exact h.newest entry hentry hfile.2 hfile.1 time htime
      · cases hother
  rw [latest_session_found, Listing.found, if_pos h.is_directory, hpicks.unique hlatest]
  rfl

/-! ## A dangling link -/

/-- A link whose target is gone is listed before the only session file, and hides it. -/
theorem dangling_link_hides_session :
    ¬ ∀ listing : Listing, Picks listing.session_files listing.found := by
  intro h
  let entries : List DirectoryEntry :=
    [⟨"latest", none, none⟩, ⟨"20260101.session.json", some true, some 0⟩]
  have hfound : (⟨true, entries⟩ : Listing).found = none := by decide +kernel
  have hfiles : (⟨true, entries⟩ : Listing).session_files = [("20260101.session.json", 0)] := by
    decide +kernel
  have hpicks := h ⟨true, entries⟩
  rw [hfound, hfiles] at hpicks
  cases hpicks

end FactoryTest.Session
