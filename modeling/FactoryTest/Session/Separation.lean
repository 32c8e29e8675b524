import FactoryTest.Session.Atomicity

/-!
# Sessions and their files

Each session that `start_new` creates has a session file and a result file, named after the
reading of the clock when it was created.

**The property** (`KeepsApart`). Along a run (`tracked`) no two sessions have a file in common,
and a step changes the files of a session only when it works on that session.

**Where it fails.** The name has a resolution of one millisecond, nothing looks whether the file
exists, and the file is replaced by a rename: two sessions created at one reading of the clock
have the same files, and the second replaces the record of the first
(`same_reading_shares_files`).

**Where it holds** (`kept_apart_iff`). Exactly if no session is created at a timestamp of an
earlier one. The proof carries the invariant `Inv`: the manager works on a created session, and
every session file belongs to one.
-/

namespace FactoryTest.Session

/-! ## The sessions of a run -/

/-- A session that `start_new` created: the timestamp in its name, and its files. -/
structure Created where
  stamp : String
  session_path : String
  result_path : String
  deriving DecidableEq

/-- The file is one of the session. -/
def Created.Has (f : Created) (path : String) : Prop :=
  path = f.session_path ∨ path = f.result_path

/-- The sessions have no file in common. -/
def Apart (f g : Created) : Prop := ∀ path, f.Has path → ¬ g.Has path

/-- A world, the sessions created so far, and which of them the manager works on. -/
structure Tracked where
  world : World := {}
  created : List Created := []
  current : Option ℕ := none

/-- The reading of the clock that names a new session: the second one, if a session has to be
abandoned first. -/
def reading (w : World) (a : Answers) : TimePoint :=
  if w.manager.state = .IN_PROGRESS then a.now_next else a.now

/-- The program, and whose session each step is about. -/
def tracked (cJSON : CJsonLibrary) (directory : String) : Machine Tracked ProgramStep Bool where
  step t e :=
    let r := (program cJSON directory).step t.world e
    let m := r.1.manager
    let t' : Tracked :=
      match e with
      | .operation _ => { t with world := r.1 }
      | .start_new _ _ a =>
        if r.2 = [true] then
          { world := r.1
            created := t.created ++
              [⟨session_timestamp (reading t.world a), m.session_path, m.result_path⟩]
            current := some t.created.length }
        else { t with world := r.1, current := if m.state = .NONE then none else t.current }
      | .load_latest_recoverable _ _ =>
        { t with
          world := r.1
          current := if r.2 = [true] then t.created.findIdx? (·.session_path = m.session_path)
            else none }
      | .relaunch => { t with world := r.1, current := none }
    (t', r.2)

variable {cJSON : CJsonLibrary} {directory : String}

/-! ## The property -/

/-- What a step must do. -/
structure KeepsApart (cJSON : CJsonLibrary) (directory : String) (c : Config Tracked Bool)
    (e : ProgramStep) : Prop where
  apart : ((tracked cJSON directory).next c e).state.created.Pairwise Apart
  /-- Only a session that the step works on has its files changed. -/
  own : ∀ i f path, ((tracked cJSON directory).next c e).state.created[i]? = some f → f.Has path →
    ((tracked cJSON directory).next c e).state.world.disk path ≠ c.state.world.disk path →
    c.state.current = some i ∨ ((tracked cJSON directory).next c e).state.current = some i

/-- A session can be created: the plan is valid, and the writes go through that abandon the
session in progress and that make the new one. -/
def Creates (cJSON : CJsonLibrary) (directory : String) (w : World) (tests : List TestDefinition)
    (metadata : SessionMetadata) (a : Answers) : Prop :=
  tests ≠ [] ∧ valid_plan tests [] = true ∧
    (w.manager.state = .IN_PROGRESS → Persists cJSON (w.manager.abandoned a.now) a.write) ∧
    Persists cJSON (new_session directory tests metadata (reading w a))
      (if w.manager.state = .IN_PROGRESS then a.write_next else a.write)

/-- A session is created with the timestamp of an earlier one. -/
def Collides (cJSON : CJsonLibrary) (directory : String) (c : Config Tracked Bool) :
    ProgramStep → Prop
  | .start_new tests metadata a =>
    Creates cJSON directory c.state.world tests metadata a ∧
      session_timestamp (reading c.state.world a) ∈ c.state.created.map (·.stamp)
  | _ => False

instance (c : Config Tracked Bool) (e : ProgramStep) :
    Decidable (Collides cJSON directory c e) := by
  cases e <;> unfold Collides <;> unfold Creates <;> infer_instance

/-! ## Names -/

/-- The session has the files that its timestamp names. -/
structure Created.Made (directory : String) (f : Created) : Prop where
  stamp : ∃ now, f.stamp = session_timestamp now
  session_path : f.session_path =
    path_join directory ("factorytest-" ++ f.stamp ++ K_SESSION_SUFFIX)
  result_path : f.result_path = result_path_for_session f.session_path

theorem slashFree_name {stamp : String} (h : ∃ now, stamp = session_timestamp now) :
    ∀ c ∈ ("factorytest-" ++ stamp).toList, c ≠ '/' := by
  obtain ⟨now, rfl⟩ := h
  rintro c hc rfl
  rw [String.toList_append] at hc
  rcases List.mem_append.1 hc with hc | hc
  · exact absurd hc (by decide)
  · exact absurd (mem_session_timestamp _ hc) (by decide)

/-- The names of a session tell its timestamp. -/
theorem append_stamp_inj {s t suffix : String}
    (h : "factorytest-" ++ s ++ suffix = "factorytest-" ++ t ++ suffix) : s = t := by
  have hlist := congrArg String.toList h
  simp only [String.toList_append, List.append_cancel_right_eq, List.append_cancel_left_eq] at hlist
  exact String.toList_inj.1 hlist

theorem path_join_inj {filename filename' : String}
    (h : path_join directory filename = path_join directory filename') : filename = filename' := by
  have hlist := congrArg String.toList h
  unfold path_join at hlist
  split_ifs at hlist
  all_goals
    simp only [String.toList_append, List.append_cancel_left_eq] at hlist
    exact String.toList_inj.1 hlist

namespace Created.Made

variable {f g : Created}

theorem session_path_inj (hf : f.Made directory) (hg : g.Made directory)
    (h : f.session_path = g.session_path) : f.stamp = g.stamp := by
  rw [hf.session_path, hg.session_path] at h
  exact append_stamp_inj (path_join_inj h)

theorem result_path_inj (hf : f.Made directory) (hg : g.Made directory)
    (h : f.result_path = g.result_path) : f.stamp = g.stamp := by
  rw [hf.result_path, hg.result_path, hf.session_path, hg.session_path] at h
  have hname := congrArg path_filename h
  rw [path_filename_result_path _ (slashFree_name hf.stamp),
    path_filename_result_path _ (slashFree_name hg.stamp)] at hname
  exact append_stamp_inj hname

theorem session_ne_result (hf : f.Made directory) (hg : g.Made directory) :
    f.session_path ≠ g.result_path := by
  intro h
  have hresult := not_session_of_result (has_suffix_result_path g.session_path)
  rw [← hg.result_path, ← h, hf.session_path,
    has_suffix_path_join _ (has_suffix_append _ _)] at hresult
  cases hresult

/-- A session file of the session is its session file. -/
theorem session_of_suffix (hf : f.Made directory) {path : String} (hhas : f.Has path)
    (hsuffix : has_suffix path K_SESSION_SUFFIX = true) : f.session_path = path := by
  rcases hhas with rfl | rfl
  · rfl
  · rw [hf.result_path, not_session_of_result (has_suffix_result_path _)] at hsuffix
    cases hsuffix

/-- Sessions with different timestamps have no file in common. -/
theorem apart (hf : f.Made directory) (hg : g.Made directory) (hne : f.stamp ≠ g.stamp) :
    Apart f g := by
  rintro path (rfl | rfl) (h | h)
  · exact hne (hf.session_path_inj hg h)
  · exact hf.session_ne_result hg h
  · exact hg.session_ne_result hf h.symm
  · exact hne (hf.result_path_inj hg h)

end Created.Made

/-! ## What a step does to the files -/

variable {w w' : World}

/-- The files of the manager's session. -/
def SessionManager.Has (m : SessionManager) (path : String) : Prop :=
  m.state ≠ .NONE ∧ (path = m.session_path ∨ path = m.result_path)

/-- An operation stays with its session, and changes only the session's files. -/
structure Stays (w w' : World) : Prop where
  session_path : w'.manager.session_path = w.manager.session_path
  result_path : w'.manager.result_path = w.manager.result_path
  none : w'.manager.state = .NONE ↔ w.manager.state = .NONE
  disk : ∀ path, w'.disk path ≠ w.disk path → w.manager.Has path

theorem Stays.refl (w : World) : Stays w w := ⟨rfl, rfl, Iff.rfl, fun _ h => absurd rfl h⟩

theorem Stays.has {path : String} (h : Stays w w') : w'.manager.Has path ↔ w.manager.Has path := by
  rw [SessionManager.Has, SessionManager.Has, h.session_path, h.result_path, ne_eq, ne_eq, h.none]

theorem Stays.trans {w'' : World} (h : Stays w w') (h' : Stays w' w'') : Stays w w'' where
  session_path := h'.session_path.trans h.session_path
  result_path := h'.result_path.trans h.result_path
  none := h'.none.trans h.none
  disk path hpath := by
    by_cases heq : w''.disk path = w'.disk path
    · exact h.disk path (heq ▸ hpath)
    · exact h.has.1 (h'.disk path heq)

theorem stays_stored {m : SessionManager} (hchange : Change w.manager m) :
    Stays w (stored cJSON w.disk m) := by
  obtain ⟨-, hsession, hresult⟩ := hchange.paths
  obtain ⟨hstate, hstate'⟩ := hchange.state_ne_none
  refine ⟨hsession, hresult, iff_of_false hstate' hstate, fun path hpath => ⟨hstate, .inl ?_⟩⟩
  by_contra hne
  exact hpath (stored_disk_of_ne cJSON (hsession ▸ hne) w.disk)

theorem Stays.of_move (h : Move cJSON w w') : Stays w w' := by
  cases h with
  | fail message => exact ⟨rfl, rfl, Iff.rfl, fun _ h => absurd rfl h⟩
  | store m hchange htext => exact stays_stored hchange
  | result now hfinished =>
    have hstate : w.manager.state ≠ .NONE := fun hnone => by
      simpa [SessionManager.active, hnone] using hfinished.1
    refine ⟨rfl, rfl, Iff.rfl, fun path hpath => ⟨hstate, .inr ?_⟩⟩
    by_contra hne
    exact hpath (with_result_disk_of_ne hne)

theorem Stays.of_moves (h : Moves cJSON w w') : Stays w w' :=
  h.preserves (I := fun w' => Stays w w') (fun _ _ h hmove => h.trans (.of_move hmove)) (.refl w)

/-- The new session is written, or the manager is left empty. -/
theorem write_new_iff {disk : Disk} {m : SessionManager} {now : TimePoint} {write : WriteAnswer}
    (hupdated : m.updated_at ≠ "") :
    let r : World × Bool :=
      match persist cJSON ⟨m, disk⟩ now write with
      | (w, true) => (w, true)
      | (w, false) => ({ w with manager := { last_error := w.manager.last_error } }, false)
    (r.2 = true ↔ Persists cJSON m write) ∧
      (r.2 = true → r.1.manager = { m with last_error := "" }) := by
  intro r
  by_cases h : Persists cJSON m write
  · have hr : r = (stored cJSON disk m, true) := by
      simp only [r, persist_true (w := ⟨m, disk⟩) hupdated h]
    rw [hr]
    exact ⟨iff_of_true rfl h, fun _ => rfl⟩
  · obtain ⟨message, hpersist⟩ := persist_false (w := ⟨m, disk⟩) now hupdated h
    have hr : r.2 = false := by simp only [r, hpersist]
    rw [hr]
    exact ⟨iff_of_false Bool.false_ne_true h, fun hok => absurd hok Bool.false_ne_true⟩

theorem abandon_progress {a : Answers} (hstate : w.manager.state = .IN_PROGRESS) :
    ¬ Persists cJSON (w.manager.abandoned a.now) a.write ∧ Unchanged w (abandon cJSON w a) ∨
      Stored cJSON w (w.manager.abandoned a.now) a.write (abandon cJSON w a) := by
  unfold abandon
  dsimp only
  rw [if_neg (not_not.2 hstate)]
  exact persist_or_restore_spec _ _ _ _ (iso_timestamp_ne_empty a.now) fun _ => rfl

/-- `start_new` creates a session iff one can be created, and names it after the reading. -/
theorem start_new_creates_iff {tests : List TestDefinition} {metadata : SessionMetadata}
    {a : Answers} :
    let r := start_new cJSON directory w tests metadata a
    (r.2 = true ↔ Creates cJSON directory w tests metadata a) ∧
      (r.2 = true → r.1.manager =
        { new_session directory tests metadata (reading w a) with last_error := "" }) := by
  unfold start_new Creates
  dsimp only
  by_cases hempty : tests = []
  · simp [hempty]
  by_cases hvalid : valid_plan tests [] = true
  swap
  · simp [hempty, hvalid]
  rw [if_neg (by simp [hempty]), if_neg (by simp [hvalid])]
  simp only [ne_eq, hempty, not_false_eq_true, hvalid, true_and, reading]
  by_cases hstate : w.manager.state = .IN_PROGRESS
  · simp only [if_pos hstate, imp_iff_right hstate]
    have habandon := @abandon_progress cJSON
      { w with manager := { w.manager with last_error := "" } } a hstate
    generalize abandon cJSON _ a = left at habandon ⊢
    obtain ⟨w', ok⟩ := left
    rcases habandon with ⟨hnot, rfl, -⟩ | ⟨hpersists, heq⟩
    · exact ⟨iff_of_false Bool.false_ne_true fun h => hnot h.1,
        fun hok => absurd hok Bool.false_ne_true⟩
    · obtain ⟨-, rfl⟩ := Prod.mk.inj heq
      obtain ⟨hiff, hmanager⟩ := @write_new_iff cJSON w'.disk
        (new_session directory tests metadata a.now_next) a.now_next a.write_next
        (iso_timestamp_ne_empty _)
      exact ⟨hiff.trans (and_iff_right hpersists).symm, hmanager⟩
  · simp only [if_neg hstate]
    rw [and_iff_right fun h => absurd h hstate]
    exact write_new_iff (iso_timestamp_ne_empty _)

/-- A session is created, and only its files and those of the session before are changed. -/
theorem start_new_creates {tests : List TestDefinition} {metadata : SessionMetadata} {a : Answers}
    (h : (start_new cJSON directory w tests metadata a).2 = true) {path : String}
    (hpath : (start_new cJSON directory w tests metadata a).1.disk path ≠ w.disk path) :
    (start_new cJSON directory w tests metadata a).1.manager.Has path ∨ w.manager.Has path := by
  rcases @start_new_spec cJSON w a directory tests metadata with
    hr | ⟨disk, now, write, hdisk, ⟨message, hr⟩ | ⟨-, -, -, hr⟩⟩
  · exact absurd (hr.1.symm.trans h) Bool.false_ne_true
  · rw [hr] at h
    cases h
  · rw [hr] at hpath ⊢
    by_cases heq : path = (new_session directory tests metadata now).session_path
    · exact .inl ⟨SessionState.noConfusion, .inl heq⟩
    · right
      rcases hdisk with rfl | ⟨hstate, -, rfl⟩
      · exact absurd (stored_disk_of_ne cJSON heq _) hpath
      · rw [stored_disk_of_ne cJSON heq] at hpath
        exact (stays_stored (.abandon a.now hstate)).disk path hpath

/-- Nothing is created, and at most the session in progress was abandoned. -/
theorem start_new_fails {tests : List TestDefinition} {metadata : SessionMetadata} {a : Answers}
    (h : (start_new cJSON directory w tests metadata a).2 = false) :
    Stays w (start_new cJSON directory w tests metadata a).1 ∨
      (start_new cJSON directory w tests metadata a).1.manager.state = .NONE ∧
        ∀ path, (start_new cJSON directory w tests metadata a).1.disk path ≠ w.disk path →
          w.manager.Has path := by
  rcases @start_new_spec cJSON w a directory tests metadata with
    hr | ⟨disk, now, write, hdisk, ⟨message, hr⟩ | ⟨-, -, -, hr⟩⟩
  · exact .inl (.of_moves (@Unchanged.moves cJSON _ _ hr))
  · rw [hr]
    refine .inr ⟨rfl, fun path hpath => ?_⟩
    rcases hdisk with rfl | ⟨hstate, -, rfl⟩
    · exact absurd rfl hpath
    · exact (stays_stored (.abandon a.now hstate)).disk path hpath
  · rw [hr] at h
    cases h

theorem load_text_eq_some {path text : String} {plan : List TestDefinition} {m : SessionManager}
    (h : load_text cJSON path text plan = some m) : text ≠ "" ∧ m.session_path = path := by
  unfold load_text at h
  by_cases htext : text = ""
  · rw [if_pos htext] at h
    cases h
  rw [if_neg htext] at h
  split at h
  · cases h
  split at h
  · cases h
  split at h
  · cases h
  · obtain rfl := Option.some.inj h
    exact ⟨htext, rfl⟩

/-- Recovering a session leaves the disk as it is, and finds the session in its file. -/
theorem load_latest_recoverable_cases {plan : List TestDefinition} {listing : Listing} :
    let r := load_latest_recoverable cJSON directory w plan listing
    r.1.disk = w.disk ∧ (r.2 = false ∧ r.1.manager.state = .NONE ∨
      r.2 = true ∧ ∃ text, w.disk r.1.manager.session_path = some text) := by
  intro r
  rcases @load_latest_recoverable_spec cJSON w directory plan listing with
    hr | ⟨filename, m, -, hload, hr⟩
  · exact ⟨congrArg (·.1.disk) hr, .inl ⟨congrArg Prod.snd hr, congrArg (·.1.manager.state) hr⟩⟩
  · obtain ⟨htext, hpath⟩ := load_text_eq_some hload
    refine ⟨congrArg (·.1.disk) hr, .inr ⟨congrArg Prod.snd hr, ?_⟩⟩
    rw [show r.1.manager = m from congrArg (·.1.manager) hr, hpath]
    refine Option.ne_none_iff_exists'.1 fun hnone => htext ?_
    rw [read_text_file, hnone]
    rfl

/-! ## The invariant -/

/-- The manager works on a created session, and every session file belongs to one. -/
structure Inv (cJSON : CJsonLibrary) (directory : String) (t : Tracked) : Prop where
  proper : Proper cJSON t.world
  made : ∀ f ∈ t.created, f.Made directory
  stamps : (t.created.map (·.stamp)).Nodup
  current : t.world.manager.state ≠ .NONE → ∃ i f, t.current = some i ∧ t.created[i]? = some f ∧
    f.session_path = t.world.manager.session_path ∧ f.result_path = t.world.manager.result_path
  written : ∀ path text, t.world.disk path = some text → has_suffix path K_SESSION_SUFFIX = true →
    ∃ f ∈ t.created, f.session_path = path

theorem Inv.init : Inv cJSON directory {} where
  proper := ⟨fun h => absurd rfl h, .inl rfl, fun _ _ h => by cases h⟩
  made _ h := by cases h
  stamps := List.nodup_nil
  current h := absurd rfl h
  written _ _ h := by cases h

section Invariant

variable {t : Tracked}

theorem Inv.apart (h : Inv cJSON directory t) : t.created.Pairwise Apart := by
  refine List.Pairwise.imp_of_mem ?_ (List.pairwise_map.1 h.stamps)
  exact fun hf hg hne => (h.made _ hf).apart (h.made _ hg) hne

/-- A file of the manager is one of the session that it works on. -/
theorem Inv.current_has (h : Inv cJSON directory t) {path : String}
    (hpath : t.world.manager.Has path) :
    ∃ i f, t.current = some i ∧ t.created[i]? = some f ∧ f.Has path := by
  obtain ⟨hstate, hhas⟩ := hpath
  obtain ⟨i, f, hcurrent, hf, hsession, hresult⟩ := h.current hstate
  exact ⟨i, f, hcurrent, hf, hhas.imp (hsession ▸ ·) (hresult ▸ ·)⟩

/-- A file belongs to one session only. -/
theorem owner_unique {created : List Created} (h : created.Pairwise Apart) {i j : ℕ}
    {f g : Created} (hf : created[i]? = some f) (hg : created[j]? = some g) {path : String}
    (hfp : f.Has path) (hgp : g.Has path) : i = j := by
  obtain ⟨hi, rfl⟩ := List.getElem?_eq_some_iff.1 hf
  obtain ⟨hj, rfl⟩ := List.getElem?_eq_some_iff.1 hg
  rw [List.pairwise_iff_getElem] at h
  rcases Nat.lt_trichotomy i j with hlt | heq | hlt
  · exact absurd hgp (h i j hi hj hlt path hfp)
  · exact heq
  · exact absurd hfp (h j i hj hi hlt path hgp)

/-- A step that creates no session keeps the invariant if it changes files of the manager's
session only. -/
theorem Inv.keep (h : Inv cJSON directory t) {w' : World} {current : Option ℕ}
    (hproper : Proper cJSON w')
    (hcurrent : w'.manager.state ≠ .NONE → ∃ i f, current = some i ∧ t.created[i]? = some f ∧
      f.session_path = w'.manager.session_path ∧ f.result_path = w'.manager.result_path)
    (hdisk : ∀ path, w'.disk path ≠ t.world.disk path → t.world.manager.Has path) :
    Inv cJSON directory { t with world := w', current := current } where
  proper := hproper
  made := h.made
  stamps := h.stamps
  current := hcurrent
  written path text hpath hsuffix := by
    by_cases heq : w'.disk path = t.world.disk path
    · exact h.written path text (heq ▸ hpath) hsuffix
    · obtain ⟨i, f, -, hf, hhas⟩ := h.current_has (hdisk path heq)
      have hmem := List.mem_of_getElem? hf
      exact ⟨f, hmem, (h.made f hmem).session_of_suffix hhas hsuffix⟩

/-- Staying with a session keeps the invariant. -/
theorem Inv.stays (h : Inv cJSON directory t) {w' : World} {current : Option ℕ}
    (hproper : Proper cJSON w') (hstays : Stays t.world w')
    (hcurrent : w'.manager.state ≠ .NONE → current = t.current) :
    Inv cJSON directory { t with world := w', current := current } := by
  refine h.keep hproper (fun hstate => ?_) hstays.disk
  rw [hstays.session_path, hstays.result_path, hcurrent hstate]
  exact h.current (mt hstays.none.2 hstate)

/-- A session that is recovered is one that was created. -/
theorem Inv.recovered (h : Inv cJSON directory t) {m : SessionManager} {text : String}
    (hdisk : t.world.disk m.session_path = some text) (hnamed : m.Named) :
    ∃ i f, t.created.findIdx? (·.session_path = m.session_path) = some i ∧
      t.created[i]? = some f ∧ f.session_path = m.session_path ∧ f.result_path = m.result_path := by
  obtain ⟨f, hf, hpath⟩ := h.written _ text hdisk hnamed.session
  cases hfind : t.created.findIdx? (·.session_path = m.session_path) with
  | none =>
    exact absurd (decide_eq_true hpath) (by simpa using List.findIdx?_eq_none_iff.1 hfind f hf)
  | some i =>
    obtain ⟨hi, hsession, -⟩ := List.findIdx?_eq_some_iff_getElem.1 hfind
    have hsession := of_decide_eq_true hsession
    refine ⟨i, t.created[i], rfl, List.getElem?_eq_getElem hi, hsession, ?_⟩
    rw [(h.made _ (List.getElem_mem hi)).result_path, hsession, hnamed.result]

/-- A new session with a timestamp of its own keeps the invariant. -/
theorem Inv.start (h : Inv cJSON directory t) (hdirectory : NulFree directory)
    {tests : List TestDefinition} {metadata : SessionMetadata} {a : Answers}
    (hok : (start_new cJSON directory t.world tests metadata a).2 = true)
    (hfresh : session_timestamp (reading t.world a) ∉ t.created.map (·.stamp)) :
    let w' := (start_new cJSON directory t.world tests metadata a).1
    Inv cJSON directory
      { world := w'
        created := t.created ++ [⟨session_timestamp (reading t.world a), w'.manager.session_path,
          w'.manager.result_path⟩]
        current := some t.created.length } := by
  intro w'
  have hmanager : w'.manager = { new_session directory tests metadata (reading t.world a) with
    last_error := "" } := start_new_creates_iff.2 hok
  have hmade : Created.Made directory ⟨session_timestamp (reading t.world a),
      w'.manager.session_path, w'.manager.result_path⟩ := by
    rw [hmanager]
    exact ⟨⟨_, rfl⟩, rfl, rfl⟩
  refine ⟨h.proper.start hdirectory tests metadata a, ?_, ?_, ?_, ?_⟩
  · intro f hf
    rcases List.mem_append.1 hf with hf | hf
    · exact h.made f hf
    · exact List.mem_singleton.1 hf ▸ hmade
  · rw [List.map_append, List.nodup_append]
    refine ⟨h.stamps, List.nodup_singleton _, ?_⟩
    rintro stamp hstamp new hnew rfl
    rw [List.mem_singleton.1 hnew] at hstamp
    exact hfresh hstamp
  · intro _
    exact ⟨_, _, rfl, List.getElem?_concat_length .., rfl, rfl⟩
  · intro path text hpath hsuffix
    by_cases heq : w'.disk path = t.world.disk path
    · obtain ⟨f, hf, hf'⟩ := h.written path text (heq ▸ hpath) hsuffix
      exact ⟨f, List.mem_append_left _ hf, hf'⟩
    rcases start_new_creates hok heq with ⟨-, hhas⟩ | hhas
    · exact ⟨_, List.mem_append_right _ (List.mem_singleton_self _),
        hmade.session_of_suffix hhas hsuffix⟩
    · obtain ⟨i, f, -, hf, hhas⟩ := h.current_has hhas
      have hmem := List.mem_of_getElem? hf
      exact ⟨f, List.mem_append_left _ hmem, (h.made f hmem).session_of_suffix hhas hsuffix⟩

end Invariant

/-! ## A step -/

section Step

variable {c : Config Tracked Bool} {e : ProgramStep}

/-- A step without a collision keeps the invariant. -/
theorem Inv.next (hcJSON : cJSON.Lossless) (hdirectory : NulFree directory)
    (h : Inv cJSON directory c.state) (hfree : ¬ Collides cJSON directory c e) :
    Inv cJSON directory ((tracked cJSON directory).next c e).state := by
  cases e with
  | operation op =>
    have hmoves := @moves_operate cJSON c.state.world op
    exact h.stays (hmoves.preserves (fun _ _ => Proper.move) h.proper)
      (.of_moves hmoves) fun _ => rfl
  | start_new tests metadata a =>
    simp only [Machine.next, tracked, program, List.cons.injEq, and_true]
    split
    case isTrue hok =>
      exact h.start hdirectory hok fun hstamp => hfree ⟨start_new_creates_iff.1.1 hok, hstamp⟩
    case isFalse hfails =>
      have hproper := h.proper.start hdirectory tests metadata a
      rcases start_new_fails (Bool.not_eq_true _ ▸ hfails) with hstays | ⟨hnone, hdisk⟩
      · exact h.stays hproper hstays fun hstate => if_neg hstate
      · exact h.keep hproper (fun hstate => absurd hnone hstate) hdisk
  | load_latest_recoverable tests listing =>
    obtain ⟨hdisk, hcases⟩ :=
      @load_latest_recoverable_cases cJSON directory c.state.world tests listing
    have hproper := @Proper.load cJSON directory _ hcJSON h.proper tests listing
    simp only [Machine.next, tracked, program, List.cons.injEq, and_true]
    refine h.keep hproper (fun hstate => ?_) fun path hpath => absurd (congrFun hdisk path) hpath
    rcases hcases with ⟨-, hnone⟩ | ⟨hok, text, htext⟩
    · exact absurd hnone hstate
    · rw [if_pos hok]
      exact h.recovered htext (hproper.named hstate)
  | relaunch =>
    exact h.keep h.proper.relaunch (fun hstate => absurd rfl hstate) fun _ hpath => absurd rfl hpath

/-- A step changes only files of the manager's session before or after it. -/
theorem has_of_changed {path : String}
    (hpath : ((tracked cJSON directory).next c e).state.world.disk path ≠ c.state.world.disk path) :
    c.state.world.manager.Has path ∨
      ((tracked cJSON directory).next c e).state.world.manager.Has path := by
  cases e with
  | operation op => exact .inl ((Stays.of_moves (@moves_operate cJSON _ op)).disk path hpath)
  | start_new tests metadata a =>
    simp only [Machine.next, tracked, program, List.cons.injEq, and_true] at hpath ⊢
    by_cases hok : (start_new cJSON directory c.state.world tests metadata a).2 = true
    · rw [if_pos hok] at hpath ⊢
      exact (start_new_creates hok hpath).symm
    · rw [if_neg hok] at hpath
      rcases start_new_fails (Bool.not_eq_true _ ▸ hok) with hstays | ⟨-, hdisk⟩
      · exact .inl (hstays.disk path hpath)
      · exact .inl (hdisk path hpath)
  | load_latest_recoverable tests listing =>
    have hdisk := (@load_latest_recoverable_cases cJSON directory c.state.world tests listing).1
    exact absurd (congrFun hdisk path) hpath
  | relaunch => exact absurd rfl hpath

/-- A session that was created stays in its place. -/
theorem created_next {i : ℕ} {f : Created} (h : c.state.created[i]? = some f) :
    ((tracked cJSON directory).next c e).state.created[i]? = some f := by
  cases e with
  | start_new tests metadata a =>
    simp only [Machine.next, tracked]
    split
    · obtain ⟨hi, -⟩ := List.getElem?_eq_some_iff.1 h
      rw [List.getElem?_append_left hi]
      exact h
    · exact h
  | operation | load_latest_recoverable | relaunch => exact h

/-- A step from and to the invariant keeps the sessions apart. -/
theorem keepsApart_of_inv (h : Inv cJSON directory c.state)
    (hnext : Inv cJSON directory ((tracked cJSON directory).next c e).state) :
    KeepsApart cJSON directory c e := by
  refine ⟨hnext.apart, fun i f path hf hhas hpath => ?_⟩
  rcases has_of_changed hpath with hold | hnew
  · left
    obtain ⟨j, g, hcurrent, hg, hhas'⟩ := h.current_has hold
    rw [hcurrent, owner_unique hnext.apart (created_next hg) hf hhas' hhas]
  · right
    obtain ⟨j, g, hcurrent, hg, hhas'⟩ := hnext.current_has hnew
    rw [hcurrent, owner_unique hnext.apart hg hf hhas' hhas]

/-- A collision gives two sessions the same files. -/
theorem not_keepsApart_of_collides (h : Inv cJSON directory c.state)
    (hcollides : Collides cJSON directory c e) : ¬ KeepsApart cJSON directory c e := by
  cases e with
  | start_new tests metadata a =>
    obtain ⟨hcreates, hstamp⟩ := hcollides
    have hok := (start_new_creates_iff.1).2 hcreates
    intro hkeeps
    have hpairwise := hkeeps.apart
    simp only [Machine.next, tracked, program, List.cons.injEq, and_true, if_pos hok] at hpairwise
    obtain ⟨f, hf, hstamp⟩ := List.mem_map.1 hstamp
    have hapart := (List.pairwise_append.1 hpairwise).2.2 f hf _ (List.mem_singleton_self _)
    have hmanager := start_new_creates_iff.2 hok
    refine hapart f.session_path (.inl rfl) (.inl ?_)
    rw [(h.made f hf).session_path, hstamp]
    dsimp only
    rw [hmanager]
    rfl
  | operation | load_latest_recoverable | relaunch => exact hcollides.elim

end Step

/-! ## Runs -/

/-- In every run the sessions keep their own files iff none is created at a timestamp of an
earlier one. -/
theorem kept_apart_iff (cJSON : CJsonLibrary) (hcJSON : cJSON.Lossless) (directory : String)
    (hdirectory : NulFree directory) (steps : List ProgramStep) :
    (tracked cJSON directory).Along (KeepsApart cJSON directory) ⟨{}, []⟩ steps ↔
      (tracked cJSON directory).Along (fun c e => ¬ Collides cJSON directory c e) ⟨{}, []⟩
        steps := by
  refine (Machine.along_iff (I := fun c => Inv cJSON directory c.state) ?_ ?_ Inv.init steps).symm
  · exact fun c e h hfree => h.next hcJSON hdirectory hfree
  · intro c e h
    constructor
    · exact fun hfree => keepsApart_of_inv h (h.next hcJSON hdirectory hfree)
    · exact fun hkeeps hcollides => not_keepsApart_of_collides h hcollides hkeeps

/-! ## Two sessions at one reading -/

/-- The session in progress is abandoned and a new one is made, both at one reading. -/
def sameReadingSteps : List ProgramStep :=
  [.start_new samplePlan {} { now := sampleNow },
    .start_new samplePlan {} { now := sampleNow, now_next := sampleNow }]

/-- What both sessions are called. -/
def sharedFiles : Created where
  stamp := "20261118-093000-000"
  session_path := "/sessions/factorytest-20261118-093000-000.session.json"
  result_path := "/sessions/factorytest-20261118-093000-000.result.json"

/-- A second later the sessions are apart. -/
theorem kept_apart_sample :
    (tracked JsonText.jsonText "/sessions").Along
      (KeepsApart JsonText.jsonText "/sessions") ⟨{}, []⟩
      [.start_new samplePlan {} { now := sampleNow },
        .start_new samplePlan {} { now := sampleLater, now_next := sampleLater }] :=
  (kept_apart_iff JsonText.jsonText JsonText.lossless_jsonText "/sessions" (by decide) _).2
    (by decide +kernel)

/-- The second session has the files of the first. -/
theorem same_reading_shares_files :
    ¬ ∀ (cJSON : CJsonLibrary) (directory : String) (steps : List ProgramStep),
      cJSON.Lossless → NulFree directory →
        (tracked cJSON directory).Along (KeepsApart cJSON directory) ⟨{}, []⟩ steps := by
  intro hclaim
  have hkeeps := hclaim JsonText.jsonText "/sessions" sameReadingSteps JsonText.lossless_jsonText
    (by decide)
  have hcreated : ((tracked JsonText.jsonText "/sessions").run ⟨{}, []⟩
      sameReadingSteps).state.created = [sharedFiles, sharedFiles] := by decide +kernel
  have hpairwise := hkeeps.2.1.apart
  rw [← Machine.run_nil (tracked _ _) (Machine.next _ _ _), ← Machine.run_cons,
    ← Machine.run_cons] at hpairwise
  have hapart := List.rel_of_pairwise_cons (hcreated ▸ hpairwise) (List.mem_singleton_self _)
  exact hapart sharedFiles.session_path (.inl rfl) (.inl rfl)

end FactoryTest.Session
