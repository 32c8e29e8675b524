import FactoryTest.Session.Manager
import Mathlib.Data.String.Basic
import Mathlib.Data.List.Infix

/-!
# The files of a session

The session file and the result file have names of their own kind: what ends in `.session.json`
does not end in `.result.json` (`result_path_ne`), so writing a result never touches a session.
-/

namespace FactoryTest.Session

/-! ## Names -/

theorem has_suffix_iff {value suffix : String} :
    has_suffix value suffix = true ↔ suffix.toList <:+ value.toList := List.isSuffixOf_iff_suffix

theorem has_suffix_append (value suffix : String) : has_suffix (value ++ suffix) suffix = true := by
  rw [has_suffix_iff, String.toList_append]
  exact List.suffix_append _ _

theorem path_join_eq_append (directory filename : String) :
    ∃ parent, path_join directory filename = parent ++ filename := by
  unfold path_join
  split_ifs
  · exact ⟨directory, rfl⟩
  · exact ⟨directory ++ "/", rfl⟩

theorem has_suffix_path_join (directory : String) {filename suffix : String}
    (h : has_suffix filename suffix = true) :
    has_suffix (path_join directory filename) suffix = true := by
  obtain ⟨parent, heq⟩ := path_join_eq_append directory filename
  rw [has_suffix_iff] at h ⊢
  rw [heq, String.toList_append]
  exact h.trans (List.suffix_append _ _)

theorem has_suffix_result_path (session_path : String) :
    has_suffix (result_path_for_session session_path) K_RESULT_SUFFIX = true :=
  has_suffix_path_join _ (has_suffix_append _ _)

/-- No name ends both as a session file and as a result file. -/
theorem not_session_of_result {path : String} (h : has_suffix path K_RESULT_SUFFIX = true) :
    has_suffix path K_SESSION_SUFFIX = false := by
  rw [Bool.eq_false_iff]
  intro hsession
  rw [has_suffix_iff] at h hsession
  have hlength : K_RESULT_SUFFIX.toList.length ≤ K_SESSION_SUFFIX.toList.length := by decide
  exact absurd (List.suffix_of_suffix_length_le h hsession hlength) (by decide)

/-- The result file of a session is another file than its session file. -/
theorem result_path_ne {session_path : String}
    (h : has_suffix session_path K_SESSION_SUFFIX = true) :
    result_path_for_session session_path ≠ session_path := by
  intro heq
  have hresult := not_session_of_result (has_suffix_result_path session_path)
  rw [heq, h] at hresult
  cases hresult

theorem result_path_ne_empty (session_path : String) :
    result_path_for_session session_path ≠ "" := by
  intro h
  have hsuffix := has_suffix_result_path session_path
  rw [h] at hsuffix
  exact absurd hsuffix (by decide)

/-! ## Names without NUL -/

theorem nulFree_append {s t : String} (hs : NulFree s) (ht : NulFree t) : NulFree (s ++ t) := by
  intro c hc
  rw [String.toList_append] at hc
  exact (List.mem_append.1 hc).elim (hs c) (ht c)

theorem nulFree_ofList {cs : List Char} (h : ∀ c ∈ cs, c ≠ '\x00') :
    NulFree (String.ofList cs) := by
  intro c hc
  rw [String.toList_ofList] at hc
  exact h c hc

theorem nulFree_path_join {directory filename : String} (hdirectory : NulFree directory)
    (hfilename : NulFree filename) : NulFree (path_join directory filename) := by
  unfold path_join
  split_ifs
  · exact nulFree_append hdirectory hfilename
  · exact nulFree_append (nulFree_append hdirectory (by decide)) hfilename

theorem nulFree_result_path {session_path : String} (h : NulFree session_path) :
    NulFree (result_path_for_session session_path) := by
  have hfilename : NulFree (path_filename session_path) := by
    refine nulFree_ofList fun c hc => h c ?_
    exact List.mem_reverse.1 ((List.takeWhile_sublist _).subset (List.mem_reverse.1 hc))
  have hparent : NulFree (parent_path session_path) := by
    unfold parent_path
    dsimp only
    split_ifs
    · decide
    · refine nulFree_ofList fun c hc => h c ?_
      exact List.mem_reverse.1 (((List.dropWhile_sublist _).trans
        (List.dropWhile_sublist _)).subset (List.mem_reverse.1 hc))
  unfold result_path_for_session
  refine nulFree_path_join hparent (nulFree_append ?_ (by decide))
  split_ifs
  · exact nulFree_ofList fun c hc => hfilename c ((List.take_sublist _ _).subset hc)
  · exact hfilename

theorem isDigit_of_mem_padded {width n : ℕ} : ∀ c ∈ padded width n, c.isDigit = true := by
  intro c hc
  rcases List.mem_append.1 hc with hc | hc
  · rw [List.eq_of_mem_replicate hc]
    decide
  · exact Nat.isDigit_of_mem_toDigits (by decide) (by decide) hc

/-- A session's timestamp is made of digits and hyphens. -/
theorem mem_session_timestamp {now : TimePoint} :
    ∀ c ∈ (session_timestamp now).toList, c.isDigit = true ∨ c = '-' := by
  intro c hc
  rw [session_timestamp, buffer_text, String.toList_ofList] at hc
  replace hc := (List.take_sublist _ _).subset hc
  simp only [List.mem_append, List.mem_cons] at hc
  rcases hc with (((((hc | hc) | hc) | rfl | hc) | hc) | hc) | rfl | hc
  all_goals first | exact .inr rfl | exact .inl (isDigit_of_mem_padded c hc)

theorem nulFree_session_timestamp (now : TimePoint) : NulFree (session_timestamp now) := by
  rintro c hc rfl
  exact absurd (mem_session_timestamp _ hc) (by decide)

/-! ## The parts of a path -/

theorem slashFree_of_all {s : String} (h : s.toList.all (· ≠ '/') = true) :
    ∀ c ∈ s.toList, c ≠ '/' := fun c hc => of_decide_eq_true (List.all_eq_true.1 h c hc)

/-- A name without separators is the last part of a path that ends with it. -/
theorem path_filename_path_join (directory : String) {filename : String}
    (hslash : ∀ c ∈ filename.toList, c ≠ '/') :
    path_filename (path_join directory filename) = filename := by
  obtain ⟨parent, hparent, hlast⟩ : ∃ parent : List Char,
      (path_join directory filename).toList = parent ++ filename.toList ∧
        parent.reverse.takeWhile (· ≠ '/') = [] := by
    unfold path_join
    split_ifs with hempty
    · refine ⟨directory.toList, String.toList_append .., ?_⟩
      rcases hempty with rfl | hlast
      · rfl
      · obtain ⟨rest, hrest⟩ := List.getLast?_eq_some_iff.1 hlast
        simp [hrest]
    · exact ⟨directory.toList ++ ['/'], by simp, by simp⟩
  rw [path_filename, hparent, List.reverse_append, List.takeWhile_append_of_pos, hlast,
    List.append_nil, List.reverse_reverse, String.ofList_toList]
  intro c hc
  exact decide_eq_true (hslash c (List.mem_reverse.1 hc))

/-- The result file is named as the session file, with another suffix. -/
theorem path_filename_result_path (directory : String) {name : String}
    (hslash : ∀ c ∈ name.toList, c ≠ '/') :
    path_filename (result_path_for_session (path_join directory (name ++ K_SESSION_SUFFIX))) =
      name ++ K_RESULT_SUFFIX := by
  have hsuffixed (suffix : String) (hsuffix : ∀ c ∈ suffix.toList, c ≠ '/') :
      ∀ c ∈ (name ++ suffix).toList, c ≠ '/' := by
    intro c hc
    rw [String.toList_append] at hc
    exact (List.mem_append.1 hc).elim (hslash c) (hsuffix c)
  have hfilename := path_filename_path_join directory
    (hsuffixed K_SESSION_SUFFIX (slashFree_of_all (by decide)))
  rw [result_path_for_session, hfilename, if_pos (has_suffix_append _ _)]
  have hname : String.ofList ((name ++ K_SESSION_SUFFIX).toList.take
      ((name ++ K_SESSION_SUFFIX).length - K_SESSION_SUFFIX.length)) = name := by
    rw [String.length_append, Nat.add_sub_cancel, String.toList_append, ← String.length_toList,
      List.take_left, String.ofList_toList]
  rw [hname]
  exact path_filename_path_join _ (hsuffixed K_RESULT_SUFFIX (slashFree_of_all (by decide)))

end FactoryTest.Session
