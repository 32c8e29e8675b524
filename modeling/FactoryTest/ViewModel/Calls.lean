import FactoryTest.Session.Verdicts
import FactoryTest.ViewModel.AppViewModel

/-!
# What a call does to the records and to the page

Of the record of the current test a call changes something or nothing, and of the others nothing
(`call_records`). While a test is current its page is the one that is shown (`Shown`), whatever is
stored or fails to be stored: that does not depend on the session.
-/

namespace FactoryTest.ViewModel

open Session

/-- The call records evidence. -/
def RecordsEvidence : Call → Prop
  | .record_current_test_evidence _ _ | .record_current_test_value _ _ _ => True
  | _ => False

/-- The call records evidence or a verdict. -/
def Records : Call → Prop
  | .complete_current_test _ _ _ => True
  | c => RecordsEvidence c

instance (c : Call) : Decidable (RecordsEvidence c) := by
  induction c using Call.casesOn with
  | record_current_test_evidence | record_current_test_value => exact instDecidableTrue
  | _ => exact instDecidableFalse

instance (c : Call) : Decidable (Records c) := by
  induction c using Call.casesOn with
  | record_current_test_evidence | record_current_test_value | complete_current_test =>
    exact instDecidableTrue
  | _ => exact instDecidableFalse

theorem RecordsEvidence.records {c : Call} (h : RecordsEvidence c) : Records c := by
  cases c with
  | complete_current_test result a b => trivial
  | _ => exact h

section

variable {tests : List TestRecord} {test_id : String} {f : TestRecord → TestRecord}

/-- Only a record with the id is changed. -/
theorem id_of_modify_test_ne {i : ℕ} {t : TestRecord} (ht : tests[i]? = some t)
    (hne : (modify_test test_id f tests)[i]? ≠ some t) : t.id = test_id := by
  induction tests generalizing i with
  | nil => cases ht
  | cons d tests ih =>
    rw [modify_test_cons] at hne
    split_ifs at hne with hd
    · cases i with
      | zero =>
        rw [List.getElem?_cons_zero, Option.some.injEq] at ht
        exact ht ▸ hd
      | succ i => exact absurd ht hne
    · cases i with
      | zero => exact absurd ht hne
      | succ i => exact ih ht hne

/-- Lists of records of one length that are not equal differ in a record. -/
theorem exists_changed (h : modify_test test_id f tests ≠ tests) :
    ∃ (i : ℕ) (t : TestRecord), tests[i]? = some t ∧
      (modify_test test_id f tests)[i]? ≠ some t := by
  have hlength : (modify_test test_id f tests).length = tests.length := by
    have hmap := congrArg List.length (@map_modify_test tests test_id f Unit (fun _ => ())
      fun _ => rfl)
    simpa only [List.length_map] using hmap
  by_contra hnone
  refine h (List.ext_getElem? fun i => ?_)
  by_cases hi : i < tests.length
  · have ht := List.getElem?_eq_getElem hi
    by_contra hne
    exact hnone ⟨i, _, ht, fun heq => hne (heq.trans ht.symm)⟩
  · rw [List.getElem?_eq_none (not_lt.1 hi), List.getElem?_eq_none (hlength ▸ not_lt.1 hi)]

end

/-! ## What the calls do -/

section

variable {cJSON : CJsonLibrary} {directory : String} {product_model : ProductModel}
  {s : AppViewModel} {a b : Answers}

/-- The page of the current test is shown. -/
def Shown (product_model : ProductModel) (s : AppViewModel) : Prop :=
  ∀ item, s.current_item product_model = some item → s.current_page = item.page

theorem current_item_of_inactive (h : s.test_sequence_active = false) :
    s.current_item product_model = none := by
  rw [AppViewModel.current_item, h]
  rfl

theorem shown_of_inactive (h : s.test_sequence_active = false) : Shown product_model s := by
  intro item hitem
  rw [current_item_of_inactive h] at hitem
  cases hitem

theorem shown_show_page {session : World} {index : ℕ} {item : TestSequenceItem} {active : Bool}
    (h : sequence_item product_model index = some item) :
    Shown product_model ⟨active, item.page, session, index⟩ := by
  intro item' hitem'
  obtain ⟨-, hindex⟩ := current_item_eq_some hitem'
  have hsame := h.symm.trans hindex
  rw [Option.some.injEq] at hsame
  exact congrArg TestSequenceItem.page hsame

theorem shown_open_test_sequence_item {index : ℕ} (hindex : s.test_sequence_index = index) :
    Shown product_model (s.open_test_sequence_item cJSON product_model index a).1 := by
  unfold AppViewModel.open_test_sequence_item
  cases hitem : sequence_item product_model index with
  | none => exact shown_of_inactive rfl
  | some item =>
    dsimp only
    cases set_current_test cJSON s.session item.id a with
    | mk session ok =>
      cases ok with
      | false => exact shown_of_inactive rfl
      | true => exact shown_show_page (hindex ▸ hitem)

/-- If a test could not be opened, the sequence ends. -/
theorem shown_opened {index : ℕ} (hindex : s.test_sequence_index = index) :
    Shown product_model (match s.open_test_sequence_item cJSON product_model index a with
      | (s, false) => ({ s with test_sequence_active := false }, false)
      | (s, true) => (s, true)).1 := by
  have hshown := @shown_open_test_sequence_item cJSON product_model s a index hindex
  cases hopen : s.open_test_sequence_item cJSON product_model index a with
  | mk s' ok =>
    rw [hopen] at hshown
    cases ok with
    | false => exact shown_of_inactive rfl
    | true => exact hshown

theorem shown_advance_test_sequence :
    Shown product_model (s.advance_test_sequence cJSON product_model a) := by
  unfold AppViewModel.advance_test_sequence
  split_ifs
  · exact shown_of_inactive rfl
  · dsimp only
    cases hitem : sequence_item product_model (s.test_sequence_index + 1) with
    | none => exact shown_of_inactive rfl
    | some item =>
      dsimp only
      cases set_current_test cJSON s.session item.id a with
      | mk session ok =>
        cases ok with
        | false => exact shown_of_inactive rfl
        | true => exact shown_show_page hitem

theorem records_advance_test_sequence :
    (s.advance_test_sequence cJSON product_model a).records = s.records := by
  unfold AppViewModel.advance_test_sequence
  split_ifs
  · rfl
  · dsimp only
    cases sequence_item product_model (s.test_sequence_index + 1) with
    | none => rfl
    | some item =>
      have htests : (set_current_test cJSON s.session item.id a).1.manager.tests = s.records := by
        rcases @set_current_test_spec cJSON s.session item.id a with hr | hr | ⟨-, -, hr⟩
        · rw [hr]
        · exact hr.2.1.tests
        · rw [hr.2]
          rfl
      dsimp only
      cases hset : set_current_test cJSON s.session item.id a with
      | mk session ok =>
        rw [hset] at htests
        cases ok <;> exact htests

/-- What is stored with a verdict changes the record of the current test, or none. -/
theorem complete_current_test_records (result : TestResult) :
    (s.complete_current_test cJSON product_model result a b).records = s.records ∨
      ∃ item f, s.current_item product_model = some item ∧
        (s.complete_current_test cJSON product_model result a b).records =
          modify_test item.id f s.records := by
  unfold AppViewModel.complete_current_test
  by_cases hactive : s.test_sequence_active = true
  swap
  · rw [if_neg hactive]
    exact .inl records_advance_test_sequence
  rw [if_pos hactive]
  cases hitem : sequence_item product_model s.test_sequence_index with
  | none => exact .inl rfl
  | some item =>
    have hcurrent := current_item_of_active hactive hitem
    have htests : (complete_test cJSON s.session item.id result [] a).1.manager.tests = s.records ∨
        (complete_test cJSON s.session item.id result [] a).1.manager.tests =
          modify_test item.id (mark_completed result [] (iso_timestamp a.now)) s.records := by
      rcases @complete_test_spec cJSON s.session item.id a result [] with
        ⟨hr, -⟩ | ⟨test, m, htest, rfl, hpersists, -⟩
      · exact .inl hr.2.1.tests
      · exact .inr (tests_complete_test htest hpersists)
    have hrecords : ∀ s' : AppViewModel,
        s'.records = (complete_test cJSON s.session item.id result [] a).1.manager.tests →
        s'.records = s.records ∨ ∃ item f, s.current_item product_model = some item ∧
          s'.records = modify_test item.id f s.records := by
      intro s' hs'
      rw [hs']
      exact htests.imp_right fun hmodify => ⟨item, _, hcurrent, hmodify⟩
    refine hrecords _ ?_
    dsimp only
    cases complete_test cJSON s.session item.id result [] a with
    | mk session ok =>
      cases ok with
      | false => rfl
      | true => exact records_advance_test_sequence

/-- Evidence changes the session at most, and in it the record of the current test. -/
theorem record_evidence_records {test_id : String} {evidence : TestEvidence} {w : World} :
    (record_evidence cJSON w test_id evidence a).1.manager.tests = w.manager.tests ∨
      ∃ f, (record_evidence cJSON w test_id evidence a).1.manager.tests =
        modify_test test_id f w.manager.tests := by
  rcases @record_evidence_spec cJSON w test_id a evidence with hr | ⟨test, -, -, -, -, hr⟩
  · exact .inl hr.2.1.tests
  · rw [hr.2]
    exact .inr ⟨_, rfl⟩

/-- What a call records is stored for the current test. -/
theorem call_records {c : Call} (h : Records c) :
    (call cJSON directory product_model s c).1.records = s.records ∨
      ∃ item f, s.current_item product_model = some item ∧
        (call cJSON directory product_model s c).1.records =
          modify_test item.id f s.records := by
  cases c with
  | record_current_test_evidence evidence a =>
    dsimp only [call, AppViewModel.record_current_test_evidence]
    cases s.current_item product_model with
    | none => exact .inl rfl
    | some item =>
      exact record_evidence_records.imp_right fun ⟨f, hf⟩ => ⟨item, f, rfl, hf⟩
  | record_current_test_value key value a =>
    dsimp only [call, AppViewModel.record_current_test_value]
    cases s.current_item product_model with
    | none => exact .inl rfl
    | some item =>
      exact record_evidence_records.imp_right fun ⟨f, hf⟩ => ⟨item, f, rfl, hf⟩
  | complete_current_test result a b => exact complete_current_test_records result
  | _ => exact h.elim

theorem shown_resume_loaded :
    Shown product_model (s.resume_loaded cJSON product_model a).1 := by
  unfold AppViewModel.resume_loaded
  dsimp only
  split_ifs with hend
  · cases finalize cJSON s.session a.now a.write_result a.write with
    | mk session ok =>
      cases ok with
      | false =>
        -- no test is current any more
        intro item hitem
        have hlt := lt_test_sequence_size (current_item_eq_some hitem).2
        exact absurd hlt (Nat.not_lt.2 hend)
      | true => exact shown_of_inactive rfl
  · exact shown_opened rfl

theorem shown_complete_current_test (h : Shown product_model s) (result : TestResult) :
    Shown product_model (s.complete_current_test cJSON product_model result a b) := by
  unfold AppViewModel.complete_current_test
  split_ifs
  · cases sequence_item product_model s.test_sequence_index with
    | none => exact h
    | some item =>
      dsimp only
      cases complete_test cJSON s.session item.id result [] a with
      | mk session ok =>
        cases ok with
        | false => exact h
        | true => exact shown_advance_test_sequence
  · exact shown_advance_test_sequence

theorem shown_complete_current_test_with_details (h : Shown product_model s) (result : TestResult)
    (detail_results : List NamedTestResult) {e : Answers} :
    Shown product_model
      (s.complete_current_test_with_details cJSON product_model result detail_results e a b) := by
  unfold AppViewModel.complete_current_test_with_details
  by_cases hactive : s.test_sequence_active = true
  · rw [if_pos hactive]
    cases sequence_item product_model s.test_sequence_index with
    | none => exact h
    | some item =>
      dsimp only
      generalize complete_test cJSON _ item.id result detail_results a = r
      obtain ⟨session, ok⟩ := r
      cases ok with
      | false => exact h
      | true => exact shown_advance_test_sequence
  · rw [if_neg hactive]
    exact shown_advance_test_sequence

/-- The page of the current test stays shown, whatever is called. -/
theorem shown_call (h : Shown product_model s) (c : Call) :
    Shown product_model (call cJSON directory product_model s c).1 := by
  cases c with
  | start_full_test_sequence metadata a b =>
    dsimp only [call, AppViewModel.start_full_test_sequence]
    cases start_new cJSON directory s.session (test_sequence_plan product_model) metadata a with
    | mk session ok =>
      cases ok with
      | false => exact h
      | true =>
        exact shown_opened rfl
  | resume_full_test_sequence listing a =>
    dsimp only [call, AppViewModel.resume_full_test_sequence]
    split_ifs
    · exact shown_resume_loaded
    · cases hload : s.load_recoverable_test_session cJSON directory product_model listing with
      | mk s' ok =>
        cases ok with
        | false =>
          obtain rfl : _ = s' := congrArg Prod.fst hload
          exact h
        | true => exact shown_resume_loaded
  | begin_current_test_attempt a =>
    dsimp only [call, AppViewModel.begin_current_test_attempt]
    cases s.current_item product_model with
    | none => exact h
    | some item => exact h
  | record_current_test_evidence evidence a =>
    dsimp only [call, AppViewModel.record_current_test_evidence]
    cases s.current_item product_model with
    | none => exact h
    | some item => exact h
  | record_current_test_value key value a =>
    dsimp only [call, AppViewModel.record_current_test_value]
    cases s.current_item product_model with
    | none => exact h
    | some item => exact h
  | complete_current_test result a b => exact shown_complete_current_test h result
  | complete_current_test_with_details result detail_results e a b =>
    exact shown_complete_current_test_with_details h result detail_results
  | show_single_test_page page => exact shown_of_inactive rfl
  | show_start_page => exact shown_of_inactive rfl
  | load_recoverable_test_session listing => exact h
  | relaunch => exact shown_of_inactive rfl

end

end FactoryTest.ViewModel
