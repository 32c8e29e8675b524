import FactoryTest.Session.Progress
import FactoryTest.ViewModel.Calls

/-!
# The sequence of tests

A sequence takes the operator through the tests of the plan, or through those that are left of a
session that is resumed.

**The property** (`Progress`). While a sequence is active and its session in progress, the index
is that of the first test without a verdict, or of the last test if all have one and only
completing the session failed; the page of that test is shown; and the tests with a verdict are
the first ones of the session, and of every session file.

**Theorem (`sequence_in_order`).** The property holds after every sequence of calls, whatever
fails on the way, and every call records for the test whose page is shown, and does so unless a
file cannot be replaced (`Recorded`).
-/

namespace FactoryTest.ViewModel

open Session

/-- The record at the place of an item is the one with its id. -/
theorem exists_record {product_model : ProductModel} {index : ℕ}
    {item : TestSequenceItem} {tests : List TestRecord}
    (hplan : tests.map TestRecord.definition = test_sequence_plan product_model)
    (h : sequence_item product_model index = some item) :
    ∃ t, tests[index]? = some t ∧ t.id = item.id := by
  have hdefinition : (tests.map TestRecord.definition)[index]? = some ⟨item.id, item.name⟩ := by
    rw [hplan, test_sequence_plan, List.getElem?_map, ← sequence_item_eq, h]
    rfl
  rw [List.getElem?_map] at hdefinition
  obtain ⟨t, ht, heq⟩ := Option.map_eq_some_iff.1 hdefinition
  exact ⟨t, ht, congrArg TestDefinition.id heq⟩

/-! ## The property -/

/-- The record of the test whose page is shown is changed by `f`. -/
def ChangesShown (product_model : ProductModel) (s : AppViewModel)
    (f : TestRecord → TestRecord) (tests tests' : List TestRecord) : Prop :=
  ∃ item, item_of_page product_model s.current_page = some item ∧
    tests' = modify_test item.id f tests

/-- The record of the current test, while a sequence is active and its session in progress. -/
def Current (s : AppViewModel) (t : TestRecord) : Prop :=
  s.test_sequence_active = true ∧ s.session.manager.state = .IN_PROGRESS ∧
    s.records[s.test_sequence_index]? = some t

/-- If the current record allows it, `f` is recorded for the test whose page is shown, and
otherwise nothing is recorded. -/
def RecordsIf (product_model : ProductModel) (s : AppViewModel) (can : TestRecord → Prop)
    (f : TestRecord → TestRecord) (tests tests' : List TestRecord) : Prop :=
  (∀ t, Current s t → can t → ChangesShown product_model s f tests tests') ∧
    ((∀ t, Current s t → ¬ can t) → tests' = tests)

/-- Where the session is. -/
structure Progress (cJSON : CJsonLibrary) (product_model : ProductModel) (s : AppViewModel) :
    Prop where
  in_order : s.session.manager.state = .IN_PROGRESS → Session.InOrder s.records
  /-- So it is with every session that can be recovered from its file. -/
  recoverable : ∀ path text plan m, s.session.disk path = some text →
    has_suffix path K_SESSION_SUFFIX = true → load_text cJSON path text plan = some m →
    Session.InOrder m.tests
  index : s.test_sequence_active = true → s.session.manager.state = .IN_PROGRESS →
    s.test_sequence_index = next_incomplete_index s.records ∨
      s.test_sequence_index + 1 = test_sequence_size product_model ∧
        next_incomplete_index s.records = test_sequence_size product_model
  page : s.test_sequence_active = true → s.session.manager.state = .IN_PROGRESS →
    ∀ item, sequence_item product_model s.test_sequence_index = some item →
      s.current_page = item.page

/-- The sequence is at the first test without a verdict, or the session only had to be completed.
-/
def Resumed (product_model : ProductModel) (s : AppViewModel) : Prop :=
  s.test_sequence_active = true ∧ s.session.manager.state = .IN_PROGRESS ∧
      s.test_sequence_index = next_incomplete_index s.records ∧
      s.test_sequence_index < test_sequence_size product_model ∨
    s.test_sequence_active = false ∧ s.session.manager.state = .COMPLETED

/-- The session that the latest session file holds. -/
def Recoverable (cJSON : CJsonLibrary) (directory : String) (product_model : ProductModel)
    (s : AppViewModel) (listing : Listing) (m : SessionManager) : Prop :=
  ∃ filename, latest_session listing = some filename ∧
    load_text cJSON (path_join directory filename)
      (read_text_file s.session.disk (path_join directory filename))
      (test_sequence_plan product_model) = some m

theorem Recoverable.unique {cJSON : CJsonLibrary} {directory : String}
    {product_model : ProductModel} {s : AppViewModel} {listing : Listing} {m m' : SessionManager}
    (h : Recoverable cJSON directory product_model s listing m)
    (h' : Recoverable cJSON directory product_model s listing m') : m = m' := by
  obtain ⟨filename, hfilename, hload⟩ := h
  obtain ⟨filename', hfilename', hload'⟩ := h'
  cases hfilename.symm.trans hfilename'
  exact Option.some.inj (hload.symm.trans hload')

/-- A session in progress can not be resumed because something can not be written. -/
def Unwritten (cJSON : CJsonLibrary) (m : SessionManager) (a : Answers) : Prop :=
  a.write ≠ .written ∨ ¬ WritesResult cJSON (m.finalized a.now) a.write_result

/-- The number of subtests, as evidence. -/
def subtest_count (detail_results : List NamedTestResult) : TestEvidence :=
  OrderedMap.empty.emplace "subtest_count" (.number (.ofNat detail_results.length))

theorem takes_subtest_count {detail_results : List NamedTestResult} {t : TestRecord} :
    Takes (subtest_count detail_results) t ↔ t.completed = false := by
  have hentries : (subtest_count detail_results).entries =
    [("subtest_count", .number (.ofNat detail_results.length))] := rfl
  simp [Takes, hentries, valid_evidence]

/-- A verdict that is stored and leaves tests without one does not end the sequence. -/
def GoesOn (product_model : ProductModel) (s s' : AppViewModel) (a b : Answers) : Prop :=
  (∃ t, Current s t) → a.write = .written → b.write = .written →
    next_incomplete_index s'.records < test_sequence_size product_model →
    s'.test_sequence_active = true ∧ s'.session.manager.state = .IN_PROGRESS

/-- What is recorded while a sequence is active is recorded for the test whose page is shown, and
it is missing only if a file cannot be replaced; a sequence is started at the first test and
resumed at the first one without a verdict, unless there is nothing to resume or it cannot be
written. -/
def Recorded (cJSON : CJsonLibrary) (directory : String) (product_model : ProductModel)
    (s : AppViewModel) (r : AppViewModel × List Bool) : Call → Prop
  | .begin_current_test_attempt a =>
    RecordsIf product_model s (fun t => t.completed = false ∧ a.write = .written)
        (begin_attempt (iso_timestamp a.now)) s.records r.1.records ∧
      (r.2 = [true] ↔ ∃ t, Current s t ∧ t.completed = false ∧ a.write = .written)
  | .record_current_test_evidence evidence a =>
    RecordsIf product_model s (fun t => Takes evidence t ∧ a.write = .written)
        (add_evidence (iso_timestamp a.now) evidence) s.records r.1.records ∧
      (r.2 = [true] ↔ ∃ t, Current s t ∧ Takes evidence t ∧ a.write = .written)
  | .record_current_test_value key value a =>
    let evidence := OrderedMap.empty.emplace key value
    RecordsIf product_model s (fun t => Takes evidence t ∧ a.write = .written)
        (add_evidence (iso_timestamp a.now) evidence) s.records r.1.records ∧
      (r.2 = [true] ↔ ∃ t, Current s t ∧ Takes evidence t ∧ a.write = .written)
  | .complete_current_test result a b =>
    RecordsIf product_model s (fun _ => a.write = .written)
        (mark_completed result [] (iso_timestamp a.now)) s.records r.1.records ∧
      GoesOn product_model s r.1 a b
  | .complete_current_test_with_details result detail_results e a b =>
    ∃ records,
      RecordsIf product_model s
        (fun t => detail_results ≠ [] ∧ t.completed = false ∧ e.write = .written)
        (add_evidence (iso_timestamp e.now) (subtest_count detail_results)) s.records records ∧
      RecordsIf product_model s (fun _ => a.write = .written)
        (mark_completed result detail_results (iso_timestamp a.now)) records r.1.records ∧
      GoesOn product_model s r.1 a b
  | .start_full_test_sequence _ a b =>
    (r.2 = [true] → Resumed product_model r.1 ∧ r.1.test_sequence_index = 0) ∧
      (r.2 ≠ [true] → a.write ≠ .written ∨ a.write_next ≠ .written ∨ b.write ≠ .written)
  | .resume_full_test_sequence listing a =>
    (r.2 = [true] → Resumed product_model r.1) ∧
      (r.2 ≠ [true] →
        if s.session.manager.recoverable then Unwritten cJSON s.session.manager a
        else ∀ m, Recoverable cJSON directory product_model s listing m → Unwritten cJSON m a)
  | .load_recoverable_test_session listing =>
    r.2 = [true] ↔ ∃ m, Recoverable cJSON directory product_model s listing m
  | .show_single_test_page _ | .show_start_page | .relaunch => True

/-! ## The invariant -/

/-- The index is where it should be. -/
def AtTest (product_model : ProductModel) (s : AppViewModel) : Prop :=
  s.test_sequence_index = next_incomplete_index s.records ∨
    s.test_sequence_index + 1 = test_sequence_size product_model ∧
      next_incomplete_index s.records = test_sequence_size product_model

/-- What holds between the calls, besides `Shown`. -/
structure Inv (cJSON : CJsonLibrary) (product_model : ProductModel) (s : AppViewModel) : Prop where
  ordered : Ordered cJSON (test_sequence_plan product_model) s.session
  at_test : s.test_sequence_active = true → s.session.manager.state = .IN_PROGRESS →
    AtTest product_model s

section

variable {cJSON : CJsonLibrary} {directory : String} {product_model : ProductModel}
  {s : AppViewModel} {a b : Answers}

/-- While the session is in progress its records are those of the plan. -/
theorem Inv.plan (h : Inv cJSON product_model s)
    (hstate : s.session.manager.state = .IN_PROGRESS) :
    s.records.map TestRecord.definition = test_sequence_plan product_model :=
  h.ordered.plan (by rw [hstate]; exact SessionState.noConfusion)

theorem Inv.length (h : Inv cJSON product_model s)
    (hstate : s.session.manager.state = .IN_PROGRESS) :
    s.records.length = test_sequence_size product_model := by
  rw [← test_sequence_plan_length, ← h.plan hstate, List.length_map]

/-- The current record is the one that the operations find by the id of the current item. -/
theorem active_test_iff (h : Inv cJSON product_model s) {item : TestSequenceItem}
    (hitem : s.current_item product_model = some item) {t : TestRecord} :
    active_test s.session.manager item.id = some t ↔ Current s t := by
  obtain ⟨hactive, hindex⟩ := current_item_eq_some hitem
  by_cases hstate : s.session.manager.state = .IN_PROGRESS
  swap
  · exact iff_of_false (fun ht => hstate (of_decide_eq_true (active_test_eq_some ht).1))
      fun ht => hstate ht.2.1
  obtain ⟨d, hd, hid⟩ := exists_record (h.plan hstate) hindex
  have hids : (s.records.map (·.id)).Nodup := by
    rw [SessionManager.ext_ids (h.plan hstate)]
    exact test_sequence_plan_ids
  have hfound : active_test s.session.manager item.id = some d := by
    rw [← hid]
    exact (if_pos (decide_eq_true hstate)).trans (find_test_of_mem hids (List.mem_of_getElem? hd))
  rw [hfound, ← hd]
  exact ⟨fun ht => ⟨hactive, hstate, ht⟩, fun ht => ht.2.2⟩

/-- A current record has an item. -/
theorem Current.item (h : Inv cJSON product_model s) {t : TestRecord} (ht : Current s t) :
    ∃ item, s.current_item product_model = some item := by
  obtain ⟨hactive, hstate, hrecord⟩ := ht
  have hlt := (List.getElem?_eq_some_iff.1 hrecord).1
  rw [h.length hstate] at hlt
  obtain ⟨item, hitem⟩ := exists_sequence_item hlt
  exact ⟨item, current_item_of_active hactive hitem⟩

/-- Without a current item nothing is recorded. -/
theorem recordsIf_none (h : Inv cJSON product_model s) (hitem : s.current_item product_model = none)
    {can : TestRecord → Prop} {f : TestRecord → TestRecord} {tests : List TestRecord} :
    RecordsIf product_model s can f tests tests := by
  refine ⟨fun t ht _ => ?_, fun _ => rfl⟩
  obtain ⟨item, hsome⟩ := ht.item h
  cases hitem.symm.trans hsome

theorem ordered_empty : Ordered cJSON (test_sequence_plan product_model) {} where
  proper := ⟨fun hstate => absurd rfl hstate, .inl rfl, fun _ _ htext => by cases htext⟩
  plan hstate := absurd rfl hstate
  in_order hstate := by cases hstate
  written _ _ htext := by cases htext

theorem Inv.of_inactive (h : Ordered cJSON (test_sequence_plan product_model) s.session)
    (hactive : s.test_sequence_active = false) : Inv cJSON product_model s :=
  ⟨h, fun htrue => by cases hactive.symm.trans htrue⟩

/-- The session changes, and the view model stays at its test. -/
theorem Inv.with_session (h : Inv cJSON product_model s) {w : World}
    (hw : Ordered cJSON (test_sequence_plan product_model) w)
    (hstate : w.manager.state = .IN_PROGRESS → s.session.manager.state = .IN_PROGRESS)
    (hnext : next_incomplete_index w.manager.tests = next_incomplete_index s.records) :
    Inv cJSON product_model { s with session := w } := by
  refine ⟨hw, fun hactive hprogress => ?_⟩
  have hindex := h.at_test hactive (hstate hprogress)
  show _ = next_incomplete_index w.manager.tests ∨ _ ∧ next_incomplete_index w.manager.tests = _
  rw [hnext]
  exact hindex

theorem Inv.unchanged (h : Inv cJSON product_model s) {r : World × Bool}
    (hr : Unchanged s.session r) : Inv cJSON product_model { s with session := r.1 } :=
  h.with_session (h.ordered.unchanged hr) (fun hstate => hr.2.1.state ▸ hstate)
    (by rw [hr.2.1.tests])

theorem returned_iff {ok : Bool} {P : Prop} : (ok = true → P) ↔ ([ok] = [true] → P) := by
  simp

theorem returned_false_iff {ok : Bool} {P : Prop} : (ok = false → P) ↔ ([ok] ≠ [true] → P) := by
  simp

/-! ## Opening a test -/

/-- What opening a test leaves: the sequence, or none. -/
structure Opened (cJSON : CJsonLibrary) (product_model : ProductModel) (s s' : AppViewModel)
    (ok : Bool) : Prop where
  ordered : Ordered cJSON (test_sequence_plan product_model) s'.session
  state : s'.session.manager.state = s.session.manager.state
  records : s'.records = s.records
  same_index : s'.test_sequence_index = s.test_sequence_index
  opened : ok = true → s'.test_sequence_active = s.test_sequence_active
  closed : ok = false → s'.test_sequence_active = false

theorem open_test_sequence_item_spec
    (h : Ordered cJSON (test_sequence_plan product_model) s.session) (index : ℕ) (a : Answers) :
    ∃ s' ok, s.open_test_sequence_item cJSON product_model index a = (s', ok) ∧
      Opened cJSON product_model s s' ok := by
  unfold AppViewModel.open_test_sequence_item
  cases hitem : sequence_item product_model index with
  | none => exact ⟨_, false, rfl, h, rfl, rfl, rfl, fun hok => (nomatch hok), fun _ => rfl⟩
  | some item =>
    have hcurrent : Ordered cJSON (test_sequence_plan product_model)
        (set_current_test cJSON s.session item.id a).1 ∧ _ := h.set_current_test
    dsimp only
    cases hset : set_current_test cJSON s.session item.id a with
    | mk session ok =>
      rw [hset] at hcurrent
      obtain ⟨hordered, hstate, hrecords⟩ := hcurrent
      cases ok with
      | false =>
        exact ⟨_, false, rfl, hordered, hstate, hrecords, rfl, fun hok => (nomatch hok),
          fun _ => rfl⟩
      | true =>
        exact ⟨_, true, rfl, hordered, hstate, hrecords, rfl, fun _ => rfl,
          fun hok => (nomatch hok)⟩

/-- The first test without a verdict is opened. -/
theorem Opened.inv {s' : AppViewModel} {ok : Bool} (h : Opened cJSON product_model s s' ok)
    (hnext : s.test_sequence_index = next_incomplete_index s.records) :
    Inv cJSON product_model s' := by
  cases ok with
  | false => exact .of_inactive h.ordered (h.closed rfl)
  | true =>
    refine ⟨h.ordered, fun _ _ => .inl ?_⟩
    rw [h.same_index, h.records, hnext]

/-- The sequence goes on with the first test without a verdict, or it ends. -/
theorem advance_test_sequence_spec
    (h : Ordered cJSON (test_sequence_plan product_model) s.session)
    (hnext : s.test_sequence_active = true → s.session.manager.state = .IN_PROGRESS →
      s.test_sequence_index + 1 = next_incomplete_index s.records) (a : Answers) :
    Inv cJSON product_model (s.advance_test_sequence cJSON product_model a) := by
  unfold AppViewModel.advance_test_sequence
  by_cases hactive : s.test_sequence_active = true
  swap
  · rw [if_pos (by simpa using hactive)]
    exact .of_inactive h rfl
  rw [if_neg (by simpa using hactive)]
  dsimp only
  cases hitem : sequence_item product_model (s.test_sequence_index + 1) with
  | none => exact .of_inactive h rfl
  | some item =>
    have hcurrent : Ordered cJSON (test_sequence_plan product_model)
        (set_current_test cJSON s.session item.id a).1 ∧ _ := h.set_current_test
    dsimp only
    cases hset : set_current_test cJSON s.session item.id a with
    | mk session ok =>
      rw [hset] at hcurrent
      obtain ⟨hordered, hstate, hrecords⟩ := hcurrent
      cases ok with
      | false => exact .of_inactive hordered rfl
      | true =>
        refine ⟨hordered, fun _ hprogress => .inl ?_⟩
        refine (hnext hactive (hstate.symm.trans hprogress)).trans ?_
        exact congrArg next_incomplete_index hrecords.symm

/-- There is a record for every item of the sequence. -/
theorem isSome_find_item (h : Ordered cJSON (test_sequence_plan product_model) s.session)
    (hstate : s.session.manager.state = .IN_PROGRESS) {index : ℕ} {item : TestSequenceItem}
    (hitem : sequence_item product_model index = some item) :
    (find_test s.records item.id).isSome := by
  obtain ⟨t, ht, hid⟩ :=
    exists_record (h.plan (by rw [hstate]; exact SessionState.noConfusion)) hitem
  rw [← hid]
  exact isSome_find_test.2 (List.mem_map_of_mem (List.mem_of_getElem? ht))

theorem open_test_sequence_item_written (hcJSON : cJSON.Lossless)
    (h : Ordered cJSON (test_sequence_plan product_model) s.session)
    (hstate : s.session.manager.state = .IN_PROGRESS) {index : ℕ} {item : TestSequenceItem}
    (hitem : sequence_item product_model index = some item) (hwrite : a.write = .written) :
    (s.open_test_sequence_item cJSON product_model index a).2 = true := by
  have hok := set_current_test_written hcJSON h (decide_eq_true hstate)
    (isSome_find_item h hstate hitem) hwrite
  unfold AppViewModel.open_test_sequence_item
  rw [hitem]
  dsimp only
  cases hset : set_current_test cJSON s.session item.id a with
  | mk session ok =>
    obtain rfl : ok = true := by rwa [hset] at hok
    rfl

/-- While tests are left, the sequence goes on if the session can be written. -/
theorem advance_test_sequence_written (hcJSON : cJSON.Lossless)
    (h : Ordered cJSON (test_sequence_plan product_model) s.session)
    (hactive : s.test_sequence_active = true) (hstate : s.session.manager.state = .IN_PROGRESS)
    (hlt : s.test_sequence_index + 1 < test_sequence_size product_model)
    (hwrite : a.write = .written) :
    (s.advance_test_sequence cJSON product_model a).test_sequence_active = true ∧
      (s.advance_test_sequence cJSON product_model a).session.manager.state = .IN_PROGRESS := by
  obtain ⟨item, hitem⟩ := exists_sequence_item hlt
  have hok := set_current_test_written hcJSON h (decide_eq_true hstate)
    (isSome_find_item h hstate hitem) hwrite
  have hkeeps : (set_current_test cJSON s.session item.id a).1.manager.state = _ ∧ _ :=
    h.set_current_test.2
  unfold AppViewModel.advance_test_sequence
  rw [if_neg (by simpa using hactive)]
  dsimp only
  rw [hitem]
  dsimp only
  cases hset : set_current_test cJSON s.session item.id a with
  | mk session ok =>
    rw [hset] at hok hkeeps
    obtain rfl : ok = true := hok
    exact ⟨hactive, hkeeps.1.trans hstate⟩

/-! ## Verdicts and evidence -/

/-- What storing a verdict for the current test leaves: nothing, or a session that stays at the
test or goes on after it. -/
structure Judged (cJSON : CJsonLibrary) (product_model : ProductModel) (s : AppViewModel)
    (item : TestSequenceItem) (verdict : TestRecord → TestRecord) (write : WriteAnswer)
    (r : World × Bool) : Prop where
  ordered : Ordered cJSON (test_sequence_plan product_model) r.1
  kept : s.session.manager.state = .IN_PROGRESS → write = .written →
    r.1.manager.tests = modify_test item.id verdict s.records
  dropped : ¬ (s.session.manager.state = .IN_PROGRESS ∧ write = .written) →
    r.1.manager.tests = s.records
  next : r.2 = true → r.1.manager.state = .IN_PROGRESS →
    s.test_sequence_index + 1 = next_incomplete_index r.1.manager.tests
  stays : r.2 = false → Inv cJSON product_model { s with session := r.1 }
  left : s.session.manager.state = .IN_PROGRESS → write = .written →
    next_incomplete_index r.1.manager.tests < test_sequence_size product_model →
    r.2 = true ∧ r.1.manager.state = .IN_PROGRESS

theorem complete_test_judged (hcJSON : cJSON.Lossless) (h : Inv cJSON product_model s)
    (hactive : s.test_sequence_active = true) {item : TestSequenceItem}
    (hitem : sequence_item product_model s.test_sequence_index = some item)
    (result : TestResult) (details : List NamedTestResult) (a : Answers) :
    Judged cJSON product_model s item (mark_completed result details (iso_timestamp a.now)) a.write
      (complete_test cJSON s.session item.id result details a) := by
  by_cases hstate : s.session.manager.state = .IN_PROGRESS
  swap
  · have hr : Unchanged s.session (complete_test cJSON s.session item.id result details a) :=
      unchanged_complete_test hstate
    exact ⟨h.ordered.unchanged hr, fun h => absurd h hstate, fun _ => hr.2.1.tests,
      fun hok => (by cases hr.1.symm.trans hok), fun _ => h.unchanged hr,
      fun h => absurd h hstate⟩
  obtain ⟨t, ht, hid⟩ := exists_record (h.plan hstate) hitem
  have hindex := h.at_test hactive hstate
  have hlength := h.length hstate
  have hlt := lt_test_sequence_size hitem
  dsimp only [AtTest, AppViewModel.records] at hindex hlength
  have hle : s.test_sequence_index ≤ next_incomplete_index s.session.manager.tests := by omega
  rw [← hid]
  obtain ⟨hordered, ⟨hr, hnot⟩ | ⟨-, hwrite, htests, hnext, hend⟩⟩ :=
    @Ordered.complete_test _ _ _ a hcJSON h.ordered test_sequence_plan_ids result details _ t ht hle
  · exact ⟨hordered, fun hstate hwrite => absurd ⟨hstate, hwrite⟩ hnot, fun _ => hr.2.1.tests,
      fun hok => (by cases hr.1.symm.trans hok), fun _ => h.unchanged hr,
      fun hstate hwrite => absurd ⟨hstate, hwrite⟩ hnot⟩
  · refine ⟨hordered, fun _ _ => hid ▸ htests, fun hnot => absurd ⟨hstate, hwrite⟩ hnot,
      fun hok hprogress => ?_, fun hfail => ?_, fun _ _ hleft => ?_⟩
    · rcases hend with ⟨-, -, hlast⟩ | ⟨hcompleted, -⟩
      · rw [hnext]
        omega
      · rw [if_pos hok, hprogress] at hcompleted
        cases hcompleted
    · rcases hend with ⟨hok, -⟩ | ⟨-, hlast⟩
      · cases hok.symm.trans hfail
      · -- all tests have a verdict, and the session could not be completed
        refine ⟨hordered, fun _ _ => .inr ⟨?_, ?_⟩⟩
        · show s.test_sequence_index + 1 = _
          omega
        · refine hnext.trans ?_
          omega
    · rcases hend with ⟨hok, hprogress, -⟩ | ⟨-, hlast⟩
      · exact ⟨hok, hprogress⟩
      · rw [hnext] at hleft
        omega

/-- The session after an operation that changes at most a record, but none of its verdicts. -/
theorem Inv.changes (h : Inv cJSON product_model s) {test_id : String}
    {f : TestRecord → TestRecord} {r : World × Bool}
    (hordered : Ordered cJSON (test_sequence_plan product_model) r.1)
    (hr : Changes s.session test_id f r) (hf : ∀ t, (f t).completed = t.completed) :
    Inv cJSON product_model { s with session := r.1 } := by
  refine h.with_session hordered (fun hstate => hr.state ▸ hstate) ?_
  rw [hr.tests]
  split_ifs
  · exact next_incomplete_index_congr (map_modify_test hf)
  · rfl

/-- A change of the record of the current test is one for the page that is shown. -/
theorem changesShown_of_modify (h : Shown product_model s)
    (hactive : s.test_sequence_active = true) {item : TestSequenceItem}
    (hitem : sequence_item product_model s.test_sequence_index = some item)
    {f : TestRecord → TestRecord} {tests tests' : List TestRecord}
    (htests : tests' = modify_test item.id f tests) :
    ChangesShown product_model s f tests tests' := by
  refine ⟨item, ?_, htests⟩
  rw [h item (current_item_of_active hactive hitem)]
  exact item_of_page_eq hitem

/-- An operation that keeps the verdicts changes the record of the test whose page is shown, if it
goes through. -/
theorem recordsIf_of_changes (h : Inv cJSON product_model s) (hshown : Shown product_model s)
    {item : TestSequenceItem} (hitem : s.current_item product_model = some item)
    {f : TestRecord → TestRecord} {can : TestRecord → Prop} {r : World × Bool}
    (hr : Changes s.session item.id f r)
    (hcan : r.2 = true ↔ ∃ t, active_test s.session.manager item.id = some t ∧ can t) :
    RecordsIf product_model s can f s.records r.1.manager.tests ∧
      (r.2 = true ↔ ∃ t, Current s t ∧ can t) := by
  obtain ⟨hactive, hindex⟩ := current_item_eq_some hitem
  have hcurrent : r.2 = true ↔ ∃ t, Current s t ∧ can t :=
    hcan.trans (exists_congr fun t => and_congr_left' (active_test_iff h hitem))
  refine ⟨⟨fun t ht hcan => ?_, fun hnot => ?_⟩, hcurrent⟩
  · have htests := hr.tests
    rw [if_pos (hcurrent.2 ⟨t, ht, hcan⟩)] at htests
    exact changesShown_of_modify hshown hactive hindex htests
  · have htests := hr.tests
    rwa [if_neg fun hok => (by
      obtain ⟨t, ht, hcan⟩ := hcurrent.1 hok
      exact hnot t ht hcan)] at htests

/-- An operation on the record of the current test, if there is one, that keeps its verdict. -/
theorem record_current_spec (h : Inv cJSON product_model s) (hshown : Shown product_model s)
    {f : TestRecord → TestRecord} (hf : ∀ t, (f t).completed = t.completed)
    {can : TestRecord → Prop} {operation : TestSequenceItem → World × Bool}
    (hoperation : ∀ item, Ordered cJSON (test_sequence_plan product_model) (operation item).1 ∧
      Changes s.session item.id f (operation item))
    (hcan : ∀ item, (operation item).2 = true ↔
      ∃ t, active_test s.session.manager item.id = some t ∧ can t) {r : AppViewModel × Bool}
    (hr : r = match s.current_item product_model with
      | none => (s, false)
      | some item => ({ s with session := (operation item).1 }, (operation item).2)) :
    Inv cJSON product_model r.1 ∧ RecordsIf product_model s can f s.records r.1.records ∧
      ([r.2] = [true] ↔ ∃ t, Current s t ∧ can t) := by
  subst hr
  cases hitem : s.current_item product_model with
  | none =>
    refine ⟨h, recordsIf_none h hitem, iff_of_false (by simp) ?_⟩
    rintro ⟨t, ht, -⟩
    obtain ⟨item, hsome⟩ := ht.item h
    cases hitem.symm.trans hsome
  | some item =>
    obtain ⟨hordered, hchanges⟩ := hoperation item
    obtain ⟨hrecords, hok⟩ := recordsIf_of_changes h hshown hitem hchanges (hcan item)
    refine ⟨h.changes hordered hchanges hf, hrecords, ?_⟩
    simpa only [List.cons.injEq, and_true] using hok

/-- A verdict for the current test, and what comes after it. The session may be one that evidence
was recorded in before. -/
theorem judge_spec (hcJSON : cJSON.Lossless) (h : Inv cJSON product_model s)
    (hshown : Shown product_model s) {item : TestSequenceItem}
    (hitem : s.current_item product_model = some item) {session : World}
    (hstate : session.manager.state = s.session.manager.state)
    {verdict : TestRecord → TestRecord} {r : World × Bool}
    (hr : Judged cJSON product_model { s with session := session } item verdict a.write r)
    {s' : AppViewModel}
    (hs' : s' = if r.2 then { s with session := r.1 }.advance_test_sequence cJSON product_model b
      else { s with session := r.1 }) :
    Inv cJSON product_model s' ∧
      RecordsIf product_model s (fun _ => a.write = .written) verdict session.manager.tests
        s'.records ∧
      GoesOn product_model s s' a b := by
  obtain ⟨hactive, hindex⟩ := current_item_eq_some hitem
  have hrecords : s'.records = r.1.manager.tests := by
    rw [hs']
    cases r.2 with
    | false => rfl
    | true => exact records_advance_test_sequence
  refine ⟨?_, ⟨fun t ht hwrite => ?_, fun hnot => ?_⟩, fun ⟨t, ht⟩ hwrite hb hleft => ?_⟩
  · subst hs'
    cases hok : r.2 with
    | false => exact hr.stays hok
    | true =>
      exact @advance_test_sequence_spec cJSON product_model { s with session := r.1 }
        hr.ordered (fun _ hprogress => hr.next hok hprogress) b
  · rw [hrecords]
    exact changesShown_of_modify hshown hactive hindex (hr.kept (hstate.trans ht.2.1) hwrite)
  · rw [hrecords]
    refine hr.dropped fun ⟨hprogress, hwrite⟩ => ?_
    have hprogress' := hstate.symm.trans hprogress
    obtain ⟨t, ht, -⟩ := exists_record (h.plan hprogress') hindex
    exact hnot t ⟨hactive, hprogress', ht⟩ hwrite
  · rw [hrecords] at hleft
    obtain ⟨hok, hprogress⟩ := hr.left (hstate.trans ht.2.1) hwrite hleft
    rw [hs', if_pos hok]
    exact @advance_test_sequence_written cJSON product_model { s with session := r.1 } _ hcJSON
      hr.ordered hactive hprogress ((hr.next hok hprogress).trans_lt hleft) hb

/-- Without a current record there is nothing to go on from. -/
theorem goesOn_of_none (h : Inv cJSON product_model s)
    (hitem : s.current_item product_model = none) {s' : AppViewModel} :
    GoesOn product_model s s' a b := by
  rintro ⟨t, ht⟩
  obtain ⟨item, hsome⟩ := ht.item h
  cases hitem.symm.trans hsome

theorem complete_current_test_spec (hcJSON : cJSON.Lossless) (h : Inv cJSON product_model s)
    (hshown : Shown product_model s) (result : TestResult) (a b : Answers) :
    Inv cJSON product_model (s.complete_current_test cJSON product_model result a b) ∧
      RecordsIf product_model s (fun _ => a.write = .written)
        (mark_completed result [] (iso_timestamp a.now)) s.records
        (s.complete_current_test cJSON product_model result a b).records ∧
      GoesOn product_model s (s.complete_current_test cJSON product_model result a b) a b := by
  unfold AppViewModel.complete_current_test
  by_cases hactive : s.test_sequence_active = true
  swap
  · have hnone : s.current_item product_model = none :=
      current_item_of_inactive (Bool.eq_false_iff.2 hactive)
    rw [if_neg hactive, records_advance_test_sequence]
    exact ⟨advance_test_sequence_spec h.ordered (fun h => absurd h hactive) b,
      recordsIf_none h hnone, goesOn_of_none h hnone⟩
  rw [if_pos hactive]
  cases hitem : sequence_item product_model s.test_sequence_index with
  | none =>
    have hnone : s.current_item product_model = none := (if_pos hactive).trans hitem
    exact ⟨h, recordsIf_none h hnone, goesOn_of_none h hnone⟩
  | some item =>
    have hjudged := complete_test_judged hcJSON h hactive hitem result [] a
    refine judge_spec hcJSON h hshown (current_item_of_active hactive hitem) rfl hjudged ?_
    dsimp only
    cases complete_test cJSON s.session item.id result [] a with
    | mk session ok => cases ok <;> rfl

theorem complete_current_test_with_details_spec (hcJSON : cJSON.Lossless)
    (h : Inv cJSON product_model s) (hshown : Shown product_model s) (result : TestResult)
    (detail_results : List NamedTestResult) (e a b : Answers) {s' : AppViewModel}
    (hs' : s' =
      s.complete_current_test_with_details cJSON product_model result detail_results e a b) :
    Inv cJSON product_model s' ∧ ∃ records,
      RecordsIf product_model s
        (fun t => detail_results ≠ [] ∧ t.completed = false ∧ e.write = .written)
        (add_evidence (iso_timestamp e.now) (subtest_count detail_results)) s.records records ∧
      RecordsIf product_model s (fun _ => a.write = .written)
        (mark_completed result detail_results (iso_timestamp a.now)) records s'.records ∧
      GoesOn product_model s s' a b := by
  unfold AppViewModel.complete_current_test_with_details at hs'
  by_cases hactive : s.test_sequence_active = true
  swap
  · have hnone : s.current_item product_model = none :=
      current_item_of_inactive (Bool.eq_false_iff.2 hactive)
    rw [if_neg hactive] at hs'
    rw [hs', records_advance_test_sequence]
    exact ⟨advance_test_sequence_spec h.ordered (fun h => absurd h hactive) b, s.records,
      recordsIf_none h hnone, recordsIf_none h hnone, goesOn_of_none h hnone⟩
  rw [if_pos hactive] at hs'
  cases hitem : sequence_item product_model s.test_sequence_index with
  | none =>
    have hnone : s.current_item product_model = none := (if_pos hactive).trans hitem
    rw [hitem] at hs'
    rw [hs']
    exact ⟨h, s.records, recordsIf_none h hnone, recordsIf_none h hnone, goesOn_of_none h hnone⟩
  | some item =>
    have hcurrent := current_item_of_active hactive hitem
    rw [hitem] at hs'
    dsimp only at hs'
    obtain ⟨session, hsession⟩ : ∃ session, session = (if detail_results.isEmpty then s.session
      else (record_evidence_value cJSON s.session item.id "subtest_count"
        (.number (.ofNat detail_results.length)) e).1) := ⟨_, rfl⟩
    rw [← hsession] at hs'
    -- the number of subtests
    have hcount : Inv cJSON product_model { s with session := session } ∧
        session.manager.state = s.session.manager.state ∧
        RecordsIf product_model s
          (fun t => detail_results ≠ [] ∧ t.completed = false ∧ e.write = .written)
          (add_evidence (iso_timestamp e.now) (subtest_count detail_results)) s.records
          session.manager.tests := by
      subst hsession
      by_cases hdetails : detail_results = []
      · rw [if_pos (by simp [hdetails])]
        exact ⟨h, rfl, fun _ _ hcan => absurd hdetails hcan.1, fun _ => rfl⟩
      · rw [if_neg (by simpa using hdetails)]
        obtain ⟨hordered, hchanges⟩ :=
          @Ordered.record_evidence _ _ _ item.id e h.ordered (subtest_count detail_results)
        have hok := @record_evidence_iff _ _ _ item.id e hcJSON h.ordered
          (subtest_count detail_results)
        obtain ⟨⟨hrecords, hnone⟩, -⟩ := recordsIf_of_changes h hshown hcurrent hchanges hok
        refine ⟨h.changes hordered hchanges fun _ => result_add_evidence.2, hchanges.state,
          fun t ht hcan => hrecords t ht ⟨takes_subtest_count.2 hcan.2.1, hcan.2.2⟩,
          fun hnot => hnone fun t ht hcan => hnot t ht ⟨hdetails, ?_, hcan.2⟩⟩
        exact takes_subtest_count.1 hcan.1
    obtain ⟨hinv, hstate, hrecords⟩ := hcount
    have hjudged := complete_test_judged hcJSON hinv hactive hitem result detail_results a
    have hend : s' = if (complete_test cJSON session item.id result detail_results a).2 then
        AppViewModel.advance_test_sequence cJSON product_model { s with session :=
          (complete_test cJSON session item.id result detail_results a).1 } b
        else { s with session :=
          (complete_test cJSON session item.id result detail_results a).1 } := by
      rw [hs']
      cases complete_test cJSON session item.id result detail_results a with
      | mk session ok => cases ok <;> rfl
    obtain ⟨hinv', hrecords', hgoes⟩ := judge_spec hcJSON h hshown hcurrent hstate hjudged hend
    exact ⟨hinv', session.manager.tests, hrecords, hrecords', hgoes⟩

/-! ## Sequences -/

theorem start_full_test_sequence_spec (hcJSON : cJSON.Lossless) (hdirectory : NulFree directory)
    (h : Inv cJSON product_model s) (metadata : SessionMetadata) (a b : Answers)
    {r : AppViewModel × Bool}
    (hr : r = s.start_full_test_sequence cJSON directory product_model metadata a b) :
    Inv cJSON product_model r.1 ∧
      (r.2 = true → Resumed product_model r.1 ∧ r.1.test_sequence_index = 0) ∧
      (r.2 = false → a.write ≠ .written ∨ a.write_next ≠ .written ∨ b.write ≠ .written) := by
  obtain ⟨hordered, hstarted, hfailed⟩ := h.ordered.start_new hdirectory metadata a
  have hvalid : valid_plan (test_sequence_plan product_model) [] = true := by
    cases product_model <;> decide
  have hne : test_sequence_plan product_model ≠ [] := by
    cases product_model <;> decide
  have hok := @start_new_written _ _ _ _ a hcJSON hdirectory h.ordered hne hvalid metadata
  unfold AppViewModel.start_full_test_sequence at hr
  cases hstart : start_new cJSON directory s.session (test_sequence_plan product_model) metadata a
    with
  | mk session ok =>
    rw [hstart] at hordered hstarted hfailed hok hr
    cases ok with
    | false =>
      rw [hr]
      dsimp only
      refine ⟨?_, fun hok => (nomatch hok), fun _ => ?_⟩
      · rcases hfailed rfl with hr | hnone
        · exact h.unchanged hr
        · exact ⟨hordered, fun _ hprogress => (by cases hnone.symm.trans hprogress)⟩
      · by_contra hall
        simp only [not_or, not_not] at hall
        cases hok hall.1 hall.2.1
    | true =>
      obtain ⟨hstate, hnext⟩ := hstarted rfl
      obtain ⟨s', ok, hopen, hopened⟩ := @open_test_sequence_item_spec cJSON product_model
        { s with session := session, test_sequence_active := true, test_sequence_index := 0 }
        hordered 0 b
      have hinv := hopened.inv hnext.symm
      dsimp only at hr
      rw [hopen] at hr
      cases ok with
      | false =>
        rw [hr]
        dsimp only
        refine ⟨.of_inactive hinv.ordered rfl, fun hok => (nomatch hok), fun _ => .inr (.inr ?_)⟩
        intro hwrite
        obtain ⟨item, hitem⟩ : ∃ item, sequence_item product_model 0 = some item :=
          exists_sequence_item test_sequence_size_pos
        have htrue := @open_test_sequence_item_written cJSON product_model
          { s with session := session, test_sequence_active := true, test_sequence_index := 0 }
          b hcJSON hordered hstate 0 item hitem hwrite
        rw [hopen] at htrue
        cases htrue
      | true =>
        rw [hr]
        dsimp only
        refine ⟨hinv, fun _ => ⟨.inl ⟨hopened.opened rfl, hopened.state.trans hstate, ?_, ?_⟩,
          hopened.same_index⟩, fun hok => nomatch hok⟩
        · rw [hopened.same_index, hopened.records]
          exact hnext.symm
        · rw [hopened.same_index]
          exact test_sequence_size_pos

/-- A session in progress is resumed at the first test without a verdict, or it is completed. -/
theorem resume_loaded_spec (hcJSON : cJSON.Lossless)
    (h : Ordered cJSON (test_sequence_plan product_model) s.session)
    (hstate : s.session.manager.state = .IN_PROGRESS) (a : Answers) {r : AppViewModel × Bool}
    (hr : r = s.resume_loaded cJSON product_model a) :
    Inv cJSON product_model r.1 ∧ (r.2 = true → Resumed product_model r.1) ∧
      (r.2 = false → Unwritten cJSON s.session.manager a) := by
  unfold AppViewModel.resume_loaded at hr
  dsimp only at hr
  split_ifs at hr with hend
  · -- all tests have a verdict
    obtain ⟨hordered, hrecords, hfinal⟩ :=
      @Ordered.finalize _ _ _ a.write h a.now a.write_result
    have hfinished : s.session.manager.finished := by
      refine ⟨decide_eq_true hstate, ?_⟩
      rwa [← test_sequence_plan_length,
        ← h.plan (by rw [hstate]; exact SessionState.noConfusion), List.length_map] at hend
    cases hfinalize : finalize cJSON s.session a.now a.write_result a.write with
    | mk session ok =>
      rw [hfinalize] at hordered hrecords hfinal hr
      rw [hr]
      cases ok with
      | false =>
        refine ⟨⟨hordered, fun _ _ => .inl ?_⟩, fun hok => (nomatch hok), fun _ => ?_⟩
        · exact congrArg next_incomplete_index hrecords.symm
        · by_contra hwritten
          simp only [Unwritten, not_or, not_not] at hwritten
          have hok := finalize_written hcJSON h hfinished hwritten.2 hwritten.1
          rw [hfinalize] at hok
          cases hok
      | true =>
        exact ⟨.of_inactive hordered rfl, fun _ => .inr ⟨rfl, hfinal⟩, fun hok => nomatch hok⟩
  · rw [not_le] at hend
    obtain ⟨s', ok, hopen, hopened⟩ := @open_test_sequence_item_spec cJSON product_model
      { s with
        test_sequence_index := next_incomplete_index s.records
        test_sequence_active := true } h (next_incomplete_index s.records) a
    have hinv := hopened.inv rfl
    rw [hopen] at hr
    cases ok with
    | false =>
      rw [hr]
      dsimp only
      refine ⟨.of_inactive hinv.ordered rfl, fun hok => (nomatch hok),
        fun _ => .inl fun hwrite => ?_⟩
      obtain ⟨item, hitem⟩ := exists_sequence_item hend
      have htrue := @open_test_sequence_item_written cJSON product_model
        { s with
          test_sequence_index := next_incomplete_index s.records
          test_sequence_active := true } a hcJSON h hstate _ item hitem hwrite
      rw [hopen] at htrue
      cases htrue
    | true =>
      rw [hr]
      dsimp only
      refine ⟨hinv, fun _ => .inl ⟨hopened.opened rfl, hopened.state.trans hstate, ?_, ?_⟩,
        fun hok => nomatch hok⟩
      · rw [hopened.same_index, hopened.records]
      · rw [hopened.same_index]
        exact hend

theorem load_recoverable_spec (hcJSON : cJSON.Lossless) (h : Inv cJSON product_model s)
    (listing : Listing) {r : AppViewModel × Bool}
    (hr : r = s.load_recoverable_test_session cJSON directory product_model listing) :
    Ordered cJSON (test_sequence_plan product_model) r.1.session ∧
      r.1.session.manager.state = (if r.2 then .IN_PROGRESS else .NONE) ∧
      r.1.test_sequence_active = s.test_sequence_active ∧
      (r.2 = true → Recoverable cJSON directory product_model s listing r.1.session.manager) ∧
      (r.2 = false → ∀ m, ¬ Recoverable cJSON directory product_model s listing m) := by
  subst hr
  obtain ⟨hordered, hstate⟩ := @Ordered.load _ _ directory _ hcJSON h.ordered listing
  refine ⟨hordered, hstate, rfl, ?_⟩
  unfold AppViewModel.load_recoverable_test_session
  dsimp only
  unfold load_latest_recoverable Recoverable
  cases latest_session listing with
  | none => exact ⟨fun hok => (nomatch hok), fun _ m ⟨filename, hfilename, _⟩ => nomatch hfilename⟩
  | some filename =>
    dsimp only [Session.reset]
    cases hload : load_text cJSON (path_join directory filename)
      (read_text_file s.session.disk (path_join directory filename))
      (test_sequence_plan product_model) with
    | none =>
      refine ⟨fun hok => (nomatch hok), fun _ m ⟨filename', hfilename, hm⟩ => ?_⟩
      cases hfilename
      cases hload.symm.trans hm
    | some m => exact ⟨fun _ => ⟨filename, rfl, hload⟩, fun hok => nomatch hok⟩

theorem resume_full_test_sequence_spec (hcJSON : cJSON.Lossless) (h : Inv cJSON product_model s)
    (listing : Listing) (a : Answers) {r : AppViewModel × Bool}
    (hr : r = s.resume_full_test_sequence cJSON directory product_model listing a) :
    Inv cJSON product_model r.1 ∧ (r.2 = true → Resumed product_model r.1) ∧
      (r.2 = false →
        if s.session.manager.recoverable then Unwritten cJSON s.session.manager a
        else ∀ m, Recoverable cJSON directory product_model s listing m → Unwritten cJSON m a) := by
  unfold AppViewModel.resume_full_test_sequence at hr
  split_ifs at hr ⊢ with hrecoverable
  · have hactive := (Bool.and_eq_true_iff.1 hrecoverable).1
    exact resume_loaded_spec hcJSON h.ordered (of_decide_eq_true hactive) a hr
  · obtain ⟨hordered, hstate, -, hloaded, hnone⟩ :=
      @load_recoverable_spec cJSON directory product_model s hcJSON h listing _ rfl
    cases hload : s.load_recoverable_test_session cJSON directory product_model listing with
    | mk s' ok =>
      rw [hload] at hordered hstate hloaded hnone hr
      cases ok with
      | false =>
        rw [hr]
        dsimp only
        exact ⟨⟨hordered, fun _ hprogress => (by cases hstate.symm.trans hprogress)⟩,
          fun hok => (nomatch hok), fun _ m hm => absurd hm (hnone rfl m)⟩
      | true =>
        obtain ⟨hinv, hresumed, hunwritten⟩ := resume_loaded_spec hcJSON hordered hstate a hr
        refine ⟨hinv, hresumed, fun hfalse m hm => ?_⟩
        rw [hm.unique (hloaded rfl)]
        exact hunwritten hfalse

/-! ## Runs -/

/-- Every call keeps the invariant and records what it should. -/
theorem call_spec (hcJSON : cJSON.Lossless) (hdirectory : NulFree directory)
    (h : Inv cJSON product_model s) (hshown : Shown product_model s) (c : Call)
    (hallowed : c.Allowed s) :
    Inv cJSON product_model (call cJSON directory product_model s c).1 ∧
      Recorded cJSON directory product_model s (call cJSON directory product_model s c) c := by
  cases c with
  | start_full_test_sequence metadata a b =>
    obtain ⟨hinv, hstarted, hfailed⟩ :=
      start_full_test_sequence_spec hcJSON hdirectory h metadata a b rfl
    exact ⟨hinv, returned_iff.1 hstarted, returned_false_iff.1 hfailed⟩
  | resume_full_test_sequence listing a =>
    obtain ⟨hinv, hresumed, hunwritten⟩ :=
      @resume_full_test_sequence_spec _ directory _ _ hcJSON h listing a _ rfl
    exact ⟨hinv, returned_iff.1 hresumed, returned_false_iff.1 hunwritten⟩
  | begin_current_test_attempt a =>
    have hcompleted : ∀ t, (begin_attempt (iso_timestamp a.now) t).completed = t.completed :=
      fun _ => rfl
    exact record_current_spec h hshown hcompleted
      (fun item => @Ordered.begin_test _ _ _ item.id a h.ordered)
      (fun item => begin_test_iff hcJSON h.ordered) rfl
  | record_current_test_evidence evidence a =>
    exact record_current_spec h hshown (fun _ => result_add_evidence.2)
      (fun item => @Ordered.record_evidence _ _ _ item.id a h.ordered evidence)
      (fun item => record_evidence_iff hcJSON h.ordered) rfl
  | record_current_test_value key value a =>
    exact record_current_spec h hshown (fun _ => result_add_evidence.2)
      (fun item => @Ordered.record_evidence _ _ _ item.id a h.ordered
        (OrderedMap.empty.emplace key value))
      (fun item => record_evidence_iff hcJSON h.ordered) rfl
  | complete_current_test result a b => exact complete_current_test_spec hcJSON h hshown result a b
  | complete_current_test_with_details result detail_results e a b =>
    exact complete_current_test_with_details_spec hcJSON h hshown result detail_results e a b rfl
  | show_single_test_page page => exact ⟨.of_inactive h.ordered rfl, trivial⟩
  | show_start_page => exact ⟨.of_inactive h.ordered rfl, trivial⟩
  | load_recoverable_test_session listing =>
    obtain ⟨hordered, -, hactive, hloaded, hnone⟩ :=
      @load_recoverable_spec cJSON directory product_model s hcJSON h listing _ rfl
    refine ⟨.of_inactive hordered (hactive.trans hallowed),
      returned_iff.1 fun hok => ⟨_, hloaded hok⟩, fun ⟨m, hm⟩ => ?_⟩
    by_contra hfalse
    exact returned_false_iff.1 (fun hno => hnone hno m hm) hfalse
  | relaunch => exact ⟨.of_inactive h.ordered.reset rfl, trivial⟩

theorem Inv.progress (hcJSON : cJSON.Lossless) (h : Inv cJSON product_model s)
    (hshown : Shown product_model s) : Progress cJSON product_model s := by
  refine ⟨fun hstate => h.ordered.in_order hstate, ?_, h.at_test, fun hactive _ item hitem =>
    hshown item (current_item_of_active hactive hitem)⟩
  intro path text plan m htext hsuffix hload
  have hread : read_text_file s.session.disk path = text := by
    rw [read_text_file, htext]
    rfl
  exact h.ordered.in_order_of_load hcJSON hsuffix (hread.symm ▸ hload)

end

/-- Through whatever calls the operator goes, and whatever cannot be stored: the verdicts are in
the order of the plan, the current test is the first one without a verdict, and the next call
records for the test whose page is shown. -/
theorem sequence_in_order {cJSON : CJsonLibrary} (hcJSON : cJSON.Lossless) {directory : String}
    (hdirectory : NulFree directory) (product_model : ProductModel) {calls : List Call}
    (hcalls : (app cJSON directory product_model).Along (fun c e => e.Allowed c.state) ⟨{}, []⟩
      calls) :
    let s := ((app cJSON directory product_model).run ⟨{}, []⟩ calls).state
    Progress cJSON product_model s ∧ ∀ c : Call, c.Allowed s →
      Recorded cJSON directory product_model s (call cJSON directory product_model s c) c := by
  obtain ⟨hinv, hshown⟩ : Inv cJSON product_model
      ((app cJSON directory product_model).run ⟨{}, []⟩ calls).state ∧
      Shown product_model ((app cJSON directory product_model).run ⟨{}, []⟩ calls).state := by
    refine Machine.invariant (M := app cJSON directory product_model)
      (I := fun c : Config AppViewModel Bool =>
        Inv cJSON product_model c.state ∧ Shown product_model c.state) ?_ ?_ hcalls
    · exact fun c e hc he => ⟨(call_spec hcJSON hdirectory hc.1 hc.2 e he).1, shown_call hc.2 e⟩
    · exact ⟨.of_inactive ordered_empty rfl, shown_of_inactive rfl⟩
  exact ⟨hinv.progress hcJSON hshown,
    fun c hc => (call_spec hcJSON hdirectory hinv hshown c hc).2⟩

/-- A sequence that is started, with a verdict for its first test. -/
def startedCalls : List Call :=
  [.start_full_test_sequence {} { now := sampleNow } { now := sampleNow },
    .complete_current_test .PASS { now := sampleLater } { now := sampleLater }]

theorem sequence_in_order_started :
    let s := ((app JsonText.jsonText "/sessions" .CARDPUTER_ZERO).run ⟨{}, []⟩ startedCalls).state
    s.test_sequence_index = 1 ∧ s.current_page = .LCD_TEST ∧
      Progress JsonText.jsonText .CARDPUTER_ZERO s := by
  have hcalls : (app JsonText.jsonText "/sessions" .CARDPUTER_ZERO).Along
      (fun c e => e.Allowed c.state) ⟨{}, []⟩ startedCalls := ⟨trivial, trivial, trivial⟩
  have hspec := sequence_in_order JsonText.lossless_jsonText (by decide) .CARDPUTER_ZERO hcalls
  exact ⟨by decide +kernel, by decide +kernel, hspec.1⟩

end FactoryTest.ViewModel
