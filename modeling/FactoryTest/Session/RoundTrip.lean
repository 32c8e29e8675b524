import FactoryTest.Session.Operations
import Mathlib.Tactic.MkIffOfInductiveProp

/-!
# Reading back what was written

`parse_session_document` reads the document of a session back: each record as it was
(`parse_test_item`), and with it the whole session (`parse_session_root_document`), if the
strings are free of NUL and the counts below `2 ^ 53` (`SessionManager.Plain`), and the records
such as the operations make them (`SessionManager.Made`).

The document can always be printed (`printable_session_document`): strings are cut at a NUL on
the way in, and numbers among the evidence are finite.
-/

namespace FactoryTest.Session

/-! ## Members of an object -/

@[simp] theorem json_string_object {members : List (String × CJson)} {key : String} :
    json_string (.object members) key =
      match CJson.findMember key members with
      | some (.string value) => some value
      | _ => none := rfl

@[simp] theorem json_bool_object {members : List (String × CJson)} {key : String}
    {fallback : Bool} :
    json_bool (.object members) key fallback =
      match CJson.findMember key members with
      | some (.bool value) => value
      | _ => fallback := rfl

@[simp] theorem json_size_object {members : List (String × CJson)} {key : String}
    {fallback : ℕ} :
    json_size (.object members) key fallback =
      match CJson.findMember key members with
      | some (.number value) => if value.nonnegative then size_of_double value else fallback
      | _ => fallback := rfl

/-- A count below `2 ^ 53` is read back exactly. -/
theorem json_size_ofNat {n : ℕ} (h : n < 2 ^ 53) :
    (if (Double.ofNat n).nonnegative then size_of_double (Double.ofNat n) else 0) = n := by
  have hsize : min n (2 ^ 64 - 1) = n := by omega
  rw [Double.ofNat_of_lt h, size_of_double, Double.truncate_finite_natCast, Int.toNat_natCast,
    hsize]
  simp [Double.nonnegative]

/-! ## Evidence and details -/

/-- The key and a string among the values are free of NUL. -/
def PlainEvidence (entry : String × EvidenceValue) : Prop :=
  NulFree entry.1 ∧
    match entry.2 with
    | .string value => NulFree value
    | _ => True

instance (entry : String × EvidenceValue) : Decidable (PlainEvidence entry) := by
  unfold PlainEvidence
  split <;> infer_instance

theorem parse_evidence_member {entry : String × EvidenceValue} (h : PlainEvidence entry)
    (hvalid : valid_evidence entry = true) :
    (evidence_member entry).1 = entry.1 ∧
      parse_evidence_value (evidence_member entry) = some entry.2 := by
  obtain ⟨key, value⟩ := entry
  obtain ⟨hkey, hvalue⟩ := h
  cases value <;> simp_all [evidence_member, parse_evidence_value, valid_evidence, c_str_eq]

theorem parse_evidence_map {entries : List (String × EvidenceValue)}
    (h : ∀ entry ∈ entries, PlainEvidence entry)
    (hvalid : ∀ entry ∈ entries, valid_evidence entry = true) (evidence : TestEvidence) :
    parse_evidence_members (entries.map evidence_member) evidence =
      some (entries.foldl (fun all entry => all.emplace entry.1 entry.2) evidence) := by
  induction entries generalizing evidence with
  | nil => rfl
  | cons entry entries ih =>
    obtain ⟨hkey, hvalue⟩ := parse_evidence_member (h entry List.mem_cons_self)
      (hvalid entry List.mem_cons_self)
    rw [List.map_cons, parse_evidence_members, hvalue]
    dsimp only
    rw [hkey, ih (fun e he => h e (List.mem_cons_of_mem _ he))
      (fun e he => hvalid e (List.mem_cons_of_mem _ he)), List.foldl_cons]

/-- Evidence is read back as it was. -/
theorem parse_evidence_object {evidence : TestEvidence}
    (h : ∀ entry ∈ evidence.entries, PlainEvidence entry)
    (hvalid : ∀ entry ∈ evidence.entries, valid_evidence entry = true) :
    parse_evidence (some (evidence_object evidence)) = some evidence := by
  show parse_evidence_members (evidence.entries.map evidence_member) .empty = some evidence
  rw [parse_evidence_map h hvalid, OrderedMap.foldl_emplace_entries]

/-- Details are read back as they were. -/
theorem parse_details_array {details : List NamedTestResult}
    (h : ∀ detail ∈ details, NulFree detail.test_name) :
    parse_details (some (details_array details)) = some details := by
  show parse_details_items (details.map detail_item) = some details
  induction details with
  | nil => rfl
  | cons detail details ih =>
    have htext : c_str (test_result_text detail.result) = test_result_text detail.result :=
      c_str_eq (by cases detail.result <;> decide)
    have hitem : detail_item detail = .object [("name", .string detail.test_name),
        ("result", .string (test_result_text detail.result))] := by
      rw [detail_item, string_member, string_member, c_str_eq (h detail List.mem_cons_self), htext]
    rw [List.map_cons, hitem]
    simp [parse_details_items, ih fun d hd => h d (List.mem_cons_of_mem _ hd)]

/-! ## Records -/

/-- The strings of a record are free of NUL, and its count is one that a double holds. -/
@[mk_iff] structure TestRecord.Plain (t : TestRecord) : Prop where
  id : NulFree t.id
  name : NulFree t.name
  attempt_count : t.attempt_count < 2 ^ 53
  attempt_started_at : NulFree t.attempt_started_at
  attempt_finished_at : NulFree t.attempt_finished_at
  completed_at : NulFree t.completed_at
  evidence : ∀ entry ∈ t.evidence.entries, PlainEvidence entry
  details : ∀ detail ∈ t.details, NulFree detail.test_name

instance (t : TestRecord) : Decidable t.Plain := decidable_of_iff _ (t.plain_iff).symm

/-- The record is such as the operations make it. -/
structure TestRecord.Made (t : TestRecord) : Prop where
  result : t.completed = false → t.result = .FAIL
  evidence : ∀ entry ∈ t.evidence.entries, valid_evidence entry = true

theorem findMember_evidence_members (t : TestRecord) :
    CJson.findMember "evidence" (evidence_members t) =
        (if t.evidence.entries.isEmpty then none else some (evidence_object t.evidence)) ∧
      CJson.findMember "details" (evidence_members t) =
        (if t.details.isEmpty then none else some (details_array t.details)) := by
  unfold evidence_members
  constructor <;> split_ifs <;> simp

/-- What the optional members of a record are read as. -/
theorem parse_optional {t : TestRecord} (h : t.Plain) (hmade : t.Made) :
    parse_evidence (CJson.findMember "evidence" (evidence_members t)) = some t.evidence ∧
      parse_details (CJson.findMember "details" (evidence_members t)) = some t.details := by
  obtain ⟨hevidence, hdetails⟩ := findMember_evidence_members t
  rw [hevidence, hdetails]
  constructor
  · split_ifs with hempty
    · exact congrArg some (OrderedMap.ext (List.isEmpty_iff.1 hempty).symm)
    · exact parse_evidence_object h.evidence hmade.evidence
  · split_ifs with hempty
    · exact congrArg some (List.isEmpty_iff.1 hempty).symm
    · exact parse_details_array h.details

/-- A record is read back as it was. -/
theorem parse_test_item {t : TestRecord} (h : t.Plain) (hmade : t.Made) :
    parse_test (session_test_item t) = .ok t := by
  have htext : c_str (test_result_text t.result) = test_result_text t.result :=
    c_str_eq (by cases t.result <;> decide)
  obtain ⟨hevidence, hdetails⟩ := parse_optional h hmade
  have hcount := json_size_ofNat h.attempt_count
  unfold parse_test session_test_item
  cases hcompleted : t.completed
  · have hresult := hmade.result hcompleted
    simp [string_member, bool_member, number_member, hevidence, hdetails, hcount, c_str_eq h.id,
      c_str_eq h.name, c_str_eq h.attempt_started_at, c_str_eq h.attempt_finished_at,
      c_str_eq h.completed_at]
    cases t
    cases hcompleted
    cases hresult
    rfl
  · simp [string_member, bool_member, number_member, hevidence, hdetails, hcount, c_str_eq h.id,
      c_str_eq h.name, c_str_eq h.attempt_started_at, c_str_eq h.attempt_finished_at,
      c_str_eq h.completed_at, htext]
    cases t
    cases hcompleted
    rfl

theorem parse_tests_map {tests : List TestRecord} (h : ∀ t ∈ tests, t.Plain)
    (hmade : ∀ t ∈ tests, t.Made) :
    parse_tests (tests.map session_test_item) = .ok tests := by
  induction tests with
  | nil => rfl
  | cons t tests ih =>
    rw [List.map_cons, parse_tests, parse_test_item (h t List.mem_cons_self)
      (hmade t List.mem_cons_self), ih (fun t ht => h t (List.mem_cons_of_mem _ ht))
      fun t ht => hmade t (List.mem_cons_of_mem _ ht)]

/-! ## Sessions -/

/-- The strings of a session are free of NUL, and its counts are such that a double holds. -/
@[mk_iff] structure SessionManager.Plain (m : SessionManager) : Prop where
  session_id : NulFree m.session_id
  sequence_number : m.sequence_number < 2 ^ 53
  started_at : NulFree m.started_at
  updated_at : NulFree m.updated_at
  completed_at : NulFree m.completed_at
  current_test_id : NulFree m.current_test_id
  result_path : NulFree m.result_path
  sku : NulFree m.metadata.sku
  serial_number : NulFree m.metadata.serial_number
  station : NulFree m.metadata.station
  firmware : NulFree m.metadata.firmware
  commit : NulFree m.metadata.commit
  tests : ∀ t ∈ m.tests, t.Plain

instance (m : SessionManager) : Decidable m.Plain := decidable_of_iff _ (m.plain_iff).symm

/-- The session is such as the operations make it. -/
structure SessionManager.Made (m : SessionManager) : Prop where
  updated_at : m.updated_at ≠ ""
  tests : ∀ t ∈ m.tests, t.Made

/-- What a session is read back as. -/
def SessionManager.loaded (m : SessionManager) : LoadedSession where
  state := m.state
  id := m.session_id
  sequence_number := m.sequence_number
  started_at := m.started_at
  updated_at := m.updated_at
  completed_at := m.completed_at
  current_test_id := m.current_test_id
  result_path := m.result_path
  metadata := m.metadata
  tests := m.tests

/-- A session is read back as it was. -/
theorem parse_session_root_document {m : SessionManager} (h : m.Plain) (hmade : m.Made) :
    parse_session_root m.session_document = .ok m.loaded := by
  have hstate : c_str (session_state_text m.state) = session_state_text m.state :=
    c_str_eq (by cases m.state <;> decide)
  have hschema : CJson.valueint (.ofNat K_SESSION_SCHEMA_VERSION) = K_SESSION_SCHEMA_VERSION := by
    decide +kernel
  have hsequence := json_size_ofNat h.sequence_number
  unfold parse_session_root SessionManager.session_document
  simp [string_member, number_member, hstate, hschema, hsequence,
    parse_tests_map h.tests hmade.tests,
    c_str_eq h.session_id, c_str_eq h.started_at, c_str_eq h.updated_at, c_str_eq h.completed_at,
    c_str_eq h.current_test_id, c_str_eq h.result_path, c_str_eq h.sku, c_str_eq h.serial_number,
    c_str_eq h.station, c_str_eq h.firmware, c_str_eq h.commit, nonempty_or, hmade.updated_at,
    SessionManager.loaded]

/-! ## Printing -/

/-- The evidence of every record is such as `record_evidence` accepts. -/
def SessionManager.ValidEvidence (m : SessionManager) : Prop :=
  ∀ t ∈ m.tests, ∀ entry ∈ t.evidence.entries, valid_evidence entry = true

theorem SessionManager.Made.validEvidence {m : SessionManager} (h : m.Made) :
    m.ValidEvidence := fun t ht => (h.tests t ht).evidence

theorem printable_evidence_member {entry : String × EvidenceValue}
    (h : valid_evidence entry = true) :
    NulFree (evidence_member entry).1 ∧ (evidence_member entry).2.Printable := by
  obtain ⟨key, value⟩ := entry
  cases value with
  | boolean value => exact ⟨nulFree_c_str key, trivial⟩
  | number value =>
    simp only [valid_evidence, Bool.and_eq_true] at h
    exact ⟨nulFree_c_str key, h.2⟩
  | string value => exact ⟨nulFree_c_str key, nulFree_c_str value⟩

theorem printable_details_array (details : List NamedTestResult) :
    (details_array details).Printable := by
  refine CJson.printableItems_iff.2 fun item hitem => ?_
  obtain ⟨detail, -, rfl⟩ := List.mem_map.1 hitem
  exact ⟨by decide, nulFree_c_str _, by decide, nulFree_c_str _, trivial⟩

theorem printableMembers_evidence_members {t : TestRecord}
    (h : ∀ entry ∈ t.evidence.entries, valid_evidence entry = true) :
    CJson.PrintableMembers (evidence_members t) := by
  refine CJson.printableMembers_iff.2 fun member hmember => ?_
  rcases List.mem_append.1 hmember with hmember | hmember
  · split_ifs at hmember
    · cases hmember
    · obtain rfl := List.mem_singleton.1 hmember
      have hkey : NulFree "evidence" := by decide
      refine ⟨hkey, CJson.printableMembers_iff.2 fun entry hentry => ?_⟩
      obtain ⟨e, he, rfl⟩ := List.mem_map.1 hentry
      exact printable_evidence_member (h e he)
  · split_ifs at hmember
    · cases hmember
    · obtain rfl := List.mem_singleton.1 hmember
      have hkey : NulFree "details" := by decide
      exact ⟨hkey, printable_details_array _⟩

theorem printableMembers_append {ms ns : List (String × CJson)} (hms : CJson.PrintableMembers ms)
    (hns : CJson.PrintableMembers ns) : CJson.PrintableMembers (ms ++ ns) := by
  refine CJson.printableMembers_iff.2 fun member hmember => ?_
  rcases List.mem_append.1 hmember with hmember | hmember
  · exact CJson.printableMembers_iff.1 hms member hmember
  · exact CJson.printableMembers_iff.1 hns member hmember

theorem printable_session_test_item {t : TestRecord}
    (h : ∀ entry ∈ t.evidence.entries, valid_evidence entry = true) :
    (session_test_item t).Printable := by
  refine printableMembers_append (printableMembers_append ?_ ?_)
    (printableMembers_evidence_members h)
  · simp +decide [CJson.PrintableMembers, string_member, bool_member, number_member,
      CJson.Printable, nulFree_c_str]
  · split_ifs
    · exact ⟨by decide, nulFree_c_str _, trivial⟩
    · trivial

/-- The document of a session can be printed. -/
theorem printable_session_document {m : SessionManager} (h : m.ValidEvidence) :
    m.session_document.Printable := by
  have htests : CJson.PrintableItems (m.tests.map session_test_item) := by
    refine CJson.printableItems_iff.2 fun item hitem => ?_
    obtain ⟨t, ht, rfl⟩ := List.mem_map.1 hitem
    exact printable_session_test_item (h t ht)
  simp +decide [SessionManager.session_document, CJson.Printable, CJson.PrintableMembers,
    string_member, number_member, nulFree_c_str, htests]

/-! ## What is accepted -/

theorem valid_of_parse_evidence_value {member : String × CJson} {value : EvidenceValue}
    (h : parse_evidence_value member = some value) :
    valid_evidence (member.1, value) = true := by
  obtain ⟨key, item⟩ := member
  cases item <;> simp only [parse_evidence_value] at h
  case bool | string =>
    split_ifs at h with hkey
    cases h
    simp [valid_evidence, hkey]
  case number =>
    split_ifs at h with hkey hfinite
    cases h
    simp [valid_evidence, hkey, hfinite]
  all_goals cases h

theorem valid_of_parse_evidence_members {members : List (String × CJson)}
    {evidence result : TestEvidence} (h : parse_evidence_members members evidence = some result)
    (hvalid : ∀ entry ∈ evidence.entries, valid_evidence entry = true) :
    ∀ entry ∈ result.entries, valid_evidence entry = true := by
  induction members generalizing evidence with
  | nil =>
    cases h
    exact hvalid
  | cons member members ih =>
    rw [parse_evidence_members] at h
    split at h
    case h_1 value hvalue =>
      refine ih h fun entry hentry => ?_
      rcases Assoc.mem_emplace hentry with rfl | hentry
      · exact valid_of_parse_evidence_value hvalue
      · exact hvalid entry hentry
    · cases h

theorem valid_of_parse_evidence {item : Option CJson} {evidence : TestEvidence}
    (h : parse_evidence item = some evidence) :
    ∀ entry ∈ evidence.entries, valid_evidence entry = true := by
  have hempty : ∀ entry ∈ (OrderedMap.empty : TestEvidence).entries,
      valid_evidence entry = true := fun entry hentry => absurd hentry List.not_mem_nil
  unfold parse_evidence at h
  split at h
  · cases h
    exact hempty
  · exact valid_of_parse_evidence_members h hempty
  · cases h

theorem valid_of_parse_test {test : CJson} {record : TestRecord}
    (h : parse_test test = .ok record) :
    ∀ entry ∈ record.evidence.entries, valid_evidence entry = true := by
  unfold parse_test at h
  split at h
  · split at h
    · dsimp only at h
      split at h
      case h_1 evidence _ hevidence _ =>
        cases h
        exact valid_of_parse_evidence hevidence
      · cases h
    · cases h
  · cases h

theorem valid_of_parse_tests {tests : List CJson} {records : List TestRecord}
    (h : parse_tests tests = .ok records) :
    ∀ t ∈ records, ∀ entry ∈ t.evidence.entries, valid_evidence entry = true := by
  induction tests generalizing records with
  | nil =>
    cases h
    exact fun t ht => absurd ht List.not_mem_nil
  | cons test tests ih =>
    rw [parse_tests] at h
    split at h
    case h_1 record hrecord =>
      split at h
      case h_1 rest hrest =>
        cases h
        exact List.forall_mem_cons.2 ⟨valid_of_parse_test hrecord, ih hrest⟩
      · cases h
    · cases h

/-- What is read from a document has its result path and evidence that can be printed. -/
theorem parse_session_root_ok {root : CJson} {loaded : LoadedSession}
    (h : parse_session_root root = .ok loaded) :
    loaded.result_path = (json_string root "result_path").getD "" ∧
      ∀ t ∈ loaded.tests, ∀ entry ∈ t.evidence.entries, valid_evidence entry = true := by
  unfold parse_session_root at h
  split at h
  · split at h
    · split at h
      · cases h
      · split at h
        · dsimp only at h
          split at h
          · split at h
            case h_1 records hrecords =>
              cases h
              exact ⟨rfl, valid_of_parse_tests hrecords⟩
            · cases h
          · cases h
        · cases h
    · cases h
  · cases h

end FactoryTest.Session
