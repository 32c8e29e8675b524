import FactoryTest.Lib.Double
import FactoryTest.Lib.OrderedMap
import Mathlib.Data.String.Basic

/-!
# Test records

The data of a test session, from `src/model/test_session.h`. Strings are lists of characters
that stand for bytes.
-/

namespace FactoryTest.Session

/-- `TestResult`. -/
inductive TestResult
  | PASS
  | FAIL
  deriving DecidableEq

/-- `NamedTestResult`. -/
structure NamedTestResult where
  test_name : String
  result : TestResult := .FAIL
  deriving DecidableEq

/-- `TestDefinition`. -/
structure TestDefinition where
  id : String
  name : String
  deriving DecidableEq

/-- `SessionMetadata`. -/
structure SessionMetadata where
  sku : String := ""
  serial_number : String := ""
  station : String := "AUTO_TEST"
  firmware : String := ""
  commit : String := ""
  deriving DecidableEq

/-- `EvidenceValue`: a value with its type; the members of the other types are not kept. -/
inductive EvidenceValue
  | boolean (bool_value : Bool)
  | number (number_value : Double)
  | string (string_value : String)
  deriving DecidableEq

/-- `TestEvidence`. -/
abbrev TestEvidence := OrderedMap String EvidenceValue

/-- `TestRecord`. -/
structure TestRecord where
  id : String
  name : String
  completed : Bool := false
  result : TestResult := .FAIL
  attempted : Bool := false
  attempt_count : ℕ := 0
  attempt_started_at : String := ""
  attempt_finished_at : String := ""
  completed_at : String := ""
  evidence : TestEvidence := .empty
  details : List NamedTestResult := []
  deriving DecidableEq

/-- `SessionState`. -/
inductive SessionState
  | NONE
  | IN_PROGRESS
  | COMPLETED
  | ABANDONED
  deriving DecidableEq

/-- `SessionSummary`. -/
structure SessionSummary where
  state : SessionState
  total : ℕ
  completed : ℕ
  passed : ℕ
  failed : ℕ
  missing_evidence : ℕ
  deriving DecidableEq

/-- `test_result_text`. -/
def test_result_text : TestResult → String
  | .PASS => "PASS"
  | .FAIL => "FAIL"

/-- `test_result_from_text`; `none` is the null pointer. -/
def test_result_from_text (value : Option String) : TestResult :=
  if value = some "PASS" then .PASS else .FAIL

/-- `session_state_text`. -/
def session_state_text : SessionState → String
  | .IN_PROGRESS => "in_progress"
  | .COMPLETED => "completed"
  | .ABANDONED => "abandoned"
  | .NONE => "none"

/-- `session_state_from_text`. -/
def session_state_from_text (value : String) : SessionState :=
  if value = "in_progress" then .IN_PROGRESS
  else if value = "completed" then .COMPLETED
  else if value = "abandoned" then .ABANDONED
  else .NONE

@[simp] theorem test_result_from_text_text (result : TestResult) :
    test_result_from_text (some (test_result_text result)) = result := by
  cases result <;> decide

@[simp] theorem session_state_from_text_text (state : SessionState) :
    session_state_from_text (session_state_text state) = state := by
  cases state <;> decide

/-- `nonempty_or`. -/
def nonempty_or (value fallback : String) : String := if value = "" then fallback else value

/-- `short_commit`. -/
def short_commit (value : String) : String :=
  String.ofList ((nonempty_or value "UNKNOWN").toList.take 8)

/-- The first record with the id, if there is one: `find_test_`. -/
def find_test (tests : List TestRecord) (test_id : String) : Option TestRecord :=
  tests.find? fun t => t.id = test_id

/-- Change the record that `find_test` finds. -/
def modify_test (test_id : String) (f : TestRecord → TestRecord) :
    List TestRecord → List TestRecord
  | [] => []
  | t :: tests => if t.id = test_id then f t :: tests else t :: modify_test test_id f tests

/-- `next_incomplete_index`. -/
def next_incomplete_index (tests : List TestRecord) : ℕ := tests.findIdx fun t => !t.completed

/-- `summary`. -/
def summary (state : SessionState) (tests : List TestRecord) : SessionSummary where
  state := state
  total := tests.length
  completed := tests.countP (·.completed)
  passed := tests.countP fun t => t.completed && t.result = .PASS
  failed := tests.countP fun t => t.completed && t.result ≠ .PASS
  missing_evidence := tests.countP fun t => t.completed && t.evidence.entries.isEmpty

/-! ## Changing one record -/

section

variable {tests : List TestRecord} {test_id : String} {f : TestRecord → TestRecord}

theorem modify_test_cons (t : TestRecord) :
    modify_test test_id f (t :: tests) =
      if t.id = test_id then f t :: tests else t :: modify_test test_id f tests := rfl

theorem find_test_id {t : TestRecord} (h : find_test tests test_id = some t) : t.id = test_id := by
  simpa using List.find?_some h

theorem mem_of_find_test {t : TestRecord} (h : find_test tests test_id = some t) : t ∈ tests :=
  List.mem_of_find?_eq_some h

/-- Putting the old record back undoes a change. -/
theorem modify_test_restore {t : TestRecord} (h : find_test tests test_id = some t)
    (hf : ∀ t, (f t).id = t.id) :
    modify_test test_id (fun _ => t) (modify_test test_id f tests) = tests := by
  induction tests with
  | nil => rfl
  | cons d tests ih =>
    rw [modify_test_cons]
    split_ifs with hd
    · obtain rfl : d = t := by simpa [find_test, hd] using h
      rw [modify_test_cons, if_pos ((hf d).trans hd)]
    · have htail : find_test tests test_id = some t := by simpa [find_test, hd] using h
      rw [modify_test_cons, if_neg hd, ih htail]

theorem mem_modify_test {t : TestRecord} (h : t ∈ modify_test test_id f tests) :
    t ∈ tests ∨ ∃ d, find_test tests test_id = some d ∧ t = f d := by
  induction tests with
  | nil => cases h
  | cons d tests ih =>
    rw [modify_test_cons] at h
    split_ifs at h with hd
    · rcases List.mem_cons.1 h with rfl | h
      · exact .inr ⟨d, by simp [find_test, hd], rfl⟩
      · exact .inl (List.mem_cons_of_mem _ h)
    · rcases List.mem_cons.1 h with rfl | h
      · exact .inl List.mem_cons_self
      · refine (ih h).imp (List.mem_cons_of_mem _) ?_
        rintro ⟨d', hd', rfl⟩
        exact ⟨d', by simpa [find_test, hd] using hd', rfl⟩

/-- What a change keeps of every record, it keeps of the list. -/
theorem map_modify_test {β : Type*} {g : TestRecord → β} (hf : ∀ t, g (f t) = g t) :
    (modify_test test_id f tests).map g = tests.map g := by
  induction tests with
  | nil => rfl
  | cons d tests ih =>
    rw [modify_test_cons]
    split_ifs
    · rw [List.map_cons, List.map_cons, hf]
    · rw [List.map_cons, List.map_cons, ih]

end

end FactoryTest.Session
