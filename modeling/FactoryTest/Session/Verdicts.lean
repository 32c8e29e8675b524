import FactoryTest.Session.Operations
import Mathlib.Data.List.Forall2

/-!
# What becomes of a verdict

A record is *kept* by a step if, once it is completed, its verdict and everything the verdict
stands on are the same after the step (`TestRecord.Kept`). `begin_test` and `record_evidence`
refuse a completed record. `complete_test` does not: a second verdict for the same test is
written over the first (`Overwrites`), and that is the only way in which a verdict changes
(`verdicts_kept_iff`).

Between two calls a completed record is always a persisted one: `complete_test` takes the
verdict back if the session file cannot be written.
-/

namespace FactoryTest.Session

/-- The verdict of a record and what it stands on. -/
structure Verdict where
  completed : Bool
  result : TestResult
  details : List NamedTestResult
  completed_at : String
  evidence : TestEvidence
  attempted : Bool
  attempt_count : ℕ

namespace TestRecord

/-- The verdict of a record. -/
def verdict (t : TestRecord) : Verdict :=
  ⟨t.completed, t.result, t.details, t.completed_at, t.evidence, t.attempted, t.attempt_count⟩

/-- A completed record keeps its verdict. -/
def Kept (t t' : TestRecord) : Prop := t.completed = true → t'.verdict = t.verdict

theorem Kept.refl (t : TestRecord) : t.Kept t := fun _ => rfl

theorem Kept.trans {t t' t'' : TestRecord} (h : t.Kept t') (h' : t'.Kept t'') : t.Kept t'' := by
  intro hcompleted
  have hverdict := h hcompleted
  have hcompleted' : t'.completed = true :=
    (congrArg Verdict.completed hverdict).trans hcompleted
  exact (h' hcompleted').trans hverdict

theorem kept_of_not_completed {t t' : TestRecord} (h : t.completed = false) : t.Kept t' :=
  fun hcompleted => absurd (h.symm.trans hcompleted) Bool.false_ne_true

/-- A second verdict keeps the first one if it repeats it. -/
theorem kept_mark_completed {t : TestRecord} {result : TestResult}
    {details : List NamedTestResult} {now : String} :
    t.Kept (mark_completed result details now t) ↔
      (t.completed = true → t.result = result ∧ t.details = details ∧ t.completed_at = now) := by
  refine forall_congr' fun hcompleted => ?_
  simp only [verdict, mark_completed, Verdict.mk.injEq, hcompleted, true_and, and_true, eq_comm]

end TestRecord

/-- Every record keeps its verdict. -/
def KeepsVerdicts (w w' : World) : Prop :=
  List.Forall₂ TestRecord.Kept w.manager.tests w'.manager.tests

theorem KeepsVerdicts.of_eq {w w' : World} (h : w'.manager.tests = w.manager.tests) :
    KeepsVerdicts w w' := by
  unfold KeepsVerdicts
  rw [h]
  exact List.forall₂_same.2 fun t _ => .refl t

theorem KeepsVerdicts.refl (w : World) : KeepsVerdicts w w := .of_eq rfl

theorem KeepsVerdicts.trans {w w' w'' : World} (h : KeepsVerdicts w w')
    (h' : KeepsVerdicts w' w'') : KeepsVerdicts w w'' := by
  unfold KeepsVerdicts at *
  generalize w.manager.tests = ts at *
  generalize w'.manager.tests = ts' at *
  generalize w''.manager.tests = ts'' at *
  induction h generalizing ts'' with
  | nil => exact h'
  | cons hd _ ih =>
    cases h' with
    | cons hd' htl' => exact .cons (hd.trans hd') (ih _ htl')

/-- Changing the record of one test keeps the verdicts iff it keeps that one. -/
theorem forall₂_kept_modify_test {tests : List TestRecord} {test_id : String} {t : TestRecord}
    {f : TestRecord → TestRecord} (h : find_test tests test_id = some t) :
    List.Forall₂ TestRecord.Kept tests (modify_test test_id f tests) ↔ t.Kept (f t) := by
  induction tests with
  | nil => cases h
  | cons d tests ih =>
    rw [modify_test_cons]
    split_ifs with hd
    · obtain rfl : d = t := by simpa [find_test, hd] using h
      rw [List.forall₂_cons]
      exact and_iff_left (List.forall₂_same.2 fun t _ => .refl t)
    · rw [List.forall₂_cons, ih (by simpa [find_test, hd] using h)]
      exact and_iff_right (.refl d)

/-! ## One call -/

/-- The call gives a completed record of the session in progress a verdict that is not the one
it has, and the session file can be written. -/
def Overwrites (cJSON : CJsonLibrary) (w : World) : Operation → Prop
  | .complete_test test_id result details a =>
    match active_test w.manager test_id with
    | some test =>
      test.completed = true ∧
        ¬ (test.result = result ∧ test.details = details ∧
          test.completed_at = iso_timestamp a.now) ∧
        Persists cJSON (w.manager.with_verdict test_id result details a.now) a.write
    | none => False
  | _ => False

instance (cJSON : CJsonLibrary) (w : World) (op : Operation) :
    Decidable (Overwrites cJSON w op) := by
  induction op using Operation.casesOn with
  | complete_test test_id result details a =>
    dsimp only [Overwrites]
    induction active_test w.manager test_id using Option.casesOn with
    | some test =>
      show Decidable (_ ∧ _)
      infer_instance
    | none => exact instDecidableFalse
  | _ => exact instDecidableFalse

section

variable {cJSON : CJsonLibrary} {w : World} {r : World × Bool} {m : SessionManager}
  {write : WriteAnswer}

theorem Unchanged.keepsVerdicts (h : Unchanged w r) : KeepsVerdicts w r.1 :=
  .of_eq (by rw [h.2.1])

theorem Stored.keepsVerdicts (h : Stored cJSON w m write r)
    (hm : List.Forall₂ TestRecord.Kept w.manager.tests m.tests) : KeepsVerdicts w r.1 := by
  rw [h.2]
  exact hm

theorem tests_finalize {now : TimePoint} {write_result : WriteAnswer} :
    (finalize cJSON w now write_result write).1.manager.tests = w.manager.tests := by
  rcases @finalize_spec cJSON w now write write_result with
    ⟨-, h⟩ | ⟨h, -⟩ | ⟨-, -, ⟨-, h⟩ | ⟨-, h⟩⟩
  · rw [h]
  · rw [h.2.1]
  · rw [h.2.1]
    rfl
  · rw [h]
    rfl

/-- What `complete_test` makes of the records. -/
theorem tests_complete_test {test_id : String} {result : TestResult}
    {details : List NamedTestResult} {a : Answers} {test : TestRecord}
    (htest : active_test w.manager test_id = some test)
    (hpersists : Persists cJSON (w.manager.with_verdict test_id result details a.now) a.write) :
    (complete_test cJSON w test_id result details a).1.manager.tests =
      modify_test test_id (mark_completed result details (iso_timestamp a.now))
        w.manager.tests := by
  rcases @complete_test_spec cJSON w test_id a result details with
    ⟨-, h⟩ | ⟨-, m, -, rfl, -, ⟨-, h⟩ | ⟨-, h⟩⟩
  · exact absurd hpersists (h test htest)
  · rw [h]
    rfl
  · rw [h, tests_finalize]
    rfl

/-- A call keeps the verdicts iff it does not write over one. -/
theorem keepsVerdicts_operate (op : Operation) :
    KeepsVerdicts w (operate cJSON w op).1 ↔ ¬ Overwrites cJSON w op := by
  cases op with
  | set_current_test test_id a =>
    refine iff_of_true ?_ id
    rcases @set_current_test_spec cJSON w test_id a with h | h | ⟨-, -, h⟩
    · exact .of_eq (by rw [operate, h])
    · exact h.keepsVerdicts
    · exact h.keepsVerdicts (KeepsVerdicts.refl w)
  | begin_test test_id a =>
    refine iff_of_true ?_ id
    rcases @begin_test_spec cJSON w test_id a with h | ⟨test, -, hfind, hcompleted, h⟩
    · exact h.keepsVerdicts
    · exact h.keepsVerdicts
        ((forall₂_kept_modify_test hfind).2 (TestRecord.kept_of_not_completed hcompleted))
  | record_evidence test_id evidence a =>
    refine iff_of_true ?_ id
    rcases @record_evidence_spec cJSON w test_id a evidence with
      h | ⟨test, -, hfind, hcompleted, -, h⟩
    · exact h.keepsVerdicts
    · exact h.keepsVerdicts
        ((forall₂_kept_modify_test hfind).2 (TestRecord.kept_of_not_completed hcompleted))
  | complete_test test_id result details a =>
    cases htest : active_test w.manager test_id with
    | none =>
      refine iff_of_true (.of_eq ?_) ?_
      · simp only [operate, complete_test, htest]
        rfl
      · simp only [Overwrites, htest, not_false_eq_true]
    | some test =>
      simp only [Overwrites, htest]
      by_cases hpersists :
          Persists cJSON (w.manager.with_verdict test_id result details a.now) a.write
      · unfold KeepsVerdicts operate
        dsimp only
        rw [tests_complete_test htest hpersists,
          forall₂_kept_modify_test (active_test_eq_some htest).2,
          TestRecord.kept_mark_completed]
        simp only [hpersists, and_true, not_and_not_right]
      · refine iff_of_true ?_ fun h => hpersists h.2.2
        rcases @complete_test_spec cJSON w test_id a result details with
          ⟨h, -⟩ | ⟨-, m, -, rfl, h, -⟩
        · exact h.keepsVerdicts
        · exact absurd h hpersists
  | finalize a => exact iff_of_true (.of_eq tests_finalize) id
  | abandon a =>
    refine iff_of_true ?_ id
    rcases @abandon_spec cJSON w a with ⟨-, h⟩ | ⟨-, h | h⟩
    · exact .of_eq (by rw [operate, h])
    · exact h.keepsVerdicts
    · exact h.keepsVerdicts (KeepsVerdicts.refl w)

end

/-! ## A whole session -/

/-- Along a run every record keeps its verdict from any point to any later one iff no call
writes over a verdict. -/
theorem verdicts_kept_iff (cJSON : CJsonLibrary) (w : World) (ops : List Operation) :
    (∀ before middle after, ops = before ++ middle ++ after →
      KeepsVerdicts ((session cJSON).run ⟨w, []⟩ before).state
        ((session cJSON).run ⟨w, []⟩ (before ++ middle)).state) ↔
      (session cJSON).Along (fun c op => ¬ Overwrites cJSON c.state op) ⟨w, []⟩ ops := by
  rw [Machine.between_iff_along KeepsVerdicts.refl
    fun _ _ _ => KeepsVerdicts.trans]
  exact Machine.along_congr fun c op => keepsVerdicts_operate op

/-- A test fails, and then passes. -/
def secondVerdict (result : TestResult) (now : TimePoint) : Operation :=
  .complete_test "input" result [] { now := now }

/-- A FAIL is replaced by a PASS. -/
theorem second_verdict_overwrites :
    ¬ ∀ (cJSON : CJsonLibrary) (directory : String) (tests : List TestDefinition)
      (metadata : SessionMetadata) (a : Answers) (before middle after ops : List Operation),
      let c := ⟨(start_new cJSON directory {} tests metadata a).1, []⟩
      ops = before ++ middle ++ after →
        KeepsVerdicts ((session cJSON).run c before).state
          ((session cJSON).run c (before ++ middle)).state := by
  intro hclaim
  have hkept := hclaim JsonText.jsonText "/sessions" samplePlan {} { now := sampleNow }
    [secondVerdict .FAIL sampleNow] [secondVerdict .PASS sampleLater] [] _ rfl
  exact (keepsVerdicts_operate _).1 hkept (by decide +kernel)

end FactoryTest.Session
