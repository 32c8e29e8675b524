import FactoryTest.Json.Compact
import FactoryTest.Session.Views
import FactoryTest.TestSequence
import FactoryTest.Upload.Protocol

/-!
# The size of an upload

The tester uploads the verdict of a completed session in one line of the protocol, which has at
most 511 bytes.

**The property.** The upload document of every completed session of the product's test plan is
admitted by `queue`.

**Where it fails.** The document has the station, the serial number and the firmware as they
are, and no code bounds them: a station of 120 characters is one the configuration accepts, and
with it no session can be uploaded (`long_station_never_uploaded`).

**Where it holds** (`upload_admitted_iff`). Exactly if the metadata, escaped, the sequence number
and one byte for every failed test fit into what the keys of the plan leave (`room`).
-/

namespace FactoryTest.Session

open JsonText

/-! ## The product's test plan -/

/-- `product_model_sku`. -/
def product_model_sku : ProductModel → String
  | .CARDPUTER_ZERO => "C154"
  | .CARDPUTER_ZERO_LITE => "C155"

/-- `session_metadata`, of a serial number that was read and of a build. -/
def session_metadata (model : ProductModel) (station_id serial_number firmware commit : String) :
    SessionMetadata where
  sku := product_model_sku model
  serial_number := serial_number
  station := station_id
  firmware := firmware
  commit := commit

/-- A step of the program on a product: its plan is the product's. -/
def ProgramStep.OfProduct (model : ProductModel) : ProgramStep → Prop
  | .start_new tests _ _ | .load_latest_recoverable tests _ => tests = test_sequence_plan model
  | .operation _ | .relaunch => True

/-! ## What takes part in the size -/

/-- The length of a string in a text, without its quotes. -/
def escaped_length (s : String) : ℕ := ((c_str s).toList.flatMap escape).length

/-- The length of the metadata in the upload document. -/
def SessionMetadata.upload_length (metadata : SessionMetadata) : ℕ :=
  escaped_length metadata.sku + escaped_length metadata.serial_number +
    escaped_length metadata.station + escaped_length metadata.firmware +
    escaped_length metadata.commit

/-- What the command and the keys of the product's plan leave of a protocol line. -/
def room : ProductModel → ℕ
  | .CARDPUTER_ZERO => 114
  | .CARDPUTER_ZERO_LITE => 139

section Size

variable {number : Double → List Char} {m : SessionManager}

theorem memberLength_string_member (key value : String) :
    memberLength number (string_member key value) =
      (printString key).length + escaped_length value + 4 := by
  simp only [memberLength, string_member, compactValue, length_printString (c_str value),
    escaped_length]
  omega

theorem memberLength_upload_test_member (t : TestRecord) :
    memberLength number (upload_test_member t) =
      (printString (c_str t.id)).length + 6 + if t.completed && t.result = .PASS then 0 else 1 := by
  cases h : t.completed && t.result = .PASS <;>
    simp [memberLength, upload_test_member, h, compactValue]

/-- The tests take what their ids take, and one byte more for every failed one. -/
theorem sum_upload_test_member (tests : List TestRecord) :
    ((tests.map upload_test_member).map (memberLength number)).sum =
      (tests.map fun t => (printString (c_str t.id)).length + 6).sum +
        tests.countP fun t => !(t.completed && t.result = .PASS) := by
  induction tests with
  | nil => rfl
  | cons t tests ih =>
    simp only [List.map_cons, List.sum_cons, ih, memberLength_upload_test_member, List.countP_cons]
    cases t.completed && t.result = .PASS <;> simp <;> omega

/-- What the tests of a plan take if all of them have passed. -/
def planLength (plan : List TestDefinition) : ℕ :=
  (plan.map fun test => (printString (c_str test.id)).length + 6).sum

theorem escaped_length_status {passed : Prop} [Decidable passed] :
    escaped_length (if passed then "PASS" else "FAIL") = 4 := by
  split_ifs <;> decide

theorem length_upload_document (htests : m.tests ≠ []) :
    (compactValue number m.upload_document).length =
      planLength (m.tests.map TestRecord.definition) +
        m.tests.countP (fun t => !(t.completed && t.result = .PASS)) +
        m.metadata.upload_length + (number (.ofNat m.sequence_number)).length + 97 := by
  have hkeys : (printString "test_details").length = 14 ∧ (printString "seq").length = 5 ∧
      (printString "sku").length = 5 ∧ (printString "sn").length = 4 ∧
      (printString "station").length = 9 ∧ (printString "status").length = 8 ∧
      (printString "firmware").length = 10 ∧ (printString "commit").length = 8 := by decide
  have hdetails : (compactValue number (.object (m.tests.map upload_test_member))).length =
      planLength (m.tests.map TestRecord.definition) +
        m.tests.countP (fun t => !(t.completed && t.result = .PASS)) + 1 := by
    rw [length_compactValue_object number (by simpa using htests), sum_upload_test_member,
      planLength, List.map_map]
    rfl
  rw [SessionManager.upload_document, length_compactValue_object number (List.cons_ne_nil _ _)]
  simp only [List.map_cons, List.map_nil, List.sum_cons, List.sum_nil, memberLength_string_member,
    escaped_length_status, hkeys, SessionMetadata.upload_length]
  simp only [memberLength, number_member, hkeys, compactValue, hdetails]
  omega

theorem planLength_room (model : ProductModel) :
    Upload.K_RESULT_COMMAND.length + 1 + (planLength (test_sequence_plan model) + room model + 97) =
      Upload.K_MAX_PROTOCOL_LINE := by
  cases model <;> decide +kernel

theorem printable_upload_document : m.upload_document.Printable := by
  have htests : CJson.PrintableMembers (m.tests.map upload_test_member) := by
    refine CJson.printableMembers_iff.2 fun member hmember => ?_
    obtain ⟨t, -, rfl⟩ := List.mem_map.1 hmember
    exact ⟨nulFree_c_str _, trivial⟩
  simp +decide [SessionManager.upload_document, CJson.Printable, CJson.PrintableMembers,
    string_member, number_member, nulFree_c_str, htests]

theorem strip_line_breaks_eq {payload : List Char} (h : Unbroken payload) :
    Upload.strip_line_breaks payload = payload := by
  unfold Upload.strip_line_breaks
  have hreturn : payload.filter (· != '\r') = payload :=
    List.filter_eq_self.2 fun c hc => by simpa using (h c hc).1
  have hfeed : payload.filter (· != '\n') = payload :=
    List.filter_eq_self.2 fun c hc => by simpa using (h c hc).2
  rw [hreturn, hfeed]

end Size

section

variable {cJSON : CJsonLibrary} {directory : String} {number : Double → List Char}

/-- A session on a product has the product's plan, or none. -/
theorem plan_of_product {model : ProductModel} {disk : Disk} {steps : List ProgramStep}
    (h : ∀ e ∈ steps, e.OfProduct model) :
    let s := ((planned cJSON directory).run ⟨(⟨{}, disk⟩, []), []⟩ steps).state
    s.2 = [] ∨ s.2 = test_sequence_plan model := by
  refine Machine.invariant (G := fun _ e => e.OfProduct model)
    (I := fun c : Config (World × List TestDefinition) Bool =>
      c.state.2 = [] ∨ c.state.2 = test_sequence_plan model) ?_ (.inl rfl)
    (Machine.along_of_forall h)
  intro c e hc he
  cases e with
  | operation | relaunch => exact hc
  | start_new | load_latest_recoverable =>
    simp only [Machine.next, planned]
    split
    · exact .inr he
    · exact hc

/-- The payload of a completed session of a plan, and its size. -/
theorem length_payload {m : SessionManager} {plan : List TestDefinition}
    (hprints : PrintsCompact cJSON number) (hresult : m.HasResult)
    (hviews : CompletedViews cJSON m plan)
    (hplan : m.tests.map TestRecord.definition = plan) :
    ∃ payload, m.build_upload_result_json cJSON false = some (String.ofList payload) ∧
      Unbroken payload ∧
      payload.length = planLength plan + (summary m.state m.tests).failed +
        m.metadata.upload_length + (number (.ofNat m.sequence_number)).length + 97 := by
  have hfailed : m.tests.countP (fun t => !(t.completed && t.result = .PASS)) =
      (summary m.state m.tests).failed := by
    refine List.countP_congr fun t ht => ?_
    simp [hresult.completed t ht]
  have hlength := @length_upload_document number m hresult.tests
  rw [hplan, hfailed] at hlength
  refine ⟨_, ?_, unbroken_compactValue hprints.number m.upload_document, hlength⟩
  have hne : compactValue number m.upload_document ≠ [] := by
    intro hnil
    rw [hnil] at hlength
    simp at hlength
  rw [hviews.upload_text, print_json, if_neg Bool.false_ne_true,
    hprints.text _ printable_upload_document]
  simpa using hne

/-- The payload of a session of the product's plan is admitted iff it fits into the room. -/
theorem payload_admitted_iff {m : SessionManager} {model : ProductModel}
    (hprints : PrintsCompact cJSON number) (hresult : m.HasResult)
    (hviews : CompletedViews cJSON m (test_sequence_plan model))
    (hplan : m.tests.map TestRecord.definition = test_sequence_plan model) :
    ∃ payload, m.build_upload_result_json cJSON false = some payload ∧
      (Upload.admissible (Upload.strip_line_breaks payload.toList) = true ↔
        m.metadata.upload_length + (number (.ofNat m.sequence_number)).length +
          (summary m.state m.tests).failed ≤ room model) := by
  obtain ⟨payload, hbuild, hunbroken, hlength⟩ := length_payload hprints hresult hviews hplan
  have hroom := planLength_room model
  refine ⟨String.ofList payload, hbuild, ?_⟩
  have hne : payload ≠ [] := by
    rintro rfl
    simp at hlength
  rw [String.toList_ofList, strip_line_breaks_eq hunbroken, Upload.admissible, hlength,
    List.isEmpty_eq_false_iff.2 hne, Bool.not_false, Bool.true_and, decide_eq_true_eq]
  omega

/-- What a completed session of the product's plan is known for. -/
theorem completed_of_product {model : ProductModel} {disk : Disk} {steps : List ProgramStep}
    (hsteps : ∀ e ∈ steps, e.OfProduct model) :
    let m := ((planned cJSON directory).run ⟨(⟨{}, disk⟩, []), []⟩ steps).state.1.manager
    m.state = .COMPLETED → m.HasResult ∧ CompletedViews cJSON m (test_sequence_plan model) ∧
      m.tests.map TestRecord.definition = test_sequence_plan model := by
  intro m hstate
  have hreached := @reached_run cJSON directory disk steps
  have hresult : m.HasResult := hreached.sealed hstate
  have hdefinitions := hreached.plan (by rw [hstate]; decide)
  have hplan := (plan_of_product hsteps).resolve_left fun hnone =>
    hresult.tests (List.map_eq_nil_iff.1 (hdefinitions.trans hnone))
  have hviews : CompletedViews cJSON m _ := hreached.views hstate
  rw [hplan] at hviews hdefinitions
  exact ⟨hresult, hviews, hdefinitions⟩

/-- In every completed session of the product's plan, `queue` admits the upload document iff
the metadata, the sequence number and the failed tests fit into the room that the plan leaves. -/
theorem upload_admitted_iff (cJSON : CJsonLibrary) (number : Double → List Char)
    (hprints : PrintsCompact cJSON number) (directory : String) (model : ProductModel) (disk : Disk)
    (steps : List ProgramStep) (hsteps : ∀ e ∈ steps, e.OfProduct model) :
    let m := ((planned cJSON directory).run ⟨(⟨{}, disk⟩, []), []⟩ steps).state.1.manager
    m.state = .COMPLETED → ∃ payload, m.build_upload_result_json cJSON false = some payload ∧
      (Upload.admissible (Upload.strip_line_breaks payload.toList) = true ↔
        m.metadata.upload_length + (number (.ofNat m.sequence_number)).length +
          (summary m.state m.tests).failed ≤ room model) := by
  intro m hstate
  obtain ⟨hresult, hviews, hplan⟩ := completed_of_product hsteps hstate
  exact payload_admitted_iff hprints hresult hviews hplan

end

/-! ## Stations -/

/-- Every test of the product's plan passes at a station. -/
def passSteps (station_id : String) : List ProgramStep :=
  .start_new (test_sequence_plan .CARDPUTER_ZERO)
      (session_metadata .CARDPUTER_ZERO station_id "10000000a1b2c3d4" "1.0.1" "0a1b2c3d")
      { now := sampleNow } ::
    (test_sequence_plan .CARDPUTER_ZERO).map fun test =>
      .operation (.complete_test test.id .PASS [] { now := sampleLater })

theorem passSteps_ofProduct (station_id : String) :
    ∀ e ∈ passSteps station_id, e.OfProduct .CARDPUTER_ZERO := by
  refine List.forall_mem_cons.2 ⟨rfl, fun e he => ?_⟩
  obtain ⟨test, -, rfl⟩ := List.mem_map.1 he
  trivial

/-- The session in which every test has passed at a station. -/
def passed (station_id : String) : SessionManager :=
  ((planned compactText "/sessions").run ⟨(⟨{}, fun _ => none⟩, []), []⟩
    (passSteps station_id)).state.1.manager

/-- At a station with a short name the session can be uploaded. -/
theorem short_station_uploaded : ∃ payload,
    (passed "AUTO_TEST").build_upload_result_json compactText false = some payload ∧
      Upload.admissible (Upload.strip_line_breaks payload.toList) = true := by
  obtain ⟨payload, hbuild, hiff⟩ := upload_admitted_iff compactText printNumber
    printsCompact_compactText "/sessions" .CARDPUTER_ZERO (fun _ => none) (passSteps "AUTO_TEST")
    (passSteps_ofProduct "AUTO_TEST") (by decide +kernel)
  exact ⟨payload, hbuild, hiff.2 (by decide +kernel)⟩

/-- A name that the configuration accepts. -/
def longStation : String := String.ofList (List.replicate 120 'A')

theorem passed_admitted_iff (station_id : String)
    (hstate : (passed station_id).state = .COMPLETED) :
    ∃ payload, (passed station_id).build_upload_result_json compactText false = some payload ∧
      (Upload.admissible (Upload.strip_line_breaks payload.toList) = true ↔
        (passed station_id).metadata.upload_length +
          (printNumber (.ofNat (passed station_id).sequence_number)).length +
          (summary (passed station_id).state (passed station_id).tests).failed ≤
            room .CARDPUTER_ZERO) := by
  unfold passed at hstate ⊢
  obtain ⟨hresult, hviews, hplan⟩ := completed_of_product (passSteps_ofProduct station_id) hstate
  exact payload_admitted_iff printsCompact_compactText hresult hviews hplan

/-- At a station with a long name no verdict is uploaded. -/
theorem long_station_never_uploaded :
    ¬ ∀ station_id, station_id ≠ "" → (passed station_id).state = .COMPLETED → ∃ payload,
      (passed station_id).build_upload_result_json compactText false = some payload ∧
        Upload.admissible (Upload.strip_line_breaks payload.toList) = true := by
  intro hclaim
  have hstate : (passed longStation).state = .COMPLETED := by decide +kernel
  obtain ⟨payload, hbuild, hadmitted⟩ := hclaim longStation (by decide) hstate
  obtain ⟨payload', hbuild', hiff⟩ := passed_admitted_iff longStation hstate
  obtain rfl : payload = payload' := Option.some.inj (hbuild.symm.trans hbuild')
  exact absurd (hiff.1 hadmitted) (by decide +kernel)

end FactoryTest.Session
