import FactoryTest.Session.Record
import Mathlib.Data.List.Nodup

/-!
# The tests of a product

The test sequence of `src/viewmodel/app_viewmodel.cpp`: which tests it has, and which of them a
product has. The plan of a session is made of them.
-/

namespace FactoryTest

open Session (TestDefinition)

/-- `platform::device_info::ProductModel`, detected once in a process. -/
inductive ProductModel
  | CARDPUTER_ZERO | CARDPUTER_ZERO_LITE
  deriving DecidableEq, Repr

/-- `AppPage`. -/
inductive AppPage
  | START
  | KEYBOARD_TEST
  | LCD_TEST
  | AUDIO_TEST
  | CAMERA_TEST
  | IR_SEND_TEST
  | IR_RECEIVE_TEST
  | POWER_INFO
  | IMU_TEST
  | DEVICE_INFO
  | PERF_TEST
  | WIFI_TEST
  | BT_TEST
  | ETH_TEST
  | USB_TEST
  | HDMI_TEST
  | I2C_TEST
  | SPI_TEST
  | UART_TEST
  | EXT_IO_TEST
  | LINK_TEST
  | CPU_BENCHMARK
  | MEM_STRESS_TEST
  | SD_CARD_TEST
  | TEST_RESULT
  | CAP_FIXTURE_TEST
  | CAP_LORA_1262_TEST
  | CAP_CC1101_TEST
  | IR_FIXTURE_TEST
  | PY32_UPGRADE
  | FIRE_IN_THE_PI
  deriving DecidableEq

/-! ## The plan -/

/-- `TestSequenceItem`. -/
structure TestSequenceItem where
  id : String
  name : String
  page : AppPage
  deriving DecidableEq

def K_TEST_SEQUENCE : List TestSequenceItem :=
  [⟨"input", "Input Test", .KEYBOARD_TEST⟩,
    ⟨"display", "Display Test", .LCD_TEST⟩,
    ⟨"audio", "Audio Test", .AUDIO_TEST⟩,
    ⟨"camera", "Camera Test", .CAMERA_TEST⟩,
    ⟨"ir_fixture", "IR Fixture Test", .IR_FIXTURE_TEST⟩,
    ⟨"wifi", "Wi-Fi", .WIFI_TEST⟩,
    ⟨"bluetooth", "Bluetooth", .BT_TEST⟩,
    ⟨"ethernet", "Ethernet", .ETH_TEST⟩,
    ⟨"link", "Link Test", .LINK_TEST⟩,
    ⟨"hdmi", "HDMI", .HDMI_TEST⟩,
    ⟨"cap_fixture", "CAP Fixture Test", .CAP_FIXTURE_TEST⟩,
    ⟨"cap_lora_1262", "CAP LoRa-1262", .CAP_LORA_1262_TEST⟩,
    ⟨"cap_cc1101", "CAP-CC1101", .CAP_CC1101_TEST⟩,
    ⟨"device_info", "Device Information", .DEVICE_INFO⟩,
    ⟨"power", "Power Information", .POWER_INFO⟩,
    ⟨"imu", "IMU Test", .IMU_TEST⟩,
    ⟨"cpu", "CPU Benchmark", .CPU_BENCHMARK⟩,
    ⟨"memory", "Mem Stress Test", .MEM_STRESS_TEST⟩,
    ⟨"sd_card", "SD Card Test", .SD_CARD_TEST⟩]

section

variable (product_model : ProductModel)

/-- `sequence_item_enabled`. -/
def sequence_item_enabled (item : TestSequenceItem) : Bool :=
  if product_model = .CARDPUTER_ZERO then true
  else item.page ≠ .CAMERA_TEST && item.page ≠ .IMU_TEST

/-- The loop of `sequence_item` over the items that are left. -/
def sequence_item_loop (index : ℕ) : List TestSequenceItem → ℕ → Option TestSequenceItem
  | [], _ => none
  | item :: items, enabled_index =>
    if !sequence_item_enabled product_model item then sequence_item_loop index items enabled_index
    else if enabled_index = index then some item
    else sequence_item_loop index items (enabled_index + 1)

/-- `sequence_item`; `none` is the null pointer. -/
def sequence_item (index : ℕ) : Option TestSequenceItem :=
  sequence_item_loop product_model index K_TEST_SEQUENCE 0

/-- `test_sequence_size`. -/
def test_sequence_size : ℕ := K_TEST_SEQUENCE.countP (sequence_item_enabled product_model)

/-- `test_sequence_plan`. -/
def test_sequence_plan : List TestDefinition :=
  (K_TEST_SEQUENCE.filter (sequence_item_enabled product_model)).map fun item =>
    ⟨item.id, item.name⟩

end

/-! ## Items -/

variable {product_model : ProductModel} {index i j : ℕ} {item item' : TestSequenceItem}

theorem sequence_item_loop_eq (items : List TestSequenceItem) {enabled_index : ℕ}
    (h : enabled_index ≤ index) :
    sequence_item_loop product_model index items enabled_index =
      (items.filter (sequence_item_enabled product_model))[index - enabled_index]? := by
  induction items generalizing enabled_index with
  | nil => rfl
  | cons item items ih =>
    rw [sequence_item_loop]
    by_cases henabled : sequence_item_enabled product_model item = true
    · rw [List.filter_cons_of_pos henabled, henabled, if_neg (by decide)]
      split_ifs with heq
      · rw [heq, Nat.sub_self]
        rfl
      · have hsucc : index - enabled_index = index - (enabled_index + 1) + 1 := by omega
        rw [ih (by omega), hsucc, List.getElem?_cons_succ]
    · rw [List.filter_cons_of_neg henabled, if_pos (by simpa using henabled), ih h]

/-- The items of the sequence are the enabled ones, in order. -/
theorem sequence_item_eq : sequence_item product_model index =
    (K_TEST_SEQUENCE.filter (sequence_item_enabled product_model))[index]? :=
  sequence_item_loop_eq K_TEST_SEQUENCE (Nat.zero_le index)

theorem test_sequence_plan_length :
    (test_sequence_plan product_model).length = test_sequence_size product_model := by
  rw [test_sequence_plan, List.length_map, test_sequence_size, List.countP_eq_length_filter]

theorem test_sequence_size_pos : 0 < test_sequence_size product_model := by
  cases product_model <;> decide

theorem test_sequence_plan_ids : ((test_sequence_plan product_model).map (·.id)).Nodup := by
  cases product_model <;> decide

theorem lt_test_sequence_size (h : sequence_item product_model index = some item) :
    index < test_sequence_size product_model := by
  rw [sequence_item_eq] at h
  rw [← test_sequence_plan_length, test_sequence_plan, List.length_map]
  exact (List.getElem?_eq_some_iff.1 h).1

theorem exists_sequence_item (h : index < test_sequence_size product_model) :
    ∃ item, sequence_item product_model index = some item := by
  rw [← test_sequence_plan_length, test_sequence_plan, List.length_map] at h
  exact ⟨_, sequence_item_eq.trans (List.getElem?_eq_getElem h)⟩

/-- The item whose page it is. -/
def item_of_page (product_model : ProductModel) (page : AppPage) : Option TestSequenceItem :=
  (K_TEST_SEQUENCE.filter (sequence_item_enabled product_model)).find? (·.page = page)

/-- Every item has a page of its own. -/
theorem item_of_page_eq (h : sequence_item product_model index = some item) :
    item_of_page product_model item.page = some item := by
  have hall : ((K_TEST_SEQUENCE.filter (sequence_item_enabled product_model)).all fun item =>
      item_of_page product_model item.page = some item) = true := by
    cases product_model <;> decide
  rw [sequence_item_eq] at h
  exact of_decide_eq_true (List.all_eq_true.1 hall item (List.mem_of_getElem? h))

theorem item_eq_of_page (h : sequence_item product_model i = some item)
    (h' : sequence_item product_model j = some item') (hpage : item.page = item'.page) :
    item = item' := by
  have heq := item_of_page_eq h
  rw [hpage, item_of_page_eq h', Option.some.injEq] at heq
  exact heq.symm

theorem item_eq_of_id (h : sequence_item product_model i = some item)
    (h' : sequence_item product_model j = some item') (hid : item.id = item'.id) :
    item = item' := by
  rw [sequence_item_eq] at h h'
  have hids := @test_sequence_plan_ids product_model
  rw [test_sequence_plan, List.map_map] at hids
  exact List.inj_on_of_nodup_map hids (List.mem_of_getElem? h) (List.mem_of_getElem? h') hid

/-- No test is on the start page. -/
theorem item_page_ne_start (h : sequence_item product_model i = some item) :
    item.page ≠ .START := by
  intro hpage
  have heq := item_of_page_eq h
  rw [hpage] at heq
  cases product_model <;> cases heq

end FactoryTest
