import FactoryTest.Lib.Run
import FactoryTest.TestSequence
import Mathlib.Data.List.Basic

/-!
# The automatic precheck

`PrecheckModel` of `src/factory_precheck/precheck_model.cpp`: a worker thread runs the checks of
the fourteen items, and the user interface starts it, cancels it and retries what failed.

**The two threads.** The user interface is in at most one call. Each call first waits until the
worker has ended (`join`), and `cancel` sets the flag before it waits; so a call has two steps,
`call` and `proceed`. The worker takes one step from one look at the shared state to the next.

**The checks.** What `run_check_` finds is left to the environment: while an item is checked it
may report any detail, and it returns either answer.

The history shows which call started a worker.
-/

namespace FactoryTest.Precheck

inductive RunState
  | IDLE | RUNNING | PASSED | FAILED | CANCELED
  deriving DecidableEq, Repr

inductive CheckState
  | PENDING | RUNNING | PASSED | FAILED | CANCELED | SKIPPED
  deriving DecidableEq, Repr

/-- `CapFixtureSubItem` and `IrFixtureSubItem`. -/
structure FixtureSubItem where
  name : String
  state : CheckState := .PENDING
  detail : String
  deriving DecidableEq, Repr

structure CheckItem where
  id : String
  name : String
  state : CheckState := .PENDING
  detail : String
  cap_sub_items : List FixtureSubItem := []
  ir_sub_items : List FixtureSubItem := []
  deriving DecidableEq, Repr

def K_CAMERA_ITEM : ℕ := 12
def K_IMU_ITEM : ℕ := 13

def make_cap_fixture_sub_items : List FixtureSubItem :=
  ["Power", "I2C", "Grove I2C", "UART", "Grove UART", "SPI", "USB", "GPIO"].map fun name =>
    { name, detail := "等待" }

def make_ir_fixture_sub_items : List FixtureSubItem :=
  ["IR TX", "IR RX"].map fun name => { name, detail := "等待" }

def make_items : List CheckItem := [
  { id := "device_info", name := "设备信息", detail := "等待" },
  { id := "usb_a", name := "左侧 USB-A", detail := "等待" },
  { id := "usb_c", name := "左侧 USB-C", detail := "等待" },
  { id := "hdmi", name := "HDMI 状态", detail := "等待" },
  { id := "cap_fixture", name := "CAP 治具检测", detail := "等待",
    cap_sub_items := make_cap_fixture_sub_items },
  { id := "ir_fixture", name := "IR 治具检测", detail := "等待",
    ir_sub_items := make_ir_fixture_sub_items },
  { id := "ethernet", name := "以太网", detail := "等待" },
  { id := "battery_status", name := "电池充电状态", detail := "等待" },
  { id := "battery_level", name := "电池电量", detail := "等待" },
  { id := "battery_voltage", name := "电池电压", detail := "等待" },
  { id := "battery_current", name := "电池电流", detail := "等待" },
  { id := "audio", name := "音频录放", detail := "等待" },
  { id := "camera", name := "相机", detail := "等待" },
  { id := "imu", name := "IMU", detail := "等待" }]

/-- `Snapshot`, without the device name and the serial number. The counters are `size_t`. -/
structure Snapshot where
  state : RunState := .IDLE
  current_index : ℕ := 0
  completed : UInt64 := 0
  passed : UInt64 := 0
  failed : UInt64 := 0
  headline : String := "按 Enter 开始自动初检"
  items : List CheckItem := make_items
  deriving DecidableEq, Repr

/-- The calls of the user interface. -/
inductive Call
  | start | cancel | retry_failed
  deriving DecidableEq, Repr

/-- Where the worker is in `run_`. -/
inductive Pc
  /-- Before the unsupported items are skipped. -/
  | skip
  /-- At the head of the loop. -/
  | head (i : ℕ)
  /-- Past the test of the cancel flag. -/
  | begin (i : ℕ)
  /-- In `run_check_`. -/
  | checking (i : ℕ)
  deriving DecidableEq, Repr

/-- The worker thread. A thread that has ended can still be joined. -/
inductive Worker
  | none
  | ended
  | at (pc : Pc)
  deriving DecidableEq, Repr

/-- The shared state, and where the two threads are. -/
structure PrecheckModel where
  snapshot : Snapshot := {}
  cancel_requested : Bool := false
  worker : Worker := .none
  /-- The call the user interface is in. -/
  calling : Option Call := none
  deriving DecidableEq, Repr

inductive Event
  | call (call : Call)
  /-- The call gets past the join. -/
  | proceed
  /-- The worker's next step outside `run_check_`. -/
  | work
  /-- `run_check_` writes the detail and the sub items of its item. -/
  | report (detail : String) (cap_sub_items ir_sub_items : List FixtureSubItem)
  /-- `run_check_` returns. -/
  | checked (passed : Bool)
  deriving DecidableEq, Repr

/-! ## The worker -/

namespace Snapshot

variable (s : Snapshot)

/-- `publish_`. -/
def publish (state : RunState) (headline : String) : Snapshot := { s with state, headline }

/-- An item is written. -/
def write (i : ℕ) (f : CheckItem → CheckItem) : Snapshot := { s with items := s.items.modify i f }

/-- One item is skipped, and counted. -/
def skip_item (index : ℕ) : Snapshot :=
  { s.write index fun item => { item with state := .SKIPPED, detail := "机型不支持" } with
    completed := s.completed + 1 }

/-- The camera and the IMU are skipped. -/
def skip_unsupported : Snapshot := [K_CAMERA_ITEM, K_IMU_ITEM].foldl skip_item s

/-- The check of an item begins. -/
def begin_check (i : ℕ) : Snapshot :=
  { s.write i fun item => { item with state := .RUNNING, detail := "检测中" } with
    current_index := i }

/-- The check was canceled while it ran. -/
def cancel_check (i : ℕ) : Snapshot :=
  (s.write i fun item => { item with state := .CANCELED, detail := "已取消" }).publish
    .CANCELED "初检已取消"

/-- The check of an item ends. -/
def end_check (i : ℕ) (passed : Bool) : Snapshot :=
  { s.write i fun item =>
      { item with
        state := if passed then .PASSED else .FAILED
        detail := if item.detail = "检测中" then if passed then "通过" else "失败"
          else item.detail } with
    completed := s.completed + 1
    passed := if passed then s.passed + 1 else s.passed
    failed := if passed then s.failed else s.failed + 1 }

/-- The verdict at the end of `run_`. -/
def conclude : Snapshot :=
  if s.failed = 0 then s.publish .PASSED "自动初检通过" else s.publish .FAILED "自动初检失败"

end Snapshot

/-- `skip_camera_and_imu`. -/
def skip_camera_and_imu (model : ProductModel) : Bool := model = .CARDPUTER_ZERO_LITE

/-- The state of an item, if there is one. -/
def item_state (items : List CheckItem) (i : ℕ) : Option CheckState := items[i]?.map (·.state)

namespace PrecheckModel

variable (s : PrecheckModel)

/-- `run_`, from one look at the shared state to the next. While the worker runs, nobody else
writes the items, so the loop's test, the flag and the verdict are read where they are used. -/
def run (model : ProductModel) : Pc → PrecheckModel
  | .skip =>
    if skip_camera_and_imu model then
      { s with snapshot := s.snapshot.skip_unsupported, worker := .at (.head 0) }
    else { s with worker := .at (.head 0) }
  | .head i =>
    if i < s.snapshot.items.length then
      if s.cancel_requested then
        { s with snapshot := s.snapshot.publish .CANCELED "初检已取消", worker := .ended }
      else { s with worker := .at (.begin i) }
    else { s with snapshot := s.snapshot.conclude, worker := .ended }
  | .begin i =>
    if item_state s.snapshot.items i = some .PENDING then
      { s with snapshot := s.snapshot.begin_check i, worker := .at (.checking i) }
    else { s with worker := .at (.head (i + 1)) }
  | .checking _ => s

/-- `run_` after `run_check_(i)` has returned. -/
def check_returned (i : ℕ) (passed : Bool) : PrecheckModel :=
  if s.cancel_requested then { s with snapshot := s.snapshot.cancel_check i, worker := .ended }
  else { s with snapshot := s.snapshot.end_check i passed, worker := .at (.head (i + 1)) }

/-! ## The calls, after the join -/

/-- The worker is started. -/
def spawn (snapshot : Snapshot) : PrecheckModel :=
  { snapshot, cancel_requested := false, worker := .at .skip }

/-- `start`. -/
def start : PrecheckModel × List Call :=
  if s.snapshot.state = .RUNNING then ({ s with worker := .none, calling := none }, [])
  else (spawn { state := .RUNNING, headline := "正在执行自动初检" }, [.start])

/-- `cancel`. -/
def cancel : PrecheckModel × List Call :=
  if s.snapshot.state = .RUNNING then
    ({ s with
        snapshot := s.snapshot.publish .CANCELED "初检已取消", worker := .none, calling := none },
      [])
  else ({ s with worker := .none, calling := none }, [])

/-- What `retry_failed` makes of an item that failed. -/
def retry_item (item : CheckItem) : CheckItem :=
  let reset (sub : FixtureSubItem) := { sub with state := CheckState.PENDING, detail := "等待" }
  { item with
    state := .PENDING
    detail := "等待重试"
    cap_sub_items := if item.id = "cap_fixture" then item.cap_sub_items.map reset
      else item.cap_sub_items
    ir_sub_items := if item.id = "ir_fixture" then item.ir_sub_items.map reset
      else item.ir_sub_items }

/-- The loop of `retry_failed` over the items, with the two counters. -/
def retry_items : List CheckItem → UInt64 → UInt64 → List CheckItem × UInt64 × UInt64
  | [], completed, failed => ([], completed, failed)
  | item :: items, completed, failed =>
    if item.state = .FAILED then
      let rest := retry_items items (completed - 1) (failed - 1)
      (retry_item item :: rest.1, rest.2)
    else
      let rest := retry_items items completed failed
      (item :: rest.1, rest.2)

/-- `retry_failed`. -/
def retry_failed : PrecheckModel × List Call :=
  if s.snapshot.state ≠ .FAILED ∧ s.snapshot.state ≠ .PASSED then
    ({ s with worker := .none, calling := none }, [])
  else
    let retried := retry_items s.snapshot.items s.snapshot.completed s.snapshot.failed
    (spawn { s.snapshot with
      items := retried.1
      completed := retried.2.1
      failed := retried.2.2
      state := .RUNNING
      headline := "正在重试失败项目" }, [.retry_failed])

def after_join : Call → PrecheckModel × List Call
  | .start => s.start
  | .cancel => s.cancel
  | .retry_failed => s.retry_failed

end PrecheckModel

/-! ## The machine -/

/-- A thread that is not where the event says does nothing. -/
def step (model : ProductModel) (s : PrecheckModel) : Event → PrecheckModel × List Call
  | .call call =>
    if s.calling = none then
      ({ s with
          calling := some call, cancel_requested := s.cancel_requested || call = .cancel }, [])
    else (s, [])
  | .proceed =>
    match s.calling, s.worker with
    | some _, .at _ => (s, [])
    | some call, _ => s.after_join call
    | none, _ => (s, [])
  | .work =>
    match s.worker with
    | .at pc => (s.run model pc, [])
    | _ => (s, [])
  | .report detail cap_sub_items ir_sub_items =>
    match s.worker with
    | .at (.checking i) =>
      ({ s with
          snapshot := s.snapshot.write i fun item =>
            { item with detail, cap_sub_items, ir_sub_items } }, [])
    | _ => (s, [])
  | .checked passed =>
    match s.worker with
    | .at (.checking i) => (s.check_returned i passed, [])
    | _ => (s, [])

/-- The precheck of a product. -/
def precheck (model : ProductModel) : Machine PrecheckModel Event Call := ⟨step model⟩

end FactoryTest.Precheck
