import FactoryTest.ViewModel.AppViewModel

/-!
# The link test

`LinkConnectivityModel` of `src/model/connectivity_test_model.cpp` and `LinkConnectivityView` of
`src/view/screens/link_page.cpp`. The model belongs to the program and runs one test at a time in
the background; the view is made anew with each page, begins an attempt of the current test, and
records what the model shows as its evidence.

**Time.** A clock counts the events. A snapshot remembers which test it is the result of, and an
attempt how it began; the code has neither.

**Left out.** What is drawn, and the text field of the dialog: its text comes with the event that
confirms it.
-/

namespace FactoryTest.Connectivity

open Session ViewModel

/-! ## Snapshots -/

inductive LinkTestStatus
  | IDLE
  | RUNNING
  | SUCCESS
  | FAILED
  deriving DecidableEq

structure LinkTestMetric where
  status : LinkTestStatus := .IDLE
  value : Double := .ofNat 0
  detail : String := ""
  deriving DecidableEq

structure LinkTestSettings where
  iperf_host : String := "192.168.10.187"
  iperf_port : ℤ := 5201
  deriving DecidableEq

/-- A test that runs in the background: when it was started, and with which settings. -/
structure LinkTest where
  started : ℕ
  settings : LinkTestSettings
  deriving DecidableEq

structure LinkTestSnapshot where
  internet : LinkTestMetric := {}
  wifi_iperf : LinkTestMetric := {}
  ethernet_iperf : LinkTestMetric := {}
  settings : LinkTestSettings := {}
  running : Bool := false
  /-- The test that this is the result of. -/
  test : Option LinkTest := none
  deriving DecidableEq

/-- `LinkInternetResult`, as far as it is read. -/
structure LinkInternetResult where
  success : Bool := false
  latency_ms : Double
  message : String := ""

structure LinkIperfResult where
  success : Bool := false
  megabits_per_second : Double := .ofNat 0
  interface_name : String := ""
  message : String := ""

structure LinkTestResult where
  internet : LinkInternetResult
  wifi : LinkIperfResult := {}
  ethernet : LinkIperfResult := {}

def internet_metric (result : LinkInternetResult) : LinkTestMetric where
  status := if result.success then .SUCCESS else .FAILED
  value := result.latency_ms
  detail := result.message

def iperf_metric (result : LinkIperfResult) : LinkTestMetric where
  status := if result.success then .SUCCESS else .FAILED
  value := result.megabits_per_second
  detail :=
    if result.interface_name = "" then result.message
    else result.interface_name ++ if result.message = "" then "" else ": " ++ result.message

/-- `read_link_test_result`, with what `run_link_test` returns. -/
def read_link_test_result (test : LinkTest) (result : LinkTestResult) : LinkTestSnapshot where
  settings := test.settings
  internet := internet_metric result.internet
  wifi_iperf := iperf_metric result.wifi
  ethernet_iperf := iperf_metric result.ethernet
  running := false
  test := some test

/-- `same_link_metric`. -/
def same_link_metric (left right : LinkTestMetric) : Bool :=
  left.status = right.status && (left.value = right.value && left.value ≠ .nan) &&
    left.detail = right.detail

/-- `same_link_snapshot`. -/
def same_link_snapshot (left right : LinkTestSnapshot) : Bool :=
  same_link_metric left.internet right.internet &&
    same_link_metric left.wifi_iperf right.wifi_iperf &&
    same_link_metric left.ethernet_iperf right.ethernet_iperf &&
    left.settings = right.settings && left.running = right.running

/-! ## The model -/

/-- A future: the test, and its snapshot once it has ended. -/
structure RefreshTask where
  test : LinkTest
  ready : Option LinkTestSnapshot := none
  deriving DecidableEq

structure LinkConnectivityModel where
  settings : LinkTestSettings := {}
  snapshot : LinkTestSnapshot := {}
  refresh_task : Option RefreshTask := none
  deriving DecidableEq

namespace LinkConnectivityModel

/-- `set_snapshot_`. -/
def set_snapshot (m : LinkConnectivityModel) (snapshot : LinkTestSnapshot) :
    LinkConnectivityModel :=
  if same_link_snapshot m.snapshot snapshot then m else { m with snapshot }

/-- `running_snapshot_`. -/
def running_snapshot (m : LinkConnectivityModel) : LinkTestSnapshot where
  settings := m.settings
  running := true
  internet := { status := .RUNNING, detail := "Checking public DNS..." }
  wifi_iperf := { status := .RUNNING, detail := "Waiting for iperf..." }
  ethernet_iperf := { status := .RUNNING, detail := "Waiting for iperf..." }

/-- The first part of `refresh`: the result of a test that has ended. -/
def take_result (m : LinkConnectivityModel) : LinkConnectivityModel :=
  match m.refresh_task with
  | some ⟨_, some result⟩ => { m with refresh_task := none }.set_snapshot result
  | _ => m

/-- `refresh`. -/
def refresh (m : LinkConnectivityModel) (now : ℕ) (force_refresh : Bool) : LinkConnectivityModel :=
  let m := m.take_result
  if m.refresh_task.isNone && (force_refresh || m.snapshot.internet.status = .IDLE) then
    { m with refresh_task := some { test := ⟨now, m.settings⟩ } }.set_snapshot m.running_snapshot
  else m

/-- `set_settings`. -/
def set_settings (m : LinkConnectivityModel) (settings : LinkTestSettings) :
    LinkConnectivityModel :=
  let settings :=
    if settings.iperf_host = "" then { settings with iperf_host := "192.168.10.187" } else settings
  let settings :=
    if settings.iperf_port ≤ 0 || 65535 < settings.iperf_port then
      { settings with iperf_port := 5201 }
    else settings
  { m with settings, snapshot := { m.snapshot with settings } }

/-- The test that runs ends. -/
def finish (m : LinkConnectivityModel) (result : LinkTestResult) : LinkConnectivityModel :=
  match m.refresh_task with
  | some ⟨test, none⟩ =>
    { m with refresh_task := some ⟨test, some (read_link_test_result test result)⟩ }
  | _ => m

end LinkConnectivityModel

/-! ## The view -/

/-- An attempt: when it began, whether by opening the page, and the model at that time. -/
structure Attempt where
  began : ℕ
  opened : Bool
  model : LinkConnectivityModel
  deriving DecidableEq

structure LinkConnectivityView where
  attempt : Attempt
  evidence_recorded : Bool := false
  dialog_visible : Bool := false

/-- The program, as far as the link test sees it. -/
structure State where
  app_view_model : AppViewModel
  model : LinkConnectivityModel
  view : Option LinkConnectivityView := none
  clock : ℕ := 0

/-- Evidence that was recorded: for which attempt, and the test that it comes from. -/
structure Recorded where
  evidence : TestEvidence
  attempt : Attempt
  test : Option LinkTest
  deriving DecidableEq

/-- There is a result, as `record_evidence_` says. -/
def LinkTestSnapshot.has_result (snapshot : LinkTestSnapshot) : Bool :=
  snapshot.internet.status ≠ .IDLE || snapshot.wifi_iperf.status ≠ .IDLE ||
    snapshot.ethernet_iperf.status ≠ .IDLE

/-- The evidence that `record_evidence_` makes of a snapshot. -/
def LinkTestSnapshot.evidence (snapshot : LinkTestSnapshot) : TestEvidence :=
  ((OrderedMap.empty.emplace "internet_latency_ms" (.number snapshot.internet.value)).emplace
    "wifi_mbps" (.number snapshot.wifi_iperf.value)).emplace
    "ethernet_mbps" (.number snapshot.ethernet_iperf.value)

/-- Something that happens; the answers are for the session. -/
inductive Event
  /-- Another part of the program calls the view model. -/
  | app (c : Call)
  /-- The page is made, and its view is built. -/
  | build (a b : Answers)
  | close
  | refresh_timer (b : Answers)
  | restart (a : Answers)
  | show_config_dialog
  | hide_config_dialog
  | apply_config_dialog (iperf_host : String) (a : Answers)
  /-- The test that runs in the background ends. -/
  | finish (result : LinkTestResult)

section

variable (cJSON : CJsonLibrary) (product_model : ProductModel)

namespace State

/-- `begin_current_test_attempt`, where the view begins an attempt. -/
def begin_attempt (s : State) (v : LinkConnectivityView) (opened : Bool) (a : Answers) : State :=
  { s with
    app_view_model := (s.app_view_model.begin_current_test_attempt cJSON product_model a).1
    view := some { v with attempt := ⟨s.clock, opened, s.model⟩ } }

/-- `record_evidence_`. -/
def record_evidence (s : State) (v : LinkConnectivityView) (b : Answers) :
    State × List Recorded :=
  if v.evidence_recorded then (s, [])
  else
    let snapshot := s.model.snapshot
    if snapshot.running || !snapshot.has_result then (s, [])
    else
      let (app_view_model, recorded) :=
        s.app_view_model.record_current_test_evidence cJSON product_model snapshot.evidence b
      ({ s with app_view_model, view := some { v with evidence_recorded := recorded } },
        if recorded then [⟨snapshot.evidence, v.attempt, snapshot.test⟩] else [])

/-- `refresh_`. -/
def refresh (s : State) (b : Answers) : State × List Recorded :=
  match s.view with
  | none => (s, [])
  | some v =>
    let s := { s with model := s.model.refresh (s.clock + 1) false }
    if v.dialog_visible then (s, []) else s.record_evidence cJSON product_model v b

/-- `build` of a new view. -/
def build (s : State) (a b : Answers) : State × List Recorded :=
  (s.begin_attempt cJSON product_model { attempt := ⟨s.clock, true, s.model⟩ } true a).refresh
    cJSON product_model b

/-- `restart`. -/
def restart (s : State) (a : Answers) : State :=
  match s.view with
  | none => s
  | some v =>
    let s := s.begin_attempt cJSON product_model { v with evidence_recorded := false } false a
    { s with model := s.model.refresh (s.clock + 1) true }

/-- `hide_config_dialog_`. -/
def hide_config_dialog (s : State) : State :=
  { s with view := s.view.map fun v => { v with dialog_visible := false } }

/-- `apply_config_dialog_`. What is saved to the configuration is not read again. -/
def apply_config_dialog (s : State) (iperf_host : String) (a : Answers) : State :=
  let s := { s with model := s.model.set_settings { s.model.settings with iperf_host } }
  s.hide_config_dialog.restart cJSON product_model a

end State

variable (directory : String)

/-- What comes of an event, and the evidence that is recorded. -/
def step (s : State) (e : Event) : State × List Recorded :=
  let s := { s with clock := s.clock + 2 }
  match e with
  | .app c =>
    ({ s with app_view_model := (call cJSON directory product_model s.app_view_model c).1 }, [])
  | .build a b => s.build cJSON product_model a b
  | .close => ({ s with view := none }, [])
  | .refresh_timer b => s.refresh cJSON product_model b
  | .restart a => (s.restart cJSON product_model a, [])
  | .show_config_dialog =>
    ({ s with view := s.view.map fun v => { v with dialog_visible := true } }, [])
  | .hide_config_dialog => (s.hide_config_dialog, [])
  | .apply_config_dialog iperf_host a =>
    if s.view.any (·.dialog_visible) then
      (s.apply_config_dialog cJSON product_model iperf_host a, [])
    else (s, [])
  | .finish result => ({ s with model := s.model.finish result }, [])

/-- The program. -/
def link : Machine State Event Recorded where
  step := step cJSON product_model directory

end

/-- The program is launched with any session and any settings. -/
def launched (app_view_model : AppViewModel) (settings : LinkTestSettings) :
    Config State Recorded :=
  ⟨{ app_view_model, model := LinkConnectivityModel.set_settings {} settings }, []⟩

end FactoryTest.Connectivity
