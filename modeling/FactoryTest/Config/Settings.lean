import FactoryTest.Config.Store
import FactoryTest.Lib.History
import FactoryTest.Lib.Run

/-!
# Settings that are saved

The setters of `AppViewModel` in `src/viewmodel/app_viewmodel.cpp` that report success. They share
one configuration, and each save writes all of it.

**Theorem (`all_or_nothing_iff`).** A run of setters is all or nothing if and only if none of its
steps leaves a value behind: `set_uart_baud_rate` and `set_iperf_settings` keep what they could not
save, and the next save writes it.
-/

namespace FactoryTest.Config

/-! ## The setters -/

/-- The configuration is assigned. -/
def World.assign (w : World) (config : AppConfig) : World :=
  { w with store := { w.store with config := config } }

/-- `save_config_`; it only adds a message to the log. -/
def save_config_ (w : World) (write : WriteAnswer) : World × Bool := save w write

/-- `set_ui_sounds_enabled`, without the sounds. -/
def set_ui_sounds_enabled (w : World) (enabled : Bool) (write : WriteAnswer) : World × Bool :=
  let preference := w.store.config.ui.key_click_enabled
  if preference = enabled then (w, true)
  else
    let previous := preference
    match save_config_ (w.assign { w.store.config with ui.key_click_enabled := enabled }) write with
    | (w, false) => (w.assign { w.store.config with ui.key_click_enabled := previous }, false)
    | (w, true) => (w, true)

/-- `set_uart_baud_rate`. -/
def set_uart_baud_rate (w : World) (baud_rate : ℤ) (write : WriteAnswer) : World × Bool :=
  save_config_ (w.assign { w.store.config with uart.baud_rate := baud_rate }) write

/-- `set_iperf_settings`. -/
def set_iperf_settings (w : World) (host : String) (port : ℤ) (write : WriteAnswer) :
    World × Bool :=
  if host = "" ∨ port ≤ 0 ∨ 65535 < port then (w, false)
  else save_config_ (w.assign { w.store.config with network := ⟨host, port⟩ }) write

/-! ## Runs -/

/-- A call of a setter. -/
inductive Setting
  | ui_sounds_enabled (enabled : Bool)
  | uart_baud_rate (baud_rate : ℤ)
  | iperf_settings (host : String) (port : ℤ)
  deriving DecidableEq

/-- A call, with the answer to its save. -/
def Setting.call (w : World) (write : WriteAnswer) : Setting → World × Bool
  | .ui_sounds_enabled enabled => set_ui_sounds_enabled w enabled write
  | .uart_baud_rate baud_rate => set_uart_baud_rate w baud_rate write
  | .iperf_settings host port => set_iperf_settings w host port write

/-- What can be seen of a call: what it was asked for and returns, and the configuration and the
file before and after it. -/
structure Call where
  setting : Setting
  result : Bool
  before : World
  after : World

/-- The setters are called one after another. -/
def setters : Machine World (Setting × WriteAnswer) Call where
  step w e :=
    let r := e.1.call w e.2
    (r.1, [⟨e.1, r.2, w, r.1⟩])

/-- The values that the setters assign. -/
structure Values where
  key_click_enabled : Bool
  baud_rate : ℤ
  network : Network
  deriving DecidableEq

/-- The values in a configuration. -/
def AppConfig.values (config : AppConfig) : Values :=
  ⟨config.ui.key_click_enabled, config.uart.baud_rate, config.network⟩

/-- The values that a call asks for. -/
def Setting.apply (v : Values) : Setting → Values
  | .ui_sounds_enabled enabled => { v with key_click_enabled := enabled }
  | .uart_baud_rate baud_rate => { v with baud_rate }
  | .iperf_settings host port => { v with network := ⟨host, port⟩ }

/-- Of the calls that returned true, the last one for a value decides. -/
def accepted (v : Values) (calls : List Call) : Values :=
  calls.foldl (fun v call => if call.result then call.setting.apply v else v) v

/-- After these calls from `w`, no call that failed has had an effect: it left the configuration as
it was, the configuration has the values of the calls that returned true, and so has what the
successful saves wrote. -/
structure AllOrNothing (w : World) (c : Config World Call) : Prop where
  restored : ∀ call ∈ c.history, call.result = false →
    call.after.store.config = call.before.store.config
  current : c.state.store.config.values = accepted w.store.config.values c.history
  written : ∀ calls call rest, c.history = calls ++ call :: rest → call.result = true →
    call.after.file = call.before.file ∨ ∃ config : AppConfig,
      call.after.file = some (config_text config) ∧
        config.values = accepted w.store.config.values (calls ++ [call])

/-- A save succeeds. -/
def Saves (w : World) (write : WriteAnswer) : Prop := w.store.path ≠ "" ∧ write = .written

instance (w : World) (write : WriteAnswer) : Decidable (Saves w write) := by
  unfold Saves
  infer_instance

/-- The call keeps a new value that it cannot save. -/
def Leaves (w : World) (e : Setting × WriteAnswer) : Prop :=
  ¬ Saves w e.2 ∧
    match e.1 with
    | .ui_sounds_enabled _ => False
    | .uart_baud_rate baud_rate => w.store.config.uart.baud_rate ≠ baud_rate
    | .iperf_settings host port =>
      (host ≠ "" ∧ 0 < port ∧ port ≤ 65535) ∧ w.store.config.network ≠ ⟨host, port⟩

/-! ## One call -/

variable {w : World} {write : WriteAnswer}

/-- What a save does. -/
theorem save_spec (w : World) (write : WriteAnswer) :
    (save w write).1.store.config = w.store.config ∧ ((save w write).2 = true ↔ Saves w write) ∧
      (Saves w write → (save w write).1.file = some (config_text w.store.config)) := by
  unfold save Saves
  by_cases hpath : w.store.path = ""
  · rw [if_pos hpath]
    exact ⟨rfl, iff_of_false Bool.false_ne_true fun h => h.1 hpath, fun h => absurd hpath h.1⟩
  · rw [if_neg hpath]
    cases write <;> simp [write_atomic, hpath]

/-- What a setter does that does not leave a value behind: it has an effect on the values if it
returns true, and none if it returns false. -/
structure Clean (w : World) (setting : Setting) (r : World × Bool) : Prop where
  restored : r.2 = false → r.1.store.config = w.store.config
  assigned : r.2 = true → r.1.store.config.values = setting.apply w.store.config.values
  written : r.2 = true →
    r.1.file = w.file ∨ r.1.file = some (config_text r.1.store.config)

/-- A value is assigned and saved. -/
theorem assign_save_true {config : AppConfig} {setting : Setting}
    (hvalues : config.values = setting.apply w.store.config.values)
    (hr : (save_config_ (w.assign config) write).2 = true) :
    Clean w setting ((save_config_ (w.assign config) write).1, true) := by
  obtain ⟨hconfig, hresult, hfile⟩ := save_spec (w.assign config) write
  refine ⟨fun hfalse => Bool.noConfusion hfalse, fun _ => ?_, fun _ => .inr ?_⟩
  · exact (congrArg AppConfig.values hconfig).trans hvalues
  · exact (hfile (hresult.1 hr)).trans (congrArg (fun c => some (config_text c)) hconfig.symm)

/-- The call has no effect on the configuration. -/
theorem clean_of_false {setting : Setting} {r : World × Bool} (hfalse : r.2 = false)
    (hconfig : r.1.store.config = w.store.config) : Clean w setting r := by
  refine ⟨fun _ => hconfig, fun htrue => ?_, fun htrue => ?_⟩ <;>
  · rw [hfalse] at htrue
    cases htrue

/-- A value is assigned, and stays even if it cannot be saved. -/
theorem assign_save_clean {config : AppConfig} {setting : Setting}
    (hvalues : config.values = setting.apply w.store.config.values)
    (hsaves : ¬ Saves w write → config = w.store.config) :
    Clean w setting (save_config_ (w.assign config) write) := by
  obtain ⟨hconfig, hresult, -⟩ := save_spec (w.assign config) write
  cases hr : save_config_ (w.assign config) write with
  | mk w' result =>
    rw [save_config_] at hr
    rw [hr] at hconfig hresult
    cases result with
    | true =>
      have hclean := @assign_save_true w write config setting hvalues (by rw [save_config_, hr])
      rwa [save_config_, hr] at hclean
    | false =>
      exact clean_of_false rfl (hconfig.trans (hsaves fun hs => Bool.noConfusion (hresult.2 hs)))

/-- This setter takes back what it cannot save. -/
theorem ui_sounds_clean (w : World) (enabled : Bool) (write : WriteAnswer) :
    Clean w (.ui_sounds_enabled enabled) (set_ui_sounds_enabled w enabled write) := by
  unfold set_ui_sounds_enabled
  dsimp only
  by_cases hsame : w.store.config.ui.key_click_enabled = enabled
  · rw [if_pos hsame]
    refine ⟨fun _ => rfl, fun _ => ?_, fun _ => .inl rfl⟩
    rw [← hsame]
    rfl
  rw [if_neg hsame]
  generalize hnew : ({ w.store.config with ui.key_click_enabled := enabled } : AppConfig) = config
  obtain ⟨hconfig, -, -⟩ := save_spec (w.assign config) write
  cases hr : save_config_ (w.assign config) write with
  | mk w' result =>
    rw [save_config_] at hr
    rw [hr] at hconfig
    cases result with
    | true =>
      have hclean := @assign_save_true w write config (.ui_sounds_enabled enabled)
        (hnew ▸ rfl) (by rw [save_config_, hr])
      rwa [save_config_, hr] at hclean
    | false =>
      refine clean_of_false rfl ?_
      have hw' : w'.store.config = config := hconfig
      dsimp only [World.assign]
      rw [hw', ← hnew]

theorem iperf_settings_clean {host : String} {port : ℤ}
    (h : ¬ Leaves w (.iperf_settings host port, write)) :
    Clean w (.iperf_settings host port) (set_iperf_settings w host port write) := by
  unfold set_iperf_settings
  by_cases hinvalid : host = "" ∨ port ≤ 0 ∨ 65535 < port
  · rw [if_pos hinvalid]
    exact clean_of_false rfl rfl
  · rw [if_neg hinvalid]
    refine assign_save_clean rfl fun hs => ?_
    by_contra hne
    obtain ⟨hhost, hport⟩ := not_or.1 hinvalid
    have hvalid : host ≠ "" ∧ 0 < port ∧ port ≤ 65535 := ⟨hhost, by omega⟩
    exact h ⟨hs, hvalid, fun heq => hne (by rw [← heq])⟩

theorem call_clean {e : Setting × WriteAnswer} (h : ¬ Leaves w e) :
    Clean w e.1 (e.1.call w e.2) := by
  obtain ⟨setting, write⟩ := e
  cases setting with
  | ui_sounds_enabled enabled => exact ui_sounds_clean w enabled write
  | uart_baud_rate baud_rate =>
    refine assign_save_clean rfl fun hs => ?_
    by_contra hne
    exact h ⟨hs, fun heq => hne (by rw [← heq])⟩
  | iperf_settings host port => exact iperf_settings_clean h

/-- A value that is left behind. -/
theorem call_of_leaves {e : Setting × WriteAnswer} (h : Leaves w e) :
    (e.1.call w e.2).2 = false ∧ (e.1.call w e.2).1.store.config ≠ w.store.config := by
  obtain ⟨setting, write⟩ := e
  obtain ⟨hsaves, hleaves⟩ := h
  have hfails (config : AppConfig) : (save_config_ (w.assign config) write).2 = false ∧
      (save_config_ (w.assign config) write).1.store.config = config := by
    obtain ⟨hconfig, hresult, -⟩ := save_spec (w.assign config) write
    exact ⟨Bool.eq_false_iff.2 fun htrue => hsaves (hresult.1 htrue), hconfig⟩
  cases setting with
  | ui_sounds_enabled _ => exact hleaves.elim
  | uart_baud_rate baud_rate =>
    obtain ⟨hresult, hconfig⟩ := hfails { w.store.config with uart.baud_rate := baud_rate }
    refine ⟨hresult, fun heq => hleaves ?_⟩
    exact congrArg (·.uart.baud_rate) (heq.symm.trans hconfig)
  | iperf_settings host port =>
    obtain ⟨hresult, hconfig⟩ := hfails { w.store.config with network := ⟨host, port⟩ }
    obtain ⟨⟨hhost, hport⟩, hnew⟩ := hleaves
    have hcall : (Setting.iperf_settings host port).call w write =
        save_config_ (w.assign { w.store.config with network := ⟨host, port⟩ }) write := by
      show set_iperf_settings w host port write = _
      rw [set_iperf_settings, if_neg]
      rintro (hempty | hout)
      · exact hhost hempty
      · omega
    dsimp only
    rw [hcall]
    exact ⟨hresult, fun heq => hnew (congrArg (·.network) (heq.symm.trans hconfig))⟩

/-! ## Runs of calls -/

theorem accepted_concat (v : Values) (calls : List Call) (call : Call) :
    accepted v (calls ++ [call]) =
      if call.result then call.setting.apply (accepted v calls) else accepted v calls := by
  rw [accepted, List.foldl_append]
  rfl

/-- What one call that leaves nothing behind keeps. -/
theorem AllOrNothing.next {w : World} {c : Config World Call} (h : AllOrNothing w c)
    {e : Setting × WriteAnswer} (he : ¬ Leaves c.state e) :
    AllOrNothing w (setters.next c e) := by
  have hclean := call_clean he
  have hcurrent : (setters.next c e).state.store.config.values =
      accepted w.store.config.values (setters.next c e).history := by
    show (e.1.call c.state e.2).1.store.config.values = accepted _ (c.history ++ [_])
    rw [accepted_concat, ← h.current]
    cases hr : (e.1.call c.state e.2).2 with
    | true => exact hclean.assigned hr
    | false => exact congrArg AppConfig.values (hclean.restored hr)
  refine ⟨fun call hcall hfalse => ?_, hcurrent, fun calls call rest heq htrue => ?_⟩
  · rcases List.mem_append.1 hcall with hcall | hcall
    · exact h.restored call hcall hfalse
    · obtain rfl := List.mem_singleton.1 hcall
      exact hclean.restored hfalse
  · rcases concat_eq_append_cons heq with ⟨-, rfl, rfl⟩ | ⟨rest, -, hhistory⟩
    · exact (hclean.written htrue).imp_right fun hfile => ⟨_, hfile, hcurrent⟩
    · exact h.written calls call rest hhistory htrue

/-- A run is all or nothing if and only if no call keeps a value that it could not save. -/
theorem all_or_nothing_iff (w : World) (calls : List (Setting × WriteAnswer)) :
    (∀ before after, calls = before ++ after → AllOrNothing w (setters.run ⟨w, []⟩ before)) ↔
      setters.Along (fun c e => ¬ Leaves c.state e) ⟨w, []⟩ calls := by
  have hstart : AllOrNothing w ⟨w, []⟩ :=
    ⟨fun _ hcall => absurd hcall List.not_mem_nil, rfl, fun calls call rest heq => by simp at heq⟩
  rw [Machine.everywhere_iff_along hstart]
  refine Machine.along_iff (I := AllOrNothing w) (fun _ _ _ hnext => hnext) (fun c e hc => ?_)
    hstart calls
  refine ⟨fun hnext hleaves => ?_, hc.next⟩
  obtain ⟨hresult, hchanged⟩ := call_of_leaves hleaves
  exact hchanged (hnext.restored _ (List.mem_append_right _ (List.mem_singleton.2 rfl)) hresult)

/-- The baud rate cannot be saved, and the sounds can. -/
def unsaved_baud_rate : List (Setting × WriteAnswer) :=
  [(.uart_baud_rate 115200, .write_error), (.ui_sounds_enabled false, .written)]

/-- The baud rate that was refused is written with the sounds. -/
theorem unsaved_baud_rate_written : ¬ ∀ before after, unsaved_baud_rate = before ++ after →
    AllOrNothing ⟨{ path := "config.json" }, none⟩
      (setters.run ⟨⟨{ path := "config.json" }, none⟩, []⟩ before) := by
  intro h
  have hcurrent := (h unsaved_baud_rate [] (List.append_nil _).symm).current
  have hbaud := congrArg Values.baud_rate hcurrent
  exact absurd hbaud (by decide +kernel)

end FactoryTest.Config
