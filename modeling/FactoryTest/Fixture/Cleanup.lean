import FactoryTest.Fixture.Walk

/-!
# What the cleanup does

The final cleanup leaves the snapshot alone, reads nothing, and toggles each channel that the
model takes to be on Grove exactly once, if its writes are accepted (`cleanup_spec`).
-/

namespace FactoryTest.Fixture

open Program

/-- What is observed during the cleanup: calls that read no register, and delays. -/
def Obs.Tidies : Obs → Prop
  | .call (.read_register _ _) _ => False
  | .call _ _ => True
  | .delay _ _ => True
  | _ => False

/-- Every register write in the list was accepted. -/
def WritesAccepted (added : List Obs) : Prop :=
  ∀ reg data a, .call (.write_register reg data) a ∈ added → a.ok = true

/-- A point of the cleanup: what was observed since it was entered, with how often each channel
was toggled if all writes were accepted, and the flags now. -/
structure Tidying (entry : World) (flags : Channels) (i2c uart : ℕ) (w : World) : Prop where
  snapshot : w.model.snapshot = entry.model.snapshot
  canceled : entry.cancel_requested = true → w.cancel_requested = true
  flags : w.model.channels = flags
  added : ∃ added, w.history = entry.history ++ added ∧ (∀ o ∈ added, o.Tidies) ∧
    (WritesAccepted added → toggles 0x08 added = i2c ∧ toggles 0x09 added = uart)

variable {entry : World} {flags : Channels} {i2c uart : ℕ} {E : World → Prop}

namespace Tidying

variable {w : World}

/-- One more observation. -/
theorem concat (h : Tidying entry flags i2c uart w) {o : Obs} (ho : o.Tidies) {i2c' uart' : ℕ}
    (hcount : WritesAccepted [o] → i2c + (if o.toggles 0x08 then 1 else 0) = i2c' ∧
      uart + (if o.toggles 0x09 then 1 else 0) = uart') :
    Tidying entry flags i2c' uart' { w with history := w.history ++ [o] } where
  snapshot := h.snapshot
  canceled := h.canceled
  flags := h.flags
  added := by
    obtain ⟨added, heq, htidies, hwrites⟩ := h.added
    refine ⟨added ++ [o], ?_, ?_, fun haccepted => ?_⟩
    · show w.history ++ [o] = _
      rw [heq, List.append_assoc]
    · intro o' ho'
      rcases List.mem_append.1 ho' with ho' | ho'
      · exact htidies o' ho'
      · exact List.mem_singleton.1 ho' ▸ ho
    · rw [toggles_concat, toggles_concat]
      obtain ⟨rfl, rfl⟩ := hwrites fun reg data a hmem =>
        haccepted reg data a (List.mem_append_left _ hmem)
      exact hcount fun reg data a hmem => haccepted reg data a (List.mem_append_right _ hmem)

end Tidying

theorem Tidying.steady : Steady (Tidying entry flags i2c uart) := fun _ _ h hmodel hhistory hflag =>
  { snapshot := hmodel ▸ h.snapshot
    canceled := fun hentry => hflag (h.canceled hentry)
    flags := hmodel ▸ h.flags
    added := hhistory ▸ h.added }

/-! ## Steps -/

theorem tidy_call {c : Call} (hc : c.Plain) (hread : ∀ reg size, c ≠ .read_register reg size) :
    Triple (Tidying entry flags i2c uart) (call c) (fun _ => Tidying entry flags i2c uart) E := by
  intro w h
  refine (Tidying.steady.pass h).concat ?_ fun _ => ?_
  · cases c with
    | read_register reg size => exact absurd rfl (hread reg size)
    | _ => trivial
  · rw [hc.toggles _ (.inl rfl), hc.toggles _ (.inr rfl)]
    exact ⟨rfl, rfl⟩

/-- A delay of the cleanup may be interrupted. -/
theorem tidy_delay (milliseconds : ℕ) (reason : String) :
    Triple (Tidying entry flags i2c uart) (attempt (delay_ milliseconds reason))
      (fun _ => Tidying entry flags i2c uart) E := by
  have hdelay : Triple (Tidying entry flags i2c uart) (delay_ milliseconds reason)
      (fun _ => Tidying entry flags i2c uart) (Tidying entry flags i2c uart) :=
    delay_steady Tidying.steady milliseconds
      (fun _ h => h.concat (o := .delay reason true) trivial fun _ => ⟨rfl, rfl⟩)
      fun _ h _ => h.concat (o := .delay reason false) trivial fun _ => ⟨rfl, rfl⟩
  exact triple_attempt hdelay (fun _ _ h => h) fun _ h => h

theorem tidy_assign (f : CapFixtureTestModel → CapFixtureTestModel) (flags' : Channels)
    (hf : ∀ m : CapFixtureTestModel, m.channels = flags → (f m).channels = flags') :
    Triple (Tidying entry flags i2c uart) (assign f) (fun _ => Tidying entry flags' i2c uart) E :=
  fun _ h => { h with flags := hf _ h.flags }

theorem tidy_members : Triple (Tidying entry flags i2c uart) members
    (fun m w => m.channels = flags ∧ Tidying entry flags i2c uart w) E :=
  fun _ h => ⟨h.flags, h⟩

/-! ## Parts -/

theorem select_grove_bus_spec : Triple (Tidying entry flags i2c uart) select_grove_bus
    (fun _ => Tidying entry flags i2c uart) E := by
  refine tidy_members.bind fun m => triple_of_pre fun _ => ?_
  refine triple_ite (fun _ => ?_) fun _ => triple_pure fun _ h => h
  refine (tidy_call (by decide) fun _ _ => Call.noConfusion).bind fun selected => ?_
  refine triple_ite (fun _ => ?_) fun _ => triple_pure fun _ h => h
  exact (tidy_delay 3000 _).bind fun _ => triple_pure fun _ h => h

/-- One more toggle, if it is accepted. -/
theorem retry_toggle_spec {command : UInt8} (hcommand : command = 0x08 ∨ command = 0x09)
    (recovery settle : String) :
    Triple (Tidying entry flags i2c uart) (retry_toggle command recovery settle)
      (fun _ => Tidying entry flags (i2c + if command = 0x08 then 1 else 0)
        (uart + if command = 0x09 then 1 else 0)) E := by
  refine Triple.bind (Q := fun _ => Tidying entry flags (i2c + if command = 0x08 then 1 else 0)
    (uart + if command = 0x09 then 1 else 0)) (fun w h => ?_) fun written => ?_
  · refine (Tidying.steady.pass h).concat (o := .call (.write_register 0x01 [command]) _) trivial
      fun haccepted => ?_
    have hok := haccepted 0x01 [command] _ (List.mem_singleton.2 rfl)
    rcases hcommand with rfl | rfl
    · simp [Obs.toggles, hok]
    · simp [Obs.toggles, hok]
  · refine triple_ite (fun _ => ?_) fun _ => triple_pure fun _ h => h
    refine (tidy_delay 200 _).bind fun _ => ?_
    exact (tidy_delay 200 _).bind fun _ => triple_pure fun _ h => h

theorem recover_i2c_channel_spec : Triple (Tidying entry flags i2c uart) recover_i2c_channel
    (fun _ => Tidying entry { flags with i2c := false } (i2c + flags.i2c.toNat) uart) E := by
  refine tidy_members.bind fun m => triple_of_pre fun hm => ?_
  obtain rfl := hm
  refine triple_ite (fun hactive => ?_) fun hinactive => triple_pure fun w h => ?_
  · have hi2c : m.channels.i2c = true := hactive
    rw [hi2c]
    refine (retry_toggle_spec (.inl rfl) _ _).bind fun _ => ?_
    refine tidy_assign _ _ fun m' hm => ?_
    exact congrArg (Channels.mk false) (congrArg Channels.uart hm)
  · have hi2c : m.channels.i2c = false := Bool.not_eq_true _ ▸ hinactive
    rw [hi2c]
    exact { h with flags := h.flags.trans (congrArg (Channels.mk · m.channels.uart) hi2c) }

theorem recover_uart_channel_spec : Triple (Tidying entry flags i2c uart) recover_uart_channel
    (fun _ => Tidying entry { flags with uart := false } i2c (uart + flags.uart.toNat)) E := by
  refine tidy_members.bind fun m => triple_of_pre fun hm => ?_
  obtain rfl := hm
  refine triple_ite (fun hactive => ?_) fun hinactive => triple_pure fun w h => ?_
  · have huart : m.channels.uart = true := hactive
    rw [huart]
    refine (retry_toggle_spec (.inr rfl) _ _).bind fun _ => ?_
    refine tidy_assign _ _ fun m' hm => ?_
    exact congrArg (Channels.mk · false) (congrArg Channels.i2c hm)
  · have huart : m.channels.uart = false := Bool.not_eq_true _ ▸ hinactive
    rw [huart]
    exact { h with flags := h.flags.trans (congrArg (Channels.mk m.channels.i2c) huart) }

theorem keep_gpio_function_spec : Triple (Tidying entry flags i2c uart) keep_gpio_function
    (fun _ => Tidying entry flags i2c uart) E := by
  refine Triple.bind (Q := fun _ => Tidying entry flags i2c uart) ?_ fun selected => ?_
  · refine tidy_members.bind fun m => triple_of_pre fun _ => ?_
    refine triple_ite (fun _ => triple_pure fun _ h => h) fun _ => ?_
    refine (tidy_call (by decide) fun _ _ => Call.noConfusion).bind fun selected => ?_
    refine triple_ite (fun _ => ?_) fun _ => triple_pure fun _ h => h
    refine (tidy_assign _ flags ?_).bind fun _ => triple_pure fun _ h => h
    exact fun _ h => h
  · refine triple_ite (fun _ => ?_) fun _ => triple_pure fun _ h => h
    exact sleep_for_steady Tidying.steady 150

theorem release_gpio_lines_spec : Triple (Tidying entry flags i2c uart) release_gpio_lines
    (fun _ => Tidying entry flags i2c uart) E := by
  refine tidy_members.bind fun m => triple_of_pre fun _ => ?_
  refine triple_ite (fun _ => ?_) fun _ => triple_pure fun _ h => h
  refine (tidy_call (by decide) fun _ _ => Call.noConfusion).bind fun inputs => ?_
  refine triple_ite (fun _ => ?_) fun _ => triple_pure fun _ h => h
  refine tidy_assign _ flags ?_
  exact fun _ h => h

/-- What the cleanup leaves behind. -/
theorem cleanup_spec (entry : World) : Triple (fun w => w = entry) cleanup_
    (fun _ => Tidying entry ⟨false, false⟩ entry.model.channels.i2c.toNat
      entry.model.channels.uart.toNat) E := by
  refine Triple.pre (P := Tidying entry entry.model.channels 0 0) ?_ ?_
  · refine select_grove_bus_spec.bind fun _ => ?_
    refine recover_i2c_channel_spec.bind fun _ => ?_
    refine (tidy_call (by decide) fun _ _ => Call.noConfusion).bind fun _ => ?_
    refine recover_uart_channel_spec.bind fun _ => ?_
    refine (tidy_call (by decide) fun _ _ => Call.noConfusion).bind fun _ => ?_
    refine keep_gpio_function_spec.bind fun _ => ?_
    refine release_gpio_lines_spec.bind fun _ => ?_
    refine (tidy_call (by decide) fun _ _ => Call.noConfusion).bind fun _ => ?_
    refine (tidy_call (by decide) fun _ _ => Call.noConfusion).bind fun _ => ?_
    rw [Nat.zero_add, Nat.zero_add]
    refine tidy_assign _ ⟨false, false⟩ ?_
    exact fun _ h => h
  · rintro w rfl
    exact ⟨rfl, id, rfl, [], (List.append_nil _).symm, fun _ h => absurd h List.not_mem_nil,
      fun _ => ⟨rfl, rfl⟩⟩

end FactoryTest.Fixture
