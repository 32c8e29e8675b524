import FactoryTest.Fixture.Outcome

/-!
# What a run of the CAP fixture test guarantees

Over all surroundings and every way in which calls of `cancel` are interleaved with the worker.

**Cancellation.** A run that is left before the first item does not look at the flag again, and
a cancellation that is accepted after the last look is not heard either (`truthful_iff`).

**Toggles.** The flag of a channel is cleared only after the delays that follow the second toggle.
A cancellation in one of these leaves the flag set, and the cleanup toggles a third time
(`toggles_balanced_iff`).

**Blame.** `active_item_` has an item in it before any has begun (`blames_right_iff`).

**Verdict.** A run that publishes PASSED has seen everything it should (`passed_sound`).
-/

namespace FactoryTest.Fixture

/-! ## Cancellation -/

/-- The state in the end is terminal, and it says that the run was canceled exactly if a
cancellation was accepted. -/
def Truthful (w : World) : Prop :=
  (w.model.snapshot.state = .PASSED ∨ w.model.snapshot.state = .FAILED ∨
      w.model.snapshot.state = .CANCELED) ∧
    (w.cancel_requested = true → w.model.snapshot.state = .CANCELED) ∧
    (w.cancel_requested = false →
      w.model.snapshot.state = .PASSED ∨ w.model.snapshot.state = .FAILED)

/-- Where no cancellation is heard, only one that was not accepted leaves the truth. -/
theorem truthful_unheard {w : World} {heard : Prop} (hunheard : ¬ heard)
    (hstate : w.model.snapshot.state = .PASSED ∨ w.model.snapshot.state = .FAILED ∨
      w.model.snapshot.state = .RUNNING ∧ w.cancel_requested = true) :
    Truthful w ↔ (w.cancel_requested = true → heard) := by
  cases hflag : w.cancel_requested with
  | true =>
    refine iff_of_false (fun h => ?_) fun h => hunheard (h rfl)
    have hcanceled := h.2.1 hflag
    rcases hstate with hstate | hstate | ⟨hstate, -⟩
    all_goals
      rw [hstate] at hcanceled
      exact CapFixtureRunState.noConfusion hcanceled
  | false =>
    have hterminal : w.model.snapshot.state = .PASSED ∨ w.model.snapshot.state = .FAILED :=
      hstate.imp_right fun hstate => hstate.resolve_right fun hrunning => by simp_all
    refine iff_of_true ⟨?_, fun h => ?_, fun _ => hterminal⟩ fun h => Bool.noConfusion h
    · exact hterminal.imp_right .inl
    · exact Bool.noConfusion (hflag.symm.trans h)

/-- The run tells the truth if and only if no cancellation was accepted before it returned, or the
run got past PREPARE and RESET and the flag was set when it was loaded for the last time. -/
theorem truthful_iff (surroundings : Surroundings) (now : ℕ) :
    Truthful (finish surroundings now) ↔
      ((finish surroundings now).cancel_requested = true →
        (setup (start surroundings now)).1.isSome = true ∧
          (last_load surroundings now).cancel_requested = true) := by
  obtain ⟨outcome, tidied, houtcome, hitems, -, hload, htidied, hending⟩ :=
    finish_ending surroundings now
  rw [← hload, ← hitems]
  have hsnapshot := htidied.snapshot
  cases hending with
  | aborted snapshot history flag =>
    refine truthful_unheard (fun h => Bool.noConfusion h.1) ?_
    rw [snapshot, hsnapshot]
    rcases houtcome with houtcome | houtcome
    · exact .inr (.inr ⟨houtcome.1.running, flag (htidied.canceled houtcome.2)⟩)
    · exact .inr (.inl houtcome.failed)
  | canceled passed state states history flag heard =>
    refine iff_of_true ⟨.inr (.inr state), fun _ => state, fun h => ?_⟩ fun _ => ⟨rfl, heard⟩
    exact Bool.noConfusion (flag.symm.trans h)
  | passed state states history flag =>
    exact truthful_unheard (fun h => Bool.noConfusion (flag.symm.trans h.2)) (.inl state)
  | failed snapshot history flag =>
    refine truthful_unheard (fun h => Bool.noConfusion (flag.symm.trans h.2)) (.inr (.inl ?_))
    rw [snapshot, hsnapshot]
    refine (Stopped.halted houtcome).resolve_right fun hrunning => ?_
    rw [World.pass_flag (htidied.canceled hrunning.2)] at flag
    exact Bool.noConfusion flag

/-- All calls succeed, and a cancellation comes at once. -/
def canceled_early : Surroundings where
  meanwhile := fun _ => { cancels := [.look, .set] }
  answer := fun _ _ => {}

/-- A cancellation during PREPARE leaves the run RUNNING. -/
theorem canceled_early_untruthful : ¬ Truthful (finish canceled_early 0) := by
  have hstate : (finish canceled_early 0).model.snapshot.state = .RUNNING := by decide +kernel
  intro h
  rcases h.1 with h | h | h
  all_goals
    rw [hstate] at h
    exact CapFixtureRunState.noConfusion h

/-! ## Toggles -/

/-- The flag of each channel says whether it was toggled an odd number of times. -/
def Balanced (w : World) : Prop :=
  (w.model.cap_grove_i2c_active = true ↔ Odd (toggles 0x08 w.history)) ∧
    (w.model.cap_grove_uart_active = true ↔ Odd (toggles 0x09 w.history))

theorem balanced_iff (w : World) : Balanced w ↔ w.model.channels = toggled w.history := by
  have hodd (b : Bool) (n : ℕ) : (b = true ↔ Odd n) ↔ b = (n % 2 == 1) := by
    rw [Nat.odd_iff]
    cases b <;> simp
  unfold Balanced
  rw [hodd, hodd]
  exact ⟨fun h => congrArg₂ Channels.mk h.1 h.2, fun h =>
    ⟨congrArg Channels.i2c h, congrArg Channels.uart h⟩⟩

/-- A toggle makes the number even if the flag says that it is odd. -/
theorem even_toggles {b : Bool} {n : ℕ} (h : b = true ↔ Odd n) : Even (n + b.toNat) := by
  cases b with
  | true => exact (h.1 rfl).add_one
  | false => exact Nat.not_odd_iff_even.1 fun hodd => Bool.noConfusion (h.2 hodd)

/-- The flags are right when `run_` enters `cleanup_`, and both channels are toggled an even
number of times in the whole run if `cleanup_` can write its registers, if and only if no delay
between a second toggle and its assignment was interrupted. -/
theorem toggles_balanced_iff (surroundings : Surroundings) (now : ℕ) :
    (Balanced (before_cleanup surroundings now) ∧
      (WritesAccepted ((finish surroundings now).history.drop
          (before_cleanup surroundings now).history.length) →
        Even (toggles 0x08 (finish surroundings now).history) ∧
          Even (toggles 0x09 (finish surroundings now).history))) ↔
      Uncut (before_cleanup surroundings now).history := by
  obtain ⟨outcome, tidied, houtcome, -, -, -, htidied, hending⟩ := finish_ending surroundings now
  obtain ⟨added, hadded, -, hcount⟩ := htidied.added
  obtain ⟨extra, hextra, hquiet⟩ := hending.grows
  rw [hadded] at hextra
  rw [← houtcome.level, ← balanced_iff, hextra, List.append_assoc, List.drop_left]
  refine ⟨fun h => h.1, fun hbalanced => ⟨hbalanced, fun hwrites => ?_⟩⟩
  have hnone (command : UInt8) : toggles command extra = 0 := by
    refine List.countP_eq_zero.2 fun o ho => ?_
    rcases hquiet o ho with ⟨flag, rfl⟩ | rfl
    · exact Bool.noConfusion
    · exact Bool.noConfusion
  obtain ⟨hi2c, huart⟩ := hcount fun reg data a hmem => hwrites reg data a
    (List.mem_append_left _ hmem)
  have hsum (command : UInt8) : toggles command ((before_cleanup surroundings now).history ++
      (added ++ extra)) = toggles command (before_cleanup surroundings now).history +
        toggles command added := by
    have hextra := hnone command
    unfold toggles at hextra ⊢
    rw [List.countP_append, List.countP_append, hextra, Nat.add_zero]
  rw [hsum, hsum, hi2c, huart]
  exact ⟨even_toggles hbalanced.1, even_toggles hbalanced.2⟩

/-- All items pass, and a cancellation comes in the delay after the second toggle of the I2C
channel. -/
def canceled_in_restore : Surroundings where
  meanwhile := fun moment =>
    if moment < 66 then { elapsed := 3000 } else { cancels := [.look, .set] }
  answer := fun _ c =>
    match c with
    | .read_register 0x02 2 => { bytes := [0xa5, 0x5a] }
    | .read_register 0x03 1 => { bytes := [0x02] }
    | .read_register 0x08 1 => { bytes := [0x20] }
    | _ => {}

/-- The flag says that the channel is on Grove after it was toggled twice. -/
theorem canceled_in_restore_unbalanced : ¬ Balanced (before_cleanup canceled_in_restore 0) := by
  have htoggles : toggles 0x08 (before_cleanup canceled_in_restore 0).history = 2 := by
    decide +kernel
  have hflag : (before_cleanup canceled_in_restore 0).model.cap_grove_i2c_active = true := by
    decide +kernel
  intro h
  have hodd := h.1.1 hflag
  rw [htoggles] at hodd
  exact absurd hodd (by decide)

/-! ## Blame -/

theorem At.unfailed {k : ℕ} {middle : List CapFixtureItemState} {flags odds : Channels}
    {ps : List (Obs → Prop)} {w : World} (h : At k middle flags odds ps w)
    (stage message : String) :
    .fail stage message ∉ w.history := by
  intro hfail
  obtain ⟨before, hfalse⟩ := h.trail.regular.of_mem hfail
  exact hfalse

theorem attributed_append {h os : List Obs} (hh : Justified Attributed h)
    (hos : ∀ o ∈ os, Attributed h o) : Justified Attributed (h ++ os) := by
  induction os generalizing h with
  | nil => rwa [List.append_nil]
  | cons o os ih =>
    rw [List.append_cons]
    refine ih (justified_concat.2 ⟨hh, hos o List.mem_cons_self⟩) fun o' ho' => ?_
    exact (hos o' (List.mem_cons_of_mem o ho')).grow [o]

/-- Only the states of the items matter. -/
theorem Attributed.same {h : List Obs} {s s' : CapFixtureSnapshot}
    (hs : Attributed h (.snapshot s)) (heq : s'.states = s.states) :
    Attributed h (.snapshot s') := by
  rintro _ ⟨⟩
  obtain ⟨⟨k, middle, hstates, hshape⟩, hfailed⟩ := hs s rfl
  exact ⟨⟨k, middle, heq.trans hstates, hshape⟩, fun i hi => hfailed i (heq ▸ hi)⟩

/-- No snapshot before the first item blames one. -/
theorem At.unblamed {flags odds : Channels} {ps : List (Obs → Prop)} {w : World}
    (h : At 0 [] flags odds ps w) {s : CapFixtureSnapshot} (hs : .snapshot s ∈ w.history) :
    .FAILED ∉ s.states := by
  intro hfailed
  obtain ⟨before, after, heq⟩ := List.append_of_mem hs
  obtain ⟨-, hattributed⟩ := h.trail.regular before _ after heq
  obtain ⟨i, hi⟩ := List.mem_iff_getElem?.1 hfailed
  have hbegun : .begin_item i ∈ w.history := by
    rw [heq]
    exact List.mem_append_left _ ((hattributed s rfl).2 i hi)
  rw [← mem_begun, h.trail.begun] at hbegun
  exact List.not_mem_nil hbegun

/-- The stages before the items leave a point of the chain, or blame the wrong item. -/
theorem setup_prepared (surroundings : Surroundings) (now : ℕ) :
    At 0 [] hat hat [] (setup (start surroundings now)).2 ∨
      Misblamed (setup (start surroundings now)).2 := by
  have h := setup_spec _ (start_at surroundings now)
  cases hr : setup (start surroundings now) with
  | mk r w =>
    rw [hr] at h
    cases r with
    | none => exact h.imp_left fun h => h.1
    | some _ => exact .inl h

/-- All snapshots of the run are right, and those of PREPARE and RESET blame no item, if and only
if neither stage fails. -/
theorem blames_right_iff (surroundings : Surroundings) (now : ℕ) :
    (Justified Attributed (finish surroundings now).history ∧
      ∀ s, .snapshot s ∈ (setup (start surroundings now)).2.history → .FAILED ∉ s.states) ↔
      ∀ stage message, .fail stage message ∉ (setup (start surroundings now)).2.history := by
  have hsetup := setup_prepared surroundings now
  constructor
  · rintro ⟨-, hblame⟩ stage message hfail
    rcases hsetup with hat | hmisblamed
    · exact hat.unfailed stage message hfail
    · obtain ⟨s, hs, hfailed⟩ := hmisblamed.misblamed
      exact hblame s hs hfailed
  · intro hunfailed
    have hat := hsetup.resolve_right fun hmisblamed => by
      obtain ⟨stage, message, hfail⟩ := hmisblamed.reported
      exact hunfailed stage message hfail
    refine ⟨?_, fun s hs hfailed => hat.unblamed hs hfailed⟩
    obtain ⟨outcome, tidied, houtcome, -, haborted, -, htidied, hending⟩ :=
      finish_ending surroundings now
    have hright : Justified Attributed (before_cleanup surroundings now).history ∧
        Attributed (before_cleanup surroundings now).history
          (.snapshot (before_cleanup surroundings now).model.snapshot) := by
      match outcome, houtcome with
      | none, _ =>
        rw [haborted rfl] at hat
        exact ⟨hat.chain.mono fun _ _ => InChain.attributed,
          attributed_of_row hat.room hat.states hat.narrow⟩
      | some false, h =>
        exact ⟨(Stopped.chain h).mono fun _ _ => InChain.attributed, Stopped.current h⟩
      | some true, h =>
        exact ⟨h.1.chain.mono fun _ _ => InChain.attributed,
          attributed_of_row h.1.room h.1.states h.1.narrow⟩
    obtain ⟨added, hadded, htidies, -⟩ := htidied.added
    obtain ⟨extra, hextra, hquiet⟩ := hending.grows
    rw [hextra, hadded, List.append_assoc]
    refine attributed_append hright.1 fun o ho => ?_
    rcases List.mem_append.1 ho with ho | ho
    · rintro s rfl
      exact (htidies _ ho).elim
    · rcases hquiet o ho with ⟨flag, rfl⟩ | rfl
      · exact fun s hs => Obs.noConfusion hs
      · refine hright.2.same ?_
        rw [hending.states, htidied.snapshot]

/-- The host cannot keep the I2C bus on HAT. -/
def stuck_bus : Surroundings where
  answer := fun _ c =>
    match c with
    | .set_external_bus_i2c_mode _ => { ok := false, error := "no such device" }
    | _ => {}

/-- A failure in PREPARE is blamed on the USB item. -/
theorem stuck_bus_blames_usb :
    ∃ s, .snapshot s ∈ (setup (start stuck_bus 0)).2.history ∧ .FAILED ∈ s.states ∧
      .begin_item K_USB_ITEM ∉ (finish stuck_bus 0).history := by
  refine ⟨(setup (start stuck_bus 0)).2.model.snapshot, ?_, ?_, ?_⟩
  all_goals decide +kernel

/-! ## Verdict -/

/-- What the history says of a run that passed. -/
structure Sound (h : List Obs) (s : CapFixtureSnapshot) : Prop where
  states : s.states = List.replicate 8 .PASSED
  order : h.filterMap Obs.passed = List.range 8
  evidence : InOrder evidence h
  sample : LastSample [0x07] h
  unfailed : ∀ stage message, .fail stage message ∉ h

/-- A run that is published as passed has all the evidence, in the order of the tests. -/
theorem passed_sound (surroundings : Surroundings) (now : ℕ) {s : CapFixtureSnapshot}
    (hs : .snapshot s ∈ (finish surroundings now).history) (hpassed : s.state = .PASSED) :
    Sound (finish surroundings now).history s := by
  obtain ⟨outcome, tidied, houtcome, -, -, -, htidied, hending⟩ := finish_ending surroundings now
  obtain ⟨added, hadded, htidies, -⟩ := htidied.added
  have hbefore : .snapshot s ∉ tidied.history := by
    rw [hadded]
    intro hmem
    rcases List.mem_append.1 hmem with hmem | hmem
    · exact houtcome.unfinished.1 s hmem hpassed
    · exact htidies _ hmem
  obtain ⟨extra, hextra, hquiet⟩ := hending.grows
  cases hending with
  | aborted snapshot history flag => exact absurd (history ▸ hs) hbefore
  | failed snapshot history flag =>
    rw [history] at hs
    simp [hbefore] at hs
  | canceled passed state states history flag _ =>
    rw [history] at hs
    have hlast : s = (finish surroundings now).model.snapshot := by simpa [hbefore] using hs
    rw [hlast, state] at hpassed
    exact CapFixtureRunState.noConfusion hpassed
  | passed state states history flag =>
    obtain ⟨hat, hlast⟩ : Passed (before_cleanup surroundings now) := houtcome
    have hfinal : s = (finish surroundings now).model.snapshot := by
      rw [history] at hs
      simpa [hbefore] using hs
    have hrest : ∀ o ∈ added ++ extra, o.sample = none ∧ o.passed = none ∧
        ∀ stage message, o ≠ .fail stage message := by
      intro o ho
      rcases List.mem_append.1 ho with ho | ho
      · exact (htidies o ho).plain
      · rcases hquiet o ho with ⟨flag, rfl⟩ | rfl
        · exact ⟨rfl, rfl, fun _ _ => Obs.noConfusion⟩
        · exact ⟨rfl, rfl, fun _ _ => Obs.noConfusion⟩
    rw [hextra, hadded, List.append_assoc]
    refine ⟨?_, ?_, hat.trail.evidence.grow _, hlast.append fun o ho => (hrest o ho).1,
      fun stage message hfail => ?_⟩
    · rw [hfinal, states, htidied.snapshot, hat.states]
      rfl
    · rw [List.filterMap_append, hat.trail.passed,
        List.filterMap_eq_nil_iff.2 fun o ho => (hrest o ho).2.1]
      rfl
    · rcases List.mem_append.1 hfail with hfail | hfail
      · exact hat.unfailed stage message hfail
      · exact (hrest _ hfail).2.2 stage message rfl

/-- The status of a working fixture after so many steps of the worker: passed, idle or running. -/
def working_status (moment : ℕ) : UInt8 :=
  if moment < 120 then 0x02
  else if moment < 150 then 0x00
  else if moment < 180 then 0x01
  else if moment < 210 then 0x00
  else 0x01

/-- What a working fixture sends over the UART. -/
def working_uart (moment : ℕ) : List UInt8 :=
  if moment < 170 then ready_frame
  else if moment < 200 then reply_frame
  else if moment < 227 then ready_frame
  else reply_frame

/-- A working fixture, with 180 ms between two steps of the worker. -/
def working_fixture : Surroundings where
  meanwhile := fun _ => { elapsed := 180 }
  answer := fun moment c =>
    match c with
    | .read_register 0x01 1 => { bytes := [0x03] }
    | .read_register 0x02 2 => { bytes := [0xa5, 0x5a] }
    | .read_register 0x03 1 => { bytes := [working_status moment] }
    | .read_register 0x07 1 => { bytes := [0x07] }
    | .read_register 0x08 1 => { bytes := [0x20] }
    | .read_gpio_test_output_levels => { bytes := [0x07] }
    | .spi_transfer _ => { bytes := spi_expected }
    | .uart_read_available => { bytes := working_uart moment }
    | _ => {}

theorem passed_sound_working : Sound (finish working_fixture 0).history
    (finish working_fixture 0).model.snapshot :=
  passed_sound working_fixture 0 (by decide +kernel) (by decide +kernel)

end FactoryTest.Fixture
