import FactoryTest.Fixture.Cleanup

/-!
# How a run ends

Rules for the two parts of `run_` before its cleanup (`setup_spec`, `sequence_spec`), and the ways
in which a whole run ends (`Ending`).

**The stages before the items.** A failure in PREPARE or RESET is blamed on the item that
`active_item_` holds from its initializer, which has not begun (`Misblamed`).
-/

namespace FactoryTest.Fixture

open Program

/-! ## The last sample -/

/-- What a read of the GPIO levels answered. -/
def Obs.sample : Obs → Option (List UInt8)
  | .call (.read_register 0x07 1) a => some a.bytes
  | _ => none

/-- The levels that were read last. -/
def LastSample (levels : List UInt8) (h : List Obs) : Prop :=
  (h.filterMap Obs.sample).getLast? = some levels

theorem LastSample.concat {levels : List UInt8} {h : List Obs} (hlast : LastSample levels h)
    {o : Obs} (ho : o.sample = none) : LastSample levels (h ++ [o]) := by
  unfold LastSample
  rw [List.filterMap_append, List.filterMap_cons_none ho, List.filterMap_nil, List.append_nil]
  exact hlast

theorem LastSample.append {levels : List UInt8} {h : List Obs} (hlast : LastSample levels h)
    {os : List Obs} (hos : ∀ o ∈ os, o.sample = none) : LastSample levels (h ++ os) := by
  unfold LastSample
  rw [List.filterMap_append, List.filterMap_eq_nil_iff.2 hos, List.append_nil]
  exact hlast

theorem Obs.Tidies.plain {o : Obs} (ho : o.Tidies) :
    o.sample = none ∧ o.passed = none ∧ ∀ stage message, o ≠ .fail stage message := by
  cases o with
  | call c a =>
    refine ⟨?_, rfl, fun _ _ => Obs.noConfusion⟩
    cases c with
    | read_register _ _ => exact ho.elim
    | _ => rfl
  | delay _ _ => exact ⟨rfl, rfl, fun _ _ => Obs.noConfusion⟩
  | _ => exact ho.elim

variable {P E : World → Prop} {levels : List UInt8}

theorem read_levels_last (stage : String) : Triple P (read_reg_ stage 0x07 1)
    (fun sample w => LastSample sample w.history) fun _ => True := by
  refine triple_true.bind fun _ => ?_
  refine triple_true.bind fun _ => ?_
  refine Triple.bind (Q := fun a w => LastSample a.bytes w.history) (fun w _ => ?_) fun read => ?_
  · show LastSample _ (w.pass.history ++ [.call (.read_register 0x07 1) _])
    unfold LastSample
    rw [List.filterMap_append]
    exact List.getLast?_concat
  · exact (check_passes read.ok _ _).bind fun _ => triple_pure fun _ h => h.2

/-- The bytes that a read fills in are the sample. -/
def Sampled (sample : List UInt8) (w : World) : Prop :=
  sample.length = 1 ∧ LastSample sample w.history

theorem gpio_samples_last (samples : ℕ) (levels : List UInt8) :
    Triple P (gpio_samples (samples + 1) levels) Sampled fun _ => True := by
  induction samples generalizing levels P with
  | zero =>
    refine triple_true.bind fun _ => triple_true.bind fun _ => ?_
    refine Triple.bind (Q := Sampled) ?_ fun _ => triple_pure fun _ h => h
    exact ((read_reg_length "GPIO" 0x07 1).and (read_levels_last "GPIO")).mono (fun _ h => ⟨h, h⟩)
      (fun _ _ h => h) fun _ h => h.1
  | succ samples ih =>
    refine triple_true.bind fun _ => triple_true.bind fun _ => triple_true.bind fun sample => ?_
    exact triple_true.bind fun _ => ih sample

theorem call_last {c : Call} (hc : ∀ a, (Obs.call c a).sample = none) :
    Triple (fun w => LastSample levels w.history) (call c)
      (fun _ w => LastSample levels w.history) E :=
  fun w h => LastSample.concat (w.pass_history ▸ h) (hc _)

theorem assign_last (f : CapFixtureTestModel → CapFixtureTestModel) :
    Triple (fun w => LastSample levels w.history) (assign f)
      (fun _ w => LastSample levels w.history) E :=
  fun _ h => h

/-- A passed run has sampled the lines right in the end. -/
theorem run_gpio_last : Triple P run_gpio_ (fun _ w => LastSample [0x07] w.history)
    fun _ => True := by
  refine triple_true.bind fun _ => ?_
  refine triple_true.bind fun selected => ?_
  cases selected with
  | some error => exact fun _ _ => trivial
  | none =>
    refine triple_true.bind fun _ => triple_true.bind fun _ => triple_true.bind fun _ => ?_
    refine triple_true.bind fun _ => triple_true.bind fun _ => triple_true.bind fun _ => ?_
    refine triple_true.bind fun _ => triple_true.bind fun _ => triple_true.bind fun _ => ?_
    refine Triple.bind (Q := fun sampled w => sampled.elim True (Sampled · w))
      (triple_attempt (gpio_samples_last 4 [0]) (fun _ _ h => h) fun _ h => h) fun sampled => ?_
    cases sampled with
    | none => exact triple_true.bind fun _ => triple_true.bind fun _ => triple_true.bind fun _ =>
        triple_giveUp fun _ h => h
    | some levels =>
      refine triple_of_pre fun hsize => ?_
      refine (call_last fun _ => rfl).bind fun stop => ?_
      refine (call_last fun _ => rfl).bind fun inputs => ?_
      refine (assign_last _).bind fun _ => ?_
      refine (check_passes _ _ _).bind fun _ => ?_
      refine triple_of_pre fun hlevels => ?_
      obtain rfl := levels_eq hsize (of_decide_eq_true hlevels)
      refine (check_passes _ _ _).bind fun _ => triple_of_pre fun _ => ?_
      refine (check_passes _ _ _).bind fun _ => triple_of_pre fun _ w h => ?_
      exact ((w.pass_history ▸ h : LastSample [0x07] w.pass.history).concat rfl).concat rfl

/-! ## PREPARE and RESET -/

/-- Nothing is published as passed, and the run has not looked at the flag for the last time. -/
def Unfinished (h : List Obs) : Prop :=
  (∀ s, .snapshot s ∈ h → s.state ≠ .PASSED) ∧ ∀ b, .verdict b ∉ h

/-- A failure before the first item: an item that has not begun is marked. -/
structure Misblamed (w : World) : Prop where
  unfinished : Unfinished w.history
  failed : w.model.snapshot.state = .FAILED
  level : w.model.channels = toggled w.history
  uncut : Uncut w.history
  reported : ∃ stage message, .fail stage message ∈ w.history
  misblamed : ∃ s, .snapshot s ∈ w.history ∧ .FAILED ∈ s.states
  wrong : ¬ Justified Attributed w.history

/-- The run is canceled or fails before the first item. -/
def Aborted (w : World) : Prop :=
  (At 0 [] hat hat [] w ∧ w.cancel_requested = true) ∨ Misblamed w

theorem unfinished_of_chain {h : List Obs} (hh : Justified InChain h) : Unfinished h := by
  refine ⟨fun s hs => ?_, fun b hb => ?_⟩
  · obtain ⟨before, hpassed, -⟩ := hh.of_mem hs
    exact hpassed
  · obtain ⟨before, hfalse⟩ := hh.of_mem hb
    exact hfalse

theorem start_at (surroundings : Surroundings) (now : ℕ) :
    At 0 [] hat hat [] (start surroundings now) := by
  have htrail : Trail 0 0 hat [] [] :=
    ⟨rfl, rfl, justified_nil Regular, rfl, inOrder_nil []⟩
  have hstates : (start surroundings now).model.snapshot.states = row 0 [] := rfl
  exact ⟨Nat.zero_le 8, .inl rfl,
    htrail.snapshot rfl (attributed_of_row (Nat.zero_le 8) hstates (.inl rfl)), hstates, rfl,
    fun h => absurd rfl h, fun _ _ => rfl, rfl⟩

theorem fail_misblames {α : Type} {Q : α → World → Prop} (stage message : String) :
    Triple (At 0 [] hat hat []) (fail_ stage message) Q Misblamed := by
  intro w hw
  have h := hw.pass
  have hstates : (w.pass.model.snapshot.set_item w.pass.model.active_item .FAILED message).states =
      (row 0 []).set K_USB_ITEM .FAILED := by
    rw [states_set_item, h.fresh rfl rfl, h.states]
  have hunfinished := unfinished_of_chain h.chain
  have hmarked : .FAILED ∈ (fail_ stage message w : Option α × World).2.model.snapshot.states := by
    show .FAILED ∈ (w.pass.model.snapshot.set_item w.pass.model.active_item .FAILED message).states
    rw [hstates]
    decide
  refine ⟨⟨fun s hs => ?_, fun b hb => ?_⟩, rfl, ?_, ?_, ⟨stage, message, ?_⟩,
    ⟨_, List.mem_append_right _ (List.mem_singleton.2 rfl), hmarked⟩, fun hj => ?_⟩
  · rcases List.mem_append.1 hs with hs | hs
    · rcases List.mem_append.1 hs with hs | hs
      · exact hunfinished.1 s hs
      · exact Obs.noConfusion (List.mem_singleton.1 hs)
    · obtain rfl := Obs.snapshot.inj (List.mem_singleton.1 hs)
      exact CapFixtureRunState.noConfusion
  · rcases List.mem_append.1 hb with hb | hb
    · rcases List.mem_append.1 hb with hb | hb
      · exact hunfinished.2 b hb
      · exact Obs.noConfusion (List.mem_singleton.1 hb)
    · exact Obs.noConfusion (List.mem_singleton.1 hb)
  · have htoggled := toggled_concat w.pass.history (o := .fail stage message) rfl rfl
    refine h.flags.trans (Eq.symm ?_)
    exact (toggled_concat _ rfl rfl).trans (htoggled.trans h.trail.toggled)
  · refine (uncut_concat _ fun _ => Obs.noConfusion).2 ((uncut_concat _ fun _ =>
      Obs.noConfusion).2 (uncut_of_regular h.trail.regular))
  · exact List.mem_append_left _ (List.mem_append_right _ (List.mem_singleton.2 rfl))
  · -- The item that is marked has not begun.
    have hattributed := hj _ _ [] rfl
    have hbegun := (hattributed _ rfl).2 K_USB_ITEM (by
      show (w.pass.model.snapshot.set_item w.pass.model.active_item .FAILED message).states[6]? = _
      rw [hstates]
      rfl)
    rcases List.mem_append.1 hbegun with hbegun | hbegun
    · rw [← mem_begun, h.trail.begun] at hbegun
      exact List.not_mem_nil hbegun
    · exact Obs.noConfusion (List.mem_singleton.1 hbegun)

theorem check_prepares (b : Bool) (stage message : String) :
    Triple (At 0 [] hat hat []) (check b stage message) (fun _ => At 0 [] hat hat []) Aborted := by
  cases b with
  | true => exact triple_pure fun _ h => h
  | false => exact (fail_misblames stage message).escape fun _ => .inr

theorem send_reset_spec (attempts : ℕ) (reset_error : String) :
    Triple (At 0 [] hat hat []) (send_reset attempts reset_error) (fun _ => At 0 [] hat hat [])
      E := by
  induction attempts generalizing reset_error with
  | zero => exact triple_pure fun _ h => h
  | succ attempts ih =>
    refine canceled_spec.bind fun canceled => ?_
    refine triple_ite (fun _ => triple_pure fun _ h => h.1) fun _ => ?_
    refine ((call_spec (by decide)).pre fun _ h => h.1).bind fun written => ?_
    refine triple_ite (fun _ => triple_pure fun _ h => h) fun _ => ?_
    refine triple_ite (fun _ => triple_pure fun _ h => h) fun _ => ?_
    refine Triple.bind (Q := fun _ => At 0 [] hat hat [])
      (triple_attempt (delay_keeps 200 (by decide)) (fun _ _ h => h) fun _ h => h.1)
      fun waited => ?_
    cases waited with
    | none => exact triple_pure fun _ h => h
    | some _ => exact ih written.error

theorem setup_spec : Triple (At 0 [] hat hat []) setup (fun _ => At 0 [] hat hat []) Aborted := by
  refine (call_spec (by decide)).bind fun kept => ?_
  refine (check_prepares kept.ok _ _).bind fun _ => ?_
  refine (call_spec (by decide)).bind fun enabled => ?_
  refine (check_prepares enabled.ok _ _).bind fun _ => ?_
  refine ((delay_keeps 300 (by decide)).escape fun _ => .inl).bind fun _ => ?_
  refine (send_reset_spec 5 "").bind fun reset => ?_
  cases reset with
  | none => exact (delay_keeps 2000 (by decide)).escape fun _ => .inl
  | some reset_error =>
    refine canceled_spec.bind fun canceled => ?_
    cases canceled with
    | true => exact triple_giveUp fun _ h => .inl ⟨h.1, h.2 rfl⟩
    | false => exact ((fail_misblames _ _).escape fun _ => .inr).pre fun _ h => h.1

/-! ## The items -/

/-- What must be observed in a run that passes. -/
def evidence : List (Obs → Prop) :=
  power_evidence ++ i2c_evidence ++ grove_i2c_evidence ++ uart_evidence K_UART_ITEM ++
    uart_evidence K_GROVE_UART_ITEM ++ spi_evidence ++ usb_evidence ++ gpio_evidence

theorem sequence_at : Triple (At 0 [] hat hat []) sequence (fun _ => At 8 [] hat hat evidence)
    Stopped := by
  refine (run_power_spec.escape fun _ h => h.toStopped).bind fun _ => ?_
  refine ((delay_spec 1000 (by decide)).escape fun _ h => h.toStopped).bind fun _ => ?_
  refine (run_i2c_spec.escape fun _ h => h.toStopped).bind fun _ => ?_
  refine ((delay_spec 1000 (by decide)).escape fun _ h => h.toStopped).bind fun _ => ?_
  refine (run_grove_i2c_spec.escape fun _ h => h.toStopped).bind fun _ => ?_
  refine ((delay_spec 1500 (by decide)).escape fun _ h => h.toStopped).bind fun _ => ?_
  refine (run_uart_spec.escape fun _ h => h.toStopped).bind fun _ => ?_
  refine ((delay_spec 1000 (by decide)).escape fun _ h => h.toStopped).bind fun _ => ?_
  refine (run_grove_uart_spec.escape fun _ h => h.toStopped).bind fun _ => ?_
  refine ((delay_spec 1000 (by decide)).escape fun _ h => h.toStopped).bind fun _ => ?_
  refine (run_spi_spec.escape fun _ h => h.toStopped).bind fun _ => ?_
  refine ((delay_spec 1000 (by decide)).escape fun _ h => h.toStopped).bind fun _ => ?_
  refine (run_usb_spec.escape fun _ h => h.toStopped).bind fun _ => ?_
  refine ((delay_spec 1000 (by decide)).escape fun _ h => h.toStopped).bind fun _ => ?_
  exact run_gpio_spec.escape fun _ h => h.toStopped

theorem sequence_last :
    Triple P sequence (fun _ w => LastSample [0x07] w.history) fun _ => True := by
  refine triple_true.bind fun _ => triple_true.bind fun _ => triple_true.bind fun _ => ?_
  refine triple_true.bind fun _ => triple_true.bind fun _ => triple_true.bind fun _ => ?_
  refine triple_true.bind fun _ => triple_true.bind fun _ => triple_true.bind fun _ => ?_
  refine triple_true.bind fun _ => triple_true.bind fun _ => triple_true.bind fun _ => ?_
  exact triple_true.bind fun _ => triple_true.bind fun _ => run_gpio_last

/-- The end of the chain of items. -/
def Passed (w : World) : Prop := At 8 [] hat hat evidence w ∧ LastSample [0x07] w.history

/-- How the part of the run before its cleanup ends. -/
def Tested : Option Bool → World → Prop
  | none => Aborted
  | some false => Stopped
  | some true => Passed

theorem Tested.unfinished {outcome : Option Bool} {w : World} (h : Tested outcome w) :
    Unfinished w.history := by
  match outcome, h with
  | none, .inl h => exact unfinished_of_chain h.1.chain
  | none, .inr h => exact h.unfinished
  | some false, h => exact unfinished_of_chain (Stopped.chain h)
  | some true, h => exact unfinished_of_chain h.1.chain

theorem Tested.level {outcome : Option Bool} {w : World} (h : Tested outcome w) :
    w.model.channels = toggled w.history ↔ Uncut w.history := by
  match outcome, h with
  | none, .inl h =>
    exact iff_of_true (h.1.flags.trans h.1.trail.toggled.symm) (uncut_of_regular h.1.trail.regular)
  | none, .inr h => exact iff_of_true h.level h.uncut
  | some false, h => exact Stopped.level h
  | some true, h =>
    exact iff_of_true (h.1.flags.trans h.1.trail.toggled.symm) (uncut_of_regular h.1.trail.regular)

theorem test_spec : Triple (At 0 [] hat hat []) test Tested E := by
  refine Triple.bind (Q := fun (ready : Option Unit) w =>
      if ready.isSome then At 0 [] hat hat [] w else Aborted w)
    (triple_attempt setup_spec (fun _ _ h => h) fun _ h => h) fun ready => ?_
  cases ready with
  | none => exact triple_pure fun _ h => h
  | some _ =>
    have hsequence : Triple (At 0 [] hat hat []) sequence (fun _ => Passed) Stopped :=
      (sequence_at.and sequence_last).mono (fun _ h => ⟨h, h⟩) (fun _ _ h => h) fun _ h => h.1
    refine Triple.bind (Q := fun (passed : Option Unit) => Tested (some passed.isSome))
      (triple_attempt hsequence (fun _ _ h => h) fun _ h => h) fun passed => ?_
    exact triple_pure fun _ h => h

/-! ## The whole run -/

/-- What a run does after its cleanup. A run that was left before the first item does nothing
more; otherwise the run looks at the flag, and publishes that it was canceled or that it passed. -/
inductive Ending (tidied : World) : Option Bool → World → Prop
  | aborted {w : World} (snapshot : w.model.snapshot = tidied.model.snapshot)
      (history : w.history = tidied.history)
      (flag : tidied.cancel_requested = true → w.cancel_requested = true) : Ending tidied none w
  | canceled {w : World} (passed : Bool) (state : w.model.snapshot.state = .CANCELED)
      (states : w.model.snapshot.states = tidied.model.snapshot.states)
      (history : w.history = tidied.history ++ [.verdict true] ++ [.snapshot w.model.snapshot])
      (flag : w.cancel_requested = true) (heard : tidied.pass.cancel_requested = true) :
      Ending tidied (some passed) w
  | passed {w : World} (state : w.model.snapshot.state = .PASSED)
      (states : w.model.snapshot.states = tidied.model.snapshot.states)
      (history : w.history = tidied.history ++ [.verdict false] ++ [.snapshot w.model.snapshot])
      (flag : tidied.pass.cancel_requested = false) : Ending tidied (some true) w
  | failed {w : World} (snapshot : w.model.snapshot = tidied.model.snapshot)
      (history : w.history = tidied.history ++ [.verdict false])
      (flag : tidied.pass.cancel_requested = false) : Ending tidied (some false) w

/-- After the cleanup the run only looks at the flag and publishes. -/
theorem Ending.grows {tidied w : World} {outcome : Option Bool} (h : Ending tidied outcome w) :
    ∃ extra, w.history = tidied.history ++ extra ∧
      ∀ o ∈ extra, (∃ flag, o = .verdict flag) ∨ o = .snapshot w.model.snapshot := by
  cases h with
  | aborted _ history _ =>
    exact ⟨[], history.trans (List.append_nil _).symm, fun _ h => absurd h List.not_mem_nil⟩
  | canceled _ _ _ history _ _ =>
    refine ⟨[.verdict true, .snapshot w.model.snapshot], history.trans (List.append_assoc _ _ _),
      fun o ho => ?_⟩
    rcases List.mem_cons.1 ho with rfl | ho
    · exact .inl ⟨true, rfl⟩
    · exact .inr (List.mem_singleton.1 ho)
  | passed _ _ history _ =>
    refine ⟨[.verdict false, .snapshot w.model.snapshot], history.trans (List.append_assoc _ _ _),
      fun o ho => ?_⟩
    rcases List.mem_cons.1 ho with rfl | ho
    · exact .inl ⟨false, rfl⟩
    · exact .inr (List.mem_singleton.1 ho)
  | failed _ history _ =>
    exact ⟨[.verdict false], history, fun o ho => .inl ⟨false, List.mem_singleton.1 ho⟩⟩

theorem Ending.states {tidied w : World} {outcome : Option Bool} (h : Ending tidied outcome w) :
    w.model.snapshot.states = tidied.model.snapshot.states := by
  cases h with
  | aborted snapshot _ _ => rw [snapshot]
  | canceled _ _ states _ _ _ => exact states
  | passed _ states _ _ => exact states
  | failed snapshot _ _ => rw [snapshot]

theorem Ending.steady (tidied : World) (outcome : Option Bool) :
    Steady (Ending tidied outcome) := by
  intro w w' h hmodel hhistory hflag
  cases h with
  | aborted snapshot history flag =>
    exact .aborted (hmodel ▸ snapshot) (hhistory ▸ history) fun h => hflag (flag h)
  | canceled passed state states history flag heard =>
    exact .canceled passed (hmodel ▸ state) (hmodel ▸ states)
      (by rw [hhistory, hmodel]; exact history) (hflag flag) heard
  | passed state states history flag =>
    exact .passed (hmodel ▸ state) (hmodel ▸ states) (by rw [hhistory, hmodel]; exact history) flag
  | failed snapshot history flag => exact .failed (hmodel ▸ snapshot) (hhistory ▸ history) flag

/-- The run has looked at the flag for the last time. -/
structure Heard (tidied : World) (flag : Bool) (w : World) : Prop where
  snapshot : w.model.snapshot = tidied.model.snapshot
  history : w.history = tidied.history ++ [.verdict flag]
  set : flag = true → w.cancel_requested = true
  heard : tidied.pass.cancel_requested = flag

theorem Heard.steady (tidied : World) (flag : Bool) : Steady (Heard tidied flag) :=
  fun _ _ h hmodel hhistory hflag =>
    { snapshot := hmodel ▸ h.snapshot
      history := hhistory ▸ h.history
      set := fun hset => hflag (h.set hset)
      heard := h.heard }

theorem conclude_spec (tidied : World) (passed : Bool) :
    Triple (fun w => w = tidied) (conclude passed) (fun _ => Ending tidied (some passed)) E := by
  refine Triple.bind (Q := fun flag w => w = tidied.pass ∧ flag = tidied.pass.cancel_requested)
    ?_ fun flag => ?_
  · rintro _ rfl
    exact ⟨rfl, rfl⟩
  refine Triple.bind (Q := fun _ => Heard tidied flag) ?_ fun _ => ?_
  · rintro _ ⟨rfl, rfl⟩
    exact ⟨congrArg _ tidied.pass_model, congrArg (· ++ _) tidied.pass_history, id, rfl⟩
  cases flag with
  | true =>
    intro w h
    have hpass := (Heard.steady tidied true).pass h
    refine .canceled passed rfl ?_ ?_ (hpass.set rfl) h.heard
    · show w.pass.model.snapshot.states = _
      rw [hpass.snapshot]
    · show w.pass.history ++ [] ++ _ = _
      rw [List.append_nil, hpass.history]
      rfl
  | false =>
    cases passed with
    | true =>
      intro w h
      have hpass := (Heard.steady tidied false).pass h
      refine .passed rfl ?_ ?_ h.heard
      · show w.pass.model.snapshot.states = _
        rw [hpass.snapshot]
      · show w.pass.history ++ [] ++ _ = _
        rw [List.append_nil, hpass.history]
        rfl
    | false => exact triple_pure fun _ h => .failed h.snapshot h.history h.heard

theorem run_eq {w entry tidied : World} {outcome : Option Bool}
    (htest : test w = (some outcome, entry)) (hcleanup : cleanup_ entry = (some (), tidied)) :
    run_ w = outcome.elim (some (), tidied) fun passed => conclude passed tidied := by
  unfold run_
  rw [bind_apply, htest]
  show (cleanup_ >>= _) entry = _
  rw [bind_apply, hcleanup]
  cases outcome with
  | none => rfl
  | some passed => rfl

/-- A run gets to the items unless the stages before them give up, and then it is cleaned up where
they left it. -/
theorem test_outcome {w entry : World} {outcome : Option Bool}
    (htest : test w = (some outcome, entry)) :
    outcome.isSome = (setup w).1.isSome ∧ (outcome = none → (setup w).2 = entry) := by
  unfold test at htest
  rw [bind_apply] at htest
  cases hsetup : setup w with
  | mk r w' =>
    have hattempt : attempt setup w = (some r, w') := by rw [attempt, hsetup]
    rw [hattempt] at htest
    cases r with
    | none =>
      cases Option.some.inj (congrArg Prod.fst htest)
      exact ⟨rfl, fun _ => congrArg Prod.snd htest⟩
    | some _ =>
      cases Option.some.inj (congrArg Prod.fst htest)
      exact ⟨rfl, fun h => nomatch h⟩

/-- Every run is tested, tidied up and ended. -/
theorem finish_ending (surroundings : Surroundings) (now : ℕ) :
    ∃ outcome tidied, Tested outcome (before_cleanup surroundings now) ∧
      outcome.isSome = (setup (start surroundings now)).1.isSome ∧
      (outcome = none → (setup (start surroundings now)).2 = before_cleanup surroundings now) ∧
      tidied.pass = last_load surroundings now ∧
      Tidying (before_cleanup surroundings now) ⟨false, false⟩
        (before_cleanup surroundings now).model.channels.i2c.toNat
        (before_cleanup surroundings now).model.channels.uart.toNat tidied ∧
      Ending tidied outcome (finish surroundings now) := by
  obtain ⟨outcome, entry, htest, houtcome⟩ :=
    (test_spec (E := fun _ => False)).yields (start_at surroundings now)
  obtain ⟨_, tidied, hcleanup, htidied⟩ := (cleanup_spec (E := fun _ => False) entry).yields rfl
  have hentry : before_cleanup surroundings now = entry := congrArg Prod.snd htest
  have hload : tidied.pass = last_load surroundings now := by
    rw [last_load, hentry, hcleanup]
  rw [hentry]
  obtain ⟨hitems, haborted⟩ := test_outcome htest
  refine ⟨outcome, tidied, houtcome, hitems, haborted, hload, htidied, ?_⟩
  refine (Ending.steady tidied outcome).pass ?_
  rw [run_eq htest hcleanup]
  cases outcome with
  | none => exact .aborted rfl rfl id
  | some passed =>
    obtain ⟨_, w, hconclude, hending⟩ :=
      (conclude_spec (E := fun _ => False) tidied passed).yields rfl
    show Ending tidied (some passed) (conclude passed tidied).2
    rw [hconclude]
    exact hending

end FactoryTest.Fixture
