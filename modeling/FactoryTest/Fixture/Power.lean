import FactoryTest.Fixture.Steps
import FactoryTest.Fixture.Run

/-!
# The verdict on the power rail

The voltage is read from two registers, the low byte from 0x08 and the high byte from 0x09.
`run_power_` puts them together the other way round, and compares that with the threshold.

**Theorem (`power_verdict_iff`).** The verdict is right if and only if the run was disturbed, or the
voltage and the word that is compared are on one side of the threshold.
-/

namespace FactoryTest.Fixture

open Program

/-! ## What is asked and answered -/

/-- A call and its answer. -/
def Obs.answered : Obs → Option (Call × Answer)
  | .call c a => some (c, a)
  | _ => none

/-- The calls of a part of the history, with their answers. -/
def answers (os : List Obs) : List (Call × Answer) := os.filterMap Obs.answered

/-- The calls of the item, with the charge report that is passed on. -/
def power_calls (report : List UInt8) : List Call :=
  [.set_ext_5v_enabled true, .write_register 0x01 [0x01], .read_charge_report,
    .write_register 0x0f report, .read_register 0x08 1, .read_register 0x09 1]

/-- Every call succeeded, and no cancellation was seen: no delay was cut short and no call was left
out. -/
structure Undisturbed (os : List Obs) : Prop where
  calls : ∃ report, (answers os).map Prod.fst = power_calls report
  succeeded : ∀ p ∈ answers os, p.2.ok = true
  delays : ∀ reason, .delay reason false ∉ os

/-- The byte that was read from a register. -/
def register (reg : UInt8) (answers : List (Call × Answer)) : ℕ :=
  ((answers.lookup (.read_register reg 1)).elim 0 fun a => (a.bytes.getD 0 0).toNat)

/-- The voltage: 0x08 holds the low byte and 0x09 the high one. -/
def voltage (answers : List (Call × Answer)) : ℕ :=
  register 0x08 answers + 256 * register 0x09 answers

/-- What the voltage is taken to be. -/
def compared (answers : List (Call × Answer)) : ℕ :=
  register 0x09 answers + 256 * register 0x08 answers

/-- The state of the item. -/
def World.power (w : World) : Option CapFixtureItemState :=
  w.model.snapshot.items[K_POWER_ITEM]?.map (·.state)

/-- Nothing disturbs the item, and the voltage is above the threshold. -/
def Powered (w : World) : Prop :=
  Undisturbed (observed run_power_ w) ∧ 4500 < voltage (answers (observed run_power_ w))

/-- The item passes exactly if it should. -/
structure PowerVerdict (w : World) : Prop where
  passes : Powered w → (run_power_ w).1 = some () ∧ (run_power_ w).2.power = some .PASSED
  refuses : ¬ Powered w → (run_power_ w).1 = none ∧ (run_power_ w).2.power ≠ some .PASSED

/-! ## Steps -/

theorem answers_concat (os : List Obs) (o : Obs) :
    answers (os ++ [o]) = answers os ++ o.answered.toList := by
  rw [answers, List.filterMap_append]
  cases h : o.answered <;> simp [answers, h]

/-- The item is running, and these calls were answered. -/
structure Stage (h : List Obs) (done : List (Call × Answer)) (w : World) : Prop where
  asked : ∃ os, w.history = h ++ os ∧ answers os = done ∧ ∀ reason, .delay reason false ∉ os
  power : w.power = some .RUNNING
  active : w.model.active_item = K_POWER_ITEM

/-- All of these calls succeeded. -/
def Succeeded (done : List (Call × Answer)) : Prop := ∀ p ∈ done, p.2.ok = true

/-- The item did not pass. -/
structure Refused (h : List Obs) (w : World) : Prop where
  reason : ∃ os, w.history = h ++ os ∧
    (¬ Undisturbed os ∧ (¬ Succeeded (answers os) ∨ w.cancel_requested = true) ∨
      Undisturbed os ∧ compared (answers os) ≤ 4500)
  power : w.power ≠ some .PASSED

variable {h : List Obs} {done : List (Call × Answer)} {E : World → Prop}

theorem Stage.steady : Steady (Stage h done) := fun w w' hw hmodel hhistory _ =>
  { asked := hhistory ▸ hw.asked
    power := by
      rw [World.power, hmodel]
      exact hw.power
    active := hmodel ▸ hw.active }

/-- Something is noted that is no cut delay. -/
theorem Stage.note {w : World} (hw : Stage h done w) {o : Obs}
    (ho : ∀ reason, o ≠ .delay reason false) :
    Stage h (done ++ o.answered.toList) { w with history := w.history ++ [o] } := by
  obtain ⟨os, hhistory, hdone, hdelays⟩ := hw.asked
  refine ⟨⟨os ++ [o], ?_, ?_, fun reason hmem => ?_⟩, hw.power, hw.active⟩
  · exact (congrArg (· ++ [o]) hhistory).trans (List.append_assoc _ _ _)
  · rw [answers_concat, hdone]
  · rcases List.mem_append.1 hmem with hmem | hmem
    · exact hdelays reason hmem
    · exact ho reason (List.mem_singleton.1 hmem).symm

/-- As long as calls are missing, a run that stops was disturbed. -/
theorem not_undisturbed_of_short {os : List Obs} (hshort : (answers os).length < 6) :
    ¬ Undisturbed os := by
  rintro ⟨⟨report, hcalls⟩, -, -⟩
  have hlength := congrArg List.length hcalls
  rw [List.length_map] at hlength
  exact absurd hlength (Nat.ne_of_lt hshort)

/-- A failure marks the item. -/
theorem fail_power {α : Type} {w : World} (hw : Stage h done w) (stage message : String) :
    (fail_ stage message w : Option α × World).2.power = some .FAILED := by
  have hpass := Stage.steady.pass hw
  have hpower := hpass.power
  rw [World.power, Option.map_eq_some_iff] at hpower
  obtain ⟨item, hitem, -⟩ := hpower
  show ((w.pass.model.snapshot.items.modify w.pass.model.active_item _)[K_POWER_ITEM]?).map _ = _
  rw [hpass.active, List.getElem?_modify_eq, hitem]
  rfl

theorem fail_history {α : Type} (w : World) (stage message : String) :
    ∃ s, (fail_ stage message w : Option α × World).2.history =
      w.history ++ [.fail stage message, .snapshot s] := by
  refine ⟨(fail_ stage message w : Option α × World).2.model.snapshot, ?_⟩
  show w.pass.history ++ [.fail stage message] ++ [_] = _
  rw [World.pass_history, List.append_assoc]
  rfl

/-- Failing leaves the calls as they are. -/
theorem fail_refused {α : Type} {w : World} (hw : Stage h done w) (stage message : String)
    (hreason : ∀ os, answers os = done → (∀ reason, .delay reason false ∉ os) →
      ¬ Undisturbed os ∧ ¬ Succeeded (answers os) ∨
        Undisturbed os ∧ compared (answers os) ≤ 4500) :
    Refused h (fail_ stage message w : Option α × World).2 := by
  obtain ⟨os, hhistory, hdone, hdelays⟩ := hw.asked
  obtain ⟨s, hfail⟩ := @fail_history α w stage message
  refine ⟨⟨os ++ [.fail stage message, .snapshot s], ?_, ?_⟩, ?_⟩
  · rw [hfail, hhistory, List.append_assoc]
  · have hsame : answers (os ++ [.fail stage message, .snapshot s]) = done := by
      rw [answers, List.filterMap_append]
      exact (List.append_nil _).trans hdone
    refine (hreason _ hsame ?_).imp (fun hr => ⟨hr.1, .inl hr.2⟩) id
    intro reason hmem
    rcases List.mem_append.1 hmem with hmem | hmem
    · exact hdelays reason hmem
    · simp at hmem
  · rw [fail_power hw]
    exact fun heq => CapFixtureItemState.noConfusion (Option.some.inj heq)

theorem call_stage (c : Call) :
    Triple (Stage h done) (call c) (fun a => Stage h (done ++ [(c, a)])) E :=
  fun _ hw => (Stage.steady.pass hw).note (o := .call c _) fun _ => Obs.noConfusion

/-- A call has to succeed. -/
theorem check_stage {c : Call} {a : Answer} (hdone : Succeeded done) (stage message : String) :
    Triple (Stage h (done ++ [(c, a)])) (check a.ok stage message)
      (fun _ w => Succeeded (done ++ [(c, a)]) ∧ Stage h (done ++ [(c, a)]) w) (Refused h) := by
  cases hok : a.ok with
  | true =>
    refine triple_pure fun _ hw => ⟨fun p hp => ?_, hw⟩
    rcases List.mem_append.1 hp with hp | hp
    · exact hdone p hp
    · rw [List.mem_singleton.1 hp]
      exact hok
  | false =>
    intro w hw
    refine fail_refused (α := Unit) hw stage message fun os hos _ => .inl ?_
    have hfailed : ¬ Succeeded (answers os) := by
      intro hall
      have hlast := hall (c, a) (hos ▸ List.mem_append_right _ (List.mem_singleton.2 rfl))
      rw [hok] at hlast
      cases hlast
    exact ⟨fun hu => hfailed hu.succeeded, hfailed⟩

/-- A run that stops at a cancellation does not pass. -/
theorem Stage.stop {w : World} (hw : Stage h done w) (hshort : done.length < 6)
    (hflag : w.cancel_requested = true) : Refused h w := by
  obtain ⟨os, hhistory, hdone, -⟩ := hw.asked
  refine ⟨⟨os, hhistory, .inl ⟨not_undisturbed_of_short (hdone ▸ hshort), .inr hflag⟩⟩, ?_⟩
  rw [hw.power]
  exact fun heq => CapFixtureItemState.noConfusion (Option.some.inj heq)

theorem delay_stage (milliseconds : ℕ) (reason : String) :
    Triple (Stage h done) (delay_ milliseconds reason) (fun _ => Stage h done) (Refused h) := by
  refine delay_steady Stage.steady milliseconds (fun w hw => ?_) fun w hw hflag => ?_
  · have hnote :=
      hw.note (o := .delay reason true) fun _ heq => Bool.noConfusion (Obs.delay.inj heq).2
    exact (List.append_nil done) ▸ hnote
  · obtain ⟨os, hhistory, hdone, -⟩ := hw.asked
    refine ⟨⟨os ++ [.delay reason false], ?_, .inl ⟨fun hu => ?_, .inr hflag⟩⟩, ?_⟩
    · exact (congrArg (· ++ [Obs.delay reason false]) hhistory).trans (List.append_assoc _ _ _)
    · exact hu.delays reason (List.mem_append_right _ (List.mem_singleton.2 rfl))
    · show w.power ≠ _
      rw [hw.power]
      exact fun heq => CapFixtureItemState.noConfusion (Option.some.inj heq)

/-- The worker looks at the flag before it uses a register. -/
theorem look_stage (hshort : done.length < 6) {α : Type} {m : Run α} {Q : α → World → Prop}
    (hm : Triple (Stage h done) m Q (Refused h)) :
    Triple (Stage h done) (do proceed !(← canceled); m) Q (Refused h) := by
  refine (canceled_steady Stage.steady).bind fun canceled => ?_
  cases canceled with
  | true => exact fun w hw => hw.1.stop hshort (hw.2 rfl)
  | false => exact Triple.bind (Q := fun _ => Stage h done) (fun w hw => hw.1) fun _ => hm

theorem write_stage (hdone : Succeeded done) (hshort : done.length < 6) (stage : String)
    (reg : UInt8) (data : List UInt8) :
    Triple (Stage h done) (write_reg_ stage reg data)
      (fun _ w => ∃ a, Succeeded (done ++ [(.write_register reg data, a)]) ∧
        Stage h (done ++ [(.write_register reg data, a)]) w) (Refused h) := by
  refine look_stage hshort ?_
  refine (call_stage _).bind fun written => ?_
  exact (check_stage hdone stage _).post fun _ w hw => ⟨written, hw⟩

theorem read_stage (hdone : Succeeded done) (hshort : done.length < 6) (stage : String)
    (reg : UInt8) (size : ℕ) :
    Triple (Stage h done) (read_reg_ stage reg size)
      (fun bytes w => ∃ a : Answer, a.bytes = bytes ∧
        Succeeded (done ++ [(.read_register reg size, a)]) ∧
        Stage h (done ++ [(.read_register reg size, a)]) w) (Refused h) := by
  refine look_stage hshort ?_
  refine (call_stage _).bind fun read => ?_
  refine (check_stage hdone stage _).bind fun _ => ?_
  exact triple_pure fun w hw => ⟨read, rfl, hw⟩

/-! ## The item -/

/-- The item begins. -/
theorem begin_stage (detail : String) :
    Triple (fun w => w.history = h ∧ w.model.snapshot.items.length = 8)
      (begin_item_ K_POWER_ITEM detail) (fun _ => Stage h []) E := by
  rintro w ⟨rfl, hlength⟩
  have hitems : w.pass.model.snapshot.items.length = 8 := by rw [World.pass_model, hlength]
  refine ⟨⟨[.begin_item K_POWER_ITEM,
      .snapshot (begin_item_ K_POWER_ITEM detail w).2.model.snapshot],
    ?_, rfl, by simp⟩, ?_, rfl⟩
  · show w.pass.history ++ [.begin_item K_POWER_ITEM] ++ [_] = _
    rw [World.pass_history, List.append_assoc]
    rfl
  · show ((w.pass.model.snapshot.items.modify K_POWER_ITEM _)[K_POWER_ITEM]?).map _ = _
    rw [List.getElem?_modify_eq, List.getElem?_eq_getElem (by rw [hitems]; decide)]
    rfl

/-- The item passed: nothing disturbed it, and the word was above the threshold. -/
structure Granted (h : List Obs) (w : World) : Prop where
  reason : ∃ os, w.history = h ++ os ∧ Undisturbed os ∧ 4500 < compared (answers os)
  power : w.power = some .PASSED

theorem pass_stage {w : World} (hw : Stage h done w) (detail : String)
    (hreason : ∀ os, answers os = done → (∀ reason, .delay reason false ∉ os) →
      Undisturbed os ∧ 4500 < compared (answers os)) :
    Granted h (pass_item_ K_POWER_ITEM detail w).2 := by
  obtain ⟨os, hhistory, hdone, hdelays⟩ := hw.asked
  obtain ⟨s, hs⟩ : ∃ s, s = (pass_item_ K_POWER_ITEM detail w).2.model.snapshot := ⟨_, rfl⟩
  refine ⟨⟨os ++ [.pass_item K_POWER_ITEM, .snapshot s], ?_, hreason _ ?_ ?_⟩, ?_⟩
  · show w.pass.history ++ [.pass_item K_POWER_ITEM] ++ [_] = _
    rw [World.pass_history, List.append_assoc, hhistory, List.append_assoc, hs]
    rfl
  · rw [answers, List.filterMap_append]
    exact (List.append_nil _).trans hdone
  · intro reason hmem
    rcases List.mem_append.1 hmem with hmem | hmem
    · exact hdelays reason hmem
    · simp at hmem
  · have hpower := (Stage.steady.pass hw).power
    rw [World.power, Option.map_eq_some_iff] at hpower
    obtain ⟨item, hitem, -⟩ := hpower
    show ((w.pass.model.snapshot.items.modify K_POWER_ITEM _)[K_POWER_ITEM]?).map _ = _
    rw [List.getElem?_modify_eq, hitem]
    rfl

/-- The word is compared with the threshold. -/
theorem threshold_stage {millivolts : ℕ}
    (hdone : ∀ os, answers os = done → (∀ reason, .delay reason false ∉ os) →
      Undisturbed os ∧ compared (answers os) = millivolts) (stage message detail : String) :
    Triple (Stage h done)
      (do check (4500 < millivolts) stage message; pass_item_ K_POWER_ITEM detail)
      (fun _ => Granted h) (Refused h) := by
  intro w hw
  by_cases hover : 4500 < millivolts
  · rw [bind_apply, check, if_pos (decide_eq_true hover)]
    refine pass_stage hw detail fun os hos hdelays => ?_
    obtain ⟨hundisturbed, hcompared⟩ := hdone os hos hdelays
    exact ⟨hundisturbed, hcompared ▸ hover⟩
  · rw [bind_apply, check, if_neg (by simpa using hover)]
    refine fail_refused (α := Unit) hw stage message fun os hos hdelays => .inr ?_
    obtain ⟨hundisturbed, hcompared⟩ := hdone os hos hdelays
    exact ⟨hundisturbed, hcompared ▸ not_lt.1 hover⟩

/-- What `run_power_` compares with the threshold decides. -/
theorem run_power_decides (h : List Obs) :
    Triple (fun w => w.history = h ∧ w.model.snapshot.items.length = 8) run_power_
      (fun _ => Granted h) (Refused h) := by
  have hnone : Succeeded [] := fun _ hp => (List.not_mem_nil hp).elim
  refine (begin_stage _).bind fun _ => ?_
  refine (call_stage _).bind fun enabled => ?_
  refine (check_stage hnone _ _).bind fun _ => triple_of_pre fun h1 => ?_
  refine (delay_stage _ _).bind fun _ => ?_
  refine (write_stage h1 (by simp) _ _ _).bind fun _ => triple_exists fun selected => ?_
  refine triple_of_pre fun h2 => ?_
  refine (delay_stage _ _).bind fun _ => ?_
  refine (call_stage _).bind fun charge => ?_
  refine (check_stage h2 _ _).bind fun _ => triple_of_pre fun h3 => ?_
  refine (write_stage h3 (by simp) _ _ _).bind fun _ => triple_exists fun reported => ?_
  refine triple_of_pre fun h4 => ?_
  refine (delay_stage _ _).bind fun _ => ?_
  refine (read_stage h4 (by simp) _ _ _).bind fun low => triple_exists fun read_low => ?_
  refine triple_of_pre fun hlow => triple_of_pre fun h5 => ?_
  refine (read_stage h5 (by simp) _ _ _).bind fun high => triple_exists fun read_high => ?_
  refine triple_of_pre fun hhigh => triple_of_pre fun h6 => ?_
  have hundisturbed (os : List Obs) (hos : answers os =
      [] ++ [(.set_ext_5v_enabled true, enabled)] ++
      [(.write_register 0x01 [0x01], selected)] ++ [(.read_charge_report, charge)] ++
      [(.write_register 0x0f charge.bytes, reported)] ++ [(.read_register 0x08 1, read_low)] ++
      [(.read_register 0x09 1, read_high)]) (hdelays : ∀ reason, .delay reason false ∉ os) :
      Undisturbed os ∧
        compared (answers os) = (high.getD 0 0).toNat + (low.getD 0 0).toNat * 256 := by
    refine ⟨⟨⟨charge.bytes, by rw [hos]; rfl⟩, hos ▸ h6, hdelays⟩, ?_⟩
    rw [hos, ← hlow, ← hhigh, Nat.mul_comm]
    rfl
  exact threshold_stage hundisturbed _ _ _

/-! ## The verdict -/

/-- The verdict is right if and only if the run was disturbed, or the threshold is between neither
the voltage and the word that is compared. A run that was disturbed had a call that failed, or
was canceled. -/
theorem power_verdict_iff (w : World) (hitems : w.model.snapshot.items.length = 8) :
    (PowerVerdict w ↔ (Undisturbed (observed run_power_ w) →
      (4500 < voltage (answers (observed run_power_ w)) ↔
        4500 < compared (answers (observed run_power_ w))))) ∧
      (¬ Undisturbed (observed run_power_ w) →
        (∃ p ∈ answers (observed run_power_ w), p.2.ok = false) ∨
          (run_power_ w).2.cancel_requested = true) := by
  have h := run_power_decides w.history w ⟨rfl, hitems⟩
  cases hr : run_power_ w with
  | mk r w' =>
    rw [hr] at h
    have hseen {os : List Obs} (hhistory : w'.history = w.history ++ os) :
        observed run_power_ w = os := observed_eq (by rw [hr, hhistory])
    cases r with
    | some _ =>
      obtain ⟨⟨os, hhistory, hundisturbed, hover⟩, hpower⟩ := h
      rw [hseen hhistory]
      refine ⟨⟨fun hverdict _ => ?_, fun hagree => ⟨fun _ => ?_, fun hnot => ?_⟩⟩, ?_⟩
      · refine iff_of_true ?_ hover
        by_contra hunder
        have hrefused := hverdict.refuses fun hpowered => hunder (hseen hhistory ▸ hpowered.2)
        rw [hr] at hrefused
        cases hrefused.1
      · rw [hr]
        exact ⟨rfl, hpower⟩
      · have hvoltage := (hagree hundisturbed).2 hover
        rw [← hseen hhistory] at hundisturbed hvoltage
        exact absurd ⟨hundisturbed, hvoltage⟩ hnot
      · exact fun hdisturbed => absurd hundisturbed hdisturbed
    | none =>
      obtain ⟨⟨os, hhistory, hreason⟩, hpower⟩ := h
      rw [hseen hhistory]
      refine ⟨⟨fun hverdict hundisturbed => ?_, fun hagree => ⟨fun hpowered => ?_,
        fun _ => ?_⟩⟩, ?_⟩
      · have hunder := hreason.resolve_left fun hr => hr.1 hundisturbed
        refine iff_of_false (fun hover => ?_) (not_lt.2 hunder.2)
        have hpassed := hverdict.passes
          (by rw [Powered, hseen hhistory]; exact ⟨hundisturbed, hover⟩)
        rw [hr] at hpassed
        cases hpassed.1
      · rw [Powered, hseen hhistory] at hpowered
        rcases hreason with hdisturbed | hunder
        · exact absurd hpowered.1 hdisturbed.1
        · exact absurd ((hagree hpowered.1).1 hpowered.2) (not_lt.2 hunder.2)
      · rw [hr]
        exact ⟨rfl, hpower⟩
      · intro hdisturbed
        rcases hreason with ⟨-, hfailed | hflag⟩ | hunder
        · refine .inl ?_
          unfold Succeeded at hfailed
          push Not at hfailed
          obtain ⟨p, hp, hok⟩ := hfailed
          exact ⟨p, hp, Bool.not_eq_true _ ▸ hok⟩
        · exact .inr hflag
        · exact absurd hunder.1 hdisturbed

/-- Every call succeeds, and the registers read 0x20 and 0x03: 800 mV. -/
def dead_rail : Surroundings where
  answer := fun _ c =>
    match c with
    | .read_register 0x08 1 => { bytes := [0x20] }
    | .read_register 0x09 1 => { bytes := [0x03] }
    | _ => {}

theorem power_verdict_dead_rail :
    (PowerVerdict (start dead_rail 0) ↔ (Undisturbed (observed run_power_ (start dead_rail 0)) →
      (4500 < voltage (answers (observed run_power_ (start dead_rail 0))) ↔
        4500 < compared (answers (observed run_power_ (start dead_rail 0)))))) ∧
      (¬ Undisturbed (observed run_power_ (start dead_rail 0)) →
        (∃ p ∈ answers (observed run_power_ (start dead_rail 0)), p.2.ok = false) ∨
          (run_power_ (start dead_rail 0)).2.cancel_requested = true) :=
  power_verdict_iff (start dead_rail 0) rfl

/-- The item passes at 800 mV. -/
theorem dead_rail_passes : ¬ PowerVerdict (start dead_rail 0) := by
  have hpassed : (run_power_ (start dead_rail 0)).1 = some () := by decide +kernel
  have hvoltage : voltage (answers (observed run_power_ (start dead_rail 0))) = 800 := by
    decide +kernel
  intro h
  have hrefused := h.refuses fun hpowered => by
    rw [Powered, hvoltage] at hpowered
    exact absurd hpowered.2 (by decide)
  rw [hpassed] at hrefused
  cases hrefused.1

end FactoryTest.Fixture
