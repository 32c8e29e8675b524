import FactoryTest.Cap.Cc1101

/-!
# The software chip select

The ST25R3916 is selected by a GPIO line that `transfer_with_software_cs` sets low and high around
a transfer. A monitor (`select`) reads what is done with that line and with the bus.

**Theorem (`sessions_select`).** In any number of tests nothing is sent to the chip unless the line
was just set low, nothing happens between the two, and whatever became of the transfer, the next
action is to set the line high. The line is given back at the end of every test.
-/

namespace FactoryTest.CapCc1101

open Cap Program

/-- The line of the chip select: it was not made, it is not low, it was set low, or it was used
since. -/
inductive Select
  | absent
  | idle
  | selected
  | used
  deriving DecidableEq

/-- What may come next: before the line is made it has no actions, and while it is there, messages
are sent only after it was set low. -/
def Select.next {S : Type} : Select → Obs S → Option Select
  | .absent, .line_made _ => some .idle
  | .absent, .line_set _ _ _ | .absent, .line_dropped _ => none
  | .absent, _ => some .absent
  | .idle, .line_dropped _ => some .absent
  | .idle, .line_set _ active ok => some (if !active && ok then .selected else .idle)
  | .idle, .line_made _ | .idle, .exchanged _ _ _ | .idle, .ioctl _ (.SPI_IOC_MESSAGE _) _ => none
  | .idle, _ => some .idle
  | .selected, .exchanged _ _ _ | .selected, .ioctl _ (.SPI_IOC_MESSAGE _) _ => some .used
  | .selected, _ => none
  | .used, .line_set _ true _ => some .idle
  | .used, _ => none

def select (S : Type) : Monitor Select (Obs S) := ⟨.absent, Select.next⟩

/-- The line is in this state. -/
def Selects {S : Type} (s : Select) (w : World S) : Prop := (select S).At s w.history

section

variable {S R : Type} {s : Select} {w : World S}

theorem Selects.next (h : Selects s w) {w' : World S} {o : Obs S} {s' : Select}
    (hhistory : w'.history = w.history ++ [o]) (ho : s.next o = some s') : Selects s' w' := by
  unfold Selects
  rw [hhistory]
  exact Monitor.At.concat h ho

theorem Selects.same (h : Selects s w) {w' : World S} (hhistory : w'.history = w.history) :
    Selects s w' := by
  unfold Selects
  rw [hhistory]
  exact h

/-- An entry after which nothing has changed. -/
def Ignored (s : Select) (o : Obs S) : Prop := s.next o = some s

/-- What the monitor does not see leaves it where it is. -/
theorem selects_invariant (s : Select) : Invariant (Ignored (S := S) s) (Selects s) :=
  ⟨fun _ _ _ hw hacts ho => hw.next hacts.history ho, fun _ _ hw _ _ hhistory _ => hw.same hhistory⟩

/-! ## Steps -/

/-- A message, whether it comes through or not. -/
theorem transfer_selects (device : Device) {tx : List UInt8} (htx : tx ≠ []) {s' : Select}
    (hs' : ∀ o : Obs S, o.Sends → s.next o = some s') :
    Triple (Selects (S := S) s) (device.transfer tx) (fun _ => Selects s') (Selects s') := by
  intro w hw
  unfold Device.transfer
  rw [if_neg htx]
  by_cases hok : (w.surroundings.ioctl w.moment).ok
  · simp only [hok, if_true]
    exact hw.next rfl (hs' (.exchanged _ _ _) trivial)
  · simp only [hok]
    exact hw.next rfl (hs' (.ioctl _ (.SPI_IOC_MESSAGE _) _) trivial)

theorem set_line_selects (active : Bool) {good bad : Select}
    (hgood : s.next (.line_set chip_select active true : Obs S) = some good)
    (hbad : s.next (.line_set chip_select active false : Obs S) = some bad) :
    Triple (Selects (S := S) s) (set_line chip_select active) (fun _ => Selects good)
      (Selects bad) := by
  intro w hw
  unfold set_line
  generalize w.gpio.modify chip_select _ = answer
  obtain ⟨result, gpio⟩ := answer
  rcases result with _ | (message | _)
  · exact hw.next rfl hgood
  · exact hw.next rfl hbad
  · exact hw.next rfl hgood

theorem used_of_sends (o : Obs S) (ho : o.Sends) : Select.selected.next o = some .used := by
  cases o with
  | exchanged _ _ _ => rfl
  | ioctl fd request ok =>
    cases request with
    | SPI_IOC_MESSAGE tx => rfl
    | _ => exact False.elim ho
  | _ => exact False.elim ho

/-- Whatever becomes of the message, the line is set high behind it. -/
theorem transfer_with_software_cs_selects (device : Device) {tx : List UInt8} (htx : tx ≠ []) :
    Triple (Selects (S := S) .idle) (transfer_with_software_cs device tx)
      (fun _ => Selects .idle) (Selects .idle) := by
  have hfail : ∀ f : String → String, Triple (Selects (S := S) .idle)
      (do fail (f (← error_message))) (fun (_ : List UInt8) => Selects .idle) (Selects .idle) :=
    fun f => triple_error_message.bind fun _ => fail_keeps (selects_invariant .idle) _
  have hassert := set_line_selects (S := S) (s := .idle) false rfl rfl
  refine hassert.attempt.bind fun answer => ?_
  cases answer with
  | none => exact hfail _
  | some _ =>
    have htransfer : Triple (Selects (S := S) .selected) (device.transfer tx)
        (fun _ => Selects .used) (Selects .used) :=
      transfer_selects device htx used_of_sends
    refine (triple_attempt_same htransfer).bind fun rx => triple_error_message.bind fun error => ?_
    have hdeassert := set_line_selects (S := S) (s := .used) true rfl rfl
    refine (triple_attempt_same hdeassert).bind fun answer => ?_
    cases answer with
    | none => exact hfail _
    | some _ =>
      cases rx with
      | none => exact fail_keeps (selects_invariant .idle) _
      | some rx => exact triple_pure fun _ h => h

theorem read_st_register_selects (device : Device) (reg : UInt8) :
    Triple (Selects (S := S) .idle) (read_st_register device reg) (fun _ => Selects .idle)
      (Selects .idle) := by
  refine (transfer_with_software_cs_selects device (List.cons_ne_nil _ _)).bind fun rx => ?_
  rcases rx with _ | ⟨-, _ | ⟨value, rest⟩⟩
  · exact fail_keeps (selects_invariant .idle) _
  · exact fail_keeps (selects_invariant .idle) _
  · exact triple_pure fun _ h => h

theorem ignored_of_opens (h : s = .absent ∨ s = .idle) (o : Obs S) (ho : o.Opens) :
    Ignored s o := by
  cases o with
  | opened _ _ | mode_read _ _ | closed _ => rcases h with rfl | rfl <;> rfl
  | ioctl fd request ok =>
    cases request with
    | SPI_IOC_MESSAGE tx => exact False.elim ho
    | _ => rcases h with rfl | rfl <;> rfl
  | _ => exact False.elim ho

theorem absent_of_sends (o : Obs S) (ho : o.Sends) : Ignored .absent o := by
  cases o with
  | exchanged _ _ _ => rfl
  | ioctl fd request ok => rfl
  | _ => exact False.elim ho

variable {progress : String → Run S Unit}
  (hprogress : ∀ (s : Select) detail, s = .absent ∨ s = .idle → Keeps (Selects s) (progress detail))

include hprogress

theorem run_cc1101_test_selects (config : Cc1101Config) :
    Keeps (Selects .absent) (run_cc1101_test config progress) :=
  run_cc1101_test_keeps (selects_invariant .absent) (ignored_of_opens (.inl rfl)) (fun _ => rfl)
    (fun detail => hprogress .absent detail (.inl rfl)) absent_of_sends config

theorem run_st25r3916_test_selects (config : St25r3916Config) :
    Keeps (Selects .absent) (run_st25r3916_test config progress) := by
  have hmake : Triple (Selects (S := S) .absent) (make_line chip_select config.software_cs)
      (fun _ => Selects .idle) (Selects .absent) := fun w hw => hw.next rfl rfl
  have hselect : Keeps (Selects .idle) (select_st25r3916 config progress) :=
    select_st25r3916_keeps (selects_invariant .idle) (ignored_of_opens (.inr rfl)) (fun _ => rfl)
      (fun detail => hprogress .idle detail (.inr rfl)) (set_line_selects true rfl rfl)
      read_st_register_selects config
  exact hmake.bind fun _ => hselect.scope (fun _ w hw => hw.next (o := .line_dropped _) rfl rfl)
    fun w hw => hw.next (o := .line_dropped _) rfl rfl

end

/-! ## Runs -/

theorem publish_update_selects {s : Select} (h : s = .absent ∨ s = .idle)
    (update : CapCc1101Snapshot → CapCc1101Snapshot) : Keeps (Selects s) (publish_ update) :=
  publish_keeps (selects_invariant s) fun _ _ => by rcases h with rfl | rfl <;> rfl

theorem run_powered_selects : Keeps (Selects .absent) run_powered := by
  have hpublish := publish_update_selects (s := .absent) (.inl rfl)
  have hcanceled : Keeps (Selects (S := CapCc1101Snapshot) .absent) canceled :=
    canceled_keeps (selects_invariant .absent) fun _ => rfl
  refine (run_cc1101_test_selects (fun s _ h => publish_update_selects h _) _).bind fun cc => ?_
  refine hcanceled.bind fun canceled => triple_ite (fun _ => hpublish _) fun _ => ?_
  refine (hpublish _).bind fun _ => ?_
  refine (run_st25r3916_test_selects (fun s _ h => publish_update_selects h _) _).bind fun st => ?_
  exact hcanceled.bind fun canceled => triple_ite (fun _ => hpublish _) fun _ => hpublish _

theorem test_selects (surroundings : Surroundings) (snapshot : CapCc1101Snapshot) :
    Selects .absent (test surroundings snapshot) :=
  (with_ext_5v_keeps (selects_invariant .absent) (fun _ _ => rfl) (fun _ _ _ => rfl)
    run_powered_selects).apply (show (select CapCc1101Snapshot).At .absent [] from Monitor.at_nil)

/-- In any number of tests the line is set low right before every message and set high right after
it. -/
theorem sessions_select (snapshot : CapCc1101Snapshot) (tests : List Surroundings) :
    (select CapCc1101Snapshot).At .absent (sessions test snapshot tests).1 :=
  sessions_at (fun surroundings snapshot => test_selects surroundings snapshot) snapshot tests

end FactoryTest.CapCc1101
