import FactoryTest.Cap.ChipSelect
import Mathlib.Data.List.Forall2

/-!
# The verdict on the CC1101 CAP

What the snapshot of a test says at its end, in terms of what was exchanged over the bus.

**Theorem (`test_verdict`).** A test has passed exactly if every action succeeded, the flag was
never seen, and both chips answered in the way they should. It was canceled exactly if the flag was
seen, and otherwise it has failed: then an action failed, or everything was asked and a chip did not
answer as it should. There is a message exactly if it has failed.

The proof walks through the run: either it is on the healthy path so far (`Stage`), or something
has failed (`Broken`), which later actions do not undo.
-/

namespace FactoryTest.CapCc1101

open Cap Program

variable {S R : Type}

/-! ## What is exchanged -/

/-- The action did what it should; the rail is off at the end even if that is not confirmed. -/
def Succeeded : Obs S → Prop
  | .power active ok => active = true → ok = true
  | .opened _ fd => fd.isSome = true
  | .ioctl _ _ ok | .mode_read _ ok | .line_set _ _ ok => ok = true
  | .looked canceled => canceled = false
  | _ => True

/-- A message and the last byte of the answer. -/
def exchange : Obs S → Option (List UInt8 × UInt8)
  | .exchanged _ tx rx => some (tx, rx.getLastD 0)
  | _ => none

/-- The messages and the answers. -/
def exchanges (os : List (Obs S)) : List (List UInt8 × UInt8) := os.filterMap exchange

/-- What was asked of the CC1101, with its answers. -/
def asked_cc1101 (reset : UInt8) (cc : Cc1101Result) : List (List UInt8 × UInt8) :=
  [([0x30], reset), ([0x36], cc.chip_status), ([0xF0, 0], cc.part_number),
    ([0xF1, 0], cc.version), ([0xF5, 0], cc.marc_state), ([0xF8, 0], cc.packet_status)]

/-- What was asked of the ST25R3916, with its answers. -/
def asked_st25r3916 (st : St25r3916Result) : List (List UInt8 × UInt8) :=
  [([0x7F, 0], st.identity), ([0x42, 0], st.operation_control), ([0x5E, 0], st.fifo_status1),
    ([0x5F, 0], st.fifo_status2), ([0x7F, 0], st.identity_readback)]

/-- The registers of a CC1101 that is idle. -/
structure Idle (cc : Cc1101Result) : Prop where
  part_number : cc.part_number = 0x00
  version : cc.version = 0x04 ∨ cc.version = 0x14 ∨ cc.version = 0x17
  chip_status : cc.chip_status &&& 0x80 = 0
  marc_state : cc.marc_state &&& 0x1F = 0x01

/-- The registers of an ST25R3916 that reads twice in the same way. -/
structure Identified (st : St25r3916Result) : Prop where
  identity : st.identity >>> 3 = 0x05
  readback : st.identity_readback = st.identity

/-- Everything succeeded, and both chips answered as they should. -/
structure Healthy (os : List (Obs S)) : Prop where
  succeeded : ∀ o ∈ os, Succeeded o
  answers : ∃ reset cc st, exchanges os = asked_cc1101 reset cc ++ asked_st25r3916 st ∧ Idle cc ∧
    Identified st

/-- Everything was asked, and a chip did not answer as it should. -/
def Unfit (os : List (Obs S)) : Prop :=
  ∃ reset cc st, exchanges os = asked_cc1101 reset cc ++ asked_st25r3916 st ∧
    ¬ (Idle cc ∧ Identified st)

/-! ## What the registers say -/

theorem judge_cc1101_spec {cc : Cc1101Result} (hfresh : cc.initialized = false) :
    (cc_ok (judge_cc1101 cc) = true ↔ Idle cc) ∧
      (cc_ok (judge_cc1101 cc) = false → (judge_cc1101 cc).error_message ≠ "") := by
  unfold judge_cc1101 cc_ok
  by_cases hdetected : cc.part_number = 0x00 ∧
      (cc.version = 0x04 ∨ cc.version = 0x14 ∨ cc.version = 0x17)
  · by_cases hbusy : cc.chip_status &&& 0x80 ≠ 0 ∨ cc.marc_state &&& 0x1F ≠ K_CC_IDLE_STATE
    · have hidle : ¬ Idle cc := fun h => hbusy.elim (· h.chip_status) (· h.marc_state)
      simp [hdetected, hbusy, hidle, hfresh, String.append_assoc]
    · have hidle : Idle cc :=
        ⟨hdetected.1, hdetected.2, not_not.1 (not_or.1 hbusy).1, not_not.1 (not_or.1 hbusy).2⟩
      simp [hdetected, hbusy, hidle]
  · have hidle : ¬ Idle cc := fun h => hdetected ⟨h.part_number, h.version⟩
    simp [hdetected, hidle, String.append_assoc]

theorem judge_st25r3916_spec (st : St25r3916Result) :
    (st_ok (judge_st25r3916 st) = true ↔ Identified st) ∧
      (st_ok (judge_st25r3916 st) = false → (judge_st25r3916 st).error_message ≠ "") := by
  unfold judge_st25r3916 st_ok
  by_cases hidentity : st.identity >>> 3 = 0x05
  · by_cases hreadback : st.identity_readback = st.identity
    · simp [hidentity, hreadback, Identified.mk hidentity hreadback]
    · have hnot : ¬ Identified st := fun h => hreadback h.readback
      simp [hidentity, hreadback, hnot]
  · have hnot : ¬ Identified st := fun h => hidentity h.identity
    simp [hidentity, hnot]

/-! ## The healthy path -/

/-- Everything has succeeded so far, and this was exchanged. -/
structure Stage (done : List (List UInt8 × UInt8)) (w : World S) : Prop where
  succeeded : ∀ o ∈ w.history, Succeeded o
  exchanged : exchanges w.history = done

/-- Something has failed. -/
def Broken (w : World S) : Prop := ∃ o ∈ w.history, ¬ Succeeded o

/-- Something has failed, and there is a message. -/
def Refused (w : World S) : Prop := Broken w ∧ w.error_message ≠ ""

theorem broken_invariant : Invariant (S := S) (fun _ => True) Broken where
  acts _ w' o hw hacts _ := by
    obtain ⟨o', hmem, ho'⟩ := hw
    refine ⟨o', ?_, ho'⟩
    rw [hacts.history]
    exact List.mem_append_left _ hmem
  same _ w' hw _ _ hhistory _ := by
    obtain ⟨o, hmem, ho⟩ := hw
    exact ⟨o, hhistory ▸ hmem, ho⟩

section

variable {done : List (List UInt8 × UInt8)} {w w' : World S} {o : Obs S}

theorem Stage.next (h : Stage done w) (hhistory : w'.history = w.history ++ [o])
    (ho : Succeeded o) : Stage (done ++ (exchange o).toList) w' := by
  refine ⟨fun o' hmem => ?_, ?_⟩
  · rw [hhistory] at hmem
    rcases List.mem_append.1 hmem with hmem | hmem
    · exact h.succeeded o' hmem
    · exact List.mem_singleton.1 hmem ▸ ho
  · rw [hhistory, exchanges, List.filterMap_append, ← exchanges, h.exchanged]
    cases hexchange : exchange o <;> simp [hexchange]

theorem Stage.silent (h : Stage done w) (hhistory : w'.history = w.history ++ [o])
    (ho : Succeeded o) (hexchange : exchange o = none) : Stage done w' := by
  have hnext := h.next hhistory ho
  rwa [hexchange, Option.toList_none, List.append_nil] at hnext

theorem Stage.same (h : Stage done w) (hhistory : w'.history = w.history) : Stage done w' :=
  ⟨hhistory ▸ h.succeeded, hhistory ▸ h.exchanged⟩

theorem broken_of_next (hhistory : w'.history = w.history ++ [o]) (ho : ¬ Succeeded o) :
    Broken w' := ⟨o, by rw [hhistory]; simp, ho⟩

theorem configure_stage (path : String) (fd : ℕ) (requests : List Request) :
    Triple (Stage (S := S) done) (configure path fd requests) (fun _ => Stage done) Refused := by
  induction requests with
  | nil => exact triple_pure fun _ h => h
  | cons request requests ih =>
    have hioctl : Triple (Stage (S := S) done) (ioctl fd request)
        (fun answer w => if answer.ok then Stage done w else Broken w) fun _ => False := by
      intro w hw
      show if _ then _ else _
      split_ifs with hok
      · exact hw.silent rfl hok rfl
      · exact broken_of_next rfl hok
    refine (hioctl.escape fun _ => False.elim).bind fun answer => ?_
    refine triple_ite (fun hok => ?_) fun hok => ?_
    · simp only [hok, if_true]
      exact ih
    · simp only [hok]
      exact fun w hw =>
        ⟨broken_invariant.same _ _ hw rfl rfl rfl rfl, by simp [String.append_assoc]⟩

theorem open_device_stage {config : DeviceConfig} (hpath : config.path ≠ "") :
    Triple (Stage (S := S) done) (Device.open_device config) (fun _ => Stage done) Refused := by
  have hopen : Triple (Stage (S := S) done) (open_path config.path) (fun _ => Stage done)
      Refused := by
    intro w hw
    unfold open_path
    cases w.surroundings.open_path w.moment with
    | ok fd => exact hw.silent rfl rfl rfl
    | error errno => exact ⟨broken_of_next rfl (by simp [Succeeded]), by simp [String.append_assoc]⟩
  have hmode : ∀ fd, Triple (Stage (S := S) done) (check_mode config fd) (fun _ => Stage done)
      Refused := by
    intro fd w hw
    unfold check_mode
    dsimp only
    split_ifs with hrefused
    · refine ⟨broken_of_next rfl (by simp [Succeeded]), ?_⟩
      unfold mode_error
      split_ifs <;> simp [String.append_assoc]
    · exact hw.silent rfl rfl rfl
  refine triple_ite (fun h => absurd h hpath) fun _ => hopen.bind fun fd => ?_
  have hset : Triple (Stage (S := S) done) (set_up config fd) (fun _ => Stage done) Refused :=
    (configure_stage config.path fd _).bind fun _ => hmode fd
  refine Triple.bind (hset.otherwise ?_) fun _ => triple_pure fun _ h => h
  rintro w ⟨hbroken, hmessage⟩
  exact ⟨destroy_keeps broken_invariant (fun _ => trivial) hbroken ⟨fd, config⟩, hmessage⟩

theorem transfer_stage (device : Device) {tx : List UInt8} (htx : tx ≠ []) :
    Triple (Stage (S := S) done) (device.transfer tx)
      (fun rx w => rx.length = tx.length ∧ Stage (done ++ [(tx, rx.getLastD 0)]) w) Refused := by
  intro w hw
  unfold Device.transfer
  rw [if_neg htx]
  by_cases hok : (w.surroundings.ioctl w.moment).ok
  · simp only [hok, if_true]
    exact ⟨by simp, hw.next (o := .exchanged device.fd tx _) rfl trivial⟩
  · simp only [hok]
    exact ⟨broken_of_next rfl (by simp [Succeeded]), by simp [String.append_assoc]⟩

theorem set_line_stage (id : ℕ) (active : Bool) :
    Triple (Stage (S := S) done) (set_line id active) (fun _ => Stage done) Broken := by
  intro w hw
  unfold set_line
  generalize w.gpio.modify id _ = answer
  obtain ⟨result, gpio⟩ := answer
  rcases result with _ | (message | _)
  · exact hw.silent rfl rfl rfl
  · exact broken_of_next rfl (by simp [Succeeded])
  · exact hw.silent rfl rfl rfl

/-- The program asks for a byte, or something fails. -/
def Asks (tx : List UInt8) (m : Run S UInt8) : Prop :=
  ∀ done, Triple (Stage done) m (fun value => Stage (done ++ [(tx, value)])) Refused

theorem strobe_asks (device : Device) (command : UInt8) :
    Asks (S := S) [command] (strobe device command) := by
  intro done
  refine (transfer_stage device (List.cons_ne_nil _ _)).bind fun rx => ?_
  refine triple_of_pre fun hlength => ?_
  obtain ⟨status, rfl⟩ := List.length_eq_one_iff.1 hlength
  exact triple_pure fun _ h => h

theorem read_status_asks (device : Device) (reg : UInt8) :
    Asks (S := S) [reg ||| K_CC_STATUS_READ, 0] (read_status device reg) := by
  intro done
  refine (transfer_stage device (List.cons_ne_nil _ _)).bind fun rx => ?_
  refine triple_of_pre fun hlength => ?_
  obtain ⟨first, value, rfl⟩ := List.length_eq_two.1 hlength
  exact triple_pure fun _ h => h

/-- Whatever fails on the way, there is a message. -/
theorem transfer_with_software_cs_stage (device : Device) {tx : List UInt8} (htx : tx ≠ []) :
    Triple (Stage (S := S) done) (transfer_with_software_cs device tx)
      (fun rx w => rx.length = tx.length ∧ Stage (done ++ [(tx, rx.getLastD 0)]) w) Refused := by
  have hfail : ∀ (f : String → String) (Q : List UInt8 → World S → Prop), (∀ e, f e ≠ "") →
      Triple Broken (do fail (f (← error_message))) Q Refused := by
    intro f Q hf
    refine triple_error_message.bind fun error => ?_
    exact fun w hw => ⟨broken_invariant.same _ _ hw rfl rfl rfl rfl, hf error⟩
  refine (set_line_stage chip_select false).attempt.bind fun answer => ?_
  cases answer with
  | none => exact hfail _ _ fun e => by simp
  | some _ =>
    refine (transfer_stage device htx).attempt.bind fun rx => ?_
    cases rx with
    | none =>
      -- The message of the transfer is what is left, or what it begins with.
      have hmessage : Triple (Refused (S := S)) error_message (fun error w => error ≠ "" ∧ Broken w)
          Refused := fun w hw => ⟨hw.2, hw.1⟩
      refine hmessage.bind fun error => triple_of_pre fun herror => ?_
      have hset : Keeps Broken (set_line (S := S) chip_select true) :=
        set_line_keeps broken_invariant (fun _ _ _ => trivial) _ _
      refine (triple_attempt_same hset).bind fun answer => ?_
      cases answer with
      | none => exact hfail _ _ fun e => by simp
      | some _ => exact fun w hw => ⟨broken_invariant.same _ _ hw rfl rfl rfl rfl, herror⟩
    | some rx =>
      refine triple_of_pre fun hlength => triple_error_message.bind fun error => ?_
      refine (set_line_stage chip_select true).attempt.bind fun answer => ?_
      cases answer with
      | none => exact hfail _ _ fun e => by simp
      | some _ => exact triple_pure fun _ h => ⟨hlength, h⟩

theorem read_st_register_asks (device : Device) (reg : UInt8) :
    Asks (S := S) [K_ST_REGISTER_READ ||| reg, 0] (read_st_register device reg) := by
  intro done
  refine (transfer_with_software_cs_stage device (List.cons_ne_nil _ _)).bind fun rx => ?_
  refine triple_of_pre fun hlength => ?_
  obtain ⟨first, value, rfl⟩ := List.length_eq_two.1 hlength
  exact triple_pure fun _ h => h

/-- The answers are put into the result one after the other. -/
def fill : List (UInt8 → R → R) → List UInt8 → R → R
  | set :: sets, value :: values, result => fill sets values (set value result)
  | _, _, result => result

theorem five_of_length {values : List UInt8} (h : values.length = 5) :
    ∃ v₁ v₂ v₃ v₄ v₅, values = [v₁, v₂, v₃, v₄, v₅] := by
  rcases values with _ | ⟨v₁, _ | ⟨v₂, _ | ⟨v₃, _ | ⟨v₄, _ | ⟨v₅, _ | ⟨v₆, rest⟩⟩⟩⟩⟩⟩
  all_goals first | exact ⟨_, _, _, _, _, rfl⟩ | simp at h

/-- What reads leave that are joined by `||`: all answers are in the result, or something was
refused, and the result has what assigning registers keeps. -/
def ReadAll (fresh : R → Prop) (txs : List (List UInt8)) (sets : List (UInt8 → R → R)) (result : R)
    (done : List (List UInt8 × UInt8)) (answer : Bool × R) (w : World S) : Prop :=
  (answer.1 = true ∧ ∃ values, values.length = txs.length ∧ answer.2 = fill sets values result ∧
    Stage (done ++ txs.zip values) w) ∨ answer.1 = false ∧ fresh answer.2 ∧ Refused w

theorem read_all_stage {fresh : R → Prop} {txs : List (List UInt8)}
    {reads : List (Run S UInt8 × (UInt8 → R → R))}
    (hreads : List.Forall₂ (fun tx read => Asks tx read.1) txs reads)
    (hfresh : ∀ read ∈ reads, ∀ value result, fresh result → fresh (read.2 value result))
    {result : R} (hresult : fresh result) (done : List (List UInt8 × UInt8)) {E : World S → Prop} :
    Triple (Stage done) (read_all reads result) (ReadAll fresh txs (reads.map Prod.snd) result done)
      E := by
  induction hreads generalizing result done with
  | nil => exact triple_pure fun w hw => .inl ⟨rfl, [], rfl, rfl, by simpa using hw⟩
  | @cons tx read txs reads hread _ ih =>
    obtain ⟨hset, hsets⟩ := List.forall_mem_cons.1 hfresh
    refine (hread done).attempt.bind fun answer => ?_
    cases answer with
    | none => exact triple_pure fun w hw => .inr ⟨rfl, hresult, hw⟩
    | some value =>
      refine (ih hsets (hset value result hresult) (done ++ [(tx, value)])).post ?_
      rintro ⟨ok, filled⟩ w (⟨hok, values, hlength, hfilled, hstage⟩ | hrefused)
      · refine .inl ⟨hok, value :: values, congrArg (· + 1) hlength, hfilled, ?_⟩
        rwa [List.zip_cons_cons, List.append_cons]
      · exact .inr hrefused

/-- The flag is seen, or nothing has happened. -/
theorem canceled_stage : Triple (Stage (S := S) done) canceled
    (fun canceled w => if canceled then Broken w else Stage done w) fun _ => False := by
  intro w hw
  show if _ then _ else _
  split_ifs with hcanceled
  · exact broken_of_next (o := .looked _) rfl (by simpa [Succeeded] using hcanceled)
  · exact hw.silent (o := .looked _) rfl (by simpa [Succeeded] using hcanceled) rfl

theorem destroy_stage {device : Device} (h : Stage done w) : Stage done (device.destroy w) :=
  h.silent rfl trivial rfl

theorem destroy_broken {device : Device} (h : Broken w) : Broken (device.destroy w) :=
  destroy_keeps broken_invariant (fun _ => trivial) h device

/-! ## The two chips -/

/-- Something has failed, and the result says so. -/
def Complains (ok : Bool) (message : String) (w : World S) : Prop :=
  ok = false ∧ message ≠ "" ∧ Broken w

/-- The registers were read and judged, or the result complains. -/
def Cc1101Answers (cc : Cc1101Result) (w : World S) : Prop :=
  (∃ reset raw, raw.initialized = false ∧ cc = judge_cc1101 raw ∧
    Stage (asked_cc1101 reset raw) w) ∨ Complains (cc_ok cc) cc.error_message w

/-- The registers were read and judged after what was done before, or the result complains. -/
def St25r3916Answers (done : List (List UInt8 × UInt8)) (st : St25r3916Result) (w : World S) :
    Prop :=
  (∃ raw, st = judge_st25r3916 raw ∧ Stage (done ++ asked_st25r3916 raw) w) ∨
    Complains (st_ok st) st.error_message w

/-- The result of a test that could not go on. -/
theorem return_refused {f : String → R} (ok : R → Bool) (message : R → String)
    {E : World S → Prop} (hok : ∀ e, ok (f e) = false) (hmessage : ∀ e, message (f e) = e) :
    Triple Refused (do return f (← error_message))
      (fun result w => Complains (ok result) (message result) w) E := by
  rintro w ⟨hbroken, hne⟩
  exact ⟨hok _, (hmessage _).symm ▸ hne, hbroken⟩

variable {progress : String → Run S Unit}
  (hprogress : ∀ done detail,
    Triple (Stage done) (progress detail) (fun _ => Stage done) fun _ => False)

include hprogress

theorem probe_device_answers (device : Device) :
    Triple (Stage []) (probe_device progress device) Cc1101Answers fun _ => False := by
  refine (hprogress [] _).bind fun _ => (strobe_asks device _ []).attempt.bind fun answer => ?_
  cases answer with
  | none =>
    exact (return_refused cc_ok Cc1101Result.error_message (fun _ => rfl) fun _ => rfl).post
      fun _ _ h => .inr h
  | some reset =>
    refine canceled_stage.bind fun canceled => ?_
    cases canceled with
    | true => exact triple_pure fun w hw => .inr ⟨rfl, by simp, hw⟩
    | false =>
      have hreads : List.Forall₂ (fun tx (read : Run S UInt8 × _) => Asks tx read.1)
          [[0x36], [0xF0, 0], [0xF1, 0], [0xF5, 0], [0xF8, 0]] (cc1101_reads device) :=
        .cons (strobe_asks _ _) (.cons (read_status_asks _ _) (.cons (read_status_asks _ _)
          (.cons (read_status_asks _ _) (.cons (read_status_asks _ _) .nil))))
      have hfresh : ∀ read ∈ cc1101_reads (S := S) device, ∀ value (result : Cc1101Result),
          cc_ok result = false → cc_ok (read.2 value result) = false := by
        intro read hmem value result hresult
        simp only [cc1101_reads, List.mem_cons, List.not_mem_nil, or_false] at hmem
        rcases hmem with rfl | rfl | rfl | rfl | rfl <;> exact hresult
      refine (read_all_stage hreads hfresh (show cc_ok {} = false from rfl)
        [([0x30], reset)]).bind ?_
      rintro ⟨read, result⟩ w (⟨hread, values, hlength, hfilled, hstage⟩ | ⟨hread, hkept, hrefused⟩)
      · obtain ⟨v₁, v₂, v₃, v₄, v₅, rfl⟩ := five_of_length hlength
        dsimp only at hread hfilled
        subst hread hfilled
        exact .inl ⟨reset, _, rfl, rfl, hstage⟩
      · dsimp only at hread hkept
        subst hread
        exact .inr ⟨hkept, hrefused.2, hrefused.1⟩

theorem run_cc1101_test_answers {config : Cc1101Config} (hpath : config.spi_path ≠ "") :
    Triple (Stage []) (run_cc1101_test config progress) Cc1101Answers fun _ => False := by
  refine (open_device_stage hpath).attempt.bind fun answer => ?_
  cases answer with
  | none =>
    exact (return_refused cc_ok Cc1101Result.error_message (fun _ => rfl) fun _ => rfl).post
      fun _ _ h => .inr h
  | some device =>
    refine (probe_device_answers hprogress device).scope ?_ fun _ h => False.elim h
    rintro cc w (⟨reset, raw, hraw, hcc, hstage⟩ | ⟨hok, hmessage, hbroken⟩)
    · exact .inl ⟨reset, raw, hraw, hcc, destroy_stage hstage⟩
    · exact .inr ⟨hok, hmessage, destroy_broken hbroken⟩

theorem read_st25r3916_answers (device : Device) :
    Triple (Stage done) (read_st25r3916 progress device) (St25r3916Answers done)
      fun _ => False := by
  have hreads : List.Forall₂ (fun tx (read : Run S UInt8 × _) => Asks tx read.1)
      [[0x7F, 0], [0x42, 0], [0x5E, 0], [0x5F, 0], [0x7F, 0]] (st25r3916_reads device) :=
    .cons (read_st_register_asks _ _) (.cons (read_st_register_asks _ _)
      (.cons (read_st_register_asks _ _) (.cons (read_st_register_asks _ _)
        (.cons (read_st_register_asks _ _) .nil))))
  have hfresh : ∀ read ∈ st25r3916_reads (S := S) device, ∀ value (result : St25r3916Result),
      st_ok result = false → st_ok (read.2 value result) = false := by
    intro read hmem value result hresult
    simp only [st25r3916_reads, List.mem_cons, List.not_mem_nil, or_false] at hmem
    rcases hmem with rfl | rfl | rfl | rfl | rfl <;> exact hresult
  refine (hprogress done _).bind fun _ => ?_
  refine (read_all_stage hreads hfresh (show st_ok {} = false from rfl) done).bind ?_
  rintro ⟨read, result⟩ w (⟨hread, values, hlength, hfilled, hstage⟩ | ⟨hread, hkept, hrefused⟩)
  · obtain ⟨v₁, v₂, v₃, v₄, v₅, rfl⟩ := five_of_length hlength
    dsimp only at hread hfilled
    subst hread hfilled
    -- The flag is looked at once more before the registers are judged.
    refine (canceled_stage.bind (E := fun _ => False) fun canceled => ?_) w hstage
    cases canceled with
    | true => exact triple_pure fun w hw => .inr ⟨rfl, by simp, hw⟩
    | false => exact triple_pure fun w hw => .inl ⟨_, rfl, hw⟩
  · dsimp only at hread hkept
    subst hread
    exact .inr ⟨hkept, hrefused.2, hrefused.1⟩

theorem run_st25r3916_test_answers {config : St25r3916Config} (hpath : config.spi_path ≠ "") :
    Triple (Stage done) (run_st25r3916_test config progress) (St25r3916Answers done)
      fun _ => False := by
  have hrefused : ∀ f : String → St25r3916Result, (∀ e, st_ok (f e) = false) →
      (∀ e, e ≠ "" → (f e).error_message ≠ "") →
      Triple Refused (do return f (← error_message)) (St25r3916Answers (S := S) done)
        fun _ => False := by
    rintro f hok hmessage w ⟨hbroken, hne⟩
    exact .inr ⟨hok _, hmessage _ hne, hbroken⟩
  have hselect : Triple (Stage done) (select_st25r3916 config progress) (St25r3916Answers done)
      fun _ => False := by
    refine (set_line_stage chip_select true).attempt.bind fun answer => ?_
    cases answer with
    | none => exact fun w hw => .inr ⟨rfl, by simp, hw⟩
    | some _ =>
      refine (open_device_stage hpath).attempt.bind fun answer => ?_
      cases answer with
      | none => exact hrefused _ (fun _ => rfl) fun _ h => h
      | some device =>
        refine (read_st25r3916_answers hprogress device).scope ?_ fun _ h => False.elim h
        rintro st w (⟨raw, hst, hstage⟩ | ⟨hok, hmessage, hbroken⟩)
        · exact .inl ⟨raw, hst, destroy_stage hstage⟩
        · exact .inr ⟨hok, hmessage, destroy_broken hbroken⟩
  have hmake : Triple (Stage (S := S) done) (make_line chip_select config.software_cs)
      (fun _ => Stage done) fun _ => False := fun w hw => hw.silent rfl trivial rfl
  refine hmake.bind fun _ => hselect.scope ?_ fun _ h => False.elim h
  rintro st w (⟨raw, hst, hstage⟩ | ⟨hok, hmessage, hbroken⟩)
  · exact .inl ⟨raw, hst, hstage.silent (o := .line_dropped _) rfl trivial rfl⟩
  · exact .inr ⟨hok, hmessage, drop_line_keeps broken_invariant (fun _ => trivial) hbroken _⟩

end

/-! ## The flag and the message -/

/-- The flag was seen. -/
def Seen (w : World S) : Prop := .looked true ∈ w.history

/-- Who has seen the flag sees it again. -/
def Remembered (w : World S) : Prop :=
  Seen w → w.surroundings.canceled_from.any (· ≤ w.moment) = true

theorem remembered_invariant : Invariant (S := S) (fun _ => True) Remembered where
  acts w w' o hw hacts _ := by
    intro hseen
    have hbefore : w.surroundings.canceled_from.any (· ≤ w.moment) = true := by
      rw [Seen, hacts.history] at hseen
      rcases List.mem_append.1 hseen with hmem | hmem
      · exact hw hmem
      · have ho := List.mem_singleton.1 hmem
        subst ho
        exact (hacts.flag true rfl).symm
    rw [hacts.surroundings, hacts.moment]
    cases hfrom : w.surroundings.canceled_from with
    | none => rw [hfrom] at hbefore; cases hbefore
    | some moment =>
      rw [hfrom] at hbefore
      simp only [Option.any_some, decide_eq_true_eq] at hbefore ⊢
      exact Nat.le_succ_of_le hbefore
  same w w' hw hsurroundings hmoment hhistory _ := by
    intro hseen
    rw [Seen, hhistory] at hseen
    rw [hsurroundings, hmoment]
    exact hw hseen

theorem unseen_invariant :
    Invariant (S := S) (fun o => o.flag ≠ some true) fun w => ¬ Seen w where
  acts w w' o hw hacts ho := by
    intro hseen
    rw [Seen, hacts.history] at hseen
    rcases List.mem_append.1 hseen with hmem | hmem
    · exact hw hmem
    · exact ho (List.mem_singleton.1 hmem ▸ rfl)
  same w w' hw _ _ hhistory _ := by
    rw [Seen, hhistory]
    exact hw

/-- No message was published yet. -/
def Silent (w : World CapCc1101Snapshot) : Prop := w.snapshot.error_message = ""

theorem silent_invariant :
    Invariant (fun o => ∀ s, o.snapshot = some s → s.error_message = "") Silent where
  acts w w' o hw hacts ho := by
    rw [Silent, hacts.snapshot]
    cases hsnapshot : o.snapshot with
    | none => exact hw
    | some s => exact ho s hsnapshot
  same w w' hw _ _ _ hsnapshot := by
    rw [Silent, hsnapshot]
    exact hw

/-! ## The verdict -/

theorem asked_inj {reset reset' : UInt8} {cc cc' : Cc1101Result} {st st' : St25r3916Result}
    (h : asked_cc1101 reset cc ++ asked_st25r3916 st =
      asked_cc1101 reset' cc' ++ asked_st25r3916 st') :
    (Idle cc ↔ Idle cc') ∧ (Identified st ↔ Identified st') := by
  simp only [asked_cc1101, asked_st25r3916, List.cons_append, List.nil_append, List.cons.injEq,
    Prod.mk.injEq, true_and, and_true] at h
  obtain ⟨-, hstatus, hpart, hversion, hmarc, -, hidentity, -, -, -, hreadback⟩ := h
  refine ⟨⟨?_, ?_⟩, ⟨?_, ?_⟩⟩
  · rintro ⟨h₁, h₂, h₃, h₄⟩
    exact ⟨hpart ▸ h₁, hversion ▸ h₂, hstatus ▸ h₃, hmarc ▸ h₄⟩
  · rintro ⟨h₁, h₂, h₃, h₄⟩
    exact ⟨hpart ▸ h₁, hversion ▸ h₂, hstatus ▸ h₃, hmarc ▸ h₄⟩
  · rintro ⟨h₁, h₂⟩
    exact ⟨hidentity ▸ h₁, hreadback ▸ hidentity ▸ h₂⟩
  · rintro ⟨h₁, h₂⟩
    exact ⟨hidentity ▸ h₁, hreadback ▸ hidentity ▸ h₂⟩

theorem Broken.not_healthy {w : World S} (h : Broken w) : ¬ Healthy w.history := by
  obtain ⟨o, hmem, ho⟩ := h
  exact fun hhealthy => ho (hhealthy.succeeded o hmem)

/-- An entry that is not of the bus. -/
theorem healthy_concat {os : List (Obs S)} {o : Obs S} (ho : Succeeded o)
    (hexchange : exchange o = none) : Healthy (os ++ [o]) ↔ Healthy os := by
  have hexchanges : exchanges (os ++ [o]) = exchanges os := by
    simp [exchanges, List.filterMap_append, hexchange]
  constructor
  · rintro ⟨hsucceeded, hanswers⟩
    exact ⟨fun o' hmem => hsucceeded o' (List.mem_append_left _ hmem), hexchanges ▸ hanswers⟩
  · rintro ⟨hsucceeded, hanswers⟩
    refine ⟨fun o' hmem => ?_, hexchanges.symm ▸ hanswers⟩
    rcases List.mem_append.1 hmem with hmem | hmem
    · exact hsucceeded o' hmem
    · exact List.mem_singleton.1 hmem ▸ ho

/-- What the snapshot says of a run. -/
structure Verdict (w : World CapCc1101Snapshot) : Prop where
  passed : w.snapshot.state = .PASSED ↔ Healthy w.history
  canceled : w.snapshot.state = .CANCELED ↔ Seen w
  failed : w.snapshot.state = .FAILED ↔ ¬ Healthy w.history ∧ ¬ Seen w
  cause : w.snapshot.state = .FAILED → Broken w ∨ Unfit w.history
  message : w.snapshot.error_message ≠ "" ↔ w.snapshot.state = .FAILED

/-- A cause stays when something is noted that is not of the bus. -/
theorem cause_next {w w' : World S} {o : Obs S} (hhistory : w'.history = w.history ++ [o])
    (hexchange : exchange o = none) (h : Broken w ∨ Unfit w.history) :
    Broken w' ∨ Unfit w'.history := by
  rcases h with ⟨o', hmem, ho'⟩ | ⟨reset, cc, st, hexchanges, hnot⟩
  · exact .inl ⟨o', hhistory ▸ List.mem_append_left _ hmem, ho'⟩
  · refine .inr ⟨reset, cc, st, ?_, hnot⟩
    rw [← hexchanges, hhistory]
    simp [exchanges, List.filterMap_append, hexchange]

/-- A quiet entry at the end leaves a verdict. -/
theorem Verdict.next {w w' : World CapCc1101Snapshot} {o : Obs CapCc1101Snapshot} (h : Verdict w)
    (hhistory : w'.history = w.history ++ [o]) (hsnapshot : w'.snapshot = w.snapshot)
    (ho : Succeeded o) (hexchange : exchange o = none) (hflag : o.flag ≠ some true) :
    Verdict w' := by
  have hseen : Seen w' ↔ Seen w := by
    rw [Seen, hhistory, List.mem_append, List.mem_singleton]
    exact ⟨fun h => h.resolve_right fun heq => hflag (heq ▸ rfl), .inl⟩
  have hhealthy : Healthy w'.history ↔ Healthy w.history := by
    rw [hhistory]
    exact healthy_concat ho hexchange
  exact ⟨by rw [hsnapshot, hhealthy, h.passed], by rw [hsnapshot, hseen, h.canceled],
    by rw [hsnapshot, hhealthy, hseen, h.failed],
    fun hfailed => cause_next hhistory hexchange (h.cause (hsnapshot ▸ hfailed)),
    by rw [hsnapshot, h.message]⟩

/-- Both results are what the bus has shown. -/
structure Both (cc : Cc1101Result) (st : St25r3916Result) (w : World S) : Prop where
  ok : cc_ok cc = true ∧ st_ok st = true ↔ Healthy w.history
  cause : ¬ Healthy w.history → Broken w ∨ Unfit w.history
  cc_message : cc_ok cc = false → cc.error_message ≠ ""
  st_message : cc_ok cc = true → st_ok st = false → st.error_message ≠ ""

theorem Cc1101Answers.message {cc : Cc1101Result} {w : World S} (h : Cc1101Answers cc w)
    (hok : cc_ok cc = false) : cc.error_message ≠ "" := by
  obtain ⟨reset, raw, hraw, rfl, -⟩ | ⟨-, hmessage, -⟩ := h
  · exact (judge_cc1101_spec hraw).2 hok
  · exact hmessage

theorem Complains.both {cc : Cc1101Result} {st : St25r3916Result} {w : World S}
    (hcc : cc_ok cc = false → cc.error_message ≠ "")
    (hst : Complains (st_ok st) st.error_message w) : Both cc st w where
  ok := ⟨fun h => Bool.noConfusion (h.2.symm.trans hst.1),
    fun h => absurd h hst.2.2.not_healthy⟩
  cause _ := .inl hst.2.2
  cc_message := hcc
  st_message _ _ := hst.2.1

/-- The second test, after the first has left its result. -/
theorem st25r3916_both {cc : Cc1101Result} {progress : String → Run S Unit}
    (hprogress : ∀ done detail,
      Triple (Stage done) (progress detail) (fun _ => Stage done) fun _ => False)
    (hbroken : ∀ detail, Keeps Broken (progress detail)) {config : St25r3916Config}
    (hpath : config.spi_path ≠ "") :
    Triple (Cc1101Answers cc) (run_st25r3916_test config progress) (fun st => Both cc st)
      fun _ => True := by
  rintro w (⟨reset, raw, hraw, rfl, hstage⟩ | ⟨hok, hmessage, hw⟩)
  · have hmessage : cc_ok (judge_cc1101 raw) = false → (judge_cc1101 raw).error_message ≠ "" :=
      (judge_cc1101_spec hraw).2
    refine (((run_st25r3916_test_answers hprogress hpath).escape fun _ => False.elim).post ?_)
      w hstage
    rintro st w' (⟨raw', rfl, hstage'⟩ | hcomplains)
    · have hunfit : ¬ Healthy w'.history → Unfit w'.history := fun hhealthy =>
        ⟨reset, raw, raw', hstage'.exchanged, fun hfit => hhealthy
          ⟨hstage'.succeeded, reset, raw, raw', hstage'.exchanged, hfit.1, hfit.2⟩⟩
      refine ⟨?_, fun hhealthy => .inr (hunfit hhealthy), hmessage,
        fun _ => (judge_st25r3916_spec raw').2⟩
      rw [(judge_cc1101_spec hraw).1, (judge_st25r3916_spec raw').1]
      constructor
      · rintro ⟨hidle, hidentified⟩
        exact ⟨hstage'.succeeded, reset, raw, raw', hstage'.exchanged, hidle, hidentified⟩
      · rintro ⟨-, reset', cc', st', hexchanges, hidle, hidentified⟩
        obtain ⟨hcc, hst⟩ := asked_inj (hstage'.exchanged.symm.trans hexchanges)
        exact ⟨hcc.2 hidle, hst.2 hidentified⟩
    · exact hcomplains.both hmessage
  · have hkeeps := run_st25r3916_test_keeps broken_invariant (fun _ _ => trivial) hbroken config
    refine (Triple.mono hkeeps (fun _ h => h) (fun st w' hbroken' => ?_) fun _ _ => trivial) w hw
    exact ⟨⟨fun h => Bool.noConfusion (h.1.symm.trans hok), fun h => absurd h hbroken'.not_healthy⟩,
      fun _ => .inl hbroken', fun _ => hmessage, fun hcc => Bool.noConfusion (hcc.symm.trans hok)⟩

/-- Publishing is judged by the snapshot that is published. -/
theorem publish_verdict {update : CapCc1101Snapshot → CapCc1101Snapshot}
    {P : World CapCc1101Snapshot → Prop}
    (h : ∀ w, P w → Verdict { w with snapshot := update w.snapshot }) :
    Triple P (Cap.publish_ update) (fun _ => Verdict) fun _ => False :=
  fun w hw => (h w hw).next rfl rfl trivial rfl (fun heq => nomatch heq)

theorem with_st25r3916_verdict {cc : Cc1101Result} {st : St25r3916Result} :
    Triple (fun w => Both cc st w ∧ ¬ Seen w ∧ Silent w) (publish_ (with_st25r3916 cc st))
      (fun _ => Verdict) fun _ => False := by
  refine publish_verdict ?_
  rintro w ⟨⟨hok, hcause, hcc, hst⟩, hunseen, hsilent⟩
  have hsilent : w.snapshot.error_message = "" := hsilent
  by_cases hboth : cc_ok cc = true ∧ st_ok st = true
  · have hhealthy := hok.1 hboth
    constructor <;> simp [with_st25r3916, joined_message, hboth, hsilent, hhealthy, Seen]
    exact hunseen
  · have hhealthy : ¬ Healthy w.history := fun h => hboth (hok.2 h)
    have hstate : (cc_ok cc && st_ok st) = false := by
      rw [← Bool.not_eq_true, Bool.and_eq_true]
      exact hboth
    have hmessage : joined_message "" cc st ≠ "" := by
      unfold joined_message
      cases hcc' : cc_ok cc with
      | false => cases hst' : st_ok st <;> simp [hcc hcc']
      | true =>
        cases hst' : st_ok st with
        | false => simpa using hst hcc' hst'
        | true => exact absurd ⟨hcc', hst'⟩ hboth
    have hfailed : Broken w ∨ Unfit w.history := hcause hhealthy
    constructor <;> simp [with_st25r3916, hstate, hsilent, hhealthy, hmessage, Seen] <;>
      assumption

theorem canceled_verdict :
    Triple (fun w => Seen w ∧ Silent w) publish_canceled (fun _ => Verdict) fun _ => False := by
  unfold publish_canceled publish_
  refine publish_verdict ?_
  rintro w ⟨hseen, hsilent⟩
  have hhealthy : ¬ Healthy w.history := Broken.not_healthy ⟨_, hseen, by simp [Succeeded]⟩
  constructor <;> simp [hhealthy, show w.snapshot.error_message = "" from hsilent] <;> exact hseen

theorem publish_stage (update : CapCc1101Snapshot → CapCc1101Snapshot)
    (done : List (List UInt8 × UInt8)) :
    Triple (Stage done) (publish_ update) (fun _ => Stage done) fun _ => False :=
  fun _ hw => hw.silent rfl trivial rfl

theorem publish_broken (update : CapCc1101Snapshot → CapCc1101Snapshot) :
    Keeps Broken (publish_ update) := publish_keeps broken_invariant fun _ _ => trivial

theorem publish_remembered (update : CapCc1101Snapshot → CapCc1101Snapshot) :
    Keeps Remembered (publish_ update) := publish_keeps remembered_invariant fun _ _ => trivial

theorem publish_silent {update : CapCc1101Snapshot → CapCc1101Snapshot}
    (hupdate : ∀ s, (update s).error_message = s.error_message) :
    Keeps Silent (publish_ update) := by
  refine publish_keeps silent_invariant fun w hw s hs => ?_
  rw [← Option.some.inj hs]
  exact (hupdate _).trans hw

/-- Entries that publish nothing. -/
theorem silent_of_none {o : Obs CapCc1101Snapshot} (ho : o.snapshot = none)
    (s : CapCc1101Snapshot) (hs : o.snapshot = some s) : s.error_message = "" :=
  nomatch ho.symm.trans hs

theorem cc_progress_stage (done : List (List UInt8 × UInt8)) (detail : String) :
    Triple (Stage done) (cc_progress detail) (fun _ => Stage done) fun _ => False :=
  publish_stage _ done

theorem st_progress_stage (done : List (List UInt8 × UInt8)) (detail : String) :
    Triple (Stage done) (st_progress detail) (fun _ => Stage done) fun _ => False :=
  publish_stage _ done

theorem cc_progress_silent (detail : String) : Keeps Silent (cc_progress detail) :=
  publish_silent fun _ => rfl

theorem st_progress_silent (detail : String) : Keeps Silent (st_progress detail) :=
  publish_silent fun _ => rfl

theorem cc1101_step :
    Triple (fun w => Stage [] w ∧ Remembered w ∧ Silent w) (run_cc1101_test {} cc_progress)
      (fun cc w => Cc1101Answers cc w ∧ Remembered w ∧ Silent w) fun _ => True := by
  have hpath : ({} : Cc1101Config).spi_path ≠ "" := by decide
  have hremembered : Keeps Remembered (run_cc1101_test {} cc_progress) :=
    run_cc1101_test_keeps remembered_invariant (fun _ _ => trivial) (fun _ => trivial)
      (fun _ => publish_remembered _) (fun _ _ => trivial) {}
  have hsilent : Keeps Silent (run_cc1101_test {} cc_progress) :=
    run_cc1101_test_keeps silent_invariant (fun _ ho => silent_of_none ho.snapshot)
      (fun _ => silent_of_none rfl) cc_progress_silent
      (fun _ ho => silent_of_none ho.snapshot) {}
  exact ((run_cc1101_test_answers cc_progress_stage hpath).and (hremembered.and hsilent)).escape
    fun _ _ => trivial

theorem st25r3916_step (cc : Cc1101Result) :
    Triple (fun w => Cc1101Answers cc w ∧ Remembered w ∧ Silent w)
      (run_st25r3916_test {} st_progress)
      (fun st w => Both cc st w ∧ Remembered w ∧ Silent w) fun _ => True := by
  have hpath : ({} : St25r3916Config).spi_path ≠ "" := by decide
  have hremembered : Keeps Remembered (run_st25r3916_test {} st_progress) :=
    run_st25r3916_test_keeps remembered_invariant (fun _ _ => trivial)
      (fun _ => publish_remembered _) {}
  have hsilent : Keeps Silent (run_st25r3916_test {} st_progress) :=
    run_st25r3916_test_keeps silent_invariant (fun _ ho => silent_of_none ho)
      st_progress_silent {}
  exact ((st25r3916_both st_progress_stage (fun _ => publish_broken _) hpath).and
    (hremembered.and hsilent)).escape fun _ _ => trivial

theorem Cc1101Answers.next {cc : Cc1101Result} {w w' : World S} {o : Obs S}
    (h : Cc1101Answers cc w) (hhistory : w'.history = w.history ++ [o]) (ho : Succeeded o)
    (hexchange : exchange o = none) : Cc1101Answers cc w' := by
  obtain ⟨reset, raw, hraw, hcc, hstage⟩ | ⟨hok, hmessage, o', hmem, ho'⟩ := h
  · exact .inl ⟨reset, raw, hraw, hcc, hstage.silent hhistory ho hexchange⟩
  · exact .inr ⟨hok, hmessage, o', hhistory ▸ List.mem_append_left _ hmem, ho'⟩

theorem Both.next {cc : Cc1101Result} {st : St25r3916Result} {w w' : World S} {o : Obs S}
    (h : Both cc st w) (hhistory : w'.history = w.history ++ [o]) (ho : Succeeded o)
    (hexchange : exchange o = none) : Both cc st w' :=
  ⟨by rw [hhistory, healthy_concat ho hexchange, h.ok], fun hhealthy =>
    cause_next hhistory hexchange
      (h.cause fun hbefore => hhealthy (hhistory ▸ (healthy_concat ho hexchange).2 hbefore)),
    h.cc_message, h.st_message⟩

theorem canceled_silent : Keeps Silent canceled :=
  canceled_keeps silent_invariant fun _ => silent_of_none rfl

/-- The worker looks at the flag between the tests, and goes on if it is not set. -/
theorem look_verdict {P : World CapCc1101Snapshot → Prop}
    (hP : ∀ w, P w → P (w.note (.looked false))) {rest : Run CapCc1101Snapshot Unit}
    (hrest : Triple (fun w => P w ∧ ¬ Seen w ∧ Silent w) rest (fun _ => Verdict) fun _ => True) :
    Triple (fun w => P w ∧ Remembered w ∧ Silent w)
      (do if ← canceled then publish_canceled else rest) (fun _ => Verdict) fun _ => True := by
  have hlook : Triple (fun w => P w ∧ Remembered w) canceled
      (fun canceled w => if canceled then Seen w else P w ∧ ¬ Seen w) fun _ => True := by
    rintro w ⟨hw, hremembered⟩
    show if _ then _ else _
    split_ifs with hcanceled
    · show Obs.looked true ∈ w.history ++ [.looked _]
      rw [hcanceled]
      exact List.mem_append_right _ List.mem_cons_self
    · have hfalse : w.surroundings.canceled_from.any (· ≤ w.moment) = false :=
        Bool.eq_false_iff.2 hcanceled
      simp only [hfalse]
      refine ⟨hP w hw, fun hseen => ?_⟩
      rcases List.mem_append.1 hseen with hmem | hmem
      · exact hcanceled (hremembered hmem)
      · cases List.mem_singleton.1 hmem
  refine Triple.bind (Triple.mono (hlook.and canceled_silent)
    (fun w hw => ⟨⟨hw.1, hw.2.1⟩, hw.2.2⟩) (fun _ _ h => h) fun _ _ => trivial) fun canceled => ?_
  cases canceled with
  | true => exact canceled_verdict.escape fun _ _ => trivial
  | false => exact hrest.pre fun w hw => ⟨hw.1.1, hw.1.2, hw.2⟩

theorem run_powered_verdict :
    Triple (fun w => Stage [] w ∧ Remembered w ∧ Silent w) run_powered (fun _ => Verdict)
      fun _ => True := by
  refine cc1101_step.bind fun cc => look_verdict (fun w hw => hw.next rfl rfl rfl) ?_
  have hpublish : Triple (fun w => Cc1101Answers cc w ∧ ¬ Seen w ∧ Silent w)
      (publish_ (with_cc1101 cc)) (fun _ w => Cc1101Answers cc w ∧ Remembered w ∧ Silent w)
      fun _ => True := by
    rintro w ⟨hanswers, hunseen, hsilent⟩
    refine ⟨hanswers.next rfl trivial rfl, fun hseen => absurd ?_ hunseen, hsilent⟩
    rcases List.mem_append.1 hseen with hmem | hmem
    · exact hmem
    · cases List.mem_singleton.1 hmem
  refine hpublish.bind fun _ => (st25r3916_step cc).bind fun st => ?_
  exact look_verdict (fun w hw => hw.next rfl rfl rfl)
    (with_st25r3916_verdict.escape fun _ h => False.elim h)

theorem power_cleanup_verdict {w : World CapCc1101Snapshot} (h : Verdict w) :
    Verdict (power_cleanup w) := by
  unfold power_cleanup write_ext_5v
  cases Gpio.write_sysfs_binary_value K_EXT_5V_PATH false
    (w.surroundings.write_binary w.moment) with
  | ok _ => exact h.next rfl rfl (fun h => nomatch h) rfl (fun h => nomatch h)
  | error message => exact h.next rfl rfl (fun h => nomatch h) rfl (fun h => nomatch h)

/-- The rail could not be switched on. -/
theorem without_power_verdict (power_error : String) :
    Triple (fun w => Broken w ∧ ¬ Seen w) (Cap.publish_ (without_power power_error))
      (fun _ => Verdict) fun _ => True := by
  refine (publish_verdict ?_).escape fun _ _ => trivial
  rintro w ⟨hbroken, hunseen⟩
  have hhealthy := hbroken.not_healthy
  have hcause : Broken w ∨ Unfit w.history := .inl hbroken
  constructor <;> simp [without_power, hhealthy, Seen] <;> assumption

theorem run_verdict :
    Triple (fun w => Stage [] w ∧ Remembered w ∧ Silent w ∧ ¬ Seen w) run_ (fun _ => Verdict)
      fun _ => True := by
  have hunseen : ∀ {w : World CapCc1101Snapshot} {active ok : Bool}, ¬ Seen w →
      ¬ Seen (w.note (.power active ok)) := by
    intro w active ok hunseen hseen
    rcases List.mem_append.1 hseen with hmem | hmem
    · exact hunseen hmem
    · cases List.mem_singleton.1 hmem
  have henable : Triple (fun w => Stage [] w ∧ Remembered w ∧ Silent w ∧ ¬ Seen w)
      (write_ext_5v true) (fun _ w => Stage [] w ∧ Remembered w ∧ Silent w)
      fun w => Broken w ∧ ¬ Seen w := by
    rintro w ⟨hstage, hremembered, hsilent, hw⟩
    unfold write_ext_5v
    cases Gpio.write_sysfs_binary_value K_EXT_5V_PATH true
      (w.surroundings.write_binary w.moment) with
    | ok _ =>
      exact ⟨hstage.silent (o := .power true true) rfl (fun _ => rfl) rfl,
        fun hseen => absurd hseen (hunseen hw), hsilent⟩
    | error message =>
      exact ⟨broken_of_next (o := .power true false) rfl (by simp [Succeeded]), hunseen hw⟩
  refine henable.attempt.bind fun answer => ?_
  cases answer with
  | none =>
    refine triple_error_message.bind fun power_error => ?_
    have hdisable : Triple (fun w : World CapCc1101Snapshot => Broken w ∧ ¬ Seen w)
        (write_ext_5v false).attempt (fun _ w => Broken w ∧ ¬ Seen w) fun _ => True := fun w hw =>
      ⟨power_cleanup_keeps broken_invariant (fun _ => trivial) hw.1,
        power_cleanup_keeps unseen_invariant (fun _ h => nomatch h) hw.2⟩
    exact hdisable.bind fun _ => without_power_verdict power_error
  | some _ =>
    exact run_powered_verdict.scope (fun _ _ h => power_cleanup_verdict h) fun _ _ => trivial

/-- What a test says at its end, whatever the hardware answered and whenever it was canceled. -/
theorem test_verdict (surroundings : Surroundings) (snapshot : CapCc1101Snapshot) :
    Verdict (test surroundings snapshot) := by
  have hunseen : ¬ Seen ({ surroundings, snapshot := start snapshot } : World CapCc1101Snapshot) :=
    List.not_mem_nil
  have h := run_verdict { surroundings, snapshot := start snapshot }
    ⟨⟨fun _ hmem => absurd hmem List.not_mem_nil, rfl⟩, fun hseen => absurd hseen hunseen, rfl,
      hunseen⟩
  -- The worker returns in any case.
  have hreturns := with_ext_5v_on without_power run_powered_on
    { surroundings, snapshot := start snapshot } (on_start _ _)
  unfold test run_
  cases hr : with_ext_5v without_power run_powered { surroundings, snapshot := start snapshot } with
  | mk answer w =>
    rw [hr] at hreturns
    rw [run_, hr] at h
    cases answer with
    | none => exact False.elim hreturns
    | some _ => exact h

end FactoryTest.CapCc1101
