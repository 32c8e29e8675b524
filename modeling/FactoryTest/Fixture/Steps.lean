import FactoryTest.Fixture.Trail

/-!
# The steps of the worker

A rule for each way in which the worker takes a step, between points of the item chain.
-/

namespace FactoryTest.Fixture

open Program

/-! ## The world goes on -/

namespace World

theorem cancel_eq (w : World) (step : CancelStep) :
    (w.cancel step).model = w.model ∧ (w.cancel step).history = w.history ∧
      (w.cancel_requested = true → (w.cancel step).cancel_requested = true) := by
  cases step with
  | look => exact ⟨rfl, rfl, id⟩
  | set => exact ⟨rfl, rfl, fun h => by simp [cancel, h]⟩

theorem foldl_cancel (steps : List CancelStep) (w : World) :
    (steps.foldl cancel w).model = w.model ∧ (steps.foldl cancel w).history = w.history ∧
      (w.cancel_requested = true → (steps.foldl cancel w).cancel_requested = true) := by
  induction steps generalizing w with
  | nil => exact ⟨rfl, rfl, id⟩
  | cons step steps ih =>
    obtain ⟨hmodel, hhistory, hflag⟩ := cancel_eq w step
    obtain ⟨ihmodel, ihhistory, ihflag⟩ := ih (w.cancel step)
    exact ⟨ihmodel.trans hmodel, ihhistory.trans hhistory, fun h => ihflag (hflag h)⟩

@[simp] theorem pass_model (w : World) : w.pass.model = w.model := (foldl_cancel _ _).1

@[simp] theorem pass_history (w : World) : w.pass.history = w.history := (foldl_cancel _ _).2.1

/-- The flag is never cleared. -/
theorem pass_flag {w : World} (h : w.cancel_requested = true) : w.pass.cancel_requested = true :=
  (foldl_cancel _ _).2.2 h

end World

/-- What is observed while a program runs. -/
def observed {α : Type} (m : Run α) (w : World) : List Obs :=
  (m w).2.history.drop w.history.length

theorem observed_eq {α : Type} {m : Run α} {w : World} {os : List Obs}
    (h : (m w).2.history = w.history ++ os) : observed m w = os := by
  rw [observed, h, List.drop_left]

/-! ## Steady assertions -/

/-- An assertion that the passing of time and calls of `cancel` keep. -/
def Steady (I : World → Prop) : Prop :=
  ∀ w w' : World, I w → w'.model = w.model → w'.history = w.history →
    (w.cancel_requested = true → w'.cancel_requested = true) → I w'

variable {I J E : World → Prop}

theorem Steady.pass (hI : Steady I) {w : World} (h : I w) : I w.pass :=
  hI w w.pass h w.pass_model w.pass_history World.pass_flag

theorem canceled_steady (hI : Steady I) :
    Triple I canceled (fun b w => I w ∧ (b = true → w.cancel_requested = true)) E :=
  fun _ h => ⟨hI.pass h, id⟩

theorem clock_steady (hI : Steady I) : Triple I clock (fun _ => I) E := fun _ h => hI.pass h

theorem sleep_for_steady (hI : Steady I) (milliseconds : ℕ) :
    Triple I (sleep_for milliseconds) (fun _ => I) E :=
  fun w h => hI w.pass _ (hI.pass h) rfl rfl id

/-- What every round keeps holds when a loop with a deadline is left. -/
theorem until_deadline_steady (hI : Steady I) {α β : Type} {Q : α → World → Prop}
    (milliseconds : ℕ) {body : β → Run (β ⊕ α)}
    (hbody : ∀ b, Triple I (body b) (fun r => r.elim (fun _ => I) Q) E) (b : β) :
    Triple I (until_deadline milliseconds body b) (fun r => r.elim (fun _ => I) Q) E := by
  refine (clock_steady hI).bind fun start => ?_
  refine triple_loop (fun _ => ?_) hbody _ b
  exact (clock_steady hI).bind fun now => triple_pure fun _ h => h

/-- A delay is completed, or interrupted because the flag is set. -/
theorem delay_steady (hI : Steady I) (milliseconds : ℕ) {reason : String}
    (hdone : ∀ w, I w → J { w with history := w.history ++ [.delay reason true] })
    (hstop : ∀ w, I w → w.cancel_requested = true →
      E { w with history := w.history ++ [.delay reason false] }) :
    Triple I (delay_ milliseconds reason) (fun _ => J) E := by
  refine Triple.bind (Q := fun r => r.elim (fun _ => I)
      fun _ w => I w ∧ w.cancel_requested = true)
    (until_deadline_steady hI milliseconds (fun _ => ?_) ()) fun r => ?_
  · refine (canceled_steady hI).bind fun canceled => ?_
    cases canceled with
    | true => exact triple_pure fun _ h => ⟨h.1, h.2 rfl⟩
    | false =>
      refine ((sleep_for_steady hI 10).pre fun _ h => h.1).bind fun _ => ?_
      exact triple_pure fun _ h => h
  · cases r with
    | inl _ => exact hdone
    | inr _ => exact fun w h => hstop w h.1 h.2

/-! ## Points -/

variable {k : ℕ} {middle : List CapFixtureItemState} {flags odds c : Channels}
  {ps : List (Obs → Prop)}

theorem At.steady : Steady (At k middle flags odds ps) := fun _ _ h hmodel hhistory _ =>
  { room := h.room
    narrow := h.narrow
    trail := hhistory ▸ h.trail
    states := hmodel ▸ h.states
    running := hmodel ▸ h.running
    active := hmodel ▸ h.active
    fresh := hmodel ▸ h.fresh
    flags := hmodel ▸ h.flags }

theorem At.pass {w : World} (h : At k middle flags odds ps w) : At k middle flags odds ps w.pass :=
  At.steady.pass h

theorem At.forget {qs : List (Obs → Prop)} {w : World} (h : At k middle flags odds (ps ++ qs) w) :
    At k middle flags odds ps w :=
  { h with trail := h.trail.forget }

theorem At.weaken {p q : Obs → Prop} {w : World} (h : At k middle flags odds (ps ++ [p]) w)
    (hpq : ∀ o, p o → q o) : At k middle flags odds (ps ++ [q]) w :=
  { h with trail := h.trail.weaken hpq }

theorem At.chain {w : World} (h : At k middle flags odds ps w) : Justified InChain w.history :=
  h.trail.regular.mono fun _ _ => Regular.inChain

/-- A snapshot without a failed item. -/
theorem attributed_of_row {h : List Obs} {s : CapFixtureSnapshot} (hroom : k + middle.length ≤ 8)
    (hstates : s.states = row k middle) (hmiddle : middle = [] ∨ middle = [.RUNNING]) :
    Attributed h (.snapshot s) := by
  rintro _ ⟨⟩
  refine ⟨⟨k, middle, hstates, hroom, hmiddle.imp id .inl⟩, fun i hi => ?_⟩
  rw [hstates] at hi
  rcases hmiddle with rfl | rfl
  · exact absurd (row_failed [] (Nat.zero_le 1) hi).2 (by decide)
  · exact absurd (row_failed [.RUNNING] (Nat.le_refl 1) hi).2 (by decide)

theorem At.blamed {w : World} (h : At k middle flags odds ps w) (hmiddle : middle ≠ []) :
    Blamed k w := by
  obtain rfl := h.narrow.resolve_left hmiddle
  refine ⟨h.room, h.active hmiddle, ?_, .RUNNING, h.states⟩
  rw [← mem_begun, h.trail.begun]
  exact List.mem_range.2 (Nat.lt_succ_self k)

/-- A cancellation stops the run, at a point where the flags are right. -/
theorem At.stop {w : World} (h : At k middle c c ps w) (hflag : w.cancel_requested = true) :
    StoppedAt k middle w where
  chain := h.chain
  halted := .inr ⟨h.running, hflag⟩
  level := iff_of_true (h.flags.trans h.trail.toggled.symm) (uncut_of_regular h.trail.regular)
  current := attributed_of_row h.room h.states h.narrow
  blamed := h.blamed

theorem At.weaken_before {p q r : Obs → Prop} {w : World}
    (h : At k middle flags odds (ps ++ [p] ++ [r]) w) (hpq : ∀ o, p o → q o) :
    At k middle flags odds (ps ++ [q] ++ [r]) w :=
  { h with trail := h.trail.weaken_before hpq }

/-! ## Steps that are not observed -/

theorem canceled_spec : Triple (At k middle flags odds ps) canceled
    (fun b w => At k middle flags odds ps w ∧ (b = true → w.cancel_requested = true)) E :=
  canceled_steady At.steady

theorem sleep_for_spec (milliseconds : ℕ) : Triple (At k middle flags odds ps)
    (sleep_for milliseconds) (fun _ => At k middle flags odds ps) E :=
  sleep_for_steady At.steady milliseconds

theorem members_spec : Triple (At k middle flags odds ps) members
    (fun _ => At k middle flags odds ps) E :=
  fun _ h => h

/-- An assignment may change the flags. -/
theorem assign_spec (f : CapFixtureTestModel → CapFixtureTestModel) (flags' : Channels)
    (hf : ∀ m : CapFixtureTestModel, m.channels = flags → (f m).channels = flags') :
    Triple (At k middle flags odds ps) (assign f) (fun _ => At k middle flags' odds ps) E :=
  fun _ h => { h with flags := hf _ h.flags }

theorem assign_keeps (f : CapFixtureTestModel → CapFixtureTestModel)
    (hf : ∀ m : CapFixtureTestModel, (f m).channels = m.channels) :
    Triple (At k middle flags odds ps) (assign f) (fun _ => At k middle flags odds ps) E :=
  assign_spec f flags fun m h => (hf m).trans h

/-! ## Steps that are observed -/

theorem At.plain {w : World} (h : At k middle flags odds ps w) {o : Obs} (ho : o.Plain)
    {p : Obs → Prop} (hp : p o) :
    At k middle flags odds (ps ++ [p]) { w with history := w.history ++ [o] } :=
  { h with trail := h.trail.plain ho hp }

/-- The call is made, and this is its answer. -/
def Called (c : Call) (a : Answer) (o : Obs) : Prop := o = .call c a

/-- The call is made, and it succeeds. -/
def Accepted (c : Call) (o : Obs) : Prop := ∃ a, o = .call c a ∧ a.ok = true

/-- The call is made, and it succeeds with these bytes. -/
def Answered (c : Call) (bytes : List UInt8) (o : Obs) : Prop :=
  ∃ a, o = .call c a ∧ a.ok = true ∧ a.bytes = bytes

theorem call_sees {c : Call} (hc : c.Plain) : Triple (At k middle flags odds ps) (call c)
    (fun a => At k middle flags odds (ps ++ [Called c a])) E :=
  fun _ h => h.pass.plain (o := .call c _) hc rfl

theorem call_spec {c : Call} (hc : c.Plain) : Triple (At k middle flags odds ps) (call c)
    (fun _ => At k middle flags odds ps) E :=
  (call_sees hc).post fun _ _ => At.forget

theorem note_spec {o : Obs} (ho : o.Plain) : Triple (At k middle flags odds ps) (note o)
    (fun _ => At k middle flags odds (ps ++ [Seen o])) E :=
  fun _ h => h.plain ho rfl

/-! ## Items begin, pass and fail -/

/-- A snapshot is published while the run goes on. -/
theorem At.publish {w : World} {seen : List Obs} {s : CapFixtureSnapshot}
    (hroom : k + middle.length ≤ 8) (hmiddle : middle = [] ∨ middle = [.RUNNING])
    (htrail : Trail k middle.length odds ps (w.history ++ seen)) (hstates : s.states = row k middle)
    (hrunning : s.state = .RUNNING) (hactive : middle ≠ [] → w.model.active_item = k)
    (hbegun : ¬ (k = 0 ∧ middle = []))
    (hflags : w.model.channels = flags) : At k middle flags odds ps (w.publish seen s) where
  room := hroom
  narrow := hmiddle
  trail := htrail.snapshot hrunning (attributed_of_row hroom hstates hmiddle)
  states := hstates
  running := hrunning
  active := hactive
  fresh := fun hk hmiddle => absurd ⟨hk, hmiddle⟩ hbegun
  flags := hflags

theorem begin_item_spec (hk : k < 8) (detail : String) :
    Triple (At k [] flags odds ps) (begin_item_ k detail)
      (fun _ => At k [.RUNNING] flags odds (ps ++ [Seen (.begin_item k)])) E := by
  intro w h
  have hstates : (w.pass.model.snapshot.set_item k .RUNNING detail).states = row k [.RUNNING] := by
    rw [states_set_item, w.pass_model, h.states]
    exact row_set hk [] (Nat.zero_le 1) .RUNNING
  exact At.publish hk (.inr rfl) h.pass.trail.begin_item hstates h.pass.running (fun _ => rfl)
    (fun hnone => List.cons_ne_nil _ _ hnone.2) h.pass.flags

theorem pass_item_spec (detail : String) :
    Triple (At k [.RUNNING] flags odds ps) (pass_item_ k detail)
      (fun _ => At (k + 1) [] flags odds (ps ++ [Seen (.pass_item k)])) E := by
  intro w h
  have hstates : (w.pass.model.snapshot.set_item k .PASSED detail).states = row (k + 1) [] := by
    rw [states_set_item, w.pass_model, h.states, ← row_passed]
    exact row_set h.room [.RUNNING] (Nat.le_refl 1) .PASSED
  exact At.publish h.room (.inl rfl) h.pass.trail.pass_item hstates h.pass.running
    (fun h => absurd rfl h) (fun hnone => Nat.succ_ne_zero k hnone.1) h.pass.flags

/-- A failure marks the item that is to blame. -/
theorem fail_stops (α : Type) {w : World} (hchain : Justified InChain w.history)
    (hlevel : w.model.channels = toggled w.history ↔ Uncut w.history) (hblamed : Blamed k w)
    (stage message : String) :
    StoppedAt k [.RUNNING] (fail_ stage message w : Option α × World).2 := by
  have hstates : (w.pass.model.snapshot.set_item w.pass.model.active_item .FAILED message).states =
      row k [.FAILED] := by
    obtain ⟨state, hstate⟩ := hblamed.states
    rw [states_set_item, w.pass_model, hblamed.active, hstate]
    exact row_set hblamed.room [state] (Nat.le_refl 1) .FAILED
  have hbegun : .begin_item k ∈ w.pass.history ++ [.fail stage message] :=
    List.mem_append_left _ (w.pass_history ▸ hblamed.begun)
  have hcurrent : Attributed (w.pass.history ++ [.fail stage message])
      (.snapshot (fail_ stage message w : Option α × World).2.model.snapshot) := by
    rintro _ ⟨⟩
    refine ⟨⟨k, [.FAILED], hstates, hblamed.room, .inr (.inr rfl)⟩, fun i hi => ?_⟩
    obtain ⟨rfl, -⟩ := row_failed [.FAILED] (Nat.le_refl 1) (hstates ▸ hi)
    exact hbegun
  refine ⟨⟨?_, .inl rfl, ?_, hcurrent.grow _⟩, fun _ => ⟨hblamed.room, ?_, ?_, .FAILED, hstates⟩⟩
  · have hpass : Justified InChain w.pass.history := w.pass_history ▸ hchain
    exact justified_concat.2 ⟨justified_concat.2 ⟨hpass, trivial⟩, CapFixtureRunState.noConfusion,
      hcurrent⟩
  · have hchannels : (fail_ stage message w : Option α × World).2.model.channels =
        w.model.channels := by
      show w.pass.model.channels = w.model.channels
      rw [w.pass_model]
    have htoggled : toggled (fail_ stage message w : Option α × World).2.history =
        toggled w.history :=
      (toggled_concat _ rfl rfl).trans ((toggled_concat _ rfl rfl).trans
        (congrArg toggled w.pass_history))
    have huncut : Uncut (fail_ stage message w : Option α × World).2.history ↔ Uncut w.history :=
      (uncut_concat _ fun _ => Obs.noConfusion).trans ((uncut_concat _ fun _ =>
        Obs.noConfusion).trans (iff_of_eq (congrArg Uncut w.pass_history)))
    rw [hchannels, htoggled, huncut]
    exact hlevel
  · exact (congrArg _ w.pass_model).trans hblamed.active
  · exact List.mem_append_left _ hbegun

theorem fail_spec {α : Type} {Q : α → World → Prop} (stage message : String) :
    Triple (At k [.RUNNING] c c ps) (fail_ stage message) Q (StoppedAt k [.RUNNING]) := by
  intro w h
  have hlevel := iff_of_true (h.flags.trans h.trail.toggled.symm)
    (uncut_of_regular h.trail.regular)
  exact fail_stops α h.chain hlevel (h.blamed (List.cons_ne_nil _ _)) stage message

/-- A helper has failed already. -/
theorem fail_again {α : Type} {Q : α → World → Prop} (stage message : String) :
    Triple (StoppedAt k [.RUNNING]) (fail_ stage message) Q (StoppedAt k [.RUNNING]) :=
  fun _ h => fail_stops α h.chain h.level (h.blamed (List.cons_ne_nil _ _)) stage message

/-- A helper may have failed already. -/
theorem fail_either {α : Type} {Q : α → World → Prop} (c : Channels) (ps : List (Obs → Prop))
    (stage message : String) :
    Triple (fun w => StoppedAt k [.RUNNING] w ∨ At k [.RUNNING] c c ps w) (fail_ stage message) Q
      (StoppedAt k [.RUNNING]) :=
  (fail_again stage message).or (fail_spec stage message)

theorem Stopped.pass {w : World} (h : Stopped w) : Stopped w.pass where
  chain := w.pass_history ▸ h.chain
  halted := by
    rw [w.pass_model]
    exact h.halted.imp id fun hrunning => ⟨hrunning.1, World.pass_flag hrunning.2⟩
  level := by
    rw [w.pass_model, w.pass_history]
    exact h.level
  current := by
    rw [w.pass_model, w.pass_history]
    exact h.current

/-- The run still calls services after it has failed. -/
theorem call_stopped {c' : Call} (hc : c'.Plain) : Triple (StoppedAt k middle) (call c')
    (fun _ => StoppedAt k middle) E := by
  intro w h
  have htoggled (a : Answer) : toggled (w.pass.history ++ [.call c' a]) = toggled w.pass.history :=
    toggled_concat _ (hc.toggles a (.inl rfl)) (hc.toggles a (.inr rfl))
  have huncut (a : Answer) : Uncut (w.pass.history ++ [.call c' a]) ↔ Uncut w.pass.history :=
    uncut_concat _ fun _ => Obs.noConfusion
  have hpass := h.toStopped.pass
  refine ⟨⟨justified_concat.2 ⟨hpass.chain, trivial⟩, hpass.halted, ?_,
    hpass.current.grow _⟩, fun hmiddle => ?_⟩
  · rw [htoggled, huncut]
    exact hpass.level
  · have hblamed := h.blamed hmiddle
    refine ⟨hblamed.room, ?_, ?_, ?_⟩
    · exact (congrArg CapFixtureTestModel.active_item w.pass_model).trans hblamed.active
    · exact List.mem_append_left _ (w.pass_history ▸ hblamed.begun)
    · exact w.pass_model ▸ hblamed.states

theorem assign_stopped (f : CapFixtureTestModel → CapFixtureTestModel)
    (hf : ∀ m : CapFixtureTestModel, (f m).channels = m.channels) :
    Triple (StoppedAt k middle) (assign f) (fun _ => StoppedAt k middle) E := by
  intro w h
  have hlevel := h.level
  rw [← hf] at hlevel
  exact ⟨⟨h.chain, h.halted, hlevel, h.current⟩, fun hmiddle => { h.blamed hmiddle with }⟩

/-! ## Checks -/

theorem check_spec (b : Bool) (stage message : String) :
    Triple (At k [.RUNNING] c c ps) (check b stage message)
      (fun _ w => b = true ∧ At k [.RUNNING] c c ps w) (StoppedAt k [.RUNNING]) := by
  cases b with
  | true => exact triple_pure fun _ h => ⟨rfl, h⟩
  | false => exact fail_spec stage message

theorem check_keeps (b : Bool) (stage message : String) :
    Triple (At k [.RUNNING] c c ps) (check b stage message)
      (fun _ => At k [.RUNNING] c c ps) (StoppedAt k [.RUNNING]) :=
  (check_spec b stage message).post fun _ _ h => h.2

/-- A call that has to succeed. -/
theorem check_accepts {c' : Call} (a : Answer) (stage message : String) :
    Triple (At k [.RUNNING] c c (ps ++ [Called c' a])) (check a.ok stage message)
      (fun _ => At k [.RUNNING] c c (ps ++ [Accepted c'])) (StoppedAt k [.RUNNING]) :=
  (check_spec a.ok stage message).post fun _ _ h => h.2.weaken fun _ ho => ⟨a, ho, h.1⟩

/-- The run stops if it is canceled. -/
theorem proceed_spec (canceled : Bool) :
    Triple (fun w => At k middle c c ps w ∧ (canceled = true → w.cancel_requested = true))
      (proceed !canceled) (fun _ => At k middle c c ps) (StoppedAt k middle) := by
  cases canceled with
  | true => exact fun w h => h.1.stop (h.2 rfl)
  | false => exact fun w h => h.1

/-! ## Waiting -/

theorem until_deadline_spec {α β : Type} {Q : α → World → Prop} (milliseconds : ℕ)
    {body : β → Run (β ⊕ α)}
    (hbody : ∀ b, Triple (At k middle flags odds ps) (body b)
      (fun r => r.elim (fun _ => At k middle flags odds ps) Q) E) (b : β) :
    Triple (At k middle flags odds ps) (until_deadline milliseconds body b)
      (fun r => r.elim (fun _ => At k middle flags odds ps) Q) E :=
  until_deadline_steady At.steady milliseconds hbody b

/-- A delay, if the run may stop at this point. -/
theorem delay_spec_of (milliseconds : ℕ) {reason : String}
    (hstop : ∀ w, At k middle flags odds ps w → w.cancel_requested = true →
      E { w with history := w.history ++ [.delay reason false] }) :
    Triple (At k middle flags odds ps) (delay_ milliseconds reason)
      (fun _ => At k middle flags odds ps) E :=
  delay_steady At.steady milliseconds
    (fun _ h => (h.plain (o := .delay reason true) (.inl rfl) rfl).forget) hstop

/-- An interrupted delay changes nothing. -/
theorem delay_keeps (milliseconds : ℕ) {reason : String} (hreason : reason ∉ restore_delays) :
    Triple (At k middle flags odds ps) (delay_ milliseconds reason)
      (fun _ => At k middle flags odds ps)
      fun w => At k middle flags odds ps w ∧ w.cancel_requested = true :=
  delay_spec_of milliseconds fun _ h hflag =>
    ⟨(h.plain (o := .delay reason false) (.inr hreason) rfl).forget, hflag⟩

theorem delay_spec (milliseconds : ℕ) {reason : String} (hreason : reason ∉ restore_delays) :
    Triple (At k middle c c ps) (delay_ milliseconds reason) (fun _ => At k middle c c ps)
      (StoppedAt k middle) :=
  (delay_keeps milliseconds hreason).escape fun _ h => h.1.stop h.2

/-- A delay between the second toggle of a channel and the assignment of its flag. -/
theorem restore_delay_spec (milliseconds : ℕ) {reason : String} (hreason : reason ∈ restore_delays)
    (hflags : flags ≠ odds) :
    Triple (At k middle flags odds ps) (delay_ milliseconds reason)
      (fun _ => At k middle flags odds ps) (StoppedAt k middle) := by
  refine delay_spec_of milliseconds fun w h hflag =>
    ⟨⟨?_, .inr ⟨h.running, hflag⟩, ?_, attributed_of_row h.room h.states h.narrow⟩, ?_⟩
  · exact justified_concat.2 ⟨h.chain, trivial⟩
  · refine iff_of_false ?_ fun huncut => huncut reason hreason ?_
    · rw [h.flags, toggled_concat _ rfl rfl, h.trail.toggled]
      exact hflags
    · exact List.mem_append_right _ (List.mem_singleton.2 rfl)
  · exact fun hmiddle => { h.blamed hmiddle with
      begun := List.mem_append_left _ (h.blamed hmiddle).begun }

/-! ## Registers -/

theorem write_reg_sees (stage : String) {reg : UInt8} {data : List UInt8}
    (hplain : (Call.write_register reg data).Plain) :
    Triple (At k [.RUNNING] c c ps) (write_reg_ stage reg data)
      (fun _ => At k [.RUNNING] c c (ps ++ [Accepted (.write_register reg data)]))
      (StoppedAt k [.RUNNING]) := by
  refine canceled_spec.bind fun canceled => ?_
  refine (proceed_spec canceled).bind fun _ => ?_
  refine (call_sees hplain).bind fun written => ?_
  exact check_accepts written stage _

theorem write_reg_spec (stage : String) {reg : UInt8} {data : List UInt8}
    (hplain : (Call.write_register reg data).Plain) :
    Triple (At k [.RUNNING] c c ps) (write_reg_ stage reg data)
      (fun _ => At k [.RUNNING] c c ps) (StoppedAt k [.RUNNING]) :=
  (write_reg_sees stage hplain).post fun _ _ => At.forget

theorem read_reg_sees (stage : String) (reg : UInt8) (size : ℕ) :
    Triple (At k [.RUNNING] c c ps) (read_reg_ stage reg size)
      (fun bytes => At k [.RUNNING] c c (ps ++ [Answered (.read_register reg size) bytes]))
      (StoppedAt k [.RUNNING]) := by
  refine canceled_spec.bind fun canceled => ?_
  refine (proceed_spec canceled).bind fun _ => ?_
  have hplain : (Call.read_register reg size).Plain := ⟨Call.noConfusion, Call.noConfusion⟩
  refine (call_sees hplain).bind fun read => ?_
  refine (check_spec read.ok stage _).bind fun _ => ?_
  exact triple_pure fun _ h => h.2.weaken fun _ ho => ⟨read, ho, h.1, rfl⟩

theorem read_reg_spec (stage : String) (reg : UInt8) (size : ℕ) :
    Triple (At k [.RUNNING] c c ps) (read_reg_ stage reg size)
      (fun _ => At k [.RUNNING] c c ps) (StoppedAt k [.RUNNING]) :=
  (read_reg_sees stage reg size).post fun _ _ => At.forget

/-- A toggle command flips its channel if it is accepted. -/
theorem toggle_spec (stage : String) {command : UInt8}
    (hcommand : command = 0x08 ∨ command = 0x09) :
    Triple (At k [.RUNNING] c c ps) (write_reg_ stage 0x01 [command])
      (fun _ => At k [.RUNNING] c (c.flip command) ps) (StoppedAt k [.RUNNING]) := by
  refine canceled_spec.bind fun canceled => ?_
  refine (proceed_spec canceled).bind fun _ => ?_
  refine Triple.bind (Q := fun a => At k [.RUNNING] c (if a.ok then c.flip command else c) ps)
    (fun w h => ?_) fun written => ?_
  · have hpoint := h.pass
    have hodds := toggled_toggle w.pass.history hcommand
      ((w.pass.surroundings.answer w.pass.moment (.write_register 0x01 [command])).fit
        (.write_register 0x01 [command]))
    rw [hpoint.trail.toggled] at hodds
    have htrail := hpoint.trail.concat (o := .call (.write_register 0x01 [command]) _) rfl rfl
      trivial hodds (p := fun _ => True) trivial
    exact { hpoint with trail := htrail.forget }
  · cases hok : written.ok with
    | true => exact triple_pure fun _ h => h
    | false => exact fail_spec stage _

/-! ## Shared helpers -/

theorem select_host_pin_function_spec (usb_enabled : Bool) :
    Triple (At k middle flags odds ps) (select_host_pin_function_ usb_enabled)
      (fun _ => At k middle flags odds ps) E := by
  refine members_spec.bind fun m => ?_
  refine triple_ite (fun _ => triple_pure fun _ h => h) fun _ => ?_
  refine (call_spec ?_).bind fun selected => ?_
  · cases usb_enabled with
    | true => exact ⟨Call.noConfusion, Call.noConfusion⟩
    | false => exact ⟨Call.noConfusion, Call.noConfusion⟩
  · refine triple_ite (fun _ => ?_) fun _ => triple_pure fun _ h => h
    refine (assign_keeps _ ?_).bind fun _ => ?_
    · exact fun _ => rfl
    · exact triple_pure fun _ h => h

/-- The lines are driven high. -/
theorem set_outputs_spec (stage message : String) :
    Triple (At k [.RUNNING] c c ps) (do
        let high ← call (.set_gpio_test_outputs true)
        check high.ok stage (message ++ high.error))
      (fun _ => At k [.RUNNING] c c ps) (StoppedAt k [.RUNNING]) := by
  refine (call_spec ⟨Call.noConfusion, Call.noConfusion⟩).bind fun high => ?_
  exact check_keeps high.ok stage _

theorem hold_gpio_outputs_high_spec (stage : String) (milliseconds : ℕ) :
    Triple (At k [.RUNNING] c c ps) (hold_gpio_outputs_high_ stage milliseconds)
      (fun _ => At k [.RUNNING] c c ps) (StoppedAt k [.RUNNING]) := by
  refine Triple.bind (Q := fun r => r.elim (fun _ => At k [.RUNNING] c c ps)
      fun _ w => At k [.RUNNING] c c ps w ∧ w.cancel_requested = true)
    (until_deadline_spec milliseconds (fun _ => ?_) ()) fun r => ?_
  · refine canceled_spec.bind fun canceled => ?_
    cases canceled with
    | true => exact triple_pure fun _ h => ⟨h.1, h.2 rfl⟩
    | false =>
      refine ((call_spec ⟨Call.noConfusion, Call.noConfusion⟩).pre fun _ h => h.1).bind
        fun high => ?_
      refine (check_keeps high.ok stage _).bind fun _ => ?_
      refine (sleep_for_spec 10).bind fun _ => ?_
      exact triple_pure fun _ h => h
  · cases r with
    | inl _ => exact set_outputs_spec stage _
    | inr _ => exact fun w h => h.1.stop h.2

end FactoryTest.Fixture
