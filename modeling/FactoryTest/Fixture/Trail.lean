import FactoryTest.Fixture.Run
import FactoryTest.Lib.History
import Mathlib.Data.List.Range
import Mathlib.Algebra.Order.Ring.Nat

/-!
# The trail of a run

What the history and the model say at a point of the item chain (`At`): how far it is, that every
snapshot so far was right, which channels are toggled, and what was observed on the way. Where
`run_` leaves the chain it has failed or was canceled (`Stopped`). For every step of the worker
there is a rule that takes one point to the next.
-/

namespace FactoryTest.Fixture

open Program

/-! ## Snapshots -/

/-- The states of the items in order. -/
def CapFixtureSnapshot.states (s : CapFixtureSnapshot) : List CapFixtureItemState :=
  s.items.map (·.state)

/-- The first `k` items are passed, some are in the middle, and the others are pending. -/
def row (k : ℕ) (middle : List CapFixtureItemState) : List CapFixtureItemState :=
  List.replicate k .PASSED ++ middle ++ List.replicate (8 - k - middle.length) .PENDING

/-- Passed items, then at most one that is running or failed, then pending ones. -/
def CapFixtureSnapshot.Shaped (s : CapFixtureSnapshot) : Prop :=
  ∃ k middle, s.states = row k middle ∧ k + middle.length ≤ 8 ∧
    (middle = [] ∨ middle = [.RUNNING] ∨ middle = [.FAILED])

/-- A snapshot has the right shape, and items that it shows as failed began before. -/
def Attributed (before : List Obs) (o : Obs) : Prop :=
  ∀ s, o = .snapshot s → s.Shaped ∧ ∀ i, s.states[i]? = some .FAILED → .begin_item i ∈ before

theorem Attributed.grow {before : List Obs} {o : Obs} (ho : Attributed before o) (os : List Obs) :
    Attributed (before ++ os) o :=
  fun s hs => ⟨(ho s hs).1, fun i hi => List.mem_append_left os ((ho s hs).2 i hi)⟩

theorem states_set_item (s : CapFixtureSnapshot) (index : ℕ) (state : CapFixtureItemState)
    (detail : String) : (s.set_item index state detail).states = s.states.set index state := by
  apply List.ext_getElem?
  intro i
  simp only [CapFixtureSnapshot.states, CapFixtureSnapshot.set_item, List.getElem?_map,
    List.getElem?_modify, List.getElem?_set]
  by_cases hi : index = i
  · cases h : s.items[i]? with
    | none => simp_all
    | some item =>
      have hlt : i < s.items.length := (List.getElem?_eq_some_iff.1 h).1
      simp_all
  · simp [hi]

/-- The item after the passed ones gets a new state. -/
theorem row_set {k : ℕ} (hk : k < 8) (middle : List CapFixtureItemState) (hlen : middle.length ≤ 1)
    (state : CapFixtureItemState) : (row k middle).set k state = row k [state] := by
  have hleft : (List.replicate k CapFixtureItemState.PASSED).length = k := List.length_replicate
  unfold row
  rw [List.append_assoc, List.append_assoc, List.set_append_right _ _ (by omega), hleft,
    Nat.sub_self]
  congr 1
  match middle, hlen with
  | [], _ =>
    obtain ⟨n, hn⟩ : ∃ n, 8 - k = n + 1 := ⟨7 - k, by omega⟩
    simp [hn, List.replicate_succ]
  | [_], _ => rfl

theorem row_passed {k : ℕ} : row k [.PASSED] = row (k + 1) [] := by
  unfold row
  rw [List.replicate_succ', List.append_nil, List.length_singleton, List.length_nil, Nat.sub_sub,
    Nat.sub_zero]

/-- Only an item in the middle can be failed. -/
theorem row_failed {k i : ℕ} (middle : List CapFixtureItemState) (hlen : middle.length ≤ 1)
    (hi : (row k middle)[i]? = some .FAILED) : i = k ∧ middle = [.FAILED] := by
  unfold row at hi
  rw [List.append_assoc, List.getElem?_append, List.length_replicate] at hi
  by_cases hik : i < k
  · rw [if_pos hik, List.getElem?_replicate_of_lt hik] at hi
    exact absurd hi (by decide)
  · rw [if_neg hik, List.getElem?_append] at hi
    by_cases him : i - k < middle.length
    · rw [if_pos him] at hi
      obtain ⟨state, rfl⟩ := List.length_eq_one_iff.1 (by omega : middle.length = 1)
      have hzero : i - k = 0 := by simpa using him
      rw [hzero, List.getElem?_cons_zero] at hi
      exact ⟨by omega, congrArg (fun state => [state]) (Option.some.inj hi)⟩
    · rw [if_neg him] at hi
      have hpending := List.eq_of_mem_replicate (List.mem_of_getElem? hi)
      exact absurd hpending (by decide)

/-! ## Items in the history -/

/-- The item that begins. -/
def Obs.begun : Obs → Option ℕ
  | .begin_item index => some index
  | _ => none

/-- The item that is passed. -/
def Obs.passed : Obs → Option ℕ
  | .pass_item index => some index
  | _ => none

theorem mem_begun {h : List Obs} {i : ℕ} : i ∈ h.filterMap Obs.begun ↔ .begin_item i ∈ h := by
  rw [List.mem_filterMap]
  constructor
  · rintro ⟨o, ho, hi⟩
    cases o <;> simp_all [Obs.begun]
  · exact fun hi => ⟨_, hi, rfl⟩

/-! ## Channels -/

/-- For each of the two channels a truth value. -/
structure Channels where
  i2c : Bool
  uart : Bool
  deriving DecidableEq

/-- The command is written to register 0x01, and this is accepted. -/
def Obs.toggles (command : UInt8) : Obs → Bool
  | .call (.write_register reg data) a => a.ok && reg = 0x01 && data = [command]
  | _ => false

/-- How often a toggle command was accepted. -/
def toggles (command : UInt8) (h : List Obs) : ℕ := h.countP (Obs.toggles command)

/-- The channels that were toggled an odd number of times. -/
def toggled (h : List Obs) : Channels := ⟨toggles 0x08 h % 2 == 1, toggles 0x09 h % 2 == 1⟩

/-- The channels that the model takes to be on Grove. -/
def CapFixtureTestModel.channels (m : CapFixtureTestModel) : Channels :=
  ⟨m.cap_grove_i2c_active, m.cap_grove_uart_active⟩

/-- The delays between the second toggle of a channel and the assignment of its flag. -/
def restore_delays : List String :=
  ["CAP HAT I2C channel reinitialization", "HAT I2C host bus settle (fixed; no status polling)",
    "CAP HAT UART channel reinitialization", "HAT UART host bus settle (fixed; no status polling)"]

/-- None of these delays was interrupted. -/
def Uncut (h : List Obs) : Prop := ∀ reason ∈ restore_delays, .delay reason false ∉ h

/-- The call does not toggle a channel. -/
def Call.Plain (c : Call) : Prop :=
  c ≠ .write_register 0x01 [0x08] ∧ c ≠ .write_register 0x01 [0x09]

instance (c : Call) : Decidable c.Plain := by unfold Call.Plain; infer_instance

theorem Call.Plain.toggles {c : Call} (hc : c.Plain) (a : Answer) {command : UInt8}
    (hcommand : command = 0x08 ∨ command = 0x09) : (Obs.call c a).toggles command = false := by
  unfold Obs.toggles
  split
  · rename_i heq
    obtain ⟨rfl, rfl⟩ := Obs.call.inj heq
    by_contra hne
    simp only [Bool.not_eq_false, Bool.and_eq_true, decide_eq_true_eq] at hne
    obtain ⟨⟨-, rfl⟩, rfl⟩ := hne
    rcases hcommand with rfl | rfl
    · exact hc.1 rfl
    · exact hc.2 rfl
  · rfl

theorem toggles_concat (command : UInt8) (h : List Obs) (o : Obs) :
    toggles command (h ++ [o]) = toggles command h + if o.toggles command then 1 else 0 := by
  rw [toggles, List.countP_append, List.countP_singleton]
  rfl

theorem toggled_concat (h : List Obs) {o : Obs} (h8 : o.toggles 0x08 = false)
    (h9 : o.toggles 0x09 = false) : toggled (h ++ [o]) = toggled h := by
  simp [toggled, toggles_concat, h8, h9]

/-! ## The trail -/

/-- Exactly this is observed. -/
def Seen (o o' : Obs) : Prop := o' = o

/-- What is observed as long as the run neither fails nor stops where it must not. -/
def Regular (before : List Obs) : Obs → Prop
  | .snapshot s => s.state = .RUNNING ∧ Attributed before (.snapshot s)
  | .delay reason completed => completed = true ∨ reason ∉ restore_delays
  | .fail _ _ => False
  | .verdict _ => False
  | _ => True

/-- What is observed before the run looks at the flag for the last time. -/
def InChain (before : List Obs) : Obs → Prop
  | .snapshot s => s.state ≠ .PASSED ∧ Attributed before (.snapshot s)
  | .verdict _ => False
  | _ => True

theorem Regular.inChain {before : List Obs} {o : Obs} (ho : Regular before o) :
    InChain before o := by
  cases o with
  | snapshot s =>
    refine ⟨?_, ho.2⟩
    rw [ho.1]
    exact CapFixtureRunState.noConfusion
  | verdict _ => exact ho
  | _ => trivial

theorem InChain.attributed {before : List Obs} {o : Obs} (ho : InChain before o) :
    Attributed before o := by
  rintro s rfl
  exact ho.2 s rfl

/-- One of the channels is toggled. -/
def Channels.flip (c : Channels) (command : UInt8) : Channels :=
  if command = 0x08 then { c with i2c := !c.i2c } else { c with uart := !c.uart }

/-- A toggle command counts if it is accepted. -/
theorem toggled_toggle (h : List Obs) {command : UInt8} (hcommand : command = 0x08 ∨ command = 0x09)
    (a : Answer) : toggled (h ++ [.call (.write_register 0x01 [command]) a]) =
      if a.ok then (toggled h).flip command else toggled h := by
  have hparity (n : ℕ) : ((n + 1) % 2 == 1) = !(n % 2 == 1) := by
    rcases Nat.mod_two_eq_zero_or_one n with hn | hn <;> simp [Nat.add_mod, hn]
  rcases hcommand with rfl | rfl <;> cases hok : a.ok <;>
    simp [toggled, toggles_concat, Obs.toggles, Channels.flip, hok, hparity]

theorem uncut_concat (h : List Obs) {o : Obs} (ho : ∀ reason, o ≠ .delay reason false) :
    Uncut (h ++ [o]) ↔ Uncut h := by
  constructor
  · exact fun huncut reason hreason hmem => huncut reason hreason (List.mem_append_left _ hmem)
  · intro huncut reason hreason hmem
    rcases List.mem_append.1 hmem with hmem | hmem
    · exact huncut reason hreason hmem
    · exact ho reason (List.mem_singleton.1 hmem).symm

theorem uncut_of_regular {h : List Obs} (hh : Justified Regular h) : Uncut h := by
  intro reason hreason hmem
  obtain ⟨before, hor⟩ := hh.of_mem hmem
  rcases hor with hor | hor
  · exact Bool.noConfusion hor
  · exact hor hreason

/-- What the history says where `k` items are passed and `n` more have begun, the channels in
`odds` are toggled, and what `ps` says was observed. -/
structure Trail (k n : ℕ) (odds : Channels) (ps : List (Obs → Prop)) (h : List Obs) : Prop where
  begun : h.filterMap Obs.begun = List.range (k + n)
  passed : h.filterMap Obs.passed = List.range k
  regular : Justified Regular h
  toggled : toggled h = odds
  evidence : InOrder ps h

/-- An observation that has no part in how the items and the channels stand. -/
def Obs.Plain : Obs → Prop
  | .call c _ => c.Plain
  | .frame _ => True
  | .delay reason completed => completed = true ∨ reason ∉ restore_delays
  | _ => False

namespace Trail

variable {k n : ℕ} {odds : Channels} {ps : List (Obs → Prop)} {h : List Obs}

/-- Something is observed that does not concern the items. -/
theorem concat (ht : Trail k n odds ps h) {o : Obs} (hbegun : o.begun = none)
    (hpassed : o.passed = none) (hregular : Regular h o) {odds' : Channels}
    (hodds : FactoryTest.Fixture.toggled (h ++ [o]) = odds') {p : Obs → Prop} (hp : p o) :
    Trail k n odds' (ps ++ [p]) (h ++ [o]) where
  begun := by
    rw [List.filterMap_append, ht.begun, List.filterMap_cons_none hbegun]
    exact List.append_nil _
  passed := by
    rw [List.filterMap_append, ht.passed, List.filterMap_cons_none hpassed]
    exact List.append_nil _
  regular := justified_concat.2 ⟨ht.regular, hregular⟩
  toggled := hodds
  evidence := ht.evidence.concat hp

theorem plain (ht : Trail k n odds ps h) {o : Obs} (ho : o.Plain) {p : Obs → Prop} (hp : p o) :
    Trail k n odds (ps ++ [p]) (h ++ [o]) := by
  cases o with
  | call c a =>
    have h8 := Call.Plain.toggles ho a (.inl rfl)
    have h9 := Call.Plain.toggles ho a (.inr rfl)
    exact ht.concat (o := .call c a) rfl rfl trivial ((toggled_concat h h8 h9).trans ht.toggled) hp
  | frame bytes =>
    exact ht.concat (o := .frame bytes) rfl rfl trivial
      ((toggled_concat h rfl rfl).trans ht.toggled) hp
  | delay reason completed =>
    exact ht.concat (o := .delay reason completed) rfl rfl ho
      ((toggled_concat h rfl rfl).trans ht.toggled) hp
  | _ => exact False.elim ho

theorem snapshot (ht : Trail k n odds ps h) {s : CapFixtureSnapshot} (hs : s.state = .RUNNING)
    (hattributed : Attributed h (.snapshot s)) : Trail k n odds ps (h ++ [.snapshot s]) where
  begun := by
    rw [List.filterMap_append, ht.begun]
    exact List.append_nil _
  passed := by
    rw [List.filterMap_append, ht.passed]
    exact List.append_nil _
  regular := justified_concat.2 ⟨ht.regular, hs, hattributed⟩
  toggled := (toggled_concat h rfl rfl).trans ht.toggled
  evidence := ht.evidence.grow _

theorem begin_item (ht : Trail k 0 odds ps h) :
    Trail k 1 odds (ps ++ [Seen (.begin_item k)]) (h ++ [.begin_item k]) where
  begun := by
    rw [List.filterMap_append, ht.begun, List.range_succ]
    rfl
  passed := by
    rw [List.filterMap_append, ht.passed]
    exact List.append_nil _
  regular := justified_concat.2 ⟨ht.regular, trivial⟩
  toggled := (toggled_concat h rfl rfl).trans ht.toggled
  evidence := ht.evidence.concat rfl

theorem pass_item (ht : Trail k 1 odds ps h) :
    Trail (k + 1) 0 odds (ps ++ [Seen (.pass_item k)]) (h ++ [.pass_item k]) where
  begun := by
    rw [List.filterMap_append, ht.begun]
    exact List.append_nil _
  passed := by
    rw [List.filterMap_append, ht.passed, List.range_succ]
    rfl
  regular := justified_concat.2 ⟨ht.regular, trivial⟩
  toggled := (toggled_concat h rfl rfl).trans ht.toggled
  evidence := ht.evidence.concat rfl

theorem forget {qs : List (Obs → Prop)} (ht : Trail k n odds (ps ++ qs) h) : Trail k n odds ps h :=
  { ht with evidence := ht.evidence.forget }

theorem weaken {p q : Obs → Prop} (ht : Trail k n odds (ps ++ [p]) h) (hpq : ∀ o, p o → q o) :
    Trail k n odds (ps ++ [q]) h :=
  { ht with evidence := ht.evidence.weaken hpq }

theorem weaken_before {p q r : Obs → Prop} (ht : Trail k n odds (ps ++ [p] ++ [r]) h)
    (hpq : ∀ o, p o → q o) : Trail k n odds (ps ++ [q] ++ [r]) h := by
  obtain ⟨before, after, heq, hbefore, hafter⟩ := inOrder_append.1 ht.evidence
  exact { ht with evidence := inOrder_append.2 ⟨before, after, heq, hbefore.weaken hpq, hafter⟩ }

end Trail

/-! ## Points of the chain -/

/-- A point of the item chain. -/
structure At (k : ℕ) (middle : List CapFixtureItemState) (flags odds : Channels)
    (ps : List (Obs → Prop)) (w : World) : Prop where
  room : k + middle.length ≤ 8
  narrow : middle = [] ∨ middle = [.RUNNING]
  trail : Trail k middle.length odds ps w.history
  states : w.model.snapshot.states = row k middle
  running : w.model.snapshot.state = .RUNNING
  active : middle ≠ [] → w.model.active_item = k
  fresh : k = 0 → middle = [] → w.model.active_item = K_USB_ITEM
  flags : w.model.channels = flags

/-- The run has left the chain before its end. -/
structure Stopped (w : World) : Prop where
  chain : Justified InChain w.history
  halted : w.model.snapshot.state = .FAILED ∨
    w.model.snapshot.state = .RUNNING ∧ w.cancel_requested = true
  level : w.model.channels = toggled w.history ↔ Uncut w.history
  /-- The snapshot could be published again. -/
  current : Attributed w.history (.snapshot w.model.snapshot)

/-- Item `k` is the one to blame. -/
structure Blamed (k : ℕ) (w : World) : Prop where
  room : k < 8
  active : w.model.active_item = k
  begun : .begin_item k ∈ w.history
  states : ∃ state, w.model.snapshot.states = row k [state]

/-- The run has left the chain from here; a failure is blamed on the item in the middle. -/
structure StoppedAt (k : ℕ) (middle : List CapFixtureItemState) (w : World) : Prop
    extends Stopped w where
  blamed : middle ≠ [] → Blamed k w

end FactoryTest.Fixture
