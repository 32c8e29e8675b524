import FactoryTest.Lib.History
import FactoryTest.Lib.Monitor
import FactoryTest.Lib.Run
import Mathlib.Algebra.Group.Nat.Defs
import Mathlib.Data.Int.Notation

/-!
# Registers of the IO expander

`read_cached_ioe1_register` of `src/platform/device_info_service.cpp`, and the firmware version that
is made from two registers.

**Calls.** Every caller reads the clock before it waits for the lock of the cache, so the times of
the calls are in any order. A call shows whether the register was accessed, and what it returned.

**Theorem (`calls_justified`).** An access that was not forced comes a minute or more after the last
one; one at the epoch of the clock counts as none. What is returned is the last reading that
succeeded, unless a forced one has failed since, and it is reported as changed exactly if it was
just read and is not what was known before.
-/

namespace FactoryTest.DeviceInfo

/-- `Ioe1RegisterCache`; no attempt is the epoch of the clock. -/
structure Ioe1RegisterCache where
  value : Option UInt8 := none
  last_attempt : ℕ := 0
  deriving DecidableEq

/-- In nanoseconds. -/
def K_IOE1_REFRESH_INTERVAL : ℕ := 60 * 10 ^ 9

/-- A call, with the time and what the device would answer. -/
structure Read where
  now : ℕ
  force_refresh : Bool := false
  answer : Option UInt8
  deriving DecidableEq

/-- What a call shows: the access with its answer, what it returns and whether that is new. -/
structure Call where
  now : ℕ
  force_refresh : Bool
  access : Option (Option UInt8)
  value : Option UInt8
  value_changed : Bool
  deriving DecidableEq

/-- Whether the cache answers. -/
def Ioe1RegisterCache.fresh (cache : Ioe1RegisterCache) (read : Read) : Bool :=
  !read.force_refresh ∧ cache.last_attempt ≠ 0 ∧
    (read.now : ℤ) - cache.last_attempt < K_IOE1_REFRESH_INTERVAL

/-- `read_cached_ioe1_register`. -/
def read_cached_ioe1_register (cache : Ioe1RegisterCache) (read : Read) :
    Ioe1RegisterCache × Call :=
  if cache.fresh read then (cache, ⟨read.now, read.force_refresh, none, cache.value, false⟩)
  else
    let cache := { cache with last_attempt := read.now }
    match read.answer with
    | some refreshed_value =>
      ({ cache with value := some refreshed_value },
        ⟨read.now, read.force_refresh, some (some refreshed_value), some refreshed_value,
          decide (cache.value ≠ some refreshed_value)⟩)
    | none =>
      if read.force_refresh then
        ({ cache with value := none }, ⟨read.now, read.force_refresh, some none, none, false⟩)
      else (cache, ⟨read.now, read.force_refresh, some none, cache.value, false⟩)

/-- The calls of a program, in the order in which they hold the lock. -/
def registers : Machine Ioe1RegisterCache Read Call where
  step cache read :=
    let (cache, call) := read_cached_ioe1_register cache read
    (cache, [call])

/-! ## What the calls tell -/

/-- The last access. -/
def last_access (calls : List Call) : Option Call :=
  calls.reverse.find? (·.access.isSome)

/-- The call read this value. -/
def Call.Reads (value : UInt8) (call : Call) : Prop := call.access = some (some value)

/-- The call leaves another value behind than it found, or none. -/
def Call.Overrides (call : Call) : Prop :=
  (∃ value, call.Reads value) ∨ call.access = some none ∧ call.force_refresh = true

/-- The value was read, and no call since has left anything else behind. -/
def Known (value : UInt8) (calls : List Call) : Prop :=
  Monitor.Since (Call.Reads value) Call.Overrides calls

/-- A call that is not forced accesses the register if there was no access, or the last one is a
minute old. -/
def Call.Due (before : List Call) (call : Call) : Prop :=
  call.force_refresh = true ∨ ∀ last ∈ last_access before,
    last.now = 0 ∨ last.now + K_IOE1_REFRESH_INTERVAL ≤ call.now

/-- What a call shows, given the calls before it. -/
structure Call.Right (before : List Call) (call : Call) : Prop where
  accesses : call.access.isSome = true ↔ call.Due before
  returns : ∀ value, call.value = some value ↔ Known value (before ++ [call])
  changes : call.value_changed = true ↔ ∃ value, call.Reads value ∧ ¬ Known value before

/-- A call shows when and how it was made, and what the device answered if it was asked. -/
structure Read.Shown (read : Read) (call : Call) : Prop where
  now : call.now = read.now
  force_refresh : call.force_refresh = read.force_refresh
  answer : ∀ answer ∈ call.access, answer = read.answer

/-! ## The cache -/

section

variable {calls : List Call} {call : Call} {value : UInt8}

theorem last_access_concat : last_access (calls ++ [call]) =
    if call.access.isSome then some call else last_access calls := by
  unfold last_access
  rw [List.reverse_append, List.reverse_singleton, List.singleton_append, List.find?_cons]
  cases call.access.isSome <;> rfl

theorem known_concat : Known value (calls ++ [call]) ↔
    call.Reads value ∨ ¬ call.Overrides ∧ Known value calls := by
  constructor
  · rintro ⟨earlier, o, later, heq, ho, hlater⟩
    rcases concat_eq_append_cons heq with ⟨-, -, rfl⟩ | ⟨rest, rfl, rfl⟩
    · exact .inl ho
    · exact .inr ⟨hlater call (by simp), earlier, o, rest, rfl, ho,
        fun o' hmem => hlater o' (List.mem_append_left _ hmem)⟩
  · rintro (hreads | ⟨hkeeps, hknown⟩)
    · exact Monitor.since_concat hreads
    · exact Monitor.Since.concat hknown hkeeps

/-- The cache holds what the calls tell. -/
structure Holds (cache : Ioe1RegisterCache) (calls : List Call) : Prop where
  value : ∀ value, cache.value = some value ↔ Known value calls
  last_attempt : cache.last_attempt = (last_access calls).elim 0 Call.now

theorem holds_nil : Holds {} [] := by
  refine ⟨fun value => ⟨fun h => (nomatch h), ?_⟩, rfl⟩
  rintro ⟨earlier, o, later, heq, -, -⟩
  exact absurd heq.symm (by simp)

/-- The cache answers exactly if no access is due. -/
theorem fresh_iff {cache : Ioe1RegisterCache} (h : Holds cache calls) {read : Read}
    (hnow : call.now = read.now) (hforce : call.force_refresh = read.force_refresh) :
    cache.fresh read = true ↔ ¬ call.Due calls := by
  unfold Ioe1RegisterCache.fresh Call.Due
  rw [h.last_attempt, hnow, hforce]
  rw [decide_eq_true_iff, not_or, Bool.not_eq_true', Bool.not_eq_true]
  refine and_congr Iff.rfl ?_
  rcases last_access calls with _ | last
  · simp
  · simp only [Option.elim, Option.mem_def, Option.some.injEq, forall_eq', not_or]
    omega

/-- What is left to show of a call that returns what the cache then holds. -/
theorem right_of_value {cache cache' : Ioe1RegisterCache} (h : Holds cache calls)
    (haccesses : call.access.isSome = true ↔ call.Due calls) (hcache : cache'.value = call.value)
    (hlast : cache'.last_attempt = (last_access (calls ++ [call])).elim 0 Call.now)
    (hvalue : ∀ value, call.value = some value ↔
      call.Reads value ∨ ¬ call.Overrides ∧ cache.value = some value)
    (hchanged : call.value_changed = true ↔
      ∃ value, call.Reads value ∧ cache.value ≠ some value) :
    call.Right calls ∧ Holds cache' (calls ++ [call]) := by
  have hreturns : ∀ value, call.value = some value ↔ Known value (calls ++ [call]) := by
    intro value
    rw [hvalue, known_concat, h.value]
  refine ⟨⟨haccesses, hreturns, hchanged.trans ?_⟩, fun value => ?_, hlast⟩
  · exact exists_congr fun value => and_congr Iff.rfl (not_congr (h.value value))
  · rw [hcache, hreturns]

end

/-- One call. -/
theorem read_cached_ioe1_register_spec {cache : Ioe1RegisterCache} {calls : List Call}
    (h : Holds cache calls) (read : Read) :
    (read_cached_ioe1_register cache read).2.Right calls ∧
      Holds (read_cached_ioe1_register cache read).1
        (calls ++ [(read_cached_ioe1_register cache read).2]) := by
  unfold read_cached_ioe1_register
  by_cases hfresh : cache.fresh read = true
  · rw [if_pos hfresh]
    refine right_of_value h ?_ rfl ?_ ?_ ?_
    · have hdue : ¬ Call.Due calls ⟨read.now, read.force_refresh, none, cache.value, false⟩ :=
        (fresh_iff h rfl rfl).1 hfresh
      exact ⟨fun hsome => (nomatch hsome), fun h => absurd h hdue⟩
    · rw [last_access_concat]
      exact h.last_attempt
    · simp [Call.Reads, Call.Overrides]
    · simp [Call.Reads]
  · rw [if_neg hfresh]
    have hdue : ∀ call : Call, call.now = read.now → call.force_refresh = read.force_refresh →
        call.Due calls := by
      intro call hnow hforce
      by_contra hnot
      exact hfresh ((fresh_iff h hnow hforce).2 hnot)
    cases hanswer : read.answer with
    | some value =>
      refine right_of_value h ⟨fun _ => hdue _ rfl rfl, fun _ => rfl⟩ rfl ?_ ?_ ?_
      · rw [last_access_concat]
        rfl
      · simp [Call.Reads, Call.Overrides]
      · simp [Call.Reads]
    | none =>
      dsimp only
      cases hforce : read.force_refresh with
      | true =>
        refine right_of_value h ⟨fun _ => .inl rfl, fun _ => rfl⟩ rfl ?_ ?_ ?_
        · rw [last_access_concat]
          rfl
        · simp [Call.Reads, Call.Overrides]
        · simp [Call.Reads]
      | false =>
        refine right_of_value h ⟨fun _ => hdue _ rfl hforce.symm, fun _ => rfl⟩ rfl ?_ ?_ ?_
        · rw [last_access_concat]
          rfl
        · simp [Call.Reads, Call.Overrides]
        · simp [Call.Reads]

theorem read_cached_ioe1_register_shown (cache : Ioe1RegisterCache) (read : Read) :
    read.Shown (read_cached_ioe1_register cache read).2 := by
  unfold read_cached_ioe1_register
  by_cases hfresh : cache.fresh read = true
  · rw [if_pos hfresh]
    exact ⟨rfl, rfl, fun answer hanswer => (nomatch hanswer)⟩
  · rw [if_neg hfresh]
    cases hanswer : read.answer with
    | some value => exact ⟨rfl, rfl, fun answer h => (Option.some.inj h).symm.trans hanswer.symm⟩
    | none =>
      dsimp only
      split_ifs
      · exact ⟨rfl, rfl, fun answer h => (Option.some.inj h).symm.trans hanswer.symm⟩
      · exact ⟨rfl, rfl, fun answer h => (Option.some.inj h).symm.trans hanswer.symm⟩

/-- Every call is shown. -/
theorem calls_shown (c : Config Ioe1RegisterCache Call) (reads : List Read) :
    ∃ calls, (registers.run c reads).history = c.history ++ calls ∧
      List.Forall₂ Read.Shown reads calls := by
  induction reads generalizing c with
  | nil => exact ⟨[], (List.append_nil _).symm, .nil⟩
  | cons read reads ih =>
    obtain ⟨calls, hhistory, hshown⟩ := ih (registers.next c read)
    refine ⟨(read_cached_ioe1_register c.state read).2 :: calls, ?_,
      .cons (read_cached_ioe1_register_shown c.state read) hshown⟩
    rw [Machine.run_cons, hhistory]
    exact List.append_assoc _ _ _

/-- The calls are those that were made, and each is as the ones before it require. -/
theorem calls_justified (reads : List Read) :
    List.Forall₂ Read.Shown reads (registers.run ⟨{}, []⟩ reads).history ∧
      Justified (fun before call => call.Right before)
        (registers.run ⟨{}, []⟩ reads).history := by
  obtain ⟨calls, hhistory, hshown⟩ := calls_shown ⟨{}, []⟩ reads
  rw [List.nil_append] at hhistory
  refine ⟨hhistory ▸ hshown, ?_⟩
  have hrun := registers.run_invariant
    (I := fun c => Justified (fun before call => call.Right before) c.history ∧
      Holds c.state c.history)
    (fun c read h => ?_) (c := ⟨{}, []⟩) ⟨justified_nil _, holds_nil⟩ reads
  · exact hrun.1
  · obtain ⟨hright, hholds⟩ := read_cached_ioe1_register_spec h.2 read
    exact ⟨justified_concat.2 ⟨h.1, hright⟩, hholds⟩

/-! ## The firmware version -/

def K_EMPTY_VALUE : String := "--"

def hex_digit (n : ℕ) : Char := "0123456789ABCDEF".toList.getD n '0'

/-- `0x%02X%02X`. -/
def version_text (major_version minor_version : UInt8) : String :=
  String.ofList ['0', 'x',
    hex_digit (major_version.toNat / 16), hex_digit (major_version.toNat % 16),
    hex_digit (minor_version.toNat / 16), hex_digit (minor_version.toNat % 16)]

theorem hex_digit_inj {m n : ℕ} (hm : m < 16) (hn : n < 16) (h : hex_digit m = hex_digit n) :
    m = n := by
  have hall : ∀ m n : Fin 16, hex_digit m = hex_digit n → m = n := by decide
  exact congrArg Fin.val (hall ⟨m, hm⟩ ⟨n, hn⟩ h)

/-- Two digits tell the byte. -/
theorem hex_digits_inj {a b : UInt8} (hhigh : hex_digit (a.toNat / 16) = hex_digit (b.toNat / 16))
    (hlow : hex_digit (a.toNat % 16) = hex_digit (b.toNat % 16)) : a = b := by
  have ha := a.toNat_lt
  have hb := b.toNat_lt
  have hdiv := hex_digit_inj (by omega) (by omega) hhigh
  have hmod := hex_digit_inj (Nat.mod_lt _ (by decide)) (Nat.mod_lt _ (by decide)) hlow
  exact UInt8.toNat_inj.1 (by omega)

theorem version_text_inj {a b a' b' : UInt8} :
    version_text a b = version_text a' b' ↔ a = a' ∧ b = b' := by
  constructor
  · intro h
    have hlist := String.ofList_injective h
    simp only [List.cons.injEq, and_true, true_and] at hlist
    obtain ⟨h1, h2, h3, h4⟩ := hlist
    exact ⟨hex_digits_inj h1 h2, hex_digits_inj h3 h4⟩
  · rintro ⟨rfl, rfl⟩
    rfl

end FactoryTest.DeviceInfo
