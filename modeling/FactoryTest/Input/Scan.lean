import FactoryTest.Input.Evdev
import FactoryTest.Lib.History

/-!
# Synthetic keys

FN and SYM come as scan codes without a release: `evdev_read_cb` queues the press, and the release
in its next call. Raw events may become ready at any time, also between the two.

**Theorem (`synthetic_keys_iff`).** Every synthetic press is followed by its release. That it comes
from the scan code 66 or 67 is true if and only if the callback never takes a scan code that only
has the lower half of one of them, since it looks up no more than that.
-/

namespace FactoryTest.Input

/-! ## Polling -/

/-- The keypad with the router behind it, and the raw events that the device has ready. -/
structure Polled where
  keyboard : Keyboard
  device : List InputEvent := []

/-- A raw event becomes ready, or LVGL calls the read callback and handles what it read. -/
inductive Turn
  | ready (input : InputEvent)
  | poll (elapsed : ℕ) (consumes : Bool)

/-- An event of the router, and the raw event that it was queued for; a synthetic release has
none. -/
structure Routed where
  raw : Option InputEvent
  key : UInt32
  pressed : Bool
  deriving DecidableEq

/-- One call of `evdev_read_cb`, and of `key_event_cb` after it. The raw event that something was
queued for is the last one taken from the device. -/
def Polled.poll (p : Polled) (elapsed : ℕ) (consumes : Bool) : Polled × List Routed :=
  let read := p.keyboard.keypad.evdev_read_cb p.device
  let taken := p.device.take (p.device.length - read.2.1.length)
  let router := { p.keyboard.router with now := p.keyboard.router.now + elapsed }
  (⟨(Keyboard.key_event_cb ⟨read.1, router⟩ consumes).1, read.2.1⟩,
    (read.1.router_event.map fun event => ⟨taken.getLast?, event.1, event.2⟩).toList)

/-- The keypad while raw events come in. -/
def polling : Machine Polled Turn Routed where
  step p
    | .ready input => ({ p with device := p.device ++ [input] }, [])
    | .poll elapsed consumes => p.poll elapsed consumes

/-! ## The property -/

/-- The event is a press that was queued for a scan code. -/
def Routed.Synthetic (r : Routed) : Prop := ∃ value, r.raw = some (.msc_scan value)

/-- The release of a synthetic press. -/
def Routed.release (r : Routed) : Routed := ⟨none, r.key, false⟩

/-- Synthetic presses come from their scan codes, and each is followed by exactly one release: it
is the next event of the router, or what the next poll routes. -/
structure SyntheticKeys (c : Config Polled Routed) : Prop where
  scanned : ∀ r ∈ c.history, ∀ value, r.raw = some (.msc_scan value) →
    r.pressed = true ∧ (r.key = K_KEY_FN → value = 66) ∧ (r.key = K_KEY_SYM → value = 67)
  released : ∀ before press next after, c.history = before ++ press :: next :: after →
    press.Synthetic → next = press.release
  due : ∀ before press, c.history = before ++ [press] → press.Synthetic →
    ∀ elapsed consumes, (c.state.poll elapsed consumes).2 = [press.release]
  once : ∀ before release after, c.history = before ++ release :: after → release.raw = none →
    ∃ front press, before = front ++ [press] ∧ press.Synthetic ∧ release = press.release

/-! ## The raw event that is taken -/

namespace EvdevKeypad

/-- What the callback makes of a raw event, unless it ignores it. -/
def queue (keypad : EvdevKeypad) : InputEvent → Option EvdevKeypad
  | .msc_scan value =>
    let scan_key := map_evdev_scan value.toUInt32
    if scan_key = 0 then none
    else some { keypad with
      key := scan_key
      pressed := true
      synthetic_release_pending := true
      router_event := some (scan_key, true) }
  | .key code value =>
    if value = 2 then none
    else
      let shift_pressed := if is_shift code then decide (value ≠ 0) else keypad.shift_pressed
      some { keypad with
        shift_pressed
        key := map_evdev_key code shift_pressed
        pressed := value ≠ 0
        router_event := some (map_evdev_key code shift_pressed, decide (value ≠ 0)) }
  | .other => none

/-- The callback goes on to the first raw event that it does not ignore. -/
theorem read_events_spec (keypad : EvdevKeypad) (events : List InputEvent) :
    (∀ e ∈ events, keypad.queue e = none) ∧ (keypad.read_events events).1 = keypad ∧
        (keypad.read_events events).2.1 = [] ∨
      ∃ skipped input rest keypad', events = skipped ++ input :: rest ∧
        (∀ e ∈ skipped, keypad.queue e = none) ∧ keypad.queue input = some keypad' ∧
        (keypad.read_events events).1 = keypad' ∧ (keypad.read_events events).2.1 = rest := by
  induction events with
  | nil => exact .inl ⟨fun _ he => absurd he List.not_mem_nil, rfl, rfl⟩
  | cons e events ih =>
    cases hqueue : keypad.queue e with
    | none =>
      have hskip : keypad.read_events (e :: events) = keypad.read_events events := by
        cases e with
        | msc_scan value =>
          by_cases hzero : map_evdev_scan value.toUInt32 = 0
          · rw [read_events, if_pos hzero]
          · simp [queue, hzero] at hqueue
        | key code value =>
          by_cases hrepeat : value = 2
          · rw [read_events, if_pos hrepeat]
          · simp [queue, hrepeat] at hqueue
        | other => rw [read_events]
      rw [hskip]
      rcases ih with ⟨hnone, hread⟩ | ⟨skipped, input, rest, keypad', rfl, hskipped, htaken⟩
      · exact .inl ⟨List.forall_mem_cons.2 ⟨hqueue, hnone⟩, hread⟩
      · exact .inr ⟨e :: skipped, input, rest, keypad', rfl,
          List.forall_mem_cons.2 ⟨hqueue, hskipped⟩, htaken⟩
    | some keypad' =>
      refine .inr ⟨[], e, events, keypad', rfl, fun _ he => absurd he List.not_mem_nil, hqueue, ?_⟩
      cases e with
      | msc_scan value =>
        by_cases hzero : map_evdev_scan value.toUInt32 = 0
        · simp [queue, hzero] at hqueue
        · simp only [queue, hzero, if_false, Option.some.injEq] at hqueue
          rw [read_events, if_neg hzero, ← hqueue]
          exact ⟨rfl, rfl⟩
      | key code value =>
        by_cases hrepeat : value = 2
        · simp [queue, hrepeat] at hqueue
        · simp only [queue, hrepeat, if_false, Option.some.injEq] at hqueue
          rw [read_events, if_neg hrepeat, ← hqueue]
          exact ⟨rfl, rfl⟩
      | other => cases hqueue

end EvdevKeypad

/-- What was queued goes to the router. -/
theorem key_event_cb_keypad (b : Keyboard) (consumes : Bool) : ∃ router,
    (Keyboard.key_event_cb b consumes).1 = ⟨{ b.keypad with router_event := none }, router⟩ := by
  unfold Keyboard.key_event_cb
  cases hevent : b.keypad.router_event with
  | none =>
    have hsame : ({ b.keypad with router_event := none } : EvdevKeypad) = b.keypad := by
      rw [← hevent]
    exact ⟨b.router, by rw [hsame]⟩
  | some event => exact ⟨_, rfl⟩

/-- What one poll does. -/
inductive Polls (p : Polled) : Polled × List Routed → Prop
  /-- The release that is pending is queued, and nothing is read. -/
  | release (router : KeyRouterState)
      (hpending : p.keyboard.keypad.synthetic_release_pending = true) :
      Polls p (⟨⟨{ p.keyboard.keypad with
        synthetic_release_pending := false
        pressed := false
        router_event := none }, router⟩, p.device⟩, [⟨none, p.keyboard.keypad.key, false⟩])
  /-- There is nothing to queue. -/
  | nothing (router : KeyRouterState)
      (hpending : p.keyboard.keypad.synthetic_release_pending = false)
      (hignored : ∀ e ∈ p.device, p.keyboard.keypad.queue e = none) :
      Polls p (⟨⟨p.keyboard.keypad, router⟩, []⟩, [])
  /-- The first raw event that is not ignored is taken. -/
  | taken (router : KeyRouterState) (skipped rest : List InputEvent) (input : InputEvent)
      (keypad : EvdevKeypad)
      (hpending : p.keyboard.keypad.synthetic_release_pending = false)
      (hdevice : p.device = skipped ++ input :: rest)
      (hskipped : ∀ e ∈ skipped, p.keyboard.keypad.queue e = none)
      (hqueue : p.keyboard.keypad.queue input = some keypad) :
      Polls p (⟨⟨{ keypad with router_event := none }, router⟩, rest⟩,
        [⟨some input, keypad.key, keypad.pressed⟩])

/-- Something is queued for the event. -/
theorem queue_router_event_eq {keypad keypad' : EvdevKeypad} {input : InputEvent}
    (h : keypad.queue input = some keypad') :
    keypad'.router_event = some (keypad'.key, keypad'.pressed) := by
  cases input with
  | msc_scan value =>
    simp only [EvdevKeypad.queue] at h
    split_ifs at h
    cases h
    rfl
  | key code value =>
    simp only [EvdevKeypad.queue] at h
    by_cases hrepeat : value = 2
    · rw [if_pos hrepeat] at h
      cases h
    · rw [if_neg hrepeat] at h
      cases h
      rfl
  | other => cases h

/-- The raw event that is taken is the last one that leaves the device. -/
theorem getLast?_taken (skipped rest : List InputEvent) (input : InputEvent) :
    ((skipped ++ input :: rest).take ((skipped ++ input :: rest).length - rest.length)).getLast? =
      some input := by
  have hlength : (skipped ++ input :: rest).length - rest.length = (skipped ++ [input]).length := by
    rw [List.length_append, List.length_append, List.length_cons, List.length_singleton]
    omega
  rw [hlength, List.append_cons skipped input rest, List.take_left, List.getLast?_concat]

theorem poll_spec (p : Polled) (hidle : p.keyboard.keypad.router_event = none) (elapsed : ℕ)
    (consumes : Bool) : Polls p (p.poll elapsed consumes) := by
  obtain ⟨⟨keypad, router⟩, device⟩ := p
  unfold Polled.poll EvdevKeypad.evdev_read_cb
  dsimp only at hidle ⊢
  cases hpending : keypad.synthetic_release_pending with
  | true =>
    rw [if_pos rfl, Nat.sub_self]
    obtain ⟨router', hrouter⟩ := key_event_cb_keypad ⟨({ keypad with
      synthetic_release_pending := false
      pressed := false }).queue_router_event keypad.key false,
        { router with now := router.now + elapsed }⟩ consumes
    dsimp only
    rw [hrouter]
    exact .release router' hpending
  | false =>
    rw [if_neg Bool.false_ne_true]
    obtain ⟨router', hrouter⟩ := key_event_cb_keypad ⟨(keypad.read_events device).1,
      { router with now := router.now + elapsed }⟩ consumes
    rw [hrouter]
    rcases keypad.read_events_spec device with ⟨hignored, hkeypad, hrest⟩ |
      ⟨skipped, input, rest, keypad', rfl, hskipped, hqueue, hkeypad, hrest⟩
    · rw [hkeypad, hrest, hidle]
      have hnothing := Polls.nothing (p := ⟨⟨keypad, router⟩, device⟩) router' hpending hignored
      have hsame : ({ keypad with router_event := none } : EvdevKeypad) = keypad := by rw [← hidle]
      rw [hsame]
      exact hnothing
    · rw [hkeypad, hrest, queue_router_event_eq hqueue, getLast?_taken]
      exact .taken router' skipped rest input keypad' hpending rfl hskipped hqueue

/-! ## Every run -/

/-- The keypad knows whether the last event of the router was a synthetic press. -/
structure Recalls (c : Config Polled Routed) : Prop where
  idle : c.state.keyboard.keypad.router_event = none
  pending : ∀ before press, c.history = before ++ [press] → press.Synthetic →
    c.state.keyboard.keypad.synthetic_release_pending = true ∧
      c.state.keyboard.keypad.key = press.key
  owed : c.state.keyboard.keypad.synthetic_release_pending = true →
    ∃ before press, c.history = before ++ [press] ∧ press.Synthetic ∧
      c.state.keyboard.keypad.key = press.key
  released : ∀ before press next after, c.history = before ++ press :: next :: after →
    press.Synthetic → next = press.release
  once : ∀ before release after, c.history = before ++ release :: after → release.raw = none →
    ∃ front press, before = front ++ [press] ∧ press.Synthetic ∧ release = press.release

/-- One more event of the router. It is the release of a synthetic press before it, and no release
otherwise. -/
theorem Recalls.concat {c : Config Polled Routed} (h : Recalls c) {p : Polled} {r : Routed}
    (hidle : p.keyboard.keypad.router_event = none)
    (hpending : p.keyboard.keypad.synthetic_release_pending = true ↔ r.Synthetic)
    (hkey : r.Synthetic → p.keyboard.keypad.key = r.key)
    (howed : c.state.keyboard.keypad.synthetic_release_pending = true →
      r = ⟨none, c.state.keyboard.keypad.key, false⟩)
    (hraw : c.state.keyboard.keypad.synthetic_release_pending = false → r.raw ≠ none) :
    Recalls ⟨p, c.history ++ [r]⟩ where
  idle := hidle
  pending before press heq hsynthetic := by
    obtain ⟨-, hlast⟩ := List.append_inj' heq rfl
    obtain rfl := List.singleton_inj.1 hlast
    exact ⟨hpending.2 hsynthetic, hkey hsynthetic⟩
  owed howes := ⟨c.history, r, rfl, hpending.1 howes, hkey (hpending.1 howes)⟩
  released before press next after heq hsynthetic := by
    have heq' : c.history ++ [r] = (before ++ [press]) ++ next :: after := by
      rw [← List.append_cons]
      exact heq
    rcases concat_eq_append_cons heq' with ⟨-, hbefore, rfl⟩ | ⟨rest, -, hhistory⟩
    · obtain ⟨hpend, hpress⟩ := h.pending before press hbefore.symm hsynthetic
      rw [howed hpend, hpress]
      rfl
    · exact h.released before press next rest (by rw [hhistory, List.append_assoc]; rfl) hsynthetic
  once before release after heq hnone := by
    rcases concat_eq_append_cons heq with ⟨-, rfl, rfl⟩ | ⟨rest, -, hhistory⟩
    · cases hpend : c.state.keyboard.keypad.synthetic_release_pending with
      | false => exact absurd hnone (hraw hpend)
      | true =>
        obtain ⟨front, press, hfront, hsynthetic, hpress⟩ := h.owed hpend
        exact ⟨front, press, hfront, hsynthetic, by rw [howed hpend, hpress]; rfl⟩
    · exact h.once before release rest hhistory hnone

/-- A scan code that is taken leaves its release pending, and nothing else does. -/
theorem queue_pending {keypad keypad' : EvdevKeypad} {input : InputEvent}
    (hpending : keypad.synthetic_release_pending = false) (h : keypad.queue input = some keypad') :
    keypad'.synthetic_release_pending = true ↔ ∃ value, input = .msc_scan value := by
  cases input with
  | msc_scan value =>
    simp only [EvdevKeypad.queue] at h
    split_ifs at h
    cases h
    exact iff_of_true rfl ⟨value, rfl⟩
  | key code value =>
    simp only [EvdevKeypad.queue] at h
    by_cases hrepeat : value = 2
    · rw [if_pos hrepeat] at h
      cases h
    · rw [if_neg hrepeat] at h
      cases h
      refine iff_of_false (by simp [hpending]) ?_
      rintro ⟨value, hvalue⟩
      cases hvalue
  | other => cases h

theorem recalls_next {c : Config Polled Routed} (h : Recalls c) (turn : Turn) :
    Recalls (polling.next c turn) := by
  cases turn with
  | ready input =>
    have hsame : (polling.next c (.ready input)).history = c.history := List.append_nil _
    exact ⟨h.idle, hsame ▸ h.pending, hsame ▸ h.owed, hsame ▸ h.released, hsame ▸ h.once⟩
  | poll elapsed consumes =>
    have hpoll := poll_spec c.state h.idle elapsed consumes
    show Recalls ⟨(c.state.poll elapsed consumes).1,
      c.history ++ (c.state.poll elapsed consumes).2⟩
    cases hr : c.state.poll elapsed consumes with
    | mk p routed =>
      rw [hr] at hpoll
      cases hpoll with
      | nothing router hpending hignored =>
        dsimp only
        rw [List.append_nil]
        exact ⟨h.idle, h.pending, h.owed, h.released, h.once⟩
      | release router hpending =>
        refine h.concat rfl (iff_of_false Bool.false_ne_true ?_) ?_ (fun _ => rfl) ?_
        · rintro ⟨value, hvalue⟩
          cases hvalue
        · rintro ⟨value, hvalue⟩
          cases hvalue
        · intro hnot
          rw [hpending] at hnot
          cases hnot
      | taken router skipped rest input keypad hpending hdevice hskipped hqueue =>
        refine h.concat rfl ?_ (fun _ => rfl) (fun hpend => ?_) fun _ => Option.some_ne_none _
        · rw [queue_pending hpending hqueue]
          exact exists_congr fun value => Option.some_inj.symm
        · rw [hpending] at hpend
          cases hpend

/-! ## Scan codes -/

/-- The lower half of a value, which is all that is looked up. -/
def low_half (value : Int32) : UInt16 := value.toUInt32.toUInt16

/-- The raw event is a scan code that only has the lower half of 66 or 67. -/
def InputEvent.Aliased (input : InputEvent) : Prop :=
  ∃ value, input = .msc_scan value ∧ value ≠ 66 ∧ value ≠ 67 ∧
    (low_half value = 66 ∨ low_half value = 67)

/-- The raw event that the next call of the callback takes. -/
def Polled.takes (p : Polled) : Option InputEvent :=
  if p.keyboard.keypad.synthetic_release_pending then none
  else p.device.find? fun input => (p.keyboard.keypad.queue input).isSome

/-- A poll takes such a scan code. -/
def TakesAlias (p : Polled) (turn : Turn) : Prop :=
  ∃ elapsed consumes input, turn = .poll elapsed consumes ∧ p.takes = some input ∧ input.Aliased

theorem map_evdev_scan_cases (value : Int32) :
    low_half value = 66 ∧ map_evdev_scan value.toUInt32 = K_KEY_FN ∨
      low_half value = 67 ∧ map_evdev_scan value.toUInt32 = K_KEY_SYM ∨
      low_half value ≠ 66 ∧ low_half value ≠ 67 ∧ map_evdev_scan value.toUInt32 = 0 := by
  have hwide (a b : UInt16) : a.toUInt32 = b.toUInt32 ↔ a = b := by
    constructor
    · intro h
      have hnat := congrArg UInt32.toNat h
      rw [UInt16.toNat_toUInt32, UInt16.toNat_toUInt32] at hnat
      exact UInt16.toNat_inj.1 hnat
    · exact congrArg _
  show low_half value = 66 ∧ lookup_key K_SCAN_CODE_KEYS (low_half value).toUInt32 = _ ∨
    low_half value = 67 ∧ lookup_key K_SCAN_CODE_KEYS (low_half value).toUInt32 = _ ∨
    low_half value ≠ 66 ∧ low_half value ≠ 67 ∧
      lookup_key K_SCAN_CODE_KEYS (low_half value).toUInt32 = _
  by_cases hfn : low_half value = 66
  · rw [hfn]
    exact .inl ⟨rfl, rfl⟩
  by_cases hsym : low_half value = 67
  · rw [hsym]
    exact .inr (.inl ⟨rfl, rfl⟩)
  · refine .inr (.inr ⟨hfn, hsym, ?_⟩)
    have h66 : ¬ (66 : UInt32) = (low_half value).toUInt32 := fun h => hfn ((hwide _ 66).1 h.symm)
    have h67 : ¬ (67 : UInt32) = (low_half value).toUInt32 := fun h => hsym ((hwide _ 67).1 h.symm)
    simp [lookup_key, K_SCAN_CODE_KEYS, h66, h67]

/-- A synthetic press is as it should be unless its scan code is an alias. -/
theorem scanned_iff {keypad keypad' : EvdevKeypad} {input : InputEvent}
    (h : keypad.queue input = some keypad') :
    (∀ value, input = .msc_scan value → keypad'.pressed = true ∧
      (keypad'.key = K_KEY_FN → value = 66) ∧ (keypad'.key = K_KEY_SYM → value = 67)) ↔
      ¬ input.Aliased := by
  cases input with
  | msc_scan value =>
    simp only [EvdevKeypad.queue] at h
    split_ifs at h with hzero
    cases h
    have hfn : low_half 66 = 66 := by decide
    have hsym : low_half 67 = 67 := by decide
    have hne : K_KEY_FN ≠ K_KEY_SYM := by decide
    constructor
    · rintro hall ⟨value', ⟨⟩, h66, h67, hlow⟩
      obtain ⟨-, hscan66, hscan67⟩ := hall value rfl
      rcases map_evdev_scan_cases value with ⟨-, hkey⟩ | ⟨-, hkey⟩ | ⟨hnot66, hnot67, -⟩
      · exact h66 (hscan66 hkey)
      · exact h67 (hscan67 hkey)
      · exact hlow.elim hnot66 hnot67
    · rintro halias value' ⟨⟩
      refine ⟨rfl, fun hkey => ?_, fun hkey => ?_⟩
      · by_contra h66
        rcases map_evdev_scan_cases value with ⟨hlow, -⟩ | ⟨-, hkey'⟩ | ⟨-, -, hkey'⟩
        · refine halias ⟨value, rfl, h66, ?_, .inl hlow⟩
          rintro rfl
          exact absurd hlow (by decide)
        · exact hne (hkey.symm.trans hkey')
        · exact hzero hkey'
      · by_contra h67
        rcases map_evdev_scan_cases value with ⟨-, hkey'⟩ | ⟨hlow, -⟩ | ⟨-, -, hkey'⟩
        · exact hne (hkey'.symm.trans hkey)
        · refine halias ⟨value, rfl, ?_, h67, .inr hlow⟩
          rintro rfl
          exact absurd hlow (by decide)
        · exact hzero hkey'
  | key code value =>
    refine iff_of_true (fun value' hvalue => ?_) ?_
    · cases hvalue
    · rintro ⟨value', hvalue, -⟩
      cases hvalue
  | other => cases h

/-! ## The theorem -/

/-- Where presses come from their scan codes, the rest holds anyway. -/
theorem SyntheticKeys.of_recalls {c : Config Polled Routed} (h : Recalls c)
    (hscanned : ∀ r ∈ c.history, ∀ value, r.raw = some (.msc_scan value) →
      r.pressed = true ∧ (r.key = K_KEY_FN → value = 66) ∧ (r.key = K_KEY_SYM → value = 67)) :
    SyntheticKeys c where
  scanned := hscanned
  released := h.released
  once := h.once
  due before press heq hsynthetic elapsed consumes := by
    obtain ⟨hpending, hkey⟩ := h.pending before press heq hsynthetic
    have hpoll := poll_spec c.state h.idle elapsed consumes
    cases hr : c.state.poll elapsed consumes with
    | mk p routed =>
      rw [hr] at hpoll
      cases hpoll with
      | release => exact congrArg (fun key => [(⟨none, key, false⟩ : Routed)]) hkey
      | nothing _ hnot | taken _ _ _ _ _ hnot =>
        rw [hpending] at hnot
        cases hnot

/-- A step keeps the property if and only if it takes no alias. -/
theorem synthetic_keys_next {c : Config Polled Routed} (h : Recalls c) (hkeys : SyntheticKeys c)
    (turn : Turn) : SyntheticKeys (polling.next c turn) ↔ ¬ TakesAlias c.state turn := by
  have hrecalls := recalls_next h turn
  cases turn with
  | ready input =>
    refine iff_of_true (.of_recalls hrecalls ?_) ?_
    · have hsame : (polling.next c (.ready input)).history = c.history := List.append_nil _
      rw [hsame]
      exact hkeys.scanned
    · rintro ⟨_, _, _, hturn, -⟩
      cases hturn
  | poll elapsed consumes =>
    have hpoll := poll_spec c.state h.idle elapsed consumes
    have hhistory : (polling.next c (.poll elapsed consumes)).history =
      c.history ++ (c.state.poll elapsed consumes).2 := rfl
    cases hr : c.state.poll elapsed consumes with
    | mk p routed =>
      rw [hr] at hpoll hhistory
      -- What else is in the history came from its scan code before.
      have hlast (r : Routed) (hrouted : routed = [r]) : SyntheticKeys (polling.next c
          (.poll elapsed consumes)) ↔ ∀ value, r.raw = some (.msc_scan value) → r.pressed = true ∧
            (r.key = K_KEY_FN → value = 66) ∧ (r.key = K_KEY_SYM → value = 67) := by
        constructor
        · intro hnext
          refine hnext.scanned r ?_
          rw [hhistory, hrouted]
          exact List.mem_append_right _ (List.mem_singleton.2 rfl)
        · refine fun hscanned => .of_recalls hrecalls fun r' hr' => ?_
          rw [hhistory, hrouted] at hr'
          rcases List.mem_append.1 hr' with hr' | hr'
          · exact hkeys.scanned r' hr'
          · rwa [List.mem_singleton.1 hr']
      cases hpoll with
      | release router hpending =>
        refine iff_of_true ((hlast _ rfl).2 fun value hvalue => ?_) ?_
        · cases hvalue
        · rintro ⟨_, _, input, -, htakes, -⟩
          rw [Polled.takes, if_pos hpending] at htakes
          cases htakes
      | nothing router hpending hignored =>
        refine iff_of_true (.of_recalls hrecalls ?_) ?_
        · rw [hhistory, List.append_nil]
          exact hkeys.scanned
        · rintro ⟨_, _, input, -, htakes, -⟩
          rw [Polled.takes, hpending, if_neg Bool.false_ne_true] at htakes
          have hsome := List.find?_some htakes
          rw [hignored input (List.mem_of_find?_eq_some htakes)] at hsome
          cases hsome
      | taken router skipped rest input keypad hpending hdevice hskipped hqueue =>
        have hinput : (∀ value, some input = some (.msc_scan value) → keypad.pressed = true ∧
            (keypad.key = K_KEY_FN → value = 66) ∧ (keypad.key = K_KEY_SYM → value = 67)) ↔
              ¬ input.Aliased := by
          rw [← scanned_iff hqueue]
          exact forall_congr' fun value => by rw [Option.some_inj]
        have htakes : c.state.takes = some input := by
          have hnone : skipped.find? (fun e => (c.state.keyboard.keypad.queue e).isSome) = none :=
            List.find?_eq_none.2 fun e he => by simp [hskipped e he]
          rw [Polled.takes, hpending, if_neg Bool.false_ne_true, hdevice, List.find?_append, hnone,
            Option.none_or, List.find?_cons_of_pos (by rw [hqueue]; rfl)]
        rw [hlast _ rfl, hinput]
        refine not_congr ⟨fun halias => ⟨elapsed, consumes, input, rfl, htakes, halias⟩, ?_⟩
        rintro ⟨_, _, input', -, htakes', halias⟩
        rw [htakes] at htakes'
        rwa [Option.some.inj htakes']

/-- In every run each synthetic press is released at once, and comes from its scan code if and
only if no alias is taken. -/
theorem synthetic_keys_iff (router : KeyRouterState) (device : List InputEvent)
    (turns : List Turn) :
    (∀ before after, turns = before ++ after →
      SyntheticKeys (polling.run ⟨⟨⟨{}, router⟩, device⟩, []⟩ before)) ↔
      polling.Along (fun c turn => ¬ TakesAlias c.state turn)
        ⟨⟨⟨{}, router⟩, device⟩, []⟩ turns := by
  have hrecalls : Recalls ⟨⟨⟨{}, router⟩, device⟩, []⟩ := by
    refine ⟨rfl, fun before press heq => ?_, fun howed => ?_, fun before press next after heq => ?_,
      fun before release after heq => ?_⟩
    · simp at heq
    · cases howed
    · simp at heq
    · simp at heq
  have hkeys : SyntheticKeys ⟨⟨⟨{}, router⟩, device⟩, []⟩ :=
    .of_recalls hrecalls fun r hr => absurd hr List.not_mem_nil
  rw [Machine.everywhere_iff_along hkeys]
  exact Machine.along_iff (I := fun c => Recalls c ∧ SyntheticKeys c)
    (fun c turn hc hnext => ⟨recalls_next hc.1 turn, hnext⟩)
    (fun c turn hc => synthetic_keys_next hc.1 hc.2 turn) ⟨hrecalls, hkeys⟩ turns

/-- F9 of a keyboard whose scan codes are HID usages: page 7, usage 66. -/
def usage_of_f9 : List Turn := [.ready (.msc_scan 0x70042), .poll 0 false]

/-- A press of F9 is followed by a synthetic FN. -/
theorem f9_presses_fn : ¬ ∀ before after, usage_of_f9 = before ++ after →
    SyntheticKeys (polling.run ⟨⟨⟨{}, {}⟩, []⟩, []⟩ before) := by
  intro h
  have hrouted : (polling.run ⟨⟨⟨{}, {}⟩, []⟩, []⟩ usage_of_f9).history =
      [⟨some (.msc_scan 0x70042), K_KEY_FN, true⟩] := by decide +kernel
  obtain ⟨-, hfn, -⟩ := (h usage_of_f9 [] (List.append_nil _).symm).scanned _
    (by rw [hrouted]; exact List.mem_singleton.2 rfl) 0x70042 rfl
  exact absurd (hfn rfl) (by decide)

end FactoryTest.Input
