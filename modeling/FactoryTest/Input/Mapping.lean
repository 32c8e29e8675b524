import FactoryTest.Input.Evdev
import FactoryTest.Input.Holds
import Mathlib.Data.List.GetD
import Mathlib.Tactic.Common

/-!
# Press and release of one key

The key queued for a release is mapped under the shift state of the release, the key queued for
the press under that of the press.

**Edges.** `edges` lists the edges of a history, the latest first. What followed the latest press
of a key is `since`.

**What a release must do** (`Agrees`). It queues the key of the latest press, and the router
sees it if the key was held alone apart from shift.

**When it does** (`Steady`). Shift is as it was at the press, or the code is not one that shift
changes (`Shiftable`); and no edge of shift followed the press. A shift edge in between makes the
router forget the key: it is then the router's pressed key, or nothing is.
-/

namespace FactoryTest.Input

/-! ## Edges -/

/-- An edge of a key, and the router key that was queued for it. -/
structure Edge where
  code : UInt16
  pressed : Bool
  key : UInt32

/-- The edges of a history, the latest first. -/
def edges (h : List KeypadObs) : List Edge :=
  h.foldl (fun es o => match o with
    | .edge code pressed key => ⟨code, pressed, key⟩ :: es
    | _ => es) []

/-- The shift state after the edges. -/
def shift_state (es : List Edge) : Bool :=
  match es.find? (is_shift ·.code) with
  | some e => e.pressed
  | none => false

/-- The edges since the latest press of a key, and those up to this press. -/
def since (code : UInt16) : List Edge → Option (List Edge × Edge × List Edge)
  | [] => none
  | e :: es =>
    if e.code = code ∧ e.pressed = true then some ([], e, es)
    else (since code es).map fun (after, press, before) => (e :: after, press, before)

/-- The latest edge of a key is a press. -/
def down (code : UInt16) (es : List Edge) : Bool :=
  match es.find? (·.code = code) with
  | some e => e.pressed
  | none => false

/-- The key is held, and apart from shift no other key was down since its latest press. -/
def HeldAlone (code : UInt16) (es : List Edge) : Prop :=
  match since code es with
  | none => False
  | some (after, _, before) =>
    (∀ e ∈ after, e.code ≠ code ∧ is_shift e.code = true) ∧
      ∀ other, other ≠ code → is_shift other = false → down other before = false

/-- An `EV_KEY` event arrives some milliseconds after the one before it. -/
structure KeyArrival where
  elapsed : ℕ
  code : UInt16
  value : Int32
  consumes : Bool

def KeyArrival.arrival (e : KeyArrival) : Arrival := ⟨e.elapsed, .key e.code e.value, e.consumes⟩

/-! ## The property -/

/-- What a release must do. -/
def Agrees (c : Config Keyboard KeypadObs) (e : Arrival) : Prop :=
  ∀ code, e.input = .key code 0 →
    (∀ after press before, since code (edges c.history) = some (after, press, before) →
      ∃ rest, (keyboard.step c.state e).2 = .edge code false press.key :: rest) ∧
    (HeldAlone code (edges c.history) →
      ∀ key, .edge code false key ∈ (keyboard.step c.state e).2 →
        c.state.router.releases key = true)

/-- The code is a digit, minus, equal or a letter: the key of any other code does not depend on
shift. -/
def Shiftable (code : UInt16) : Bool :=
  2 ≤ code && code ≤ 13 || 16 ≤ code && code ≤ 25 || 30 ≤ code && code ≤ 38 ||
    44 ≤ code && code ≤ 50

/-- The event is not a release whose key was changed or forgotten on account of shift. -/
def Steady (c : Config Keyboard KeypadObs) (e : Arrival) : Prop :=
  ∀ code, e.input = .key code 0 →
    (∀ after press before, since code (edges c.history) = some (after, press, before) →
      Shiftable code = true →
        shift_state (edges c.history) = shift_state (press :: before)) ∧
    (HeldAlone code (edges c.history) →
      ∃ last before, edges c.history = last :: before ∧ last.pressed = true ∧
        (last.code = code ∨ is_shift code = true))

/-! ## The tables -/

theorem lookup_key_mem (entries : List KeyMapEntry) (source : UInt32) :
    lookup_key entries source = 0 ∨ ⟨source, lookup_key entries source⟩ ∈ entries := by
  unfold lookup_key
  cases hfind : entries.find? (·.source = source) with
  | none => exact .inl rfl
  | some entry =>
    have hsource : entry.source = source := by simpa using List.find?_some hfind
    subst hsource
    exact .inr (List.mem_of_find?_eq_some hfind)

theorem lookup_printable_key_mem (code : UInt16) (shift_pressed : Bool) :
    lookup_printable_key code shift_pressed = 0 ∨
      ∃ entry ∈ K_PRINTABLE_SYMBOL_KEYS, entry.code = code ∧
        lookup_printable_key code shift_pressed =
          if shift_pressed then entry.shifted_key else entry.key := by
  unfold lookup_printable_key
  cases hfind : K_PRINTABLE_SYMBOL_KEYS.find? (·.code = code) with
  | none => exact .inl rfl
  | some entry =>
    exact .inr ⟨entry, List.mem_of_find?_eq_some hfind, by simpa using List.find?_some hfind, rfl⟩

theorem lookup_alpha_key_mem (code : UInt16) (shift_pressed : Bool) :
    lookup_alpha_key code shift_pressed = 0 ∨
      ∃ range ∈ K_ALPHA_KEY_RANGES, code ≤ range.last_code ∧
        ∃ ch ∈ range.keys ++ range.shifted_keys, lookup_alpha_key code shift_pressed = ch.val := by
  unfold lookup_alpha_key
  cases hfind : K_ALPHA_KEY_RANGES.find? fun range =>
      range.first_code ≤ code && code ≤ range.last_code with
  | none => exact .inl rfl
  | some range =>
    have hrange : range.first_code ≤ code ∧ code ≤ range.last_code := by
      simpa using List.find?_some hfind
    have hget (chars : List Char) (n : ℕ) :
        (chars.getD n '\x00').val = 0 ∨ chars.getD n '\x00' ∈ chars := by
      by_cases hn : n < chars.length
      · rw [List.getD_eq_getElem _ _ hn]
        exact .inr (List.getElem_mem hn)
      · rw [List.getD_eq_default _ _ (Nat.le_of_not_lt hn)]
        exact .inl rfl
    rcases hget (if shift_pressed then range.shifted_keys else range.keys)
      (code - range.first_code).toNat with hzero | hmem
    · exact .inl hzero
    · refine .inr ⟨range, List.mem_of_find?_eq_some hfind, hrange.2, _, ?_, rfl⟩
      split at hmem <;> simp_all

/-- A printable key is a character, and its code is that of a main key or of the keypad. -/
theorem printable_evdev_key_cases (code : UInt16) (shift_pressed : Bool) :
    printable_evdev_key code shift_pressed = 0 ∨
      printable_evdev_key code shift_pressed < 128 ∧ code < 128 := by
  have htable {entries : List KeyMapEntry}
      (h : ∀ entry ∈ entries, entry.source < 128 ∧ entry.key < 128) :
      lookup_key entries code.toUInt32 = 0 ∨
        lookup_key entries code.toUInt32 < 128 ∧ code < 128 := by
    refine (lookup_key_mem entries code.toUInt32).imp_right fun hmem => ?_
    exact ⟨(h _ hmem).2,
      by simpa [UInt32.lt_iff_toNat_lt, UInt16.lt_iff_toNat_lt] using (h _ hmem).1⟩
  have hprintable : lookup_printable_key code shift_pressed = 0 ∨
      lookup_printable_key code shift_pressed < 128 ∧ code < 128 := by
    refine (lookup_printable_key_mem code shift_pressed).imp_right ?_
    rintro ⟨entry, hmem, rfl, hkey⟩
    have h : ∀ entry ∈ K_PRINTABLE_SYMBOL_KEYS,
        entry.code < 128 ∧ entry.key < 128 ∧ entry.shifted_key < 128 := by decide
    rw [hkey]
    exact ⟨by split <;> simp [h entry hmem], (h entry hmem).1⟩
  have halpha : lookup_alpha_key code shift_pressed = 0 ∨
      lookup_alpha_key code shift_pressed < 128 ∧ code < 128 := by
    refine (lookup_alpha_key_mem code shift_pressed).imp_right ?_
    rintro ⟨range, hmem, hcode, ch, hch, hkey⟩
    have h : ∀ range ∈ K_ALPHA_KEY_RANGES, range.last_code < 128 ∧
        (range.keys ++ range.shifted_keys).all (·.val < 128) = true := by decide
    have hlt := List.all_eq_true.1 (h range hmem).2 ch hch
    rw [hkey]
    exact ⟨by simpa using hlt, UInt16.lt_of_le_of_lt hcode (h range hmem).1⟩
  unfold printable_evdev_key
  dsimp only
  split
  · exact htable (by decide)
  split
  · exact hprintable
  split
  · exact halpha
  · exact htable (by decide)

/-- Above the codes of the printable tables, shift does not matter. -/
theorem map_evdev_key_high {code : UInt16} (hcode : 128 ≤ code) :
    map_evdev_key code true = map_evdev_key code false := by
  have hprintable (shift_pressed : Bool) : printable_evdev_key code shift_pressed = 0 :=
    (printable_evdev_key_cases code shift_pressed).resolve_right fun h =>
      absurd h.2 (UInt16.not_lt.2 hcode)
  simp only [map_evdev_key, hprintable]

theorem map_evdev_key_eq_iff (code : UInt16) :
    map_evdev_key code true = map_evdev_key code false ↔ Shiftable code = false := by
  by_cases hcode : code < 128
  · have hlow : ∀ n < 128, (map_evdev_key (.ofNat n) true = map_evdev_key (.ofNat n) false ↔
        Shiftable (.ofNat n) = false) := by decide +kernel
    simpa using hlow code.toNat (by simpa [UInt16.lt_iff_toNat_lt] using hcode)
  · have hcode : 128 ≤ code := UInt16.not_lt.1 hcode
    refine iff_of_true (map_evdev_key_high hcode) ?_
    have : 128 ≤ code.toNat := by simpa [UInt16.le_iff_toNat_le] using hcode
    simp [Shiftable, UInt16.le_iff_toNat_le]
    omega

theorem is_shift_iff (code : UInt16) : is_shift code = true ↔ code = 42 ∨ code = 54 := by
  constructor
  · intro h
    have hne : lookup_key K_SHIFT_STATE_KEYS code.toUInt32 ≠ 0 := by simpa [is_shift] using h
    have hmem := (lookup_key_mem K_SHIFT_STATE_KEYS code.toUInt32).resolve_left hne
    simp only [K_SHIFT_STATE_KEYS, List.mem_cons, KeyMapEntry.mk.injEq, List.not_mem_nil,
      or_false] at hmem
    refine hmem.imp (fun h => ?_) fun h => ?_ <;> simpa using congrArg UInt32.toUInt16 h.1
  · rintro (rfl | rfl) <;> decide

/-- The key of shift is the key of the shift codes. -/
theorem map_evdev_key_shift_iff (code : UInt16) (shift_pressed : Bool) :
    map_evdev_key code shift_pressed = K_KEY_SHIFT ↔ is_shift code = true := by
  rw [is_shift_iff]
  constructor
  · intro h
    unfold map_evdev_key at h
    dsimp only at h
    split at h
    · -- a printable key is a character
      rename_i hprintable
      have hlt := ((printable_evdev_key_cases code shift_pressed).resolve_left hprintable).1
      rw [h] at hlt
      exact absurd hlt (by decide)
    split at h
    · have hspecial : ∀ entry ∈ K_SPECIAL_EVDEV_KEYS, entry.key = K_KEY_SHIFT →
          entry.source = 42 ∨ entry.source = 54 := by decide
      have hmem := (lookup_key_mem K_SPECIAL_EVDEV_KEYS code.toUInt32).resolve_left ‹_›
      exact (hspecial _ hmem h).imp (fun h => by simpa using congrArg UInt32.toUInt16 h)
        fun h => by simpa using congrArg UInt32.toUInt16 h
    split at h
    · have hfunction : ∀ entry ∈ K_FUNCTION_KEYS, entry.key ≠ K_KEY_SHIFT := by decide
      have hmem := (lookup_key_mem K_FUNCTION_KEYS code.toUInt32).resolve_left ‹_›
      exact absurd h (hfunction _ hmem)
    · -- the key of an unknown code has the bit of `K_EVDEV_KEY_BASE`
      have hbit := congrArg (fun key : UInt32 => key.toBitVec.getLsbD 20) h
      simp [K_EVDEV_KEY_BASE, K_KEY_SHIFT, K_SPECIAL_KEY_BASE] at hbit
  · rintro (rfl | rfl) <;> cases shift_pressed <;> decide

/-- Two shift states give one key exactly when they are equal or shift does not change it. -/
theorem map_evdev_key_inj (code : UInt16) (a b : Bool) :
    map_evdev_key code a = map_evdev_key code b ↔ (Shiftable code = true → a = b) := by
  have h := map_evdev_key_eq_iff code
  by_cases hab : a = b
  · simp [hab]
  · have hmap : map_evdev_key code a = map_evdev_key code b ↔ Shiftable code = false := by
      cases a <;> cases b <;> first | exact absurd rfl hab | exact h | exact eq_comm.trans h
    simp [hmap, hab]

theorem not_shiftable_of_shift {code : UInt16} (h : is_shift code = true) :
    Shiftable code = false := by
  rcases (is_shift_iff code).1 h with rfl | rfl <;> decide

/-! ## One event -/

/-- The shift state once an edge is read. -/
def EvdevKeypad.shift_after (keypad : EvdevKeypad) (code : UInt16) (pressed : Bool) : Bool :=
  if is_shift code then pressed else keypad.shift_pressed

/-- Nothing is pending between two raw events. -/
def EvdevKeypad.Idle (keypad : EvdevKeypad) : Prop :=
  keypad.router_event = none ∧ keypad.synthetic_release_pending = false

section Step

variable {b : Keyboard} (hidle : b.keypad.Idle) (elapsed : ℕ) (code : UInt16) (consumes : Bool)

include hidle

/-- A repeat is ignored. -/
theorem step_repeat :
    keyboard.step b ⟨elapsed, .key code 2, consumes⟩ =
      ({ b with router.now := b.router.now + elapsed }, []) := by
  obtain ⟨hevent, hpending⟩ := hidle
  have hread : b.keypad.evdev_read_cb [.key code 2] = (b.keypad, [], [], false) := by
    rw [EvdevKeypad.evdev_read_cb, hpending, if_neg Bool.false_ne_true, EvdevKeypad.read_events,
      if_pos rfl, EvdevKeypad.read_events]
  simp only [keyboard, Keyboard.step, Keyboard.drain, hread, Keyboard.key_event_cb, hevent]
  rfl

/-- An edge is read, mapped under the shift state after it, and routed. -/
theorem step_edge (value : Int32) (hvalue : value ≠ 2) :
    let shift := b.keypad.shift_after code (value ≠ 0)
    let key := map_evdev_key code shift
    let router := { b.router with now := b.router.now + elapsed }
    keyboard.step b ⟨elapsed, .key code value, consumes⟩ =
      (⟨⟨value ≠ 0, key, shift, false, none⟩,
          (router.route_key_state key (value ≠ 0) consumes).1⟩,
        .edge code (value ≠ 0) key :: .router (.input key (value ≠ 0) router.now) ::
          (router.route_key_state key (value ≠ 0) consumes).2.map .router) := by
  obtain ⟨hevent, hpending⟩ := hidle
  simp [keyboard, Keyboard.step, Keyboard.drain, EvdevKeypad.evdev_read_cb, hpending,
    EvdevKeypad.read_events, Keyboard.key_event_cb, hvalue, EvdevKeypad.queue_router_event,
    EvdevKeypad.shift_after]

end Step

/-! ## The router's last key -/

theorem KeyRouterState.route_press_pressed_key (s : KeyRouterState) (key : UInt32)
    (consumes : Bool) : (s.route_key_state key true consumes).1.pressed_key = key := by
  show (s.on_press key consumes).1.pressed_key = key
  by_cases hnew : s.last_key_pressed = false ∨ key ≠ s.pressed_key
  · rw [s.on_press_new key hnew]
  · obtain ⟨hlast, hkey⟩ : s.last_key_pressed = true ∧ key = s.pressed_key := by simpa using hnew
    rw [s.on_press_again key hlast hkey, hkey]

/-! ## The invariant -/

/-- The keypad and the router agree with the edges. -/
structure Mirrors (b : Keyboard) (es : List Edge) : Prop where
  idle : b.keypad.Idle
  shift : b.keypad.shift_pressed = shift_state es
  keys : ∀ after e before, es = after ++ e :: before →
    e.key = map_evdev_key e.code (shift_state (e :: before))
  last : b.router.last_key_pressed = (es.head?.map (·.pressed)).getD false
  pressed : ∀ e before, es = e :: before → e.pressed = true → b.router.pressed_key = e.key

theorem edges_append_edge (h : List KeypadObs) (code : UInt16) (pressed : Bool) (key : UInt32)
    (os : List Obs) :
    edges (h ++ .edge code pressed key :: os.map .router) = ⟨code, pressed, key⟩ :: edges h := by
  have hrouter (es : List Edge) : (os.map KeypadObs.router).foldl (fun es o => match o with
      | .edge code pressed key => ⟨code, pressed, key⟩ :: es
      | _ => es) es = es := by
    induction os with
    | nil => rfl
    | cons o os ih => exact ih
  simp only [edges, List.foldl_append, List.foldl_cons, hrouter]

/-- The shift state after one more edge. -/
theorem shift_state_cons (keypad : EvdevKeypad) (es : List Edge)
    (h : keypad.shift_pressed = shift_state es) (code : UInt16) (pressed : Bool) (key : UInt32) :
    shift_state (⟨code, pressed, key⟩ :: es) = keypad.shift_after code pressed := by
  unfold shift_state EvdevKeypad.shift_after
  by_cases hs : is_shift code = true
  · simp [hs]
  · simp only [hs, h]
    simp [shift_state, hs]

theorem mirrors_init (router : KeyRouterState) :
    Mirrors ⟨{}, router.reset_key_router_state⟩ (edges []) where
  idle := ⟨rfl, rfl⟩
  shift := rfl
  keys after e before h := absurd h (by simp [edges])
  last := rfl
  pressed e before h := absurd h (by simp [edges])

theorem mirrors_next (c : Config Keyboard KeypadObs) (e : Arrival)
    (hkey : ∃ code value, e.input = .key code value) (hm : Mirrors c.state (edges c.history)) :
    Mirrors (keyboard.next c e).state (edges (keyboard.next c e).history) := by
  obtain ⟨b, h⟩ := c
  obtain ⟨elapsed, input, consumes⟩ := e
  obtain ⟨code, value, rfl⟩ := hkey
  show Mirrors (keyboard.step b ⟨elapsed, .key code value, consumes⟩).1
    (edges (h ++ (keyboard.step b ⟨elapsed, .key code value, consumes⟩).2))
  by_cases hvalue : value = 2
  · subst hvalue
    rw [step_repeat hm.idle, List.append_nil]
    exact { hm with }
  · rw [step_edge hm.idle elapsed code consumes value hvalue, ← List.map_cons, edges_append_edge]
    have hshift := shift_state_cons b.keypad (edges h) hm.shift code (value ≠ 0)
    refine ⟨⟨rfl, rfl⟩, (hshift _).symm, fun after e before heq => ?_, rfl, ?_⟩
    · cases after with
      | nil =>
        obtain ⟨rfl, rfl⟩ := List.cons.inj heq
        rw [hshift]
      | cons first after => exact hm.keys after e before (List.cons.inj heq).2
    · rintro e before heq hpressed
      obtain ⟨rfl, rfl⟩ := List.cons.inj heq
      have hpressed : decide (value ≠ 0) = true := hpressed
      simp only [hpressed]
      exact KeyRouterState.route_press_pressed_key _ _ _

/-! ## The property from the invariant -/

theorem since_eq {code : UInt16} {es after before : List Edge} {press : Edge}
    (h : since code es = some (after, press, before)) :
    es = after ++ press :: before ∧ press.code = code ∧ press.pressed = true := by
  induction es generalizing after with
  | nil => exact absurd h (by simp [since])
  | cons e es ih =>
    unfold since at h
    split at h
    · rename_i hpress
      cases h
      exact ⟨rfl, hpress⟩
    · obtain ⟨⟨after', press', before'⟩, hsince, heq⟩ := Option.map_eq_some_iff.1 h
      cases heq
      obtain ⟨hes, hcode⟩ := ih hsince
      exact ⟨by rw [hes]; rfl, hcode⟩

/-- The first part: the key of the release is the key of the press. -/
theorem release_key_iff {b : Keyboard} {es : List Edge} (hm : Mirrors b es) {code : UInt16}
    {after before : List Edge} {press : Edge}
    (hsince : since code es = some (after, press, before)) :
    map_evdev_key code (b.keypad.shift_after code false) = press.key ↔
      (Shiftable code = true → shift_state es = shift_state (press :: before)) := by
  obtain ⟨hes, rfl, -⟩ := since_eq hsince
  rw [hm.keys after press before hes, map_evdev_key_inj]
  by_cases hs : is_shift press.code = true
  · simp [not_shiftable_of_shift hs]
  · simp [EvdevKeypad.shift_after, hs, hm.shift]

/-- The second part: the router sees the release if the last edge was the press of this key. -/
theorem releases_iff {b : Keyboard} {es : List Edge} (hm : Mirrors b es) {code : UInt16}
    (halone : HeldAlone code es) :
    b.router.releases (map_evdev_key code (b.keypad.shift_after code false)) = true ↔
      ∃ last before, es = last :: before ∧ last.pressed = true ∧
        (last.code = code ∨ is_shift code = true) := by
  unfold HeldAlone at halone
  cases hsince : since code es with
  | none => exact absurd halone (by simp [hsince])
  | some split =>
    obtain ⟨after, press, before⟩ := split
    simp only [hsince] at halone
    cases es with
    | nil => exact absurd hsince (by simp [since])
    | cons last rest =>
      have hlast : b.router.last_key_pressed = last.pressed := hm.last
      cases hpressed : last.pressed with
      | false => simp [KeyRouterState.releases, hlast, hpressed]
      | true =>
        have hkey : last.key = map_evdev_key code (b.keypad.shift_after code false) ↔
            last.code = code ∨ is_shift code = true := by
          rw [hm.keys [] last rest rfl]
          by_cases hcode : last.code = code
          · subst hcode
            refine iff_of_true ((map_evdev_key_inj _ _ _).2 fun hshiftable => ?_) (.inl rfl)
            by_cases hs : is_shift last.code = true
            · exact absurd hshiftable (by simp [not_shiftable_of_shift hs])
            · simp [EvdevKeypad.shift_after, hs, hm.shift]
          · -- the last edge is one of shift
            have hmem : last ∈ after := by
              unfold since at hsince
              rw [if_neg fun h => hcode h.1] at hsince
              obtain ⟨⟨after', _, _⟩, -, heq⟩ := Option.map_eq_some_iff.1 hsince
              cases heq
              exact List.mem_cons_self
            rw [(map_evdev_key_shift_iff _ _).2 (halone.1 last hmem).2, eq_comm,
              map_evdev_key_shift_iff]
            simp [hcode]
        have hrouter := hm.pressed last rest rfl hpressed
        simp [KeyRouterState.releases, hlast, hpressed, hrouter, hkey]

/-- A release does what it must exactly if it is steady. -/
theorem agrees_step_iff (c : Config Keyboard KeypadObs) (e : Arrival)
    (hm : Mirrors c.state (edges c.history)) : Agrees c e ↔ Steady c e := by
  obtain ⟨b, h⟩ := c
  obtain ⟨elapsed, input, consumes⟩ := e
  refine forall_congr' fun code => imp_congr_right fun hinput => ?_
  obtain rfl : input = .key code 0 := hinput
  have hstep := step_edge hm.idle elapsed code consumes 0 (by decide)
  refine and_congr ?_ ?_
  · refine forall_congr' fun after => forall_congr' fun press => forall_congr' fun before =>
      imp_congr_right fun hsince => ?_
    rw [← release_key_iff hm hsince, hstep]
    simp
  · refine imp_congr_right fun halone => ?_
    rw [← releases_iff hm halone, hstep]
    simp

/-- Along every sequence of key events, from any keypad and router just reset: the releases do
what they must exactly if all are steady. -/
theorem releases_agree_iff (router : KeyRouterState) (keys : List KeyArrival) :
    keyboard.Along Agrees ⟨⟨{}, router.reset_key_router_state⟩, []⟩ (keys.map KeyArrival.arrival) ↔
      keyboard.Along Steady ⟨⟨{}, router.reset_key_router_state⟩, []⟩
        (keys.map KeyArrival.arrival) := by
  have hrun : ∀ c : Config Keyboard KeypadObs, Mirrors c.state (edges c.history) →
      (keyboard.Along Agrees c (keys.map KeyArrival.arrival) ↔
        keyboard.Along Steady c (keys.map KeyArrival.arrival)) := by
    induction keys with
    | nil => exact fun _ _ => Iff.rfl
    | cons e keys ih =>
      intro c hm
      exact and_congr (agrees_step_iff c e.arrival hm)
        (ih _ (mirrors_next c e.arrival ⟨e.code, e.value, rfl⟩ hm))
  exact hrun _ (mirrors_init router)

/-- A letter is pressed, then shift, and the letter is released first. -/
def shifted_release : List KeyArrival := [⟨0, 30, 1, false⟩, ⟨50, 42, 1, false⟩, ⟨50, 30, 0, false⟩]

/-- The release of `a` is queued as a release of `A`, and the router ignores it. -/
theorem shifted_release_disagrees :
    ¬ ∀ (router : KeyRouterState) (keys : List KeyArrival),
      keyboard.Along Agrees ⟨⟨{}, router.reset_key_router_state⟩, []⟩
        (keys.map KeyArrival.arrival) := by
  intro h
  obtain ⟨-, -, hrelease, -⟩ := h {} shifted_release
  obtain ⟨rest, hrest⟩ := (hrelease 30 rfl).1 [⟨42, true, K_KEY_SHIFT⟩] ⟨30, true, 'a'.val⟩ [] rfl
  have hhead : (keyboard.step (keyboard.run ⟨⟨{}, KeyRouterState.reset_key_router_state {}⟩, []⟩
      ((shifted_release.take 2).map KeyArrival.arrival)).state
      ⟨50, .key 30 0, false⟩).2.head? = some (.edge 30 false 'A'.val) := by decide +kernel
  have heq : some (KeypadObs.edge 30 false 'A'.val) = some (.edge 30 false 'a'.val) :=
    hhead.symm.trans (congrArg List.head? hrest)
  exact absurd heq (by decide)

end FactoryTest.Input
