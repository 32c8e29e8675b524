import FactoryTest.Input.Router
import Mathlib.Tactic.Common
import Mathlib.Data.List.Basic
import Mathlib.Data.List.Induction

/-!
# Holds of a key

A *hold* of a key begins with a press of the key while it is up and ends with its release. The
history says which keys are down, since when, and what the router did during the hold.

**What a step must do** (`KeepsHolds`). A long press comes once in a hold and not before
700 ms; a hold that sent `PRESSED` gets exactly one release unless the global listener consumed
it; and when every key is up the router is idle.

**Where it fails.** The router knows one key. If a second key is pressed during a hold, the
first release is ignored and clears `last_key_pressed`, so the second one is ignored too: the
router keeps a key that is up, and the timer sends a long press for it
(`phantom_long_press`).

**Where it holds** (`keeps_holds`). A key may be pressed while no release is owed
(`Calm`), and a key is released right after a press. The proof carries the invariant `Tracks`.
-/

namespace FactoryTest.Input

/-! ## Which keys are down -/

/-- A key is down: since when, and what the router did since. -/
structure Hold where
  since : ℕ
  seen : List Obs

/-- The hold goes on, and the router does some more. -/
def Hold.extend (x : Hold) (os : List Obs) : Hold := { x with seen := x.seen ++ os }

/-- What an observation does to the hold of a key; a repeated press continues the hold. -/
def Hold.track (k : UInt32) (hold : Option Hold) : Obs → Option Hold
  | .input key pressed now =>
    if key = k then if pressed then hold.or (some ⟨now, []⟩) else none else hold
  | o => hold.map (·.extend [o])

/-- The hold of a key after a history; `none` if the key is up. -/
def held (k : UInt32) (h : List Obs) : Option Hold := h.foldl (Hold.track k) none

/-- The observation is a long press of the key. -/
def Obs.LongPress (k : UInt32) : Obs → Prop
  | .global_listener key long_pressed _ => key = k ∧ long_pressed = true
  | .long_listener key => key = k
  | .nav key _ code => key = k ∧ code = .LONG_PRESSED
  | _ => False

/-- The observation is a release of the key. -/
def Obs.Release (k : UInt32) : Obs → Prop
  | .release_listener key => key = k
  | .nav key _ code => key = k ∧ code = .RELEASED
  | _ => False

instance (k : UInt32) (o : Obs) : Decidable (o.LongPress k) := by
  cases o <;> unfold Obs.LongPress <;> infer_instance

instance (k : UInt32) (o : Obs) : Decidable (o.Release k) := by
  cases o <;> unfold Obs.Release <;> infer_instance

@[simp] theorem Obs.release_input {k key : UInt32} {pressed : Bool} {now : ℕ} :
    ¬ (Obs.input key pressed now).Release k := id

@[simp] theorem Obs.release_nav {k key : UInt32} {i : ℕ} {code : EventCode} :
    (Obs.nav key i code).Release k ↔ key = k ∧ code = .RELEASED := Iff.rfl

@[simp] theorem Obs.release_release_listener {k key : UInt32} :
    (Obs.release_listener key).Release k ↔ key = k := Iff.rfl

/-- The global listener consumed the key during the hold. -/
def Hold.Consumed (k : UInt32) (x : Hold) : Prop := .global_listener k false true ∈ x.seen

/-- The hold sent `PRESSED` to a button. -/
def Hold.Pressed (k : UInt32) (x : Hold) : Prop := ∃ i, .nav k i .PRESSED ∈ x.seen

/-! ## The property -/

/-- What a step must do, from what was observed before it. -/
structure KeepsHolds (c : Config KeyRouterState Obs) (e : Event) : Prop where
  /-- A long press is of a key that is down for 700 ms or more and had none in this hold; each
  listener and the button get it at most once. -/
  long : ∀ k, (∃ o ∈ (router.step c.state e).2, o.LongPress k) →
    (∃ x, held k c.history = some x ∧ (held k (router.next c e).history).isSome ∧
      x.since + K_LONG_PRESS_MS.toNat ≤ (router.next c e).state.now ∧
      ∀ o ∈ x.seen, ¬ o.LongPress k) ∧
    ∃ consumes i, ((router.step c.state e).2.filter (·.LongPress k)).Sublist
      [.global_listener k true consumes, .long_listener k, .nav k i .LONG_PRESSED]
  /-- A hold that sent `PRESSED` and was not consumed ends with the only release of the hold. -/
  release : ∀ k consumes x, e.action = .key k false consumes → held k c.history = some x →
    x.Pressed k → ¬ x.Consumed k → (∀ o ∈ x.seen, ¬ o.Release k) ∧
      ∃ i, (router.step c.state e).2.filter (·.Release k) =
        .nav k i .RELEASED ::
          if c.state.config.key_release_listener then [.release_listener k] else []
  /-- When every key is up, the router has no pressed key and its timer does not run. -/
  idle : (∀ k, held k (router.next c e).history = none) →
    (router.next c e).state.pressed_key = 0 ∧
      (router.next c e).state.long_press_timer ≠ some true

/-! ## Where it holds -/

/-- No release is owed: no key is pressed, or the pressed key was consumed or captured, or has
no button. -/
def KeyRouterState.Calm (s : KeyRouterState) : Prop :=
  s.pressed_key = 0 ∨ s.pressed_key_consumed_by_global = true ∨
    s.config.modal_key_capture = true ∨ s.dispatch_nav_key s.pressed_key .PRESSED = []

/-- The event is not one that makes the router lose a hold. -/
def Undisturbed (c : Config KeyRouterState Obs) (e : Event) : Prop :=
  match e.action with
  | .key k true _ =>
    k ≠ 0 ∧
      match held k c.history with
      | none => c.state.Calm
      | some _ => c.state.pressed_key = k ∧
          (c.state.last_key_pressed = true ∨ c.state.long_press_sent = false)
  | .key k false _ => k ≠ 0 ∧ (c.state.pressed_key = k → c.state.last_key_pressed = true)
  | .tick _ => True

/-! ## What the history says -/

/-- The observation is of the router, not of the keyboard. -/
def Obs.Output : Obs → Prop
  | .input .. => False
  | _ => True

theorem held_concat (k : UInt32) (h : List Obs) (o : Obs) :
    held k (h ++ [o]) = Hold.track k (held k h) o := by
  simp [held]

/-- The router's own observations end up in the hold. -/
theorem held_append_outputs {k : UInt32} {h os : List Obs} (hos : ∀ o ∈ os, o.Output) :
    held k (h ++ os) = (held k h).map (·.extend os) := by
  induction os generalizing h with
  | nil => cases hx : held k h <;> simp [hx, Hold.extend]
  | cons o os ih =>
    have ho : held k (h ++ [o]) = (held k h).map (·.extend [o]) := by
      rw [held_concat]
      cases o <;> first | rfl | exact absurd (hos _ List.mem_cons_self) id
    rw [List.append_cons, ih fun p hp => hos p (List.mem_cons_of_mem o hp), ho]
    cases held k h <;> simp [Hold.extend]

/-- A key event of another key does not begin or end the hold. -/
theorem held_other {k key : UInt32} (hk : key ≠ k) {h os : List Obs} {pressed : Bool} {now : ℕ}
    (hos : ∀ o ∈ os, o.Output) :
    held k (h ++ .input key pressed now :: os) =
      (held k h).map (·.extend os) := by
  rw [List.append_cons, held_append_outputs hos]
  simp [held, Hold.track, hk]

theorem held_press {k : UInt32} {h os : List Obs} {now : ℕ} (hos : ∀ o ∈ os, o.Output) :
    held k (h ++ .input k true now :: os) =
      ((held k h).or (some ⟨now, []⟩)).map (·.extend os) := by
  rw [List.append_cons, held_append_outputs hos]
  simp [held, Hold.track]

theorem held_release {k : UInt32} {h os : List Obs} {now : ℕ} (hos : ∀ o ∈ os, o.Output) :
    held k (h ++ .input k false now :: os) = none := by
  rw [List.append_cons, held_append_outputs hos]
  simp [held, Hold.track]

/-- What a hold has seen is in the history. -/
theorem held_seen_mem {k : UInt32} {h : List Obs} {x : Hold} (hx : held k h = some x) {o : Obs}
    (ho : o ∈ x.seen) : o ∈ h := by
  induction h using List.reverseRecOn generalizing x with
  | nil => exact absurd hx (by simp [held])
  | append_singleton h p ih =>
    by_cases hp : p.Output
    · rw [held_append_outputs (by simpa using hp)] at hx
      obtain ⟨y, hy, rfl⟩ := Option.map_eq_some_iff.1 hx
      rcases List.mem_append.1 ho with ho | ho
      · exact List.mem_append_left _ (ih hy ho)
      · exact List.mem_append_right _ ho
    · obtain ⟨key, pressed, now, rfl⟩ : ∃ key pressed now, p = .input key pressed now := by
        cases p <;> simp_all [Obs.Output]
      refine List.mem_append_left _ ?_
      rw [held_concat] at hx
      by_cases hk : key = k
      · cases pressed with
        | false => exact absurd hx (by simp [Hold.track, hk])
        | true =>
          cases hy : held k h with
          | none =>
            obtain rfl : ⟨now, []⟩ = x := by simpa [Hold.track, hk, hy] using hx
            exact absurd ho (by simp)
          | some y =>
            obtain rfl : y = x := by simpa [Hold.track, hk, hy] using hx
            exact ih hy ho
      · exact ih (by simpa [Hold.track, hk] using hx) ho

/-! ## What each function of the router shows -/

namespace KeyRouterState

variable (s : KeyRouterState) (key : UInt32)

/-- A key has a button or it has none, whatever the event. -/
theorem dispatch_nav_key_cases :
    (∀ code, s.dispatch_nav_key key code = []) ∨
      ∃ i, ∀ code, s.dispatch_nav_key key code = [.nav key i code] := by
  by_cases hindex : K_NAV_KEY_COUNT ≤ s.nav_key_to_index key
  · exact .inl fun code => if_pos hindex
  by_cases hbutton : s.config.nav_buttons (s.nav_key_to_index key)
  · exact .inr ⟨s.nav_key_to_index key, fun code => by
      simp [dispatch_nav_key, hindex, hbutton]⟩
  · exact .inl fun code => by simp [dispatch_nav_key, hbutton]

/-- Only the configuration matters for what a button gets. -/
theorem dispatch_nav_key_congr {s t : KeyRouterState} (h : s.config = t.config) :
    s.dispatch_nav_key key = t.dispatch_nav_key key := by
  cases s
  cases t
  cases h
  rfl

/-- What a button gets comes from a key that has this button. -/
theorem mem_dispatch_nav_key {code : EventCode} {o : Obs} (ho : o ∈ s.dispatch_nav_key key code) :
    ∃ i, o = .nav key i code ∧ ∀ code', s.dispatch_nav_key key code' = [.nav key i code'] := by
  rcases s.dispatch_nav_key_cases key with hnone | ⟨i, hi⟩
  · exact absurd ho (by simp [hnone])
  · exact ⟨i, by simpa [hi] using ho, hi⟩

theorem mem_emit_global {long_pressed consumes : Bool} {o : Obs}
    (ho : o ∈ (s.emit_global key long_pressed consumes).2) :
    o = .global_listener key long_pressed consumes := by
  unfold emit_global at ho
  split at ho
  · simpa using ho
  · simp at ho

/-- A button only gets an event if no dialog captures the keys and the button is the key's. -/
def Sendable : Obs → Prop
  | .nav key i _ => s.config.modal_key_capture = false ∧
      ∀ code, s.dispatch_nav_key key code = [.nav key i code]
  | _ => True

/-- What a press of a key may show. -/
def OfPress (o : Obs) : Prop :=
  s.Sendable o ∧ ((∃ consumed, o = .global_listener key false consumed) ∨ o = .key_listener key ∨
    ∃ i code, o = .nav key i code ∧ (code = .PRESSED ∨ code = .CLICKED))

variable {s key}

theorem OfPress.output {o : Obs} (h : s.OfPress key o) : o.Output := by
  rcases h with ⟨_, ⟨_, rfl⟩ | rfl | ⟨_, _, rfl, _⟩⟩ <;> trivial

theorem OfPress.not_longPress {o : Obs} (h : s.OfPress key o) (k : UInt32) : ¬ o.LongPress k := by
  rcases h with ⟨_, ⟨_, rfl⟩ | rfl | ⟨_, _, rfl, rfl | rfl⟩⟩ <;> simp [Obs.LongPress]

theorem OfPress.not_release {o : Obs} (h : s.OfPress key o) (k : UInt32) : ¬ o.Release k := by
  rcases h with ⟨_, ⟨_, rfl⟩ | rfl | ⟨_, _, rfl, rfl | rfl⟩⟩ <;> simp [Obs.Release]

variable (s key)

theorem mem_emit_key {consumes : Bool} {o : Obs} (ho : o ∈ (s.emit_key key consumes).2) :
    s.OfPress key o := by
  have hglobal : ∀ p ∈ (s.emit_global key false consumes).2, s.OfPress key p :=
    fun p hp => by
      obtain rfl := s.mem_emit_global key hp
      exact ⟨trivial, .inl ⟨_, rfl⟩⟩
  simp only [emit_key] at ho
  split at ho
  · exact hglobal o ho
  · rcases List.mem_append.1 ho with ho | ho
    · exact hglobal o ho
    · obtain rfl : o = .key_listener key := by
        split at ho <;> simp_all
      exact ⟨trivial, .inr (.inl rfl)⟩

/-- A key that `emit_key` says is consumed was consumed by the global listener. -/
theorem emit_key_consumed {consumes : Bool} (h : (s.emit_key key consumes).1 = true) :
    .global_listener key false true ∈ (s.emit_key key consumes).2 := by
  simp only [emit_key, emit_global] at h ⊢
  by_cases hg : s.config.global_key_listener <;> cases consumes <;> simp_all

theorem mem_new_hold {consumes : Bool} {o : Obs} (ho : o ∈ (s.new_hold key consumes).2) :
    s.OfPress key o := by
  simp only [new_hold] at ho
  rcases List.mem_append.1 ho with ho | ho
  · exact s.mem_emit_key key ho
  · split at ho
    · obtain ⟨i, rfl, hi⟩ := mem_dispatch_nav_key _ key ho
      exact ⟨⟨by simp_all, hi⟩, .inr (.inr ⟨i, _, rfl, .inl rfl⟩)⟩
    · exact absurd ho (by simp)

theorem mem_on_press {consumes : Bool} {o : Obs} (ho : o ∈ (s.on_press key consumes).2) :
    s.OfPress key o := by
  have hclick {t : KeyRouterState} (ht : t.config = s.config) {c : Prop} [Decidable c]
      (hc : c → s.config.modal_key_capture = false)
      (ho : o ∈ if c then t.dispatch_nav_key key .CLICKED else []) : s.OfPress key o := by
    split at ho
    · obtain ⟨i, rfl, hi⟩ := mem_dispatch_nav_key t key ho
      exact ⟨⟨hc ‹_›, dispatch_nav_key_congr key ht ▸ hi⟩, .inr (.inr ⟨i, _, rfl, .inr rfl⟩)⟩
    · exact absurd ho (by simp)
  simp only [on_press] at ho
  split at ho
  · rcases List.mem_append.1 ho with ho | ho
    · exact s.mem_new_hold key ho
    · exact hclick (t := { (s.new_hold key consumes).1 with
        last_key_activity_at := _, long_press_timer := _ }) rfl
        (by simp +contextual [new_hold]) ho
  · rcases List.mem_append.1 ho with ho | ho
    · exact absurd ho (by simp)
    · exact hclick (t := { s with last_key_activity_at := _, long_press_timer := _ }) rfl
        (by simp +contextual) ho

/-- A press that begins a hold. -/
theorem on_press_new {consumes : Bool}
    (hnew : s.last_key_pressed = false ∨ key ≠ s.pressed_key) :
    (s.on_press key consumes).1 =
      { s with
        pressed_key := key
        press_started_at := s.lv_tick_get
        long_press_sent := false
        pressed_key_consumed_by_global := (s.emit_key key consumes).1
        last_key_activity_at := s.lv_tick_get
        long_press_timer := some true } := by
  have h : (!s.last_key_pressed || key ≠ s.pressed_key) = true := by simpa using hnew
  simp only [on_press, h, if_true]
  rfl

/-- What a press shows contains what `emit_key` shows if it begins a hold. -/
theorem emit_key_sub_on_press {consumes : Bool}
    (hnew : s.last_key_pressed = false ∨ key ≠ s.pressed_key) :
    ∀ o ∈ (s.emit_key key consumes).2, o ∈ (s.on_press key consumes).2 := by
  intro o ho
  have h : (!s.last_key_pressed || key ≠ s.pressed_key) = true := by simpa using hnew
  simp only [on_press, h, if_true]
  exact List.mem_append_left _ (List.mem_append_left _ ho)

/-- A press that repeats the pressed key. -/
theorem on_press_again {consumes : Bool} (hlast : s.last_key_pressed = true)
    (hkey : key = s.pressed_key) :
    (s.on_press key consumes).1 =
      { s with last_key_activity_at := s.lv_tick_get, long_press_timer := some true } := by
  simp [on_press, hlast, hkey]

/-- The release of the pressed key shows only releases. -/
theorem mem_on_release {o : Obs} (ho : o ∈ (s.on_release key).2) :
    s.Sendable o ∧ (o = .release_listener key ∨ ∃ i, o = .nav key i .RELEASED) := by
  rcases List.mem_append.1 ho with ho | ho <;> split at ho
  · obtain ⟨i, rfl, hi⟩ := mem_dispatch_nav_key _ key ho
    exact ⟨⟨by simp_all, hi⟩, .inr ⟨i, rfl⟩⟩
  · exact absurd ho (by simp)
  · obtain rfl : o = .release_listener key := by
      unfold emit_key_release at ho
      split at ho <;> simp_all
    exact ⟨trivial, .inl rfl⟩
  · exact absurd ho (by simp)

/-- The release of a pressed key that has a button and was not consumed. -/
theorem on_release_button (hmodal : s.config.modal_key_capture = false)
    (hflag : s.pressed_key_consumed_by_global = false) {i : ℕ}
    (hbutton : ∀ code, s.dispatch_nav_key key code = [.nav key i code]) :
    (s.on_release key).2 = .nav key i .RELEASED ::
      if s.config.key_release_listener then [.release_listener key] else [] := by
  simp only [on_release, hmodal, hflag, hbutton]
  rfl

/-- The timer does nothing, or sends the long press of a key that is pressed for 700 ms and had
none. -/
theorem long_press_timer_cb_cases (consumes : Bool) :
    s.long_press_timer_cb consumes = (s, []) ∨
      s.pressed_key ≠ 0 ∧ s.long_press_sent = false ∧
        K_LONG_PRESS_MS ≤ s.lv_tick_elaps s.press_started_at ∧
        (s.long_press_timer_cb consumes).1 = { s with long_press_sent := true } ∧
        ∃ i, (s.long_press_timer_cb consumes).2.Sublist
          [.global_listener s.pressed_key true consumes, .long_listener s.pressed_key,
            .nav s.pressed_key i .LONG_PRESSED] ∧
          ∀ o ∈ (s.long_press_timer_cb consumes).2, s.Sendable o := by
  by_cases hkey : (s.pressed_key = 0 || s.long_press_sent) = true
  · exact .inl (if_pos hkey)
  by_cases helaps : s.lv_tick_elaps s.press_started_at < K_LONG_PRESS_MS
  · exact .inl ((if_neg hkey).trans (if_pos helaps))
  refine .inr ⟨by simp_all, by simp_all, UInt32.not_lt.1 helaps, ?_⟩
  have hcb : s.long_press_timer_cb consumes =
      if s.config.modal_key_capture then ({ s with long_press_sent := true }, [])
      else if s.pressed_key_consumed_by_global then ({ s with long_press_sent := true }, [])
      else if (s.emit_long_key s.pressed_key consumes).1 then
        ({ s with long_press_sent := true }, (s.emit_long_key s.pressed_key consumes).2)
      else ({ s with long_press_sent := true }, (s.emit_long_key s.pressed_key consumes).2 ++
        s.dispatch_nav_key s.pressed_key .LONG_PRESSED) :=
    (if_neg hkey).trans (if_neg helaps)
  have hemit : (s.emit_long_key s.pressed_key consumes).2.Sublist
      [.global_listener s.pressed_key true consumes, .long_listener s.pressed_key] := by
    simp only [emit_long_key, emit_global]
    by_cases hg : s.config.global_key_listener <;> by_cases hl : s.config.long_key_listener <;>
      cases consumes <;> simp [hg, hl]
  have hsend : ∀ o ∈ (s.emit_long_key s.pressed_key consumes).2, s.Sendable o := by
    intro o ho
    have hmem := hemit.subset ho
    simp only [List.mem_cons, List.not_mem_nil, or_false] at hmem
    rcases hmem with rfl | rfl <;> trivial
  rw [hcb]
  split
  · exact ⟨rfl, 0, by simp, by simp⟩
  split
  · exact ⟨rfl, 0, by simp, by simp⟩
  split
  · exact ⟨rfl, 0, hemit.trans (by simp), hsend⟩
  · refine ⟨rfl, ?_⟩
    rcases s.dispatch_nav_key_cases s.pressed_key with hnone | ⟨i, hi⟩
    · exact ⟨0, by simpa [hnone] using hemit.trans (by simp), by simpa [hnone] using hsend⟩
    · refine ⟨i, by simpa [hi] using hemit.append (List.Sublist.refl _), fun o ho => ?_⟩
      rcases List.mem_append.1 ho with ho | ho
      · exact hsend o ho
      · obtain rfl : o = .nav s.pressed_key i .LONG_PRESSED := by simpa [hi] using ho
        exact ⟨by simp_all, hi⟩

end KeyRouterState

/-! ## The invariant -/

/-- The state agrees with the hold of its pressed key. -/
structure Follows (s : KeyRouterState) (x : Hold) : Prop where
  started : ∃ p, x.since ≤ p ∧ p ≤ s.now ∧ s.press_started_at = .ofNat p
  unsent : s.long_press_sent = false → ∀ o ∈ x.seen, ¬ o.LongPress s.pressed_key
  consumed : s.pressed_key_consumed_by_global = true → x.Consumed s.pressed_key
  unreleased : ∀ o ∈ x.seen, ¬ o.Release s.pressed_key

/-- The router follows the hold of its pressed key, and owes no other key a release. -/
structure Tracks (s : KeyRouterState) (h : List Obs) : Prop where
  zero_up : held 0 h = none
  idle : s.pressed_key = 0 → s.long_press_timer ≠ some true
  follows : s.pressed_key ≠ 0 → ∃ x, held s.pressed_key h = some x ∧ Follows s x
  owed : ∀ k x, held k h = some x → x.Pressed k → ¬ x.Consumed k → s.pressed_key = k
  sendable : ∀ o ∈ h, s.Sendable o

section Tracks

variable {s : KeyRouterState} {h : List Obs}

/-- Before any event the router is idle. -/
theorem tracks_reset : Tracks s.reset_key_router_state [] where
  zero_up := rfl
  idle := fun _ => by
    cases ht : s.long_press_timer <;> simp [KeyRouterState.reset_key_router_state, ht]
  follows := fun hkey => absurd rfl hkey
  owed := fun k x hx => absurd hx (by simp [held])
  sendable := by simp

theorem Tracks.elapse (ht : Tracks s h) (d : ℕ) : Tracks { s with now := s.now + d } h :=
  { ht with
    follows := fun hkey => by
      obtain ⟨x, hx, hf⟩ := ht.follows hkey
      obtain ⟨p, hsince, hnow, hp⟩ := hf.started
      exact ⟨x, hx, { hf with started := ⟨p, hsince, Nat.le_add_right_of_le hnow, hp⟩ }⟩ }

/-- What is sent later does not take `PRESSED` back, and does not add one. -/
theorem Hold.pressed_of_extend {x : Hold} {os : List Obs} {k : UInt32}
    (hos : ∀ i, .nav k i .PRESSED ∉ os) (hx : (x.extend os).Pressed k) : x.Pressed k := by
  obtain ⟨i, hi⟩ := hx
  exact ⟨i, (List.mem_append.1 hi).resolve_right (hos i)⟩

theorem Hold.Consumed.extend {x : Hold} {k : UInt32} (hx : x.Consumed k) (os : List Obs) :
    (x.extend os).Consumed k :=
  List.mem_append_left _ hx

/-- If no release is owed for the pressed key, none is owed for any key. -/
theorem Tracks.nothing_owed (ht : Tracks s h) (hcalm : s.Calm) {k : UInt32} {x : Hold}
    (hx : held k h = some x) (hpressed : x.Pressed k) : x.Consumed k := by
  by_contra hconsumed
  obtain rfl := ht.owed k x hx hpressed hconsumed
  obtain ⟨i, hi⟩ := hpressed
  have hsend := ht.sendable _ (held_seen_mem hx hi)
  rcases hcalm with hzero | hflag | hmodal | hbutton
  · rw [hzero, ht.zero_up] at hx
    exact absurd hx (by simp)
  · by_cases hzero : s.pressed_key = 0
    · rw [hzero, ht.zero_up] at hx
      exact absurd hx (by simp)
    obtain ⟨y, hy, hf⟩ := ht.follows hzero
    obtain rfl := Option.some.inj (hx.symm.trans hy)
    exact hconsumed (hf.consumed hflag)
  · exact absurd hsend.1 (by simp [hmodal])
  · exact absurd (hsend.2 .PRESSED) (by simp [hbutton])

/-- The pressed key is a key that is down. -/
theorem Tracks.pressed_ne_zero (ht : Tracks s h) {x : Hold}
    (hx : held s.pressed_key h = some x) : s.pressed_key ≠ 0 := by
  intro hzero
  rw [hzero, ht.zero_up] at hx
  exact absurd hx (by simp)

/-- What a press adds to the history of the key that is pressed. -/
theorem Follows.press {t : KeyRouterState} {y : Hold} {k : UInt32} {os : List Obs}
    (hkey : t.pressed_key = k) (hos : ∀ o ∈ os, s.OfPress k o)
    (hstarted : ∃ p, y.since ≤ p ∧ p ≤ t.now ∧ t.press_started_at = .ofNat p)
    (hunsent : t.long_press_sent = false → ∀ o ∈ y.seen, ¬ o.LongPress k)
    (hconsumed : t.pressed_key_consumed_by_global = true → (y.extend os).Consumed k)
    (hunreleased : ∀ o ∈ y.seen, ¬ o.Release k) : Follows t (y.extend os) := by
  subst hkey
  refine ⟨hstarted, fun hsent o ho => ?_, hconsumed, fun o ho => ?_⟩
  · rcases List.mem_append.1 ho with ho | ho
    · exact hunsent hsent o ho
    · exact (hos o ho).not_longPress _
  · rcases List.mem_append.1 ho with ho | ho
    · exact hunreleased o ho
    · exact (hos o ho).not_release _

/-- A press keeps `Tracks` if the router follows the hold of the key afterwards. -/
theorem Tracks.press {t : KeyRouterState} (ht : Tracks s h) {k : UInt32} {os : List Obs}
    (hk : k ≠ 0) (hos : ∀ o ∈ os, s.OfPress k o)
    (hguard : s.pressed_key = k ∨ s.Calm) (hkey : t.pressed_key = k)
    (hconfig : t.config = s.config)
    (hf : Follows t (((held k h).getD ⟨s.now, []⟩).extend os)) :
    Tracks t (h ++ .input k true s.now :: os) := by
  have hout : ∀ o ∈ os, o.Output := fun o ho => (hos o ho).output
  have hsend {o : Obs} (ho : s.Sendable o) : t.Sendable o := by
    cases o with
    | nav key i code =>
      exact ⟨hconfig ▸ ho.1, KeyRouterState.dispatch_nav_key_congr key hconfig.symm ▸ ho.2⟩
    | _ => trivial
  constructor
  · rw [held_other hk hout, ht.zero_up]
    rfl
  · exact fun hzero => absurd (hkey.symm.trans hzero) hk
  · intro _
    refine ⟨_, ?_, hf⟩
    rw [hkey, held_press hout]
    cases held k h <;> rfl
  · intro k' x hx hpressed hconsumed
    by_contra hne
    rw [hkey] at hne
    rw [held_other hne hout] at hx
    obtain ⟨y, hy, rfl⟩ := Option.map_eq_some_iff.1 hx
    have hpressed : y.Pressed k' := by
      refine Hold.pressed_of_extend (fun i hi => ?_) hpressed
      rcases (hos _ hi).2 with ⟨_, heq⟩ | heq | ⟨_, _, heq, _⟩ <;> simp_all
    have hconsumed : ¬ y.Consumed k' := fun hc => hconsumed (hc.extend os)
    rcases hguard with hpk | hcalm
    · exact hne (hpk.symm.trans (ht.owed k' y hy hpressed hconsumed))
    · exact hconsumed (ht.nothing_owed hcalm hy hpressed)
  · intro o ho
    rcases List.mem_append.1 ho with ho | ho
    · exact hsend (ht.sendable o ho)
    · rcases List.mem_cons.1 ho with rfl | ho
      · trivial
      · exact hsend (hos o ho).1

theorem Tracks.route_press (ht : Tracks s h) {k : UInt32} (consumes : Bool) (hk : k ≠ 0)
    (hguard : match held k h with
      | none => s.Calm
      | some _ => s.pressed_key = k ∧ (s.last_key_pressed = true ∨ s.long_press_sent = false)) :
    Tracks (s.route_key_state k true consumes).1
      (h ++ .input k true s.now :: (s.route_key_state k true consumes).2) := by
  have hos : ∀ o ∈ (s.on_press k consumes).2, s.OfPress k o := fun o => s.mem_on_press k
  show Tracks { (s.on_press k consumes).1 with last_key := k, last_key_pressed := true }
    (h ++ .input k true s.now :: (s.on_press k consumes).2)
  have hcalm : s.pressed_key = k ∨ s.Calm := by
    cases hheld : held k h with
    | none => exact .inr (by simpa [hheld] using hguard)
    | some y => exact .inl (by simp_all)
  by_cases hnew : s.last_key_pressed = false ∨ k ≠ s.pressed_key
  · -- the router begins a hold: the key was up, or its repeated press came after a release
    have hconsumed : (s.emit_key k consumes).1 = true →
        (Obs.global_listener k false true) ∈ (s.on_press k consumes).2 := fun hc =>
      s.emit_key_sub_on_press k hnew _ (s.emit_key_consumed k hc)
    rw [s.on_press_new k hnew]
    refine ht.press hk hos hcalm rfl rfl ?_
    cases hheld : held k h with
    | none =>
      exact Follows.press rfl hos ⟨s.now, Nat.le_refl _, Nat.le_refl _, rfl⟩ (by simp)
        (fun hc => List.mem_append_right _ (hconsumed hc)) (by simp)
    | some y =>
      obtain ⟨rfl, hlast⟩ : s.pressed_key = k ∧ _ := by simpa [hheld] using hguard
      obtain ⟨x, hx, hf⟩ := ht.follows hk
      obtain rfl := Option.some.inj (hx.symm.trans hheld)
      obtain ⟨p, hsince, hnow, _⟩ := hf.started
      have hunsent : s.long_press_sent = false := by simp_all
      exact Follows.press rfl hos ⟨s.now, Nat.le_trans hsince hnow, Nat.le_refl _, rfl⟩
        (fun _ => hf.unsent hunsent) (fun hc => List.mem_append_right _ (hconsumed hc))
        hf.unreleased
  · -- the hold goes on
    obtain ⟨hlast, hkey⟩ : s.last_key_pressed = true ∧ k = s.pressed_key := by simpa using hnew
    rw [s.on_press_again k hlast hkey]
    refine ht.press hk hos hcalm hkey.symm rfl ?_
    subst hkey
    obtain ⟨x, hx, hf⟩ := ht.follows hk
    rw [hx]
    exact Follows.press rfl hos hf.started hf.unsent (fun hc => (hf.consumed hc).extend _)
      hf.unreleased

/-- A release of a key that is not the pressed key is ignored. -/
theorem Tracks.ignore (ht : Tracks s h) {k : UInt32} {now : ℕ} (hk : k ≠ 0)
    (hkey : s.pressed_key ≠ k) :
    Tracks { s with last_key := k, last_key_pressed := false } (h ++ [.input k false now]) where
  zero_up := by rw [held_other hk (by simp), ht.zero_up]; rfl
  idle := ht.idle
  follows hzero := by
    obtain ⟨x, hx, hf⟩ := ht.follows hzero
    refine ⟨x, ?_, { hf with }⟩
    rw [held_other (Ne.symm hkey) (by simp), hx]
    simp [Hold.extend]
  owed k' x hx hpressed hconsumed := by
    by_cases hkk : k = k'
    · subst hkk
      rw [held_release (by simp)] at hx
      exact absurd hx (by simp)
    · rw [held_other hkk (by simp)] at hx
      obtain ⟨y, hy, rfl⟩ := Option.map_eq_some_iff.1 hx
      exact ht.owed k' y hy (Hold.pressed_of_extend (by simp) hpressed)
        fun hc => hconsumed (hc.extend [])
  sendable o ho := by
    rcases List.mem_append.1 ho with ho | ho
    · exact ht.sendable o ho
    · obtain rfl := List.mem_singleton.1 ho
      trivial

theorem Tracks.route_release (ht : Tracks s h) {k : UInt32} (consumes : Bool) (hk : k ≠ 0)
    (hguard : s.pressed_key = k → s.last_key_pressed = true) :
    Tracks (s.route_key_state k false consumes).1
      (h ++ .input k false s.now :: (s.route_key_state k false consumes).2) := by
  by_cases hkey : s.pressed_key = k
  · have hreleases : s.releases k = true := by simp [KeyRouterState.releases, hguard hkey, hkey]
    have hos : ∀ o ∈ (s.on_release k).2, s.Sendable o ∧ _ := fun o => s.mem_on_release k
    have hout : ∀ o ∈ (s.on_release k).2, o.Output := by
      intro o ho
      rcases (hos o ho).2 with rfl | ⟨_, rfl⟩ <;> trivial
    have hroute : s.route_key_state k false consumes =
        ({ (s.on_release k).1 with last_key := k, last_key_pressed := false },
          (s.on_release k).2) := by
      simp [KeyRouterState.route_key_state, hreleases]
    rw [hroute]
    constructor
    · rw [held_other hk hout, ht.zero_up]
      rfl
    · intro _
      show s.long_press_timer.map (fun _ => false) ≠ some true
      cases s.long_press_timer <;> simp
    · exact fun hzero => absurd rfl hzero
    · intro k' x hx hpressed hconsumed
      by_cases hkk : k = k'
      · subst hkk
        rw [held_release hout] at hx
        exact absurd hx (by simp)
      · rw [held_other hkk hout] at hx
        obtain ⟨y, hy, rfl⟩ := Option.map_eq_some_iff.1 hx
        have hpressed : y.Pressed k' := by
          refine Hold.pressed_of_extend (fun i hi => ?_) hpressed
          rcases (hos _ hi).2 with heq | ⟨_, heq⟩ <;> simp at heq
        exact absurd (hkey.symm.trans (ht.owed k' y hy hpressed
          fun hc => hconsumed (hc.extend _))) hkk
    · intro o ho
      rcases List.mem_append.1 ho with ho | ho
      · exact ht.sendable o ho
      · rcases List.mem_cons.1 ho with rfl | ho
        · trivial
        · exact (hos o ho).1
  · have hignored : s.releases k = false := by simp [KeyRouterState.releases, hkey]
    simpa [KeyRouterState.route_key_state, hignored] using ht.ignore hk hkey

theorem Tracks.tick (ht : Tracks s h) (consumes : Bool) :
    Tracks (s.long_press_timer_cb consumes).1 (h ++ (s.long_press_timer_cb consumes).2) := by
  rcases s.long_press_timer_cb_cases consumes with hidle | ⟨hkey, -, -, hstate, i, hsub, hsend⟩
  · simpa [hidle] using ht
  · have hlong : ∀ o ∈ (s.long_press_timer_cb consumes).2, o.Output ∧
        (∀ k i, o ≠ .nav k i .PRESSED) ∧ ∀ k, ¬ o.Release k := by
      intro o ho
      have hmem := hsub.subset ho
      simp only [List.mem_cons, List.not_mem_nil, or_false] at hmem
      rcases hmem with rfl | rfl | rfl <;> simp [Obs.Output, Obs.Release]
    have hout := fun o ho => (hlong o ho).1
    rw [hstate]
    constructor
    · rw [held_append_outputs hout, ht.zero_up]
      rfl
    · exact ht.idle
    · intro _
      obtain ⟨x, hx, hf⟩ := ht.follows hkey
      refine ⟨x.extend (s.long_press_timer_cb consumes).2, ?_, hf.started, by simp,
        fun hc => (hf.consumed hc).extend _, fun o ho => ?_⟩
      · rw [held_append_outputs hout, hx]
        rfl
      rcases List.mem_append.1 ho with ho | ho
      · exact hf.unreleased o ho
      · exact (hlong o ho).2.2 _
    · intro k x hx hpressed hconsumed
      rw [held_append_outputs hout] at hx
      obtain ⟨y, hy, rfl⟩ := Option.map_eq_some_iff.1 hx
      exact ht.owed k y hy
        (Hold.pressed_of_extend (fun i hi => (hlong _ hi).2.1 k i rfl) hpressed)
        fun hc => hconsumed (hc.extend _)
    · intro o ho
      rcases List.mem_append.1 ho with ho | ho
      · exact ht.sendable o ho
      · exact hsend o ho

end Tracks

/-- One event that does not disturb the router keeps `Tracks`. -/
theorem tracks_next (c : Config KeyRouterState Obs) (e : Event) (ht : Tracks c.state c.history)
    (hg : Undisturbed c e) : Tracks (router.next c e).state (router.next c e).history := by
  obtain ⟨s, h⟩ := c
  obtain ⟨d, action⟩ := e
  have ht := ht.elapse d
  cases action with
  | key k pressed consumes =>
    cases pressed with
    | true => exact ht.route_press consumes hg.1 hg.2
    | false => exact ht.route_release consumes hg.1 hg.2
  | tick consumes =>
    show Tracks (KeyRouterState.step s ⟨d, .tick consumes⟩).1
      (h ++ (KeyRouterState.step s ⟨d, .tick consumes⟩).2)
    simp only [KeyRouterState.step]
    split
    · exact ht.tick consumes
    · simpa using ht

/-! ## The property from the invariant -/

/-- Only the timer sends long presses. -/
theorem long_press_step {s : KeyRouterState} {e : Event} {k : UInt32}
    (h : ∃ o ∈ (router.step s e).2, o.LongPress k) :
    s.pressed_key = k ∧ k ≠ 0 ∧ s.long_press_sent = false ∧
      K_LONG_PRESS_MS ≤ .ofNat (s.now + e.elapsed) - s.press_started_at ∧
      (router.step s e).1.now = s.now + e.elapsed ∧
      ∃ consumes i, (router.step s e).2.Sublist
        [.global_listener k true consumes, .long_listener k, .nav k i .LONG_PRESSED] := by
  obtain ⟨o, ho, hlong⟩ := h
  obtain ⟨d, action⟩ := e
  generalize ht : { s with now := s.now + d } = t
  cases action with
  | key key pressed consumes =>
    have hstep : (router.step s ⟨d, .key key pressed consumes⟩).2 =
        .input key pressed t.now :: (t.route_key_state key pressed consumes).2 := by subst ht; rfl
    rw [hstep] at ho
    rcases List.mem_cons.1 ho with rfl | ho
    · exact absurd hlong (by simp [Obs.LongPress])
    cases pressed with
    | true => exact absurd hlong ((t.mem_on_press key ho).not_longPress k)
    | false =>
      by_cases hreleases : t.releases key = true
      · have ho : o ∈ (t.on_release key).2 := by
          simpa [KeyRouterState.route_key_state, hreleases] using ho
        rcases (t.mem_on_release key ho).2 with rfl | ⟨_, rfl⟩ <;> simp [Obs.LongPress] at hlong
      · simp [KeyRouterState.route_key_state, hreleases] at ho
  | tick consumes =>
    have hstep : router.step s ⟨d, .tick consumes⟩ =
        if t.long_press_timer = some true then t.long_press_timer_cb consumes else (t, []) := by
      subst ht; rfl
    rw [hstep] at ho ⊢
    split at ho
    · rename_i htimer
      rw [if_pos htimer]
      rcases t.long_press_timer_cb_cases consumes with
        hidle | ⟨hkey, hsent, helaps, hst, i, hsub, -⟩
      · exact absurd ho (by simp [hidle])
      · have hk : t.pressed_key = k := by
          have hmem := hsub.subset ho
          simp only [List.mem_cons, List.not_mem_nil, or_false] at hmem
          rcases hmem with rfl | rfl | rfl <;> simpa [Obs.LongPress] using hlong
        subst hk ht
        exact ⟨rfl, hkey, hsent, helaps, by rw [hst], consumes, i, hsub⟩
    · exact absurd ho (by simp)

/-- The tick count of LVGL does not show more time than there was. -/
theorem elapsed_of_tick {p now : ℕ} (hp : p ≤ now)
    (h : K_LONG_PRESS_MS ≤ .ofNat now - .ofNat p) : p + K_LONG_PRESS_MS.toNat ≤ now := by
  have h : K_LONG_PRESS_MS.toNat ≤ (UInt32.ofNat now - UInt32.ofNat p).toNat := h
  rw [← UInt32.ofNat_sub hp, UInt32.toNat_ofNat'] at h
  have := Nat.mod_le (now - p) (2 ^ 32)
  omega

theorem keeps_holds_step (c : Config KeyRouterState Obs) (e : Event)
    (ht : Tracks c.state c.history) (hg : Undisturbed c e) : KeepsHolds c e where
  long k hlong := by
    obtain ⟨rfl, hk, hsent, helaps, hnow, consumes, i, hsub⟩ := long_press_step hlong
    obtain ⟨x, hx, hf⟩ := ht.follows hk
    refine ⟨⟨x, hx, ?_, ?_, hf.unsent hsent⟩, consumes, i, List.filter_sublist.trans hsub⟩
    · have hout : ∀ o ∈ (router.step c.state e).2, o.Output := by
        intro o ho
        have hmem := hsub.subset ho
        simp only [List.mem_cons, List.not_mem_nil, or_false] at hmem
        rcases hmem with rfl | rfl | rfl <;> trivial
      show (held c.state.pressed_key (c.history ++ (router.step c.state e).2)).isSome = true
      rw [held_append_outputs hout, hx]
      rfl
    · obtain ⟨p, hsince, hp, hstart⟩ := hf.started
      show x.since + _ ≤ (router.step c.state e).1.now
      rw [hstart] at helaps
      have := elapsed_of_tick (Nat.le_add_right_of_le hp) helaps
      omega
  release k consumes x haction hx hpressed hconsumed := by
    obtain ⟨s, h⟩ := c
    obtain ⟨d, action⟩ := e
    subst haction
    obtain rfl := ht.owed k x hx hpressed hconsumed
    obtain ⟨i, hi⟩ := hpressed
    obtain ⟨hmodal, hbutton⟩ := ht.sendable _ (held_seen_mem hx hi)
    obtain ⟨y, hy, hf⟩ := ht.follows (ht.pressed_ne_zero hx)
    obtain rfl := Option.some.inj (hx.symm.trans hy)
    have hflag : s.pressed_key_consumed_by_global = false := by
      by_contra hflag
      exact hconsumed (hf.consumed (by simpa using hflag))
    have hlast : s.last_key_pressed = true := hg.2 rfl
    have hstep : (router.step s ⟨d, .key s.pressed_key false consumes⟩).2 =
        .input s.pressed_key false (s.now + d) ::
          (KeyRouterState.on_release { s with now := s.now + d } s.pressed_key).2 := by
      simp [router, KeyRouterState.step, KeyRouterState.route_key_state, KeyRouterState.releases,
        hlast]
    refine ⟨hf.unreleased, i, ?_⟩
    show (router.step s _).2.filter _ = _
    rw [hstep, KeyRouterState.on_release_button { s with now := s.now + d } _ hmodal hflag hbutton]
    by_cases hlistener : s.config.key_release_listener <;> simp [hlistener]
  idle hup := by
    have hnext := tracks_next c e ht hg
    have hzero : (router.next c e).state.pressed_key = 0 := by
      by_contra hkey
      obtain ⟨x, hx, _⟩ := hnext.follows hkey
      exact absurd ((hup _).symm.trans hx) (by simp)
    exact ⟨hzero, hnext.idle hzero⟩

/-- Along a run whose events do not disturb the router, from the reset of any router, every step
keeps the holds of the keys. -/
theorem keeps_holds (s : KeyRouterState) (events : List Event)
    (h : router.Along Undisturbed ⟨s.reset_key_router_state, []⟩ events) :
    router.Along KeepsHolds ⟨s.reset_key_router_state, []⟩ events := by
  have hrun : ∀ (c : Config KeyRouterState Obs), Tracks c.state c.history →
      router.Along Undisturbed c events → router.Along KeepsHolds c events := by
    clear h
    induction events with
    | nil => exact fun _ _ _ => trivial
    | cons e events ih =>
      exact fun c ht hes => ⟨keeps_holds_step c e ht hes.1, ih _ (tracks_next c e ht hes.1) hes.2⟩
  exact hrun _ tracks_reset h

/-- The first key is consumed by the global listener, so the second one may overlap it. -/
theorem keeps_holds_consumed_first :
    router.Along KeepsHolds ⟨KeyRouterState.reset_key_router_state
        { config := { global_key_listener := true, nav_buttons := fun _ => true } }, []⟩
      [⟨0, .key 'a'.val true true⟩, ⟨100, .key LV_KEY_ESC true false⟩, ⟨800, .tick false⟩,
        ⟨50, .key LV_KEY_ESC false false⟩, ⟨50, .key 'a'.val false false⟩] :=
  keeps_holds _ _ ⟨⟨by decide, .inl rfl⟩, ⟨by decide, .inr (.inl rfl)⟩, trivial,
    ⟨by decide, fun _ => rfl⟩, ⟨by decide, fun h => absurd h (by decide)⟩, trivial⟩

/-! ## Two keys that overlap -/

/-- The second key is pressed during the hold of the first one, and released after it. -/
def overlapping_run : List Event :=
  [⟨0, .key 'a'.val true false⟩, ⟨100, .key 'b'.val true false⟩, ⟨100, .key 'a'.val false false⟩,
    ⟨100, .key 'b'.val false false⟩, ⟨700, .tick false⟩]

/-- A long press of a key that is up, from two keys that overlap. -/
theorem phantom_long_press :
    ¬ ∀ (s : KeyRouterState) (events : List Event),
      router.Along KeepsHolds ⟨s.reset_key_router_state, []⟩ events := by
  intro h
  have hrun := h { config := { long_key_listener := true } } overlapping_run
  obtain ⟨-, -, -, -, hlast, -⟩ := hrun
  obtain ⟨⟨x, hx, -⟩, -⟩ := hlast.long 'b'.val ⟨.long_listener 'b'.val, by decide, rfl⟩
  have hup : held 'b'.val (router.run ⟨KeyRouterState.reset_key_router_state
      { config := { long_key_listener := true } }, []⟩
      (overlapping_run.take 4)).history = none := by
    decide
  exact absurd (hup.symm.trans hx) (by simp)

end FactoryTest.Input
