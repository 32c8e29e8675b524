import Mathlib.Data.Int.Notation
import Mathlib.Data.List.Infix
import Mathlib.Tactic.Common

/-!
# The text from the fixture's USB keyboard

`receive_usb_hid_text` waits for a text that the device under test types.

**Where it fails.** `keycode_to_ascii` has no shifted digits, so shift and `1` is taken for `1`;
and one flag stands for both shift keys, so that a key typed with the right one held is read as
without if the left one was released before (`shifted_digit_accepted`). The empty text is
never received.

**Where it holds** (`receive_exact_iff`). Until the text is decided no such key is pressed with
the next character on it (`Misleads`). While that is so, the code has received what was typed.
-/

namespace FactoryTest.UsbHid

/-! ## The code -/

def EV_KEY : UInt16 := 1
def KEY_1 : UInt16 := 2
def KEY_9 : UInt16 := 10
def KEY_0 : UInt16 := 11
def KEY_MINUS : UInt16 := 12
def KEY_LEFTSHIFT : UInt16 := 42
def KEY_RIGHTSHIFT : UInt16 := 54

/-- The letters of `keycode_to_ascii`, from `KEY_A` to `KEY_Z`. -/
def letters : List (UInt16 × Char) :=
  [(30, 'a'), (48, 'b'), (46, 'c'), (32, 'd'), (18, 'e'), (33, 'f'), (34, 'g'), (35, 'h'),
    (23, 'i'), (36, 'j'), (37, 'k'), (38, 'l'), (50, 'm'), (49, 'n'), (24, 'o'), (25, 'p'),
    (16, 'q'), (19, 'r'), (31, 's'), (20, 't'), (22, 'u'), (47, 'v'), (17, 'w'), (45, 'x'),
    (21, 'y'), (44, 'z')]

def keycode_to_ascii (code : UInt16) (shift : Bool) : Char :=
  match letters.lookup code with
  | some letter => if shift then letter.toUpper else letter
  | none =>
    if KEY_1 ≤ code ∧ code ≤ KEY_9 then Char.ofNat ('1'.toNat + (code - KEY_1).toNat)
    else if code = KEY_0 then '0'
    else if code = KEY_MINUS then if shift then '_' else '-'
    else '\x00'

/-- An `input_event`, and which of the inputs it was read from. -/
structure InputEvent where
  device : ℕ
  type : UInt16
  code : UInt16
  value : ℤ

/-- The variables of `receive_usb_hid_text`; of `inputs`, how many they are. -/
structure Hid where
  inputs : ℕ := 0
  shift : Bool := false
  ready_sent : Bool := false
  received : List Char := []
  error_message : String := ""

/-- What the function returns and leaves. -/
structure Outcome where
  result : Bool
  received : List Char
  error_message : String

/-- One turn of the loop of `read`; an error is a return. -/
def read_event (expected : List Char) (s : Hid) (event : InputEvent) : Except Outcome Hid :=
  if event.type ≠ EV_KEY then .ok s
  else if event.code = KEY_LEFTSHIFT ∨ event.code = KEY_RIGHTSHIFT then
    .ok { s with shift := event.value ≠ 0 }
  else if event.value ≠ 1 then .ok s
  else
    let ch := keycode_to_ascii event.code s.shift
    if ch = '\x00' then .ok s
    else
      let received := s.received ++ [ch]
      if received = expected then .error ⟨true, received, s.error_message⟩
      else if expected.length ≤ received.length ∨ expected.take received.length ≠ received then
        .error ⟨false, received, "USB HID payload mismatch: " ++ String.ofList received⟩
      else .ok { s with received := received }

/-- One turn of the main loop: whether the test is canceled, how many event files of the device
can be opened, the error of `poll`, and what is read from the inputs, one after the other. -/
structure Turn where
  canceled : Bool := false
  opened : ℕ := 0
  poll_error : Option String := none
  events : List InputEvent := []

/-- The ready action is called once. It is none, or it gives a result and a message. -/
def send_ready (ready_action : Option (Bool × String)) (s : Hid) : Except Outcome Hid :=
  if s.ready_sent then .ok s
  else match ready_action with
    | some (true, message) => .ok { s with ready_sent := true, error_message := message }
    | some (false, message) =>
      .error ⟨false, s.received, if message = "" then "USB HID ready action failed" else message⟩
    | none => .error ⟨false, s.received, "USB HID ready action failed"⟩

def run_turn (expected : List Char) (ready_action : Option (Bool × String)) (s : Hid)
    (turn : Turn) : Except Outcome Hid :=
  if turn.canceled then .error ⟨false, s.received, "USB HID receive canceled"⟩
  else
    let inputs := if s.inputs = 0 then turn.opened else s.inputs
    if inputs = 0 then .ok s
    else do
      let s ← send_ready ready_action { s with inputs := inputs }
      match turn.poll_error with
      | some message => .error ⟨false, s.received, message⟩
      | none => turn.events.foldlM (read_event expected) s

/-- `receive_usb_hid_text`, with the turns before the deadline. -/
def receive_usb_hid_text (expected : List Char) (ready_action : Option (Bool × String))
    (turns : List Turn) : Outcome :=
  match turns.foldlM (run_turn expected ready_action) {} with
  | .error outcome => outcome
  | .ok s => ⟨false, s.received,
      "timed out waiting for USB HID payload; received='" ++ String.ofList s.received ++ "'"⟩

/-! ## The layout -/

/-- The keys of a US keyboard for letters, digits and `-`: without shift, and with it. -/
def us_keys : List (UInt16 × Char × Char) :=
  [(2, '1', '!'), (3, '2', '@'), (4, '3', '#'), (5, '4', '$'), (6, '5', '%'), (7, '6', '^'),
    (8, '7', '&'), (9, '8', '*'), (10, '9', '('), (11, '0', ')'), (12, '-', '_'),
    (16, 'q', 'Q'), (17, 'w', 'W'), (18, 'e', 'E'), (19, 'r', 'R'), (20, 't', 'T'),
    (21, 'y', 'Y'), (22, 'u', 'U'), (23, 'i', 'I'), (24, 'o', 'O'), (25, 'p', 'P'),
    (30, 'a', 'A'), (31, 's', 'S'), (32, 'd', 'D'), (33, 'f', 'F'), (34, 'g', 'G'),
    (35, 'h', 'H'), (36, 'j', 'J'), (37, 'k', 'K'), (38, 'l', 'L'), (44, 'z', 'Z'),
    (45, 'x', 'X'), (46, 'c', 'C'), (47, 'v', 'V'), (48, 'b', 'B'), (49, 'n', 'N'),
    (50, 'm', 'M')]

/-- The shift keys that are held, each with its device. -/
abbrev Held := List (ℕ × UInt16)

/-- A shift key goes down, or up. -/
def IsShift (event : InputEvent) : Prop :=
  event.type = EV_KEY ∧ (event.code = KEY_LEFTSHIFT ∨ event.code = KEY_RIGHTSHIFT)

instance (event : InputEvent) : Decidable (IsShift event) := by
  unfold IsShift
  infer_instance

def hold (held : Held) (event : InputEvent) : Held :=
  if IsShift event then
    if event.value ≠ 0 then (event.device, event.code) :: held
    else held.filter (· ≠ (event.device, event.code))
  else held

/-- The character of an event, if it is a press of a key that has one. -/
def character (held : Held) (event : InputEvent) : Option Char :=
  if event.type = EV_KEY ∧ event.value = 1 then
    (us_keys.lookup event.code).map fun key => if held = [] then key.1 else key.2
  else none

/-- What is typed, when these shift keys are held at first. -/
def typed (held : Held) : List InputEvent → List Char
  | [] => []
  | event :: events => (character held event).toList ++ typed (hold held event) events

/-! ## The code against the layout -/

theorem mem_of_lookup {code : UInt16} {key : Char × Char} (h : us_keys.lookup code = some key) :
    (code, key) ∈ us_keys := by
  obtain ⟨front, back, heq, -⟩ := List.lookup_eq_some_iff.1 h
  rw [heq]
  exact List.mem_append_right _ List.mem_cons_self

/-- The code has the layout's characters, but for shifted digits. -/
theorem keycode_to_ascii_of_lookup {code : UInt16} {key : Char × Char}
    (h : us_keys.lookup code = some key) (shift : Bool) :
    keycode_to_ascii code shift =
        (if key.1.isDigit = true ∨ shift = false then key.1 else key.2) ∧
      keycode_to_ascii code shift ≠ '\x00' ∧ key.1 ≠ key.2 ∧
      ¬ (code = KEY_LEFTSHIFT ∨ code = KEY_RIGHTSHIFT) := by
  have htable : ∀ entry ∈ us_keys, ∀ shift,
      keycode_to_ascii entry.1 shift =
          (if entry.2.1.isDigit = true ∨ shift = false then entry.2.1 else entry.2.2) ∧
        keycode_to_ascii entry.1 shift ≠ '\x00' ∧ entry.2.1 ≠ entry.2.2 ∧
        ¬ (entry.1 = KEY_LEFTSHIFT ∨ entry.1 = KEY_RIGHTSHIFT) := by decide +kernel
  exact htable _ (mem_of_lookup h) shift

/-- Keys that are not of the layout have no character. -/
theorem keycode_to_ascii_of_none {code : UInt16} (h : us_keys.lookup code = none) (shift : Bool) :
    keycode_to_ascii code shift = '\x00' := by
  have hcode : ∀ entry ∈ us_keys, code ≠ entry.1 := by
    intro entry hentry
    simpa using List.lookup_eq_none_iff.1 h entry hentry
  have hletter : letters.lookup code = none := by
    have hsub : ∀ letter ∈ letters, ∃ entry ∈ us_keys, entry.1 = letter.1 := by decide +kernel
    rw [List.lookup_eq_none_iff]
    intro letter hmem
    obtain ⟨entry, hentry, heq⟩ := hsub letter hmem
    simpa [← heq] using hcode entry hentry
  have hdigit : ¬ (KEY_1 ≤ code ∧ code ≤ KEY_9) := by
    have hdigits : ∀ n < 9, ∃ entry ∈ us_keys, entry.1 = UInt16.ofNat (n + 2) := by decide +kernel
    rintro ⟨hlow, hhigh⟩
    rw [UInt16.le_iff_toNat_le] at hlow hhigh
    have hlow : 2 ≤ code.toNat := hlow
    have hhigh : code.toNat ≤ 10 := hhigh
    obtain ⟨entry, hentry, heq⟩ := hdigits (code.toNat - 2) (by omega)
    rw [Nat.sub_add_cancel hlow, UInt16.ofNat_toNat] at heq
    exact hcode entry hentry heq.symm
  have hzero : code ≠ KEY_0 := hcode (11, '0', ')') (by decide)
  have hminus : code ≠ KEY_MINUS := hcode (12, '-', '_') (by decide)
  unfold keycode_to_ascii
  rw [hletter]
  simp only
  rw [if_neg hdigit, if_neg hzero, if_neg hminus]

/-- The flag of the code after the event. -/
def flag (shift : Bool) (event : InputEvent) : Bool :=
  if IsShift event then event.value ≠ 0 else shift

/-- The flag is set only while a shift key is held. -/
theorem flag_held {shift : Bool} {held : Held} (h : shift = true → held ≠ []) (event : InputEvent) :
    flag shift event = true → hold held event ≠ [] := by
  unfold flag hold
  split_ifs with hshift hvalue
  · exact fun _ => List.cons_ne_nil _ _
  · exact fun hset => absurd (of_decide_eq_true hset) hvalue
  · exact h

/-- What is not typed leaves the text as it is. -/
theorem read_event_of_none {held : Held} {event : InputEvent} (hnone : character held event = none)
    (expected : List Char) (s : Hid) :
    read_event expected s event = .ok { s with shift := flag s.shift event } := by
  unfold character at hnone
  unfold read_event flag
  by_cases htype : event.type = EV_KEY
  · rw [if_neg (not_not.2 htype)]
    by_cases hcode : event.code = KEY_LEFTSHIFT ∨ event.code = KEY_RIGHTSHIFT
    · have hshift : IsShift event := ⟨htype, hcode⟩
      rw [if_pos hcode, if_pos hshift]
    · have hshift : ¬ IsShift event := fun h => hcode h.2
      rw [if_neg hcode, if_neg hshift]
      by_cases hvalue : event.value = 1
      · rw [if_pos ⟨htype, hvalue⟩, Option.map_eq_none_iff] at hnone
        rw [if_neg (not_not.2 hvalue)]
        dsimp only
        rw [keycode_to_ascii_of_none hnone, if_pos rfl]
      · rw [if_pos hvalue]
  · have hshift : ¬ IsShift event := fun h => htype h.1
    rw [if_pos htype, if_neg hshift]

/-- A typed character is one of the two on its key. The code reads one of them too. -/
theorem read_event_of_some {held : Held} {event : InputEvent} {c : Char}
    (hsome : character held event = some c) :
    event.type = EV_KEY ∧ event.value = 1 ∧ ¬ IsShift event ∧
      ∃ key, us_keys.lookup event.code = some key ∧ c = (if held = [] then key.1 else key.2) ∧
        ∀ expected s, read_event expected s event =
          let received := s.received ++ [keycode_to_ascii event.code s.shift]
          if received = expected then .error ⟨true, received, s.error_message⟩
          else if expected.length ≤ received.length ∨
              expected.take received.length ≠ received then
            .error ⟨false, received, "USB HID payload mismatch: " ++ String.ofList received⟩
          else .ok { s with received := received } := by
  unfold character at hsome
  by_cases hpress : event.type = EV_KEY ∧ event.value = 1
  case neg =>
    rw [if_neg hpress] at hsome
    cases hsome
  rw [if_pos hpress] at hsome
  obtain ⟨key, hkey, rfl⟩ := Option.map_eq_some_iff.1 hsome
  have htable (shift : Bool) := keycode_to_ascii_of_lookup hkey shift
  refine ⟨hpress.1, hpress.2, fun h => (htable false).2.2.2 h.2, key, hkey, rfl, ?_⟩
  intro expected s
  unfold read_event
  rw [if_neg (not_not.2 hpress.1), if_neg (htable false).2.2.2, if_neg (not_not.2 hpress.2)]
  dsimp only
  rw [if_neg (htable s.shift).2.1]

/-! ## Whole runs -/

/-- The code has returned by the end of the events, with this result. -/
def returned (expected : List Char) (s : Hid) (events : List InputEvent) : Option Bool :=
  match events.foldlM (read_event expected) s with
  | .error outcome => some outcome.result
  | .ok _ => none

/-- No text that begins with this one begins with the expected text. -/
def Impossible (expected text : List Char) : Prop := ¬ text <+: expected ∧ ¬ expected <+: text

/-- A shift key is held, and the next character is one of the two on the pressed key, which is a
digit's, or the flag of the code is off: the last change of a shift key was a release. -/
def Misread (held : Held) (shift : Bool) (event : InputEvent) (next : Char) : Prop :=
  event.type = EV_KEY ∧ event.value = 1 ∧ held ≠ [] ∧
    ∃ key, us_keys.lookup event.code = some key ∧ (key.1.isDigit = true ∨ shift = false) ∧
      (next = key.1 ∨ next = key.2)

/-- Such a key is pressed when what is typed so far is the beginning of the expected text. The
text that is typed already is left out. -/
def Misleads (expected : List Char) (held : Held) (shift : Bool) (events : List InputEvent) :
    Prop :=
  ∃ front event back next more, events = front ++ event :: back ∧
    expected = typed held front ++ next :: more ∧
    Misread (front.foldl hold held) (front.foldl flag shift) event next

theorem returned_nil (expected : List Char) (s : Hid) : returned expected s [] = none := rfl

theorem returned_of_error {expected : List Char} {s : Hid} {event : InputEvent} {outcome : Outcome}
    (h : read_event expected s event = .error outcome) (events : List InputEvent) :
    returned expected s (event :: events) = some outcome.result := by
  unfold returned
  rw [List.foldlM_cons, h]
  rfl

theorem returned_of_ok {expected : List Char} {s s' : Hid} {event : InputEvent}
    (h : read_event expected s event = .ok s') (events : List InputEvent) :
    returned expected s (event :: events) = returned expected s' events := by
  unfold returned
  rw [List.foldlM_cons, h]
  rfl

/-- What the code reads is what was typed, exactly if the key is not one that is misread. -/
theorem misread_iff {held : Held} {shift : Bool} (hflag : shift = true → held ≠ [])
    {event : InputEvent} {c : Char} (hc : character held event = some c) (next : Char) :
    Misread held shift event next ↔
      ¬ (keycode_to_ascii event.code shift = next ↔ c = next) := by
  obtain ⟨htype, hvalue, -, key, hkey, hchar, -⟩ := read_event_of_some hc
  obtain ⟨hcode, -, hne, -⟩ := keycode_to_ascii_of_lookup hkey shift
  have hmisread : Misread held shift event next ↔ held ≠ [] ∧
      (key.1.isDigit = true ∨ shift = false) ∧ (next = key.1 ∨ next = key.2) := by
    constructor
    · rintro ⟨-, -, hheld, key', hkey', h⟩
      obtain rfl := Option.some.inj (hkey.symm.trans hkey')
      exact ⟨hheld, h⟩
    · rintro ⟨hheld, h⟩
      exact ⟨htype, hvalue, hheld, key, hkey, h⟩
  rw [hmisread, hcode, hchar]
  by_cases hheld : held = []
  · have hoff : shift = false := Bool.eq_false_iff.2 fun h => hflag h hheld
    simp [hheld, hoff]
  · by_cases hread : key.1.isDigit = true ∨ shift = false
    · rw [if_pos hread, if_neg hheld]
      constructor
      · rintro ⟨-, -, rfl | rfl⟩ hiff
        · exact hne (hiff.1 rfl).symm
        · exact hne (hiff.2 rfl)
      · intro hiff
        refine ⟨hheld, hread, ?_⟩
        by_contra hnext
        rw [not_or] at hnext
        exact hiff (iff_of_false (Ne.symm hnext.1) (Ne.symm hnext.2))
    · rw [if_neg hread, if_neg hheld]
      simp [hread]

theorem misleads_nil_text (held : Held) (shift : Bool) (events : List InputEvent) :
    ¬ Misleads [] held shift events := by
  rintro ⟨front, event, back, next, more, -, htext, -⟩
  simp at htext

/-- The misread key is pressed now or later. -/
theorem misleads_cons (text : List Char) (held : Held) (shift : Bool) (event : InputEvent)
    (events : List InputEvent) : Misleads text held shift (event :: events) ↔
      (∃ next more, text = next :: more ∧ Misread held shift event next) ∨
        ∃ text', text = (character held event).toList ++ text' ∧
          Misleads text' (hold held event) (flag shift event) events := by
  constructor
  · rintro ⟨front, pressed, back, next, more, hevents, htext, hmisread⟩
    cases front with
    | nil =>
      obtain ⟨rfl, -⟩ := List.cons.inj hevents
      exact .inl ⟨next, more, htext, hmisread⟩
    | cons first front =>
      obtain ⟨rfl, hrest⟩ := List.cons.inj hevents
      rw [typed, List.append_assoc] at htext
      exact .inr ⟨_, htext, front, pressed, back, next, more, hrest, rfl, hmisread⟩
  · rintro (⟨next, more, htext, hmisread⟩ |
      ⟨text', htext, front, pressed, back, next, more, hevents, htext', hmisread⟩)
    · exact ⟨[], event, events, next, more, rfl, htext, hmisread⟩
    · refine ⟨event :: front, pressed, back, next, more, ?_, ?_, hmisread⟩
      · rw [hevents, List.cons_append]
      · rw [htext, htext', typed, List.append_assoc]

/-- A character that is read is the next one, or the code returns. -/
theorem read_event_next {held : Held} {event : InputEvent} {c next : Char} {more : List Char}
    (hc : character held event = some c) {expected : List Char} {s : Hid}
    (hexpected : expected = s.received ++ next :: more) :
    (keycode_to_ascii event.code s.shift ≠ next →
        ∃ outcome, read_event expected s event = .error outcome ∧ outcome.result = false) ∧
      (keycode_to_ascii event.code s.shift = next →
        (more = [] → ∃ outcome, read_event expected s event = .error outcome ∧
          outcome.result = true) ∧
        (more ≠ [] → read_event expected s event =
          .ok { s with received := s.received ++ [next] })) := by
  obtain ⟨-, -, -, key, -, -, hread⟩ := read_event_of_some hc
  rw [hread, hexpected]
  have htake : (s.received ++ next :: more).take
      (s.received ++ [keycode_to_ascii event.code s.shift]).length = s.received ++ [next] := by
    rw [List.length_append, List.length_singleton, List.take_length_add_append,
      List.take_succ_cons, List.take_zero]
  dsimp only
  rw [htake]
  refine ⟨fun hne => ?_, fun heq => ⟨fun hmore => ?_, fun hmore => ?_⟩⟩
  · have hshort : s.received ++ [keycode_to_ascii event.code s.shift] ≠
        s.received ++ next :: more := by
      intro h
      exact hne (List.cons.inj (List.append_cancel_left h)).1
    have hmismatch : s.received ++ [next] ≠
        s.received ++ [keycode_to_ascii event.code s.shift] := by
      intro h
      exact hne (List.cons.inj (List.append_cancel_left h)).1.symm
    rw [if_neg hshort, if_pos (.inr hmismatch)]
    exact ⟨_, rfl, rfl⟩
  · rw [heq, hmore, if_pos rfl]
    exact ⟨_, rfl, rfl⟩
  · have hshort : s.received ++ [next] ≠ s.received ++ next :: more := by
      intro h
      exact hmore (List.cons.inj (List.append_cancel_left h)).2.symm
    have hroom : ¬ (s.received ++ next :: more).length ≤ (s.received ++ [next]).length := by
      have hpos := List.length_pos_of_ne_nil hmore
      simp only [List.length_append, List.length_cons, List.length_nil]
      omega
    rw [heq, if_neg hshort, if_neg (not_or.2 ⟨hroom, not_not.2 rfl⟩)]

theorem impossible_cons (c : Char) (expected text : List Char) :
    Impossible (c :: expected) (c :: text) ↔ Impossible expected text := by
  unfold Impossible
  rw [List.cons_prefix_cons, List.cons_prefix_cons, and_iff_right rfl, and_iff_right rfl]

theorem impossible_of_ne {c d : Char} (h : c ≠ d) (expected text : List Char) :
    Impossible (c :: expected) (d :: text) := by
  refine ⟨fun hbegins => ?_, fun hbegins => ?_⟩
  · exact h (List.cons_prefix_cons.1 hbegins).1.symm
  · exact h (List.cons_prefix_cons.1 hbegins).1

/-- The code has returned true when the text is typed, and false when it cannot be any more. -/
structure Agrees (expected : List Char) (s : Hid) (text : List Char) (held : Held)
    (events : List InputEvent) : Prop where
  accepts : returned expected s events = some true ↔ text <+: typed held events
  rejects : returned expected s events = some false ↔ Impossible text (typed held events)

/-- The code has returned false too early or too late. -/
def Wrong (expected : List Char) (s : Hid) (text : List Char) (held : Held)
    (events : List InputEvent) : Prop :=
  ∃ front, front <+: events ∧
    ¬ (returned expected s front = some false ↔ Impossible text (typed held front))

theorem typed_of_none {held : Held} {event : InputEvent} (h : character held event = none)
    (events : List InputEvent) : typed held (event :: events) = typed (hold held event) events := by
  rw [typed, h, Option.toList_none, List.nil_append]

theorem typed_of_some {held : Held} {event : InputEvent} {c : Char}
    (h : character held event = some c) (events : List InputEvent) :
    typed held (event :: events) = c :: typed (hold held event) events := by
  rw [typed, h, Option.toList_some, List.singleton_append]

/-- An event after which the code goes on is put before the events that come. -/
theorem Wrong.cons {expected : List Char} {s s' : Hid} {text text' : List Char} {held : Held}
    {event : InputEvent} {events : List InputEvent}
    (hread : read_event expected s event = .ok s')
    (htext : ∀ front, Impossible text (typed held (event :: front)) ↔
      Impossible text' (typed (hold held event) front))
    (h : Wrong expected s' text' (hold held event) events) :
    Wrong expected s text held (event :: events) := by
  obtain ⟨front, hfront, hwrong⟩ := h
  refine ⟨event :: front, List.cons_prefix_cons.2 ⟨rfl, hfront⟩, ?_⟩
  rw [returned_of_ok hread, htext]
  exact hwrong

/-- While the expected text is not decided, the code agrees with the layout unless it is misled. -/
theorem agrees_or_wrong {expected : List Char} {events : List InputEvent} :
    ∀ {held : Held} {s : Hid} {next : Char} {more : List Char},
      expected = s.received ++ next :: more → (s.shift = true → held ≠ []) →
      (¬ Misleads (next :: more) held s.shift events →
        Agrees expected s (next :: more) held events) ∧
      (Misleads (next :: more) held s.shift events →
        Wrong expected s (next :: more) held events) := by
  induction events with
  | nil =>
    intro held s next more hexpected hflag
    refine ⟨fun _ => ⟨?_, ?_⟩, ?_⟩
    · simp [returned_nil, typed]
    · simp [returned_nil, typed, Impossible]
    · rintro ⟨front, event, back, -, -, hevents, -⟩
      simp at hevents
  | cons event events ih =>
    intro held s next more hexpected hflag
    have hflag' := flag_held hflag event
    cases hc : character held event with
    | none =>
      have hread := read_event_of_none hc expected s
      have htyped := typed_of_none hc
      have hmisleads : Misleads (next :: more) held s.shift (event :: events) ↔
          Misleads (next :: more) (hold held event) (flag s.shift event) events := by
        rw [misleads_cons, hc]
        constructor
        · rintro (⟨_, _, -, htype, hvalue, -, key, hkey, -⟩ | ⟨text', htext, h⟩)
          · rw [character, if_pos ⟨htype, hvalue⟩, hkey] at hc
            cases hc
          · rwa [htext]
        · exact fun h => .inr ⟨_, rfl, h⟩
      obtain ⟨hagrees, hwrong⟩ := @ih (hold held event)
        { s with shift := flag s.shift event } next more hexpected hflag'
      rw [hmisleads]
      refine ⟨fun h => ?_, fun h => ?_⟩
      · obtain ⟨haccepts, hrejects⟩ := hagrees h
        refine ⟨?_, ?_⟩
        · rw [returned_of_ok hread, htyped]
          exact haccepts
        · rw [returned_of_ok hread, htyped]
          exact hrejects
      · exact (hwrong h).cons hread fun front => by rw [htyped]
    | some c =>
      have htyped := typed_of_some hc
      obtain ⟨hdiffer, hsame⟩ := read_event_next hc hexpected
      have hmisread := misread_iff hflag hc next
      have hnow (h : ¬ Misread held s.shift event next) :
          Misleads (next :: more) held s.shift (event :: events) ↔ c = next ∧
            Misleads more (hold held event) (flag s.shift event) events := by
        rw [misleads_cons, hc, Option.toList_some]
        constructor
        · rintro (⟨_, _, htext, hlater⟩ | ⟨text', htext, hlater⟩)
          · obtain ⟨rfl, rfl⟩ := List.cons.inj htext
            exact absurd hlater h
          · obtain ⟨rfl, rfl⟩ := List.cons.inj htext
            exact ⟨rfl, hlater⟩
        · rintro ⟨rfl, hlater⟩
          exact .inr ⟨more, rfl, hlater⟩
      have hfirst : Misread held s.shift event next →
          Misleads (next :: more) held s.shift (event :: events) := fun h =>
        (misleads_cons _ _ _ _ _).2 (.inl ⟨next, more, rfl, h⟩)
      by_cases hread : keycode_to_ascii event.code s.shift = next
      · by_cases hchar : c = next
        · -- The next character is typed and read.
          have hnot : ¬ Misread held s.shift event next := by
            rw [hmisread, not_not]
            exact iff_of_true hread hchar
          obtain ⟨-, -, hshift, -⟩ := read_event_of_some hc
          have hkept : flag s.shift event = s.shift := if_neg hshift
          subst hchar
          rw [hnow hnot, hkept]
          cases more with
          | nil =>
            obtain ⟨outcome, heq, hresult⟩ := (hsame hread).1 rfl
            have hbegins : [c] <+: typed held (event :: events) := by
              rw [htyped]
              exact List.cons_prefix_cons.2 ⟨rfl, List.nil_prefix⟩
            refine ⟨fun _ => ⟨?_, ?_⟩, fun h => absurd h.2 (misleads_nil_text _ _ _)⟩
            · rw [returned_of_error heq, hresult]
              exact iff_of_true rfl hbegins
            · rw [returned_of_error heq, hresult]
              exact iff_of_false (by decide) fun h => h.2 hbegins
          | cons next more =>
            have heq := (hsame hread).2 (List.cons_ne_nil next more)
            obtain ⟨hagrees, hwrong⟩ := @ih (hold held event)
              { s with received := s.received ++ [c] } next more
              (by rw [hexpected, List.append_assoc, List.singleton_append])
              (fun h => hflag' (by rw [hkept]; exact h))
            refine ⟨fun h => ?_, fun h => ?_⟩
            · obtain ⟨haccepts, hrejects⟩ := hagrees fun h' => h ⟨rfl, h'⟩
              refine ⟨?_, ?_⟩
              · rw [returned_of_ok heq, htyped, List.cons_prefix_cons, and_iff_right rfl]
                exact haccepts
              · rw [returned_of_ok heq, htyped, impossible_cons]
                exact hrejects
            · exact (hwrong h.2).cons heq fun front => by rw [htyped, impossible_cons]
        · -- Another character is typed, but the next one is read.
          have hnow : Misread held s.shift event next :=
            hmisread.2 fun h => hchar (h.1 hread)
          refine ⟨fun h => absurd (hfirst hnow) h, fun _ => ⟨[event], ?_, fun h => ?_⟩⟩
          · exact List.cons_prefix_cons.2 ⟨rfl, List.nil_prefix⟩
          · have hreturned := h.2 (by rw [htyped]; exact impossible_of_ne (Ne.symm hchar) _ _)
            by_cases hmore : more = []
            · obtain ⟨outcome, heq, hresult⟩ := (hsame hread).1 hmore
              rw [returned_of_error heq, hresult] at hreturned
              cases hreturned
            · rw [returned_of_ok ((hsame hread).2 hmore), returned_nil] at hreturned
              cases hreturned
      · obtain ⟨outcome, heq, hresult⟩ := hdiffer hread
        by_cases hchar : c = next
        · -- The next character is typed, but another one is read.
          have hnow : Misread held s.shift event next := hmisread.2 fun h => hread (h.2 hchar)
          refine ⟨fun h => absurd (hfirst hnow) h, fun _ => ⟨[event], ?_, fun h => ?_⟩⟩
          · exact List.cons_prefix_cons.2 ⟨rfl, List.nil_prefix⟩
          · have himpossible := h.1 (by rw [returned_of_error heq, hresult])
            rw [htyped, hchar] at himpossible
            exact himpossible.1 (List.cons_prefix_cons.2 ⟨rfl, List.nil_prefix⟩)
        · -- Neither is the next character.
          have hnot : ¬ Misread held s.shift event next := by
            rw [hmisread, not_not]
            exact iff_of_false hread hchar
          rw [hnow hnot]
          refine ⟨fun _ => ⟨?_, ?_⟩, fun h => absurd h.1 hchar⟩
          · rw [returned_of_error heq, hresult, htyped]
            exact iff_of_false (by decide) fun h => hchar (List.cons_prefix_cons.1 h).1.symm
          · rw [returned_of_error heq, hresult, htyped]
            exact iff_of_true rfl (impossible_of_ne (Ne.symm hchar) _ _)

/-! ## Turns -/

/-- What the inputs deliver: nothing before they are open. -/
def delivered (opened : Bool) : List Turn → List InputEvent
  | [] => []
  | turn :: turns =>
    if opened ∨ turn.opened ≠ 0 then turn.events ++ delivered true turns
    else delivered false turns

/-- The test is not canceled, `poll` has no error, and the ready action succeeds. -/
structure Listens (ready_action : Option (Bool × String)) (turns : List Turn) : Prop where
  ready_action : ∃ message, ready_action = some (true, message)
  canceled : ∀ turn ∈ turns, turn.canceled = false
  poll_error : ∀ turn ∈ turns, turn.poll_error = none

/-- Events leave the inputs as they are. -/
theorem read_event_kept {expected : List Char} {s s' : Hid} {event : InputEvent}
    (h : read_event expected s event = .ok s') :
    s'.inputs = s.inputs ∧ s'.ready_sent = s.ready_sent := by
  unfold read_event at h
  split_ifs at h
  · obtain rfl := Except.ok.inj h
    exact ⟨rfl, rfl⟩
  · obtain rfl := Except.ok.inj h
    exact ⟨rfl, rfl⟩
  · obtain rfl := Except.ok.inj h
    exact ⟨rfl, rfl⟩
  · dsimp only at h
    split_ifs at h
    all_goals
      obtain rfl := Except.ok.inj h
      exact ⟨rfl, rfl⟩

theorem foldlM_kept {expected : List Char} {events : List InputEvent} {s s' : Hid}
    (h : events.foldlM (read_event expected) s = .ok s') :
    s'.inputs = s.inputs ∧ s'.ready_sent = s.ready_sent := by
  induction events generalizing s with
  | nil =>
    obtain rfl := Except.ok.inj h
    exact ⟨rfl, rfl⟩
  | cons event events ih =>
    rw [List.foldlM_cons] at h
    cases hread : read_event expected s event with
    | error outcome =>
      rw [hread] at h
      cases h
    | ok next =>
      rw [hread] at h
      obtain ⟨hinputs, hready⟩ := read_event_kept hread
      obtain ⟨hinputs', hready'⟩ := ih h
      exact ⟨hinputs'.trans hinputs, hready'.trans hready⟩

/-- A turn with open inputs, after the ready action. -/
theorem run_turn_eq {ready_action : Option (Bool × String)} {expected : List Char} {turn : Turn}
    (hcanceled : turn.canceled = false) (herror : turn.poll_error = none) {s s' : Hid}
    (hinputs : (if s.inputs = 0 then turn.opened else s.inputs) ≠ 0)
    (hsent : send_ready ready_action
      { s with inputs := if s.inputs = 0 then turn.opened else s.inputs } = .ok s') :
    run_turn expected ready_action s turn = turn.events.foldlM (read_event expected) s' := by
  unfold run_turn
  rw [if_neg (by simp [hcanceled])]
  dsimp only
  rw [if_neg hinputs, hsent, herror]
  rfl

/-- Once the inputs are open, the turns are their events. -/
theorem foldlM_run_turn {ready_action : Option (Bool × String)} {turns : List Turn}
    (h : Listens ready_action turns) (expected : List Char) {s : Hid} (hinputs : s.inputs ≠ 0)
    (hready : s.ready_sent = true) : turns.foldlM (run_turn expected ready_action) s =
      (delivered true turns).foldlM (read_event expected) s := by
  induction turns generalizing s with
  | nil => rfl
  | cons turn turns ih =>
    obtain ⟨hcanceled, hcanceled'⟩ := List.forall_mem_cons.1 h.canceled
    obtain ⟨herror, herror'⟩ := List.forall_mem_cons.1 h.poll_error
    have hturn : run_turn expected ready_action s turn =
        turn.events.foldlM (read_event expected) s := by
      apply run_turn_eq hcanceled herror
      · rwa [if_neg hinputs]
      · rw [if_neg hinputs]
        exact if_pos hready
    have hdelivered : delivered true (turn :: turns) = turn.events ++ delivered true turns :=
      if_pos (.inl rfl)
    rw [List.foldlM_cons, hturn, hdelivered, List.foldlM_append]
    cases hread : turn.events.foldlM (read_event expected) s with
    | error outcome => rfl
    | ok next =>
      obtain ⟨hinputs', hready'⟩ := foldlM_kept hread
      exact ih ⟨h.ready_action, hcanceled', herror'⟩ (by rwa [hinputs']) (by rw [hready', hready])

/-- The turns are the events that are delivered in them, from a state with nothing received. -/
theorem receive_result {ready_action : Option (Bool × String)} {turns : List Turn}
    (h : Listens ready_action turns) (expected : List Char) :
    ∃ s : Hid, s.received = [] ∧ s.shift = false ∧
      (receive_usb_hid_text expected ready_action turns).result =
        (returned expected s (delivered false turns)).getD false := by
  suffices hturns : ∃ s : Hid, s.received = [] ∧ s.shift = false ∧
      turns.foldlM (run_turn expected ready_action) {} =
        (delivered false turns).foldlM (read_event expected) s ∨
      turns.foldlM (run_turn expected ready_action) {} = .ok {} ∧ delivered false turns = [] by
    unfold receive_usb_hid_text returned
    rcases hturns with ⟨s, ⟨hreceived, hshift, heq⟩ | ⟨heq, hnone⟩⟩
    · refine ⟨s, hreceived, hshift, ?_⟩
      rw [heq]
      cases (delivered false turns).foldlM (read_event expected) s <;> rfl
    · refine ⟨{}, rfl, rfl, ?_⟩
      rw [heq, hnone]
      rfl
  induction turns with
  | nil => exact ⟨{}, .inr ⟨rfl, rfl⟩⟩
  | cons turn turns ih =>
    obtain ⟨hcanceled, hcanceled'⟩ := List.forall_mem_cons.1 h.canceled
    obtain ⟨herror, herror'⟩ := List.forall_mem_cons.1 h.poll_error
    by_cases hopened : turn.opened = 0
    · have hturn : run_turn expected ready_action {} turn = .ok {} := by
        unfold run_turn
        rw [if_neg (by simp [hcanceled])]
        dsimp only
        rw [if_pos rfl, if_pos hopened]
      have hdelivered : delivered false (turn :: turns) = delivered false turns :=
        if_neg (by simp [hopened])
      rw [List.foldlM_cons, hturn, hdelivered]
      exact ih ⟨h.ready_action, hcanceled', herror'⟩
    · obtain ⟨message, hready⟩ := h.ready_action
      -- The state in which the first events are read.
      let s : Hid := { inputs := turn.opened, ready_sent := true, error_message := message }
      have hfirst : run_turn expected ready_action {} turn =
          turn.events.foldlM (read_event expected) s :=
        run_turn_eq hcanceled herror hopened (by rw [hready]; rfl)
      have hturn : run_turn expected ready_action s turn =
          turn.events.foldlM (read_event expected) s := by
        apply run_turn_eq hcanceled herror
        · rwa [if_neg hopened]
        · rw [if_neg hopened]
          rfl
      have hdelivered : delivered false (turn :: turns) = delivered true (turn :: turns) := by
        rw [delivered, if_pos (.inr hopened), delivered, if_pos (.inl rfl)]
      refine ⟨s, .inl ⟨rfl, rfl, ?_⟩⟩
      rw [hdelivered, ← foldlM_run_turn h expected hopened rfl, List.foldlM_cons,
        List.foldlM_cons, hfirst, hturn]

/-- The empty text is never received. -/
theorem returned_empty (s : Hid) (events : List InputEvent) : returned [] s events ≠ some true := by
  induction events generalizing s with
  | nil =>
    rw [returned_nil]
    exact nofun
  | cons event events ih =>
    cases hread : read_event [] s event with
    | error outcome =>
      rw [returned_of_error hread]
      unfold read_event at hread
      split_ifs at hread
      dsimp only at hread
      split_ifs at hread with hzero hempty
      · exact absurd hempty (by simp)
      · obtain rfl := Except.error.inj hread
        exact nofun
    | ok next =>
      rw [returned_of_ok hread]
      exact ih next

/-- The test returns true exactly if the text is typed, and false as soon as it cannot be any
more. -/
structure Exact (expected : List Char) (ready_action : Option (Bool × String))
    (turns : List Turn) : Prop where
  accepts : (receive_usb_hid_text expected ready_action turns).result = true ↔
    expected <+: typed [] (delivered false turns)
  rejects : ∀ front, front <+: delivered false turns →
    (returned expected {} front = some false ↔ Impossible expected (typed [] front))

theorem Misleads.of_prefix {text : List Char} {held : Held} {shift : Bool}
    {front events : List InputEvent} (h : Misleads text held shift front)
    (hfront : front <+: events) : Misleads text held shift events := by
  obtain ⟨before, event, back, next, more, rfl, htext, hmisread⟩ := h
  obtain ⟨rest, rfl⟩ := hfront
  exact ⟨before, event, back ++ rest, next, more, by simp, htext, hmisread⟩

/-- The text is received as it is typed, unless it is empty or a key is misread on which the next
character is. -/
theorem receive_exact_iff {expected : List Char} {ready_action : Option (Bool × String)}
    {turns : List Turn} (h : Listens ready_action turns) : Exact expected ready_action turns ↔
      expected ≠ [] ∧ ¬ Misleads expected [] false (delivered false turns) := by
  obtain ⟨s, hreceived, hshift, hresult⟩ := receive_result h expected
  cases expected with
  | nil =>
    refine iff_of_false (fun hexact => ?_) (fun h => h.1 rfl)
    have htrue := hexact.accepts.2 List.nil_prefix
    rw [hresult] at htrue
    cases hreturned : returned [] s (delivered false turns) with
    | none =>
      rw [hreturned] at htrue
      cases htrue
    | some result =>
      rw [hreturned] at htrue
      exact returned_empty s _ (hreturned.trans (congrArg some htrue))
  | cons next more =>
    have hspec (s : Hid) (hreceived : s.received = []) (hshift : s.shift = false)
        (events : List InputEvent) := @agrees_or_wrong (next :: more) events [] s next more
      (by rw [hreceived, List.nil_append]) (by simp [hshift])
    rw [and_iff_right (List.cons_ne_nil next more)]
    constructor
    · intro hexact hmisleads
      obtain ⟨front, hfront, hwrong⟩ := (hspec {} rfl rfl _).2 hmisleads
      exact hwrong (hexact.rejects front hfront)
    · intro hnot
      refine ⟨?_, fun front hfront => ?_⟩
      · rw [← ((hspec s hreceived hshift _).1 (by rwa [hshift])).accepts, hresult]
        cases returned (next :: more) s (delivered false turns) <;> simp
      · exact ((hspec {} rfl rfl front).1 fun h => hnot (h.of_prefix hfront)).rejects

/-- Shift and `P`, in two turns. -/
theorem receive_shifted_letter :
    Exact ['P'] (some (true, "")) [{ opened := 1, events := [⟨0, EV_KEY, KEY_LEFTSHIFT, 1⟩] },
      { events := [⟨0, EV_KEY, 25, 1⟩] }] := by
  refine (receive_exact_iff ⟨⟨"", rfl⟩, by simp, by simp⟩).2 ⟨List.cons_ne_nil _ _, ?_⟩
  have hevents : delivered false [{ opened := 1, events := [⟨0, EV_KEY, KEY_LEFTSHIFT, 1⟩] },
      { events := [⟨0, EV_KEY, 25, 1⟩] }] =
      [⟨0, EV_KEY, KEY_LEFTSHIFT, 1⟩, ⟨0, EV_KEY, 25, 1⟩] := rfl
  rw [hevents, misleads_cons]
  rintro (⟨next, more, -, -, -, hheld, -⟩ | ⟨text, htext, hlater⟩)
  · exact hheld rfl
  · obtain rfl : ['P'] = text := htext
    rw [misleads_cons] at hlater
    rcases hlater with ⟨next, more, -, -, -, -, key, hkey, hread, -⟩ | ⟨text, htext, hlater⟩
    · obtain rfl : ('p', 'P') = key := Option.some.inj hkey
      exact absurd hread (by decide)
    · obtain ⟨-, rfl⟩ := List.cons.inj htext
      exact misleads_nil_text _ _ _ hlater

/-- The fixture's text with its digits shifted, and a letter with one shift key of two
released. -/
theorem shifted_digit_accepted :
    let key (code : UInt16) (value : ℤ) : InputEvent := ⟨0, EV_KEY, code, value⟩
    ¬ Exact "HDR-14P".toList (some (true, "")) [{ opened := 1, events := [key KEY_LEFTSHIFT 1,
      key 35 1, key 32 1, key 19 1, key KEY_LEFTSHIFT 0, key KEY_MINUS 1, key KEY_LEFTSHIFT 1,
      key KEY_1 1, key 5 1, key 25 1] }] ∧
    ¬ Exact ['H'] (some (true, "")) [{ opened := 1, events := [key KEY_RIGHTSHIFT 1,
      key KEY_LEFTSHIFT 1, key KEY_LEFTSHIFT 0, key 35 1] }] := by
  intro key
  refine ⟨fun h => ?_, fun h => ?_⟩
  · have htyped := h.accepts.1 (by decide)
    exact absurd htyped (by decide)
  · have hreceived := h.accepts.2 (by decide)
    exact absurd hreceived (by decide)

end FactoryTest.UsbHid
