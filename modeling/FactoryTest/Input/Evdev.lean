import FactoryTest.Input.Router

/-!
# The evdev keypad

The key tables and `evdev_read_cb` of `src/platform/linux_input.cpp`, and `key_event_cb`, which
hands what was queued to the router.

**Reading.** LVGL calls the read callback while it asks to be called again. A raw event
*arrives* when the device has it ready; everything the callback queues for it reaches the router
before the next raw event is read.

**History.** An edge of a key shows its code and the router key that was queued for it.

The codes are those of `linux/input-event-codes.h`; the comments in the tables give their names
where the source uses them.
-/

namespace FactoryTest.Input

/-! ## Router keys -/

def K_EVDEV_KEY_BASE : UInt32 := 0x100000
def K_SPECIAL_KEY_BASE : UInt32 := 0x200000
def K_KEY_CTRL : UInt32 := K_SPECIAL_KEY_BASE ||| 1
def K_KEY_SHIFT : UInt32 := K_SPECIAL_KEY_BASE ||| 2
def K_KEY_SUPER : UInt32 := K_SPECIAL_KEY_BASE ||| 3
def K_KEY_ALT : UInt32 := K_SPECIAL_KEY_BASE ||| 4
def K_KEY_FN : UInt32 := K_SPECIAL_KEY_BASE ||| 5
def K_KEY_SYM : UInt32 := K_SPECIAL_KEY_BASE ||| 6
def K_KEY_INSERT : UInt32 := K_SPECIAL_KEY_BASE ||| 7
def K_KEY_PAGE_UP : UInt32 := K_SPECIAL_KEY_BASE ||| 8
def K_KEY_PAGE_DOWN : UInt32 := K_SPECIAL_KEY_BASE ||| 9
def K_KEY_VOLUME_MUTE : UInt32 := K_SPECIAL_KEY_BASE ||| 10
def K_KEY_VOLUME_DOWN : UInt32 := K_SPECIAL_KEY_BASE ||| 11
def K_KEY_VOLUME_UP : UInt32 := K_SPECIAL_KEY_BASE ||| 12
def K_KEY_BRIGHTNESS_DOWN : UInt32 := K_SPECIAL_KEY_BASE ||| 13
def K_KEY_BRIGHTNESS_UP : UInt32 := K_SPECIAL_KEY_BASE ||| 14
def K_KEY_PLAY_PAUSE : UInt32 := K_SPECIAL_KEY_BASE ||| 15
def K_KEY_REWIND : UInt32 := K_SPECIAL_KEY_BASE ||| 16
def K_KEY_FAST_FORWARD : UInt32 := K_SPECIAL_KEY_BASE ||| 17
def K_KEY_PRINTSCREEN : UInt32 := K_SPECIAL_KEY_BASE ||| 18
def K_KEY_HELP : UInt32 := K_SPECIAL_KEY_BASE ||| 19
def K_KEY_F_BASE : UInt32 := K_SPECIAL_KEY_BASE ||| 0x100

/-! ## Tables -/

/-- `KeyMapEntry`. -/
structure KeyMapEntry where
  source : UInt32
  key : UInt32

/-- `EvdevPrintableKeyMapEntry`. -/
structure EvdevPrintableKeyMapEntry where
  code : UInt16
  key : UInt32
  shifted_key : UInt32

/-- `EvdevAlphaKeyRange`. -/
structure EvdevAlphaKeyRange where
  first_code : UInt16
  last_code : UInt16
  keys : List Char
  shifted_keys : List Char

def K_TCA8418_SYMBOL_KEYS : List KeyMapEntry :=
  [⟨26, '!'.val⟩, ⟨27, '@'.val⟩, ⟨39, '#'.val⟩, ⟨40, '$'.val⟩, ⟨41, '%'.val⟩, ⟨43, '^'.val⟩,
    ⟨51, '&'.val⟩, ⟨52, '*'.val⟩, ⟨53, '('.val⟩, ⟨94, ')'.val⟩, ⟨55, '~'.val⟩, ⟨69, '`'.val⟩,
    ⟨70, '_'.val⟩, ⟨71, '-'.val⟩, ⟨72, '+'.val⟩, ⟨73, '='.val⟩, ⟨74, '['.val⟩, ⟨75, ']'.val⟩,
    ⟨76, '{'.val⟩, ⟨77, '}'.val⟩, ⟨79, ';'.val⟩, ⟨80, ':'.val⟩, ⟨81, '\''.val⟩, ⟨82, '"'.val⟩,
    ⟨83, '<'.val⟩, ⟨85, '>'.val⟩, ⟨86, '\\'.val⟩, ⟨89, '|'.val⟩, ⟨90, ','.val⟩, ⟨91, '.'.val⟩,
    ⟨92, '/'.val⟩, ⟨93, '?'.val⟩]

def K_PRINTABLE_SYMBOL_KEYS : List EvdevPrintableKeyMapEntry :=
  -- KEY_1 .. KEY_9, KEY_0
  [⟨2, '1'.val, '!'.val⟩, ⟨3, '2'.val, '@'.val⟩, ⟨4, '3'.val, '#'.val⟩, ⟨5, '4'.val, '$'.val⟩,
    ⟨6, '5'.val, '%'.val⟩, ⟨7, '6'.val, '^'.val⟩, ⟨8, '7'.val, '&'.val⟩, ⟨9, '8'.val, '*'.val⟩,
    ⟨10, '9'.val, '('.val⟩, ⟨11, '0'.val, ')'.val⟩,
    -- KEY_SPACE, KEY_MINUS, KEY_EQUAL, KEY_LEFTBRACE, KEY_RIGHTBRACE, KEY_BACKSLASH
    ⟨57, ' '.val, ' '.val⟩, ⟨12, '-'.val, '_'.val⟩, ⟨13, '='.val, '+'.val⟩, ⟨26, '['.val, '{'.val⟩,
    ⟨27, ']'.val, '}'.val⟩, ⟨43, '\\'.val, '|'.val⟩,
    -- KEY_SEMICOLON, KEY_APOSTROPHE, KEY_GRAVE, KEY_COMMA, KEY_DOT, KEY_SLASH
    ⟨39, ';'.val, ':'.val⟩, ⟨40, '\''.val, '"'.val⟩, ⟨41, '`'.val, '~'.val⟩, ⟨51, ','.val, '<'.val⟩,
    ⟨52, '.'.val, '>'.val⟩, ⟨53, '/'.val, '?'.val⟩]

def K_KEYPAD_SYMBOL_KEYS : List KeyMapEntry :=
  -- KEY_KPASTERISK, KEY_KPMINUS, KEY_KPPLUS, KEY_KPDOT, KEY_KPSLASH
  [⟨55, '*'.val⟩, ⟨74, '-'.val⟩, ⟨78, '+'.val⟩, ⟨83, '.'.val⟩, ⟨98, '/'.val⟩]

def K_SPECIAL_EVDEV_KEYS : List KeyMapEntry :=
  -- KEY_ESC, KEY_ENTER, KEY_KPENTER, KEY_BACKSPACE, KEY_DELETE, KEY_INSERT
  [⟨1, LV_KEY_ESC⟩, ⟨28, LV_KEY_ENTER⟩, ⟨96, LV_KEY_ENTER⟩, ⟨14, LV_KEY_BACKSPACE⟩,
    ⟨111, LV_KEY_DEL⟩, ⟨110, K_KEY_INSERT⟩,
    -- KEY_UP, KEY_DOWN, KEY_LEFT, KEY_RIGHT, KEY_HOME, KEY_END, KEY_PAGEUP, KEY_PAGEDOWN
    ⟨103, LV_KEY_UP⟩, ⟨108, LV_KEY_DOWN⟩, ⟨105, LV_KEY_LEFT⟩, ⟨106, LV_KEY_RIGHT⟩,
    ⟨102, LV_KEY_HOME⟩, ⟨107, LV_KEY_END⟩, ⟨104, K_KEY_PAGE_UP⟩, ⟨109, K_KEY_PAGE_DOWN⟩,
    -- KEY_TAB, KEY_FN, KEY_COMPOSE, KEY_LEFTCTRL, KEY_RIGHTCTRL
    ⟨15, '\t'.val⟩, ⟨0x1d0, K_KEY_FN⟩, ⟨127, K_KEY_SYM⟩, ⟨29, K_KEY_CTRL⟩, ⟨97, K_KEY_CTRL⟩,
    -- KEY_LEFTSHIFT, KEY_RIGHTSHIFT, KEY_LEFTMETA, KEY_RIGHTMETA, KEY_LEFTALT, KEY_RIGHTALT
    ⟨42, K_KEY_SHIFT⟩, ⟨54, K_KEY_SHIFT⟩, ⟨125, K_KEY_SUPER⟩, ⟨126, K_KEY_SUPER⟩, ⟨56, K_KEY_ALT⟩,
    ⟨100, K_KEY_ALT⟩,
    -- KEY_MUTE, KEY_VOLUMEDOWN, KEY_VOLUMEUP, KEY_BRIGHTNESSDOWN, KEY_BRIGHTNESSUP
    ⟨113, K_KEY_VOLUME_MUTE⟩, ⟨114, K_KEY_VOLUME_DOWN⟩, ⟨115, K_KEY_VOLUME_UP⟩,
    ⟨224, K_KEY_BRIGHTNESS_DOWN⟩, ⟨225, K_KEY_BRIGHTNESS_UP⟩,
    -- KEY_PLAYPAUSE, KEY_REWIND, KEY_PREVIOUSSONG, KEY_FASTFORWARD, KEY_NEXTSONG
    ⟨164, K_KEY_PLAY_PAUSE⟩, ⟨168, K_KEY_REWIND⟩, ⟨165, K_KEY_REWIND⟩, ⟨208, K_KEY_FAST_FORWARD⟩,
    ⟨163, K_KEY_FAST_FORWARD⟩,
    -- KEY_SYSRQ, KEY_HELP
    ⟨99, K_KEY_PRINTSCREEN⟩, ⟨138, K_KEY_HELP⟩]

def K_FUNCTION_KEYS : List KeyMapEntry :=
  -- KEY_F1 .. KEY_F12
  [⟨59, K_KEY_F_BASE ||| 1⟩, ⟨60, K_KEY_F_BASE ||| 2⟩, ⟨61, K_KEY_F_BASE ||| 3⟩,
    ⟨62, K_KEY_F_BASE ||| 4⟩, ⟨63, K_KEY_F_BASE ||| 5⟩, ⟨64, K_KEY_F_BASE ||| 6⟩,
    ⟨65, K_KEY_F_BASE ||| 7⟩, ⟨66, K_KEY_F_BASE ||| 8⟩, ⟨67, K_KEY_F_BASE ||| 9⟩,
    ⟨68, K_KEY_F_BASE ||| 10⟩, ⟨87, K_KEY_F_BASE ||| 11⟩, ⟨88, K_KEY_F_BASE ||| 12⟩]

def K_SCAN_CODE_KEYS : List KeyMapEntry := [⟨66, K_KEY_FN⟩, ⟨67, K_KEY_SYM⟩]

def K_SHIFT_STATE_KEYS : List KeyMapEntry :=
  -- KEY_LEFTSHIFT, KEY_RIGHTSHIFT
  [⟨42, 1⟩, ⟨54, 1⟩]

def K_ALPHA_KEY_RANGES : List EvdevAlphaKeyRange :=
  -- KEY_Q .. KEY_P
  [⟨16, 25, ['q', 'w', 'e', 'r', 't', 'y', 'u', 'i', 'o', 'p'],
      ['Q', 'W', 'E', 'R', 'T', 'Y', 'U', 'I', 'O', 'P']⟩,
    -- KEY_A .. KEY_L
    ⟨30, 38, ['a', 's', 'd', 'f', 'g', 'h', 'j', 'k', 'l'],
      ['A', 'S', 'D', 'F', 'G', 'H', 'J', 'K', 'L']⟩,
    -- KEY_Z .. KEY_M
    ⟨44, 50, ['z', 'x', 'c', 'v', 'b', 'n', 'm'], ['Z', 'X', 'C', 'V', 'B', 'N', 'M']⟩]

/-! ## Mapping codes to router keys -/

/-- `lookup_key`; `0` if there is no entry. -/
def lookup_key (entries : List KeyMapEntry) (source : UInt32) : UInt32 :=
  match entries.find? (·.source = source) with
  | some entry => entry.key
  | none => 0

def lookup_printable_key (code : UInt16) (shift_pressed : Bool) : UInt32 :=
  match K_PRINTABLE_SYMBOL_KEYS.find? (·.code = code) with
  | some entry => if shift_pressed then entry.shifted_key else entry.key
  | none => 0

def lookup_alpha_key (code : UInt16) (shift_pressed : Bool) : UInt32 :=
  match K_ALPHA_KEY_RANGES.find? fun range => range.first_code ≤ code && code ≤ range.last_code with
  | some range =>
    ((if shift_pressed then range.shifted_keys else range.keys).getD
      (code - range.first_code).toNat '\x00').val
  | none => 0

def printable_evdev_key (code : UInt16) (shift_pressed : Bool) : UInt32 :=
  let key := lookup_key K_TCA8418_SYMBOL_KEYS code.toUInt32
  if key ≠ 0 then key
  else
    let key := lookup_printable_key code shift_pressed
    if key ≠ 0 then key
    else
      let key := lookup_alpha_key code shift_pressed
      if key ≠ 0 then key else lookup_key K_KEYPAD_SYMBOL_KEYS code.toUInt32

def map_evdev_key (code : UInt16) (shift_pressed : Bool) : UInt32 :=
  let printable := printable_evdev_key code shift_pressed
  if printable ≠ 0 then printable
  else
    let key := lookup_key K_SPECIAL_EVDEV_KEYS code.toUInt32
    if key ≠ 0 then key
    else
      let key := lookup_key K_FUNCTION_KEYS code.toUInt32
      if key ≠ 0 then key else K_EVDEV_KEY_BASE ||| code.toUInt32

def map_evdev_scan (scan_code : UInt32) : UInt32 :=
  lookup_key K_SCAN_CODE_KEYS scan_code.toUInt16.toUInt32

/-- The code is one of `K_SHIFT_STATE_KEYS`. -/
def is_shift (code : UInt16) : Bool := lookup_key K_SHIFT_STATE_KEYS code.toUInt32 ≠ 0

/-! ## Reading -/

/-- `input_event`, by what the callback makes of it. -/
inductive InputEvent
  | msc_scan (value : Int32)
  | key (code : UInt16) (value : Int32)
  /-- Any other type or code. -/
  | other
  deriving DecidableEq

/-- `EvdevKeypad`; `pressed` is its `state`, and `router_event` what is pending for the
router. -/
structure EvdevKeypad where
  pressed : Bool := false
  key : UInt32 := 0
  shift_pressed : Bool := false
  synthetic_release_pending : Bool := false
  router_event : Option (UInt32 × Bool) := none

/-- What is observed of the keypad and of the router behind it. -/
inductive KeypadObs
  /-- An edge of a key was read, and queued as `key`. -/
  | edge (code : UInt16) (pressed : Bool) (key : UInt32)
  /-- A scan code was read, and a press of `key` was queued. -/
  | scan (key : UInt32)
  | router (o : Obs)
  deriving DecidableEq

namespace EvdevKeypad

/-- `queue_router_event`. -/
def queue_router_event (keypad : EvdevKeypad) (key : UInt32) (pressed : Bool) : EvdevKeypad :=
  { keypad with router_event := some (key, pressed) }

/-- The loop of `evdev_read_cb`, until an event was queued or the device has no more; with the
events left in the device, what was read, and `continue_reading`. -/
def read_events (keypad : EvdevKeypad) :
    List InputEvent → EvdevKeypad × List InputEvent × List KeypadObs × Bool
  | [] => (keypad, [], [], false)
  | .msc_scan value :: rest =>
    let scan_key := map_evdev_scan value.toUInt32
    if scan_key = 0 then keypad.read_events rest
    else
      let keypad := { keypad with
        key := scan_key
        pressed := true
        synthetic_release_pending := true }
      (keypad.queue_router_event scan_key true, rest, [.scan scan_key], true)
  | .key code value :: rest =>
    if value = 2 then keypad.read_events rest
    else
      let keypad := { keypad with
        shift_pressed := if is_shift code then value ≠ 0 else keypad.shift_pressed }
      let keypad := { keypad with
        key := map_evdev_key code keypad.shift_pressed
        pressed := value ≠ 0 }
      (keypad.queue_router_event keypad.key keypad.pressed, rest,
        [.edge code keypad.pressed keypad.key], true)
  | .other :: rest => keypad.read_events rest

/-- `evdev_read_cb`. -/
def evdev_read_cb (keypad : EvdevKeypad) (events : List InputEvent) :
    EvdevKeypad × List InputEvent × List KeypadObs × Bool :=
  if keypad.synthetic_release_pending then
    let keypad := { keypad with synthetic_release_pending := false, pressed := false }
    (keypad.queue_router_event keypad.key false, events, [], true)
  else keypad.read_events events

end EvdevKeypad

/-- The keypad and the router. -/
structure Keyboard where
  keypad : EvdevKeypad
  router : KeyRouterState

namespace Keyboard

/-- `key_event_cb`. -/
def key_event_cb (b : Keyboard) (consumes : Bool) : Keyboard × List KeypadObs :=
  match b.keypad.router_event with
  | none => (b, [])
  | some (key, pressed) =>
    let (router, seen) := b.router.route_key_state key pressed consumes
    (⟨{ b.keypad with router_event := none }, router⟩,
      (.router (.input key pressed b.router.now) :: seen.map .router))

/-- LVGL calls the read callback, handles what it read, and calls it again while it asks for
it. The callback is called at most `fuel` times. -/
def drain (consumes : Bool) : ℕ → Keyboard → List InputEvent → Keyboard × List KeypadObs
  | 0, b, _ => (b, [])
  | fuel + 1, b, events =>
    let (keypad, events, read, continue_reading) := b.keypad.evdev_read_cb events
    let (b, seen) := key_event_cb { b with keypad := keypad } consumes
    if continue_reading then
      let (b, more) := drain consumes fuel b events
      (b, read ++ seen ++ more)
    else (b, read ++ seen)

end Keyboard

/-- A raw event arrives some milliseconds after the one before it. -/
structure Arrival where
  elapsed : ℕ := 0
  input : InputEvent
  consumes : Bool := false

/-- A raw event is answered by at most three calls of the callback: one reads it, one queues the
synthetic release, and one finds nothing more. -/
def Keyboard.step (b : Keyboard) (e : Arrival) : Keyboard × List KeypadObs :=
  Keyboard.drain e.consumes 3 { b with router.now := b.router.now + e.elapsed } [e.input]

/-- The keypad with the router behind it. -/
def keyboard : Machine Keyboard Arrival KeypadObs := ⟨Keyboard.step⟩

end FactoryTest.Input
