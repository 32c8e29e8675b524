import FactoryTest.Config.Store
import FactoryTest.Json.Text

/-!
# Loading normalises the configuration

**Theorem (`load_normalizes`).** Whatever is in the file, the configuration is valid after
`load`. Each valid field of a supported document keeps its value (`KeepsFields`), a document
that is not supported is not touched, and after a `load` of a supported document that returned
true, loading again changes nothing and reports nothing.

Each field is found in the document or replaced by its default, and only then is anything
corrected (`Clean`). So the second `load` is about one fact: in what `save` writes of a valid
configuration, every field is found (`read_fields_config_to_output`).
-/

namespace FactoryTest.Config

open Serialization

/-! ## Valid configurations -/

/-- The constraints on a configuration. -/
structure AppConfig.Valid (config : AppConfig) : Prop where
  language : config.ui.language ∈ K_LANGUAGES
  volume : 0 ≤ config.ui.key_click_volume_percent ∧ config.ui.key_click_volume_percent ≤ 100
  iperf_host : config.network.iperf_host ≠ ""
  iperf_port : 1 ≤ config.network.iperf_port ∧ config.network.iperf_port ≤ 65535
  baud_rate : config.uart.baud_rate ∈ K_UART_BAUD_RATES
  level : config.logging.level ∈ K_LOG_LEVELS
  segment : K_MIN_LOG_SEGMENT_SIZE ≤ config.logging.max_segment_size_bytes ∧
    config.logging.max_segment_size_bytes ≤ 2 ^ 53 - 1
  directory : K_MIN_LOG_SEGMENT_SIZE ≤ config.logging.max_directory_size_bytes ∧
    config.logging.max_directory_size_bytes ≤ 2 ^ 53 - 1
  limits : config.logging.max_segment_size_bytes ≤ config.logging.max_directory_size_bytes
  station_id : config.factory.station_id ≠ ""
  schema_version : config.schema_version = K_SCHEMA_VERSION

theorem valid_default : AppConfig.Valid {} := by
  constructor <;> decide

/-! ## Fields of a document -/

/-- A field of a section of a document. -/
def field (root : OutputValue) (section_key key : String) : Option OutputValue :=
  object_member (object_member (some root) section_key) key

/-- The value is the integer. -/
def IsInteger (value : Option OutputValue) (n : ℤ) : Prop :=
  ∃ h, value = some (.number (.finite n h))

theorem IsInteger.unique {value : Option OutputValue} {n k : ℤ} (hn : IsInteger value n)
    (hk : IsInteger value k) : n = k := by
  obtain ⟨h, rfl⟩ := hn
  obtain ⟨h', heq⟩ := hk
  simpa using heq

theorem integer_value_eq_some {value : Option OutputValue} {minimum maximum n : ℤ} :
    integer_value value minimum maximum = some n ↔
      IsInteger value n ∧ minimum ≤ n ∧ n ≤ maximum := by
  constructor
  · intro h
    unfold integer_value at h
    split at h
    case h_1 q hq =>
      split_ifs at h with hbad
      simp only [not_or, not_not, not_lt] at hbad
      obtain ⟨hfloor, hmin, hmax⟩ := hbad
      obtain rfl := Option.some.inj h
      refine ⟨?_, by rwa [← hfloor, Int.cast_le] at hmin, by rwa [← hfloor, Int.cast_le] at hmax⟩
      rw [← hfloor] at hq
      refine ⟨hq, ?_⟩
      simp [hfloor]
    case h_2 => cases h
  · rintro ⟨⟨h, rfl⟩, hmin, hmax⟩
    have hgood : ¬ ((⌊(n : ℚ)⌋ : ℚ) ≠ n ∨ (n : ℚ) < minimum ∨ (maximum : ℚ) < n) := by
      simp only [Int.floor_intCast, ne_eq, not_true_eq_false, false_or, not_or, not_lt, Int.cast_le]
      exact ⟨hmin, hmax⟩
    rw [integer_value, if_neg hgood, Int.floor_intCast]

theorem string_value_eq_some {allowed : Option (List String)} {value : Option OutputValue}
    {text : String} : string_value allowed value = some text ↔
      value = some (.string text) ∧ text ≠ "" ∧ allowed.all (·.contains text) = true := by
  constructor
  · intro h
    unfold string_value at h
    split at h
    · split_ifs at h with hgood
      obtain rfl := Option.some.inj h
      exact ⟨rfl, hgood⟩
    · cases h
  · rintro ⟨rfl, hgood⟩
    rw [string_value, if_pos hgood]

theorem boolean_value_eq_some {value : Option OutputValue} {b : Bool} :
    boolean_value value = some b ↔ value = some (.boolean b) := by
  constructor
  · intro h
    unfold boolean_value at h
    split at h
    · rw [Option.some.inj h]
    · cases h
  · rintro rfl
    rfl

/-- An integer that a double holds exactly. -/
theorem isInteger_ofInt {n : ℤ} (h₀ : 0 ≤ n) (h : n < 2 ^ 53) :
    IsInteger (some (.number (.ofInt n))) n := by
  obtain ⟨k, rfl⟩ := Int.eq_ofNat_of_zero_le h₀
  have hk : k < 2 ^ 53 := by exact_mod_cast h
  exact ⟨Double.binary64_of_lt hk, by
    rw [show Double.ofInt k = Double.ofNat k from rfl, Double.ofNat_of_lt hk]
    rfl⟩

theorem isInteger_ofNat {k : ℕ} (h : k < 2 ^ 53) : IsInteger (some (.number (.ofNat k))) k :=
  ⟨Double.binary64_of_lt h, by rw [Double.ofNat_of_lt h]; rfl⟩

/-! ## What is read -/

/-- A diagnostic is noted only where something is corrected. -/
def Progress.Honest (p : Progress) : Prop := p.corrected = false → p.diagnostics = []

theorem honest_correct {p : Progress} (diagnostic : String) : (p.correct diagnostic).Honest :=
  fun h => by cases h

section Reading

variable {α : Type} {found : Option α} {name : String} {fallback : α} {p : Progress}

theorem read_field_fst : (read_field found name fallback p).1 = found.getD fallback := by
  cases found <;> rfl

theorem read_field_some (value : α) : read_field (some value) name fallback p = (value, p) := rfl

theorem honest_read_field (h : p.Honest) : (read_field found name fallback p).2.Honest := by
  cases found with
  | none => exact honest_correct _
  | some => exact h

theorem honest_ite {c : Prop} [Decidable c] {r r' : α × Progress} (h : r.2.Honest)
    (h' : r'.2.Honest) : (if c then r else r').2.Honest := by
  split_ifs
  · exact h
  · exact h'

end Reading

section Document

variable (root : OutputValue)

/-- The baud rate that is read. -/
def read_baud_rate : ℤ := (integer_value (field root "uart" "baud_rate") 1 1000000).getD 9600

/-- A limit of the logs that is read. -/
def read_limit (key : String) (fallback : ℕ) : ℕ :=
  ((integer_value (field root "logging" key) K_MIN_LOG_SEGMENT_SIZE
    K_MAX_EXACT_JSON_INTEGER).map Int.toNat).getD fallback

/-- The limit of a segment that is read. -/
def read_segment : ℕ := read_limit root "max_segment_size_bytes" (5 * 1024 * 1024)

/-- The limit of the directory that is read. -/
def read_directory : ℕ := read_limit root "max_directory_size_bytes" (50 * 1024 * 1024)

/-- Every field is the value in the document or the default, but for an unsupported baud rate
and for limits that contradict each other. -/
theorem read_fields_fst (p : Progress) : (read_fields root p).1 = {
    ui := {
      dark_mode := (boolean_value (field root "ui" "dark_mode")).getD true
      language := (string_value (some K_LANGUAGES) (field root "ui" "language")).getD "en"
      key_click_enabled := (boolean_value (field root "ui" "key_click_enabled")).getD true
      key_click_volume_percent :=
        (integer_value (field root "ui" "key_click_volume_percent") 0 100).getD 70 }
    network := {
      iperf_host := (string_value none (field root "network" "iperf_host")).getD "192.168.10.187"
      iperf_port := (integer_value (field root "network" "iperf_port") 1 65535).getD 5201 }
    uart := {
      baud_rate := if is_supported_baud_rate (read_baud_rate root) then read_baud_rate root
        else 9600 }
    logging := {
      level := (string_value (some K_LOG_LEVELS) (field root "logging" "level")).getD "debug"
      max_segment_size_bytes :=
        if read_directory root < read_segment root then 5 * 1024 * 1024 else read_segment root
      max_directory_size_bytes :=
        if read_directory root < read_segment root then 50 * 1024 * 1024
        else read_directory root }
    factory := {
      station_id :=
        (string_value none (field root "factory" "station_id")).getD "AUTO_TEST" } } := by
  simp only [read_fields, read_bool, read_string, read_int, read_size, read_field_fst,
    apply_ite Prod.fst, apply_ite Prod.snd]
  rfl

/-- What holds of every value that can be found, and of the default. -/
theorem getD_of {α : Type} {P : α → Prop} {found : Option α} {fallback : α}
    (h : ∀ value, found = some value → P value) (hfallback : P fallback) :
    P (found.getD fallback) := by
  cases found with
  | none => exact hfallback
  | some value => exact h value rfl

variable {root}

theorem read_limit_bounds {key : String} {fallback : ℕ}
    (h : K_MIN_LOG_SEGMENT_SIZE ≤ fallback ∧ fallback ≤ 2 ^ 53 - 1) :
    K_MIN_LOG_SEGMENT_SIZE ≤ read_limit root key fallback ∧
      read_limit root key fallback ≤ 2 ^ 53 - 1 := by
  refine getD_of (P := fun n => K_MIN_LOG_SEGMENT_SIZE ≤ n ∧ n ≤ 2 ^ 53 - 1)
    (fun value hvalue => ?_) h
  obtain ⟨n, hn, rfl⟩ := Option.map_eq_some_iff.1 hvalue
  obtain ⟨-, hmin, hmax⟩ := integer_value_eq_some.1 hn
  unfold K_MIN_LOG_SEGMENT_SIZE K_MAX_EXACT_JSON_INTEGER at *
  omega

/-- What is read is valid. -/
theorem valid_read_fields (p : Progress) : (read_fields root p).1.Valid := by
  have hallowed {allowed : List String} {value : Option OutputValue} {text : String}
      (h : string_value (some allowed) value = some text) : text ∈ allowed := by
    simpa using (string_value_eq_some.1 h).2.2
  have hsegment := @read_limit_bounds root "max_segment_size_bytes" (5 * 1024 * 1024) (by decide)
  have hdirectory := @read_limit_bounds root "max_directory_size_bytes" (50 * 1024 * 1024)
    (by decide)
  rw [read_fields_fst]
  constructor
  case language => exact getD_of (fun _ => hallowed) (by decide)
  case level => exact getD_of (fun _ => hallowed) (by decide)
  case volume =>
    exact getD_of (P := fun n => 0 ≤ n ∧ n ≤ 100) (fun _ h => (integer_value_eq_some.1 h).2)
      (by decide)
  case iperf_port =>
    exact getD_of (P := fun n => 1 ≤ n ∧ n ≤ 65535) (fun _ h => (integer_value_eq_some.1 h).2)
      (by decide)
  case iperf_host | station_id =>
    exact getD_of (P := (· ≠ "")) (fun _ h => (string_value_eq_some.1 h).2.1) (by decide)
  case baud_rate =>
    dsimp only
    split_ifs with hsupported
    · simpa [is_supported_baud_rate] using hsupported
    · decide
  case schema_version => rfl
  case segment =>
    dsimp only
    split_ifs
    · decide
    · exact hsegment
  case directory =>
    dsimp only
    split_ifs
    · decide
    · exact hdirectory
  case limits =>
    dsimp only
    split_ifs with hlimits
    · decide
    · exact not_lt.1 hlimits

theorem honest_read_fields {p : Progress} (h : p.Honest) : (read_fields root p).2.Honest := by
  simp only [read_fields, read_bool, read_string, read_int, read_size]
  -- From the last field back to the first, with the two corrections on the way.
  apply honest_read_field
  apply honest_ite (honest_correct _)
  iterate 3 apply honest_read_field
  refine honest_ite ?_ (honest_correct _)
  iterate 7 apply honest_read_field
  exact h

/-! ## Valid fields -/

/-- A limit that is valid. -/
def ValidLimit (value : Option OutputValue) (n : ℕ) : Prop :=
  IsInteger value n ∧ K_MIN_LOG_SEGMENT_SIZE ≤ n ∧ n ≤ 2 ^ 53 - 1

/-- The limit of a document: a valid one, or else the default. -/
def IsLimit (value : Option OutputValue) (fallback n : ℕ) : Prop :=
  ValidLimit value n ∨ (∀ k, ¬ ValidLimit value k) ∧ n = fallback

/-- Every valid field of the document has its value in the configuration. Limits that contradict
each other are the defaults. -/
structure KeepsFields (root : OutputValue) (config : AppConfig) : Prop where
  dark_mode : ∀ b, field root "ui" "dark_mode" = some (.boolean b) → config.ui.dark_mode = b
  language : ∀ s ∈ K_LANGUAGES, field root "ui" "language" = some (.string s) →
    config.ui.language = s
  key_click_enabled : ∀ b, field root "ui" "key_click_enabled" = some (.boolean b) →
    config.ui.key_click_enabled = b
  volume : ∀ n, IsInteger (field root "ui" "key_click_volume_percent") n → 0 ≤ n → n ≤ 100 →
    config.ui.key_click_volume_percent = n
  iperf_host : ∀ s, field root "network" "iperf_host" = some (.string s) → s ≠ "" →
    config.network.iperf_host = s
  iperf_port : ∀ n, IsInteger (field root "network" "iperf_port") n → 1 ≤ n → n ≤ 65535 →
    config.network.iperf_port = n
  baud_rate : ∀ n ∈ K_UART_BAUD_RATES, IsInteger (field root "uart" "baud_rate") n →
    config.uart.baud_rate = n
  level : ∀ s ∈ K_LOG_LEVELS, field root "logging" "level" = some (.string s) →
    config.logging.level = s
  limits : ∀ segment directory,
    IsLimit (field root "logging" "max_segment_size_bytes") (5 * 1024 * 1024) segment →
    IsLimit (field root "logging" "max_directory_size_bytes") (50 * 1024 * 1024) directory →
    (config.logging.max_segment_size_bytes, config.logging.max_directory_size_bytes) =
      if directory < segment then (5 * 1024 * 1024, 50 * 1024 * 1024) else (segment, directory)
  station_id : ∀ s, field root "factory" "station_id" = some (.string s) → s ≠ "" →
    config.factory.station_id = s

/-- What is read of a limit is the limit. -/
theorem read_limit_of_isLimit {key : String} {fallback n : ℕ}
    (h : IsLimit (field root "logging" key) fallback n) : read_limit root key fallback = n := by
  unfold read_limit
  rcases h with ⟨hn, hmin, hmax⟩ | ⟨hnone, rfl⟩
  · have hfound : integer_value (field root "logging" key) K_MIN_LOG_SEGMENT_SIZE
        K_MAX_EXACT_JSON_INTEGER = some (n : ℤ) :=
      integer_value_eq_some.2 ⟨hn, Int.ofNat_le.2 hmin, Int.ofNat_le.2 hmax⟩
    rw [hfound]
    rfl
  · cases hfound : integer_value (field root "logging" key) K_MIN_LOG_SEGMENT_SIZE
        K_MAX_EXACT_JSON_INTEGER with
    | none => rfl
    | some k =>
      obtain ⟨hk, hmin, hmax⟩ := integer_value_eq_some.1 hfound
      obtain ⟨k, rfl⟩ := Int.eq_ofNat_of_zero_le ((Int.natCast_nonneg _).trans hmin)
      exact absurd ⟨hk, Int.ofNat_le.1 hmin, Int.ofNat_le.1 hmax⟩ (hnone k)

/-- Reading keeps the valid fields. -/
theorem keepsFields_read_fields (p : Progress) : KeepsFields root (read_fields root p).1 := by
  rw [read_fields_fst]
  constructor
  case dark_mode | key_click_enabled =>
    intro b hb
    dsimp only
    rw [boolean_value_eq_some.2 hb]
    rfl
  case language | level =>
    intro s hs hvalue
    dsimp only
    rw [string_value_eq_some.2 ⟨hvalue, ne_of_mem_of_not_mem hs (by decide), by simpa using hs⟩]
    rfl
  case volume | iperf_port =>
    intro n hn hmin hmax
    dsimp only
    rw [integer_value_eq_some.2 ⟨hn, hmin, hmax⟩]
    rfl
  case iperf_host | station_id =>
    intro s hvalue hs
    dsimp only
    rw [string_value_eq_some.2 ⟨hvalue, hs, rfl⟩]
    rfl
  case baud_rate =>
    intro n hn hvalue
    obtain ⟨hmin, hmax⟩ : 1 ≤ n ∧ n ≤ 1000000 :=
      (by decide : ∀ n ∈ K_UART_BAUD_RATES, 1 ≤ n ∧ n ≤ 1000000) n hn
    have hread : read_baud_rate root = n := by
      rw [read_baud_rate, integer_value_eq_some.2 ⟨hvalue, hmin, hmax⟩]
      rfl
    dsimp only
    rw [hread, if_pos (by simpa [is_supported_baud_rate] using hn)]
  case limits =>
    intro segment directory hsegment hdirectory
    have hs := read_limit_of_isLimit hsegment
    have hd := read_limit_of_isLimit hdirectory
    dsimp only
    rw [read_segment, read_directory, hs, hd]
    split_ifs <;> rfl

end Document

/-! ## Reading what was written -/

theorem field_config_to_output (config : AppConfig) :
    field (config_to_output config) "ui" "dark_mode" = some (.boolean config.ui.dark_mode) ∧
    field (config_to_output config) "ui" "language" = some (.string config.ui.language) ∧
    field (config_to_output config) "ui" "key_click_enabled" =
      some (.boolean config.ui.key_click_enabled) ∧
    field (config_to_output config) "ui" "key_click_volume_percent" =
      some (.number (.ofInt config.ui.key_click_volume_percent)) ∧
    field (config_to_output config) "network" "iperf_host" =
      some (.string config.network.iperf_host) ∧
    field (config_to_output config) "network" "iperf_port" =
      some (.number (.ofInt config.network.iperf_port)) ∧
    field (config_to_output config) "uart" "baud_rate" =
      some (.number (.ofInt config.uart.baud_rate)) ∧
    field (config_to_output config) "logging" "level" = some (.string config.logging.level) ∧
    field (config_to_output config) "logging" "max_segment_size_bytes" =
      some (.number (.ofNat config.logging.max_segment_size_bytes)) ∧
    field (config_to_output config) "logging" "max_directory_size_bytes" =
      some (.number (.ofNat config.logging.max_directory_size_bytes)) ∧
    field (config_to_output config) "factory" "station_id" =
      some (.string config.factory.station_id) := by
  simp [field, object_member, config_to_output, Assoc.find?]

/-- In what `save` writes of a valid configuration every field is found. -/
theorem read_fields_config_to_output {config : AppConfig} (h : config.Valid) (p : Progress) :
    read_fields (config_to_output config) p = (config, p) := by
  have hfields := field_config_to_output config
  simp only [field] at hfields
  obtain ⟨hdark_mode, hlanguage, hclick, hvolume, hhost, hport, hbaud, hlevel, hsegment, hdirectory,
    hstation⟩ := hfields
  have hstring {s : String} (hs : s ≠ "") : string_value none (some (.string s)) = some s :=
    string_value_eq_some.2 ⟨rfl, hs, rfl⟩
  have hlisted {allowed : List String} {s : String} (hs : s ∈ allowed) (hempty : "" ∉ allowed) :
      string_value (some allowed) (some (.string s)) = some s :=
    string_value_eq_some.2 ⟨rfl, ne_of_mem_of_not_mem hs hempty, by simpa using hs⟩
  have hint {minimum maximum n : ℤ} (hmin : minimum ≤ n ∧ n ≤ maximum) (h₀ : 0 ≤ minimum)
      (hmax : maximum < 2 ^ 53) :
      integer_value (some (.number (.ofInt n))) minimum maximum = some n :=
    integer_value_eq_some.2 ⟨isInteger_ofInt (h₀.trans hmin.1) (hmin.2.trans_lt hmax), hmin⟩
  have hlimit {n : ℕ} (hn : K_MIN_LOG_SEGMENT_SIZE ≤ n ∧ n ≤ 2 ^ 53 - 1) :
      integer_value (some (.number (.ofNat n))) K_MIN_LOG_SEGMENT_SIZE K_MAX_EXACT_JSON_INTEGER =
        some (n : ℤ) :=
    integer_value_eq_some.2 ⟨isInteger_ofNat (by omega), Int.ofNat_le.2 hn.1, Int.ofNat_le.2 hn.2⟩
  have hbaud_bounds := (by decide : ∀ n ∈ K_UART_BAUD_RATES, 1 ≤ n ∧ n ≤ 1000000) _ h.baud_rate
  simp only [read_fields, read_bool, read_string, read_int, read_size, hdark_mode, hlanguage,
    hclick, hvolume, hhost, hport, hbaud, hlevel, hsegment, hdirectory, hstation, boolean_value,
    hstring h.iperf_host, hstring h.station_id, hlisted h.language (by decide),
    hlisted h.level (by decide), hint h.volume (by decide) (by decide),
    hint h.iperf_port (by decide) (by decide), hint hbaud_bounds (by decide) (by decide),
    hlimit h.segment, hlimit h.directory, Option.map_some, Int.toNat_natCast, read_field_some]
  have hsupported : is_supported_baud_rate config.uart.baud_rate = true := by
    simpa [is_supported_baud_rate] using h.baud_rate
  rw [if_pos hsupported, if_neg (not_lt.2 h.limits), ← h.schema_version]

/-! ## Loading -/

/-- The text is a document that the store supports. -/
structure Supported (cJSON : CJsonLibrary) (text : String) (root : OutputValue) : Prop where
  parsed : parse_json_output cJSON text = .ok root
  object : ∃ object_values, root = .object object_values
  schema_version : IsInteger (object_member (some root) "schema_version") K_SCHEMA_VERSION

/-- The parser reads back what the pretty printer writes of a configuration. -/
def Rereads (cJSON : CJsonLibrary) (config : AppConfig) : Prop :=
  parse_json_output cJSON (config_text config) = .ok (config_to_output config)

/-- The file system lets a store read its file. -/
structure Readable (w : World) (a : LoadAnswers) : Prop where
  path : w.store.path ≠ ""
  exists_error : a.exists_error = none
  opens : a.opens = true

section Load

variable {cJSON : CJsonLibrary} {w : World} {a : LoadAnswers}

theorem supported_iff {values : List (String × OutputValue)} :
    (integer_value (object_member (some (.object values)) "schema_version") K_SCHEMA_VERSION
      K_SCHEMA_VERSION).isNone = false ↔
    IsInteger (object_member (some (.object values)) "schema_version") K_SCHEMA_VERSION := by
  rw [← Bool.not_eq_true, Option.isNone_iff_eq_none, ← ne_eq, Option.ne_none_iff_exists']
  constructor
  · rintro ⟨n, hn⟩
    obtain ⟨hinteger, hmin, hmax⟩ := integer_value_eq_some.1 hn
    exact le_antisymm hmax hmin ▸ hinteger
  · exact fun h => ⟨_, integer_value_eq_some.2 ⟨h, le_rfl, le_rfl⟩⟩

theorem supported_config_to_output {config : AppConfig} (hreread : Rereads cJSON config)
    (h : config.Valid) : Supported cJSON (config_text config) (config_to_output config) := by
  refine ⟨hreread, ⟨_, rfl⟩, ?_⟩
  have hversion : object_member (some (config_to_output config)) "schema_version" =
      some (.number (.ofInt config.schema_version)) := by
    simp [object_member, config_to_output, Assoc.find?]
  rw [hversion, h.schema_version]
  exact isInteger_ofInt (by decide) (by decide)

/-- The store as it is once the fields are read. -/
def fieldsRead (w : World) (root : OutputValue) : World :=
  ⟨{ path := w.store.path
     config := (read_fields root {}).1
     diagnostics := (read_fields root {}).2.diagnostics }, w.file⟩

/-- Loading a supported document reads its fields, and saves them if some were corrected. -/
theorem load_supported (hreadable : Readable w a) {text : String} {root : OutputValue}
    (hfile : w.file = some text) (h : Supported cJSON text root) :
    load cJSON w a =
      if (read_fields root {}).2.corrected then save_or_diagnose (fieldsRead w root) a.write
      else (fieldsRead w root, true) := by
  obtain ⟨hpath, hexists, hopens⟩ := hreadable
  obtain ⟨hparsed, ⟨values, rfl⟩, hversion⟩ := h
  have hsupported := supported_iff.2 hversion
  unfold load
  dsimp only
  rw [if_neg hpath, hexists, hfile]
  dsimp only
  rw [parse_json_file, if_pos hopens, hparsed]
  dsimp only
  rw [hsupported, if_neg Bool.false_ne_true]
  simp only [fieldsRead, hfile]

theorem save_config (w : World) (write : WriteAnswer) :
    (save w write).1.store.config = w.store.config := by
  unfold save
  split
  · rfl
  split <;> rfl

theorem save_or_diagnose_config (w : World) (write : WriteAnswer) :
    (save_or_diagnose w write).1.store.config = w.store.config := by
  have hconfig := save_config w write
  unfold save_or_diagnose
  split
  case h_1 w' hsave | h_2 w' hsave =>
    rw [hsave] at hconfig
    exact hconfig

/-- A save that returns true has replaced the file. -/
theorem save_or_diagnose_true {write : WriteAnswer} (h : (save_or_diagnose w write).2 = true) :
    (save_or_diagnose w write).1 =
      ⟨{ w.store with last_error := "" }, some (config_text w.store.config)⟩ := by
  unfold save_or_diagnose at h ⊢
  unfold save at h ⊢
  by_cases hpath : w.store.path = ""
  · rw [if_pos hpath] at h
    cases h
  · rw [if_neg hpath] at h ⊢
    cases write with
    | written => rfl
    | _ => cases h

/-- The configuration is the default or what is read of a document. -/
theorem load_config (w : World) (a : LoadAnswers) :
    (load cJSON w a).1.store.config = {} ∨
      ∃ root, (load cJSON w a).1.store.config = (read_fields root {}).1 := by
  unfold load
  dsimp only
  split
  · exact .inl rfl
  split
  · exact .inl rfl
  split
  · exact .inl (save_or_diagnose_config _ _)
  split
  case h_1 | h_3 => exact .inl rfl
  case h_2 values hparse =>
    split
    · exact .inl rfl
    refine .inr ⟨.object values, ?_⟩
    split
    · exact save_or_diagnose_config _ _
    · rfl

/-- A document that is not supported is not touched. -/
theorem load_unsupported {text : String} (hfile : w.file = some text)
    (h : ∀ root, ¬ Supported cJSON text root) : (load cJSON w a).1.file = w.file := by
  unfold load
  dsimp only
  split
  · rfl
  split
  · rfl
  rw [hfile]
  dsimp only
  split
  · rfl
  case h_2 values hparse =>
    split
    · rfl
    case isFalse hversion =>
      unfold parse_json_file at hparse
      split_ifs at hparse
      exact absurd ⟨hparse, ⟨values, rfl⟩, supported_iff.1 (Bool.not_eq_true _ ▸ hversion)⟩ (h _)
  · rfl

/-- In what was saved every field is found. -/
theorem load_saved (hreadable : Readable w a) (hfile : w.file = some (config_text w.store.config))
    (hvalid : w.store.config.Valid) (hreread : Rereads cJSON w.store.config) :
    load cJSON w a = (⟨{ path := w.store.path, config := w.store.config }, w.file⟩, true) := by
  rw [load_supported hreadable hfile (supported_config_to_output hreread hvalid)]
  simp only [fieldsRead, read_fields_config_to_output hvalid, Bool.false_eq_true, if_false]

end Load

/-- What `load` makes of the configuration and of the file. -/
structure Normalizes (cJSON : CJsonLibrary) (w : World) (a : LoadAnswers) : Prop where
  valid : (load cJSON w a).1.store.config.Valid
  keeps : ∀ text root, Readable w a → w.file = some text → Supported cJSON text root →
    KeepsFields root (load cJSON w a).1.store.config
  untouched : ∀ text, w.file = some text → (∀ root, ¬ Supported cJSON text root) →
    (load cJSON w a).1.file = w.file
  /-- The second `load` gets any answers that let it read the file. -/
  idempotent : ∀ text root, Readable w a → w.file = some text → Supported cJSON text root →
    Rereads cJSON (load cJSON w a).1.store.config → (load cJSON w a).2 = true →
    ∀ a', Readable w a' → load cJSON (load cJSON w a).1 a' =
      (⟨{ path := w.store.path, config := (load cJSON w a).1.store.config },
        (load cJSON w a).1.file⟩, true)

/-- Loading normalises the configuration, and a second time it has nothing to do. -/
theorem load_normalizes (cJSON : CJsonLibrary) (w : World) (a : LoadAnswers) :
    Normalizes cJSON w a where
  valid := by
    rcases @load_config cJSON w a with h | ⟨root, h⟩
    · rw [h]
      exact valid_default
    · rw [h]
      exact valid_read_fields _
  keeps text root hreadable hfile h := by
    rw [load_supported hreadable hfile h]
    split
    · rw [save_or_diagnose_config]
      exact keepsFields_read_fields _
    · exact keepsFields_read_fields _
  untouched text hfile h := load_unsupported hfile h
  idempotent text root hreadable hfile h hreread hok a' hreadable' := by
    rw [load_supported hreadable hfile h] at hreread hok ⊢
    by_cases hcorrected : (read_fields root {}).2.corrected = true
    · rw [if_pos hcorrected] at hreread hok ⊢
      rw [save_or_diagnose_true hok] at hreread ⊢
      exact load_saved ⟨hreadable'.path, hreadable'.exists_error, hreadable'.opens⟩ rfl
        (valid_read_fields {}) hreread
    · -- The same text is read again, and nothing had to be corrected.
      rw [if_neg hcorrected]
      have hclean : (read_fields root {}).2.diagnostics = [] :=
        honest_read_fields (fun _ => rfl) (Bool.not_eq_true _ ▸ hcorrected)
      have hreadable'' : Readable (fieldsRead w root) a' :=
        ⟨hreadable'.path, hreadable'.exists_error, hreadable'.opens⟩
      rw [load_supported hreadable'' hfile h, if_neg hcorrected]
      simp only [fieldsRead, hclean]

/-! ## A file with a wrong rate -/

theorem toList_config_text (config : AppConfig) : (config_text config).toList =
    pretty_output_value 2 0 (config_to_output config) ++ ['\n'] := by
  rw [config_text, output_value_to_pretty_string, String.toList_append, String.toList_ofList]
  rfl

/-- The default configuration is read back. -/
theorem rereads_default : Rereads JsonText.jsonText {} := by
  have hparse : (JsonText.jsonText.ParseWithLength (config_text {})).map output_value_from_json =
      some (config_to_output {}) := by
    have hlibrary : JsonText.jsonText.ParseWithLength = JsonText.parse := rfl
    rw [hlibrary, JsonText.parse, toList_config_text]
    decide +kernel
  obtain ⟨root, hroot, hvalue⟩ := Option.map_eq_some_iff.1 hparse
  unfold Rereads
  rw [parse_json_output_of hroot, hvalue]

/-- A document with a rate that is not allowed. -/
def sampleText : String := "\x7b\"schema_version\": 1, \"uart\": \x7b\"baud_rate\": 5\x7d\x7d"

def sampleRoot : OutputValue :=
  .object [("schema_version", .number (.ofNat 1)),
    ("uart", .object [("baud_rate", .number (.ofNat 5))])]

/-- The store and the file before the document is loaded. -/
def sampleWorld : World := ⟨{ path := "config.json" }, some sampleText⟩

/-- The rate is corrected, and after that there is nothing to do; a list is left in the file. -/
theorem load_normalizes_sample :
    let w := (load JsonText.jsonText sampleWorld {}).1
    w.store.config.Valid ∧ KeepsFields sampleRoot w.store.config ∧
      load JsonText.jsonText w {} = (⟨{ path := "config.json" }, w.file⟩, true) ∧
      (load JsonText.jsonText { sampleWorld with file := some "[]" } {}).1.file = some "[]" := by
  have hloads := load_normalizes JsonText.jsonText sampleWorld {}
  have hreadable : Readable sampleWorld {} := ⟨by decide, rfl, rfl⟩
  have hsupported : Supported JsonText.jsonText sampleText sampleRoot :=
    ⟨by decide +kernel, ⟨_, rfl⟩, isInteger_ofNat (by decide)⟩
  have hconfig : (load JsonText.jsonText sampleWorld {}).1.store.config = {} := by decide +kernel
  have hreread : Rereads JsonText.jsonText
      (load JsonText.jsonText sampleWorld {}).1.store.config := by
    rw [hconfig]
    exact rereads_default
  have hok : (load JsonText.jsonText sampleWorld {}).2 = true := by decide +kernel
  have hagain := hloads.idempotent sampleText _ hreadable rfl hsupported hreread hok {} hreadable
  rw [hconfig] at hagain
  have hlist : ∀ root, ¬ Supported JsonText.jsonText "[]" root := by
    rintro root ⟨hparsed, ⟨values, rfl⟩, -⟩
    have hempty : parse_json_output JsonText.jsonText "[]" = .ok (.array []) := by decide +kernel
    cases hempty.symm.trans hparsed
  exact ⟨hloads.valid, hloads.keeps sampleText _ hreadable rfl hsupported, hagain,
    (load_normalizes JsonText.jsonText { sampleWorld with file := some "[]" } {}).untouched "[]"
      rfl hlist⟩

end FactoryTest.Config
