import FactoryTest.Json.CJson
import FactoryTest.Lib.OrderedMap
import Mathlib.Data.Nat.Log
import Mathlib.Data.Rat.Floor
import Mathlib.Data.String.Basic

/-!
# Output values

`OutputValue`, `parse_json_output` and the texts of values of `src/serialization/serialization.cpp`.
The members of an object are kept as a `std::map` keeps them: in increasing order of the keys, and
of several members with one key only the first (`std::map::emplace`).

**Texts.** Unlike cJSON, `output_value_to_string` and `output_value_to_pretty_string` escape only
the backslash, the quote and three control characters, and leave all other bytes as they are.
-/

namespace FactoryTest.Serialization

/-- `platform::serialization::OutputValue`. -/
inductive OutputValue
  | null
  | boolean (bool_value : Bool)
  | number (number_value : Double)
  | string (string_value : String)
  | array (array_values : List OutputValue)
  | object (object_values : List (String × OutputValue))

/-! ## Equality -/

mutual

/-- Whether two values are the same. -/
def OutputValue.same : OutputValue → OutputValue → Bool
  | .null, .null => true
  | .boolean b, .boolean b' => b = b'
  | .number d, .number d' => d = d'
  | .string s, .string s' => s = s'
  | .array items, .array items' => same_items items items'
  | .object members, .object members' => same_members members members'
  | _, _ => false

/-- Whether two lists of items are the same. -/
def same_items : List OutputValue → List OutputValue → Bool
  | [], [] => true
  | item :: items, item' :: items' => item.same item' && same_items items items'
  | _, _ => false

/-- Whether two lists of members are the same. -/
def same_members : List (String × OutputValue) → List (String × OutputValue) → Bool
  | [], [] => true
  | (key, value) :: members, (key', value') :: members' =>
    key = key' && value.same value' && same_members members members'
  | _, _ => false

end

mutual

theorem OutputValue.same_iff : ∀ v v' : OutputValue, v.same v' = true ↔ v = v'
  | .null, v' => by cases v' <;> simp [OutputValue.same]
  | .boolean _, v' => by cases v' <;> simp [OutputValue.same]
  | .number _, v' => by cases v' <;> simp [OutputValue.same]
  | .string _, v' => by cases v' <;> simp [OutputValue.same]
  | .array items, v' => by cases v' <;> simp [OutputValue.same, same_items_iff items]
  | .object members, v' => by cases v' <;> simp [OutputValue.same, same_members_iff members]

theorem same_items_iff : ∀ items items' : List OutputValue,
    same_items items items' = true ↔ items = items'
  | [], items' => by cases items' <;> simp [same_items]
  | item :: items, items' => by
    cases items' <;> simp [same_items, item.same_iff, same_items_iff items]

theorem same_members_iff : ∀ members members' : List (String × OutputValue),
    same_members members members' = true ↔ members = members'
  | [], members' => by cases members' <;> simp [same_members]
  | (key, value) :: members, members' => by
    cases members' <;> simp [same_members, value.same_iff, same_members_iff members, Prod.ext_iff]

end

instance : DecidableEq OutputValue := fun v v' => decidable_of_iff _ (v.same_iff v')

/-! ## Values from JSON -/

mutual

/-- `output_value_from_json`. -/
def output_value_from_json : CJson → OutputValue
  | .null => .null
  | .bool b => .boolean b
  | .number d => .number d
  | .string s => .string s
  | .array items => .array (values_from_items items)
  | .object members => .object (values_from_members members [])

/-- The `cJSON_ArrayForEach` loop over the items of an array. -/
def values_from_items : List CJson → List OutputValue
  | [] => []
  | item :: items => output_value_from_json item :: values_from_items items

/-- The `cJSON_ArrayForEach` loop over the members of an object, adding to `values`. -/
def values_from_members :
    List (String × CJson) → List (String × OutputValue) → List (String × OutputValue)
  | [], values => values
  | (key, item) :: members, values =>
    values_from_members members (Assoc.emplace key (output_value_from_json item) values)

end

/-- `parse_json_output`; the error is the `error_message` of a result that is no success. -/
def parse_json_output (cJSON : CJsonLibrary) (text : String) : Except String OutputValue :=
  match cJSON.ParseWithLength text with
  | none =>
    match cJSON.GetErrorPtr text with
    | some error => .error ("JSON parse error near: " ++ error)
    | none => .error "failed to parse JSON"
  | some root => .ok (output_value_from_json root)

theorem parse_json_output_of {cJSON : CJsonLibrary} {text : String} {root : CJson}
    (h : cJSON.ParseWithLength text = some root) :
    parse_json_output cJSON text = .ok (output_value_from_json root) := by
  rw [parse_json_output, h]

/-! ## Numbers -/

/-- The nearest natural number, the even one of two. -/
def round_even (q : ℚ) : ℕ :=
  let below := ⌊q⌋₊
  if q - below < 1 / 2 ∨ q - below = 1 / 2 ∧ below % 2 = 0 then below else below + 1

/-- The decimal exponent of the first digit of a positive number. -/
def decimal_exponent (q : ℚ) : ℤ :=
  if 1 ≤ q then Nat.log 10 ⌊q⌋₊ else -(Nat.clog 10 ⌈1 / q⌉₊ : ℤ)

/-- Digits without the zeros at their end. -/
def strip_zeros (digits : List Char) : List Char := (digits.reverse.dropWhile (· = '0')).reverse

/-- Digits with a point before the last ones, unless these are all zeros. -/
def with_point (whole fraction : List Char) : List Char :=
  let fraction := strip_zeros fraction
  if fraction.isEmpty then whole else whole ++ '.' :: fraction

/-- `out << std::setprecision(17) << q` of a positive number. -/
def general_positive (q : ℚ) : List Char :=
  let exponent := decimal_exponent q
  let rounded := round_even (q * 10 ^ (16 - exponent))
  -- Rounding may carry into one more digit.
  let carry : Bool := rounded = 10 ^ 17
  let digits := Nat.toDigits 10 (if carry then 10 ^ 16 else rounded)
  let exponent := if carry then exponent + 1 else exponent
  if exponent < -4 ∨ 17 ≤ exponent then
    let power := Nat.toDigits 10 exponent.natAbs
    with_point (digits.take 1) (digits.drop 1) ++ 'e' :: (if exponent < 0 then '-' else '+') ::
      (List.replicate (2 - power.length) '0' ++ power)
  else if exponent < 0 then
    with_point ['0'] (List.replicate (exponent.natAbs - 1) '0' ++ digits)
  else with_point (digits.take (exponent.toNat + 1)) (digits.drop (exponent.toNat + 1))

/-- The text of a number. -/
def number_text : Double → List Char
  | .finite q _ =>
    let sign := if q < 0 then ['-'] else []
    if q.den = 1 then sign ++ Nat.toDigits 10 q.num.natAbs else sign ++ general_positive |q|
  | .infinity negative => (if negative then "-inf" else "inf").toList
  | .nan => "nan".toList

/-! ## Texts of values -/

/-- What `escape_string` makes of a character. -/
def escape_char (ch : Char) : List Char :=
  if ch = '\\' then ['\\', '\\']
  else if ch = '"' then ['\\', '"']
  else if ch = '\n' then ['\\', 'n']
  else if ch = '\r' then ['\\', 'r']
  else if ch = '\t' then ['\\', 't']
  else [ch]

/-- `escape_string`. -/
def escape_string (value : String) : List Char := value.toList.flatMap escape_char

/-- A string in its quotes. -/
def quoted (value : String) : List Char := '"' :: (escape_string value ++ ['"'])

mutual

/-- `output_value_to_string`. -/
def output_value_to_string : OutputValue → List Char
  | .null => "null".toList
  | .boolean bool_value => if bool_value then "true".toList else "false".toList
  | .number number_value => number_text number_value
  | .string string_value => quoted string_value
  | .array [] => "[]".toList
  | .array (item :: items) => '[' :: (output_value_to_string item ++ output_items items)
  | .object [] => "\x7b\x7d".toList
  | .object ((key, value) :: members) =>
    '{' :: (quoted key ++ ": ".toList ++ output_value_to_string value ++ output_members members)

/-- The items after the first one. -/
def output_items : List OutputValue → List Char
  | [] => [']']
  | item :: items => ", ".toList ++ output_value_to_string item ++ output_items items

/-- The members after the first one. -/
def output_members : List (String × OutputValue) → List Char
  | [] => ['}']
  | (key, value) :: members =>
    ", ".toList ++ quoted key ++ ": ".toList ++ output_value_to_string value ++
      output_members members

end

section

variable (indent_size : ℕ)

/-- The indentation inside `depth` brackets. -/
def indent (depth : ℕ) : List Char := List.replicate (depth * indent_size) ' '

mutual

/-- `pretty_output_value`. -/
def pretty_output_value (depth : ℕ) : OutputValue → List Char
  | .array [] => "[]".toList
  | .array (item :: items) =>
    "[\n".toList ++ indent indent_size (depth + 1) ++ pretty_output_value (depth + 1) item ++
      pretty_items depth items
  | .object [] => "\x7b\x7d".toList
  | .object ((key, value) :: members) =>
    "\x7b\n".toList ++ indent indent_size (depth + 1) ++ quoted key ++ ": ".toList ++
      pretty_output_value (depth + 1) value ++ pretty_members depth members
  | .null => output_value_to_string .null
  | .boolean bool_value => output_value_to_string (.boolean bool_value)
  | .number number_value => output_value_to_string (.number number_value)
  | .string string_value => output_value_to_string (.string string_value)

/-- The items after the first one. -/
def pretty_items (depth : ℕ) : List OutputValue → List Char
  | [] => '\n' :: indent indent_size depth ++ [']']
  | item :: items =>
    ",\n".toList ++ indent indent_size (depth + 1) ++ pretty_output_value (depth + 1) item ++
      pretty_items depth items

/-- The members after the first one. -/
def pretty_members (depth : ℕ) : List (String × OutputValue) → List Char
  | [] => '\n' :: indent indent_size depth ++ ['}']
  | (key, value) :: members =>
    ",\n".toList ++ indent indent_size (depth + 1) ++ quoted key ++ ": ".toList ++
      pretty_output_value (depth + 1) value ++ pretty_members depth members

end

end

/-- `output_value_to_pretty_string`. -/
def output_value_to_pretty_string (value : OutputValue) (indent_size : ℕ := 2) : String :=
  String.ofList (pretty_output_value (max indent_size 1) 0 value)

end FactoryTest.Serialization
