import FactoryTest.Lib.Double
import Mathlib.Data.List.TakeWhile

/-!
# cJSON trees

`CJson` is the tree a `cJSON*` points to. An object keeps its members in the order in which
they were added; several members may have the same key, and a lookup returns the first.

The library itself is not part of the repository: `CJsonLibrary` holds its parser and its
printers. What the code relies on is that a printed tree is parsed back to the same tree
(`CJsonLibrary.Lossless`), for trees whose strings contain no NUL and whose numbers are finite
(`CJson.Printable`). `cJSON_AddStringToObject` and its siblings take a C string, so a
`std::string` is cut at its first NUL on the way in (`c_str`).
-/

namespace FactoryTest

/-- The C string a `std::string` is passed as: everything before the first NUL. -/
def c_str (s : String) : String := String.ofList (s.toList.takeWhile (· ≠ '\x00'))

/-- The string has no NUL. -/
def NulFree (s : String) : Prop := ∀ c ∈ s.toList, c ≠ '\x00'

instance (s : String) : Decidable (NulFree s) := List.decidableBAll _ _

theorem c_str_eq {s : String} (h : NulFree s) : c_str s = s := by
  unfold c_str
  rw [List.takeWhile_eq_self_iff.2 fun c hc => by simpa using h c hc, String.ofList_toList]

theorem nulFree_c_str (s : String) : NulFree (c_str s) := by
  intro c hc
  rw [c_str, String.toList_ofList] at hc
  simpa using List.mem_takeWhile_imp hc

/-- A cJSON tree. -/
inductive CJson
  | null
  | bool (value : Bool)
  | number (valuedouble : Double)
  | string (valuestring : String)
  | array (items : List CJson)
  | object (members : List (String × CJson))

namespace CJson

/-- `cJSON_GetObjectItemCaseSensitive` on the members of an object. -/
def findMember (key : String) : List (String × CJson) → Option CJson
  | [] => none
  | m :: ms => if m.1 = key then some m.2 else findMember key ms

/-- `cJSON_GetObjectItemCaseSensitive`. -/
def GetObjectItemCaseSensitive (item : CJson) (key : String) : Option CJson :=
  match item with
  | .object members => findMember key members
  | _ => none

@[simp] theorem findMember_nil (key : String) : findMember key [] = none := rfl

@[simp] theorem findMember_cons (key : String) (m : String × CJson) (ms : List (String × CJson)) :
    findMember key (m :: ms) = if m.1 = key then some m.2 else findMember key ms := rfl

@[simp] theorem getObjectItem_object (members : List (String × CJson)) (key : String) :
    (object members).GetObjectItemCaseSensitive key = findMember key members := rfl

/-- `item->valueint` of a number: its truncation, saturated to the range of `int`. -/
def valueint : Double → ℤ
  | .finite q h => max (-2147483648) (min 2147483647 (Double.finite q h).truncate)
  | .infinity negative => if negative then -2147483648 else 2147483647
  | .nan => 0

mutual

/-- Every string and key is free of NUL and every number is finite. -/
def Printable : CJson → Prop
  | null | bool _ => True
  | number d => d.isfinite = true
  | string s => NulFree s
  | array items => PrintableItems items
  | object members => PrintableMembers members

/-- Every item is printable. -/
def PrintableItems : List CJson → Prop
  | [] => True
  | item :: items => Printable item ∧ PrintableItems items

/-- Every key and every value is printable. -/
def PrintableMembers : List (String × CJson) → Prop
  | [] => True
  | (key, value) :: members => NulFree key ∧ Printable value ∧ PrintableMembers members

end

theorem printableItems_iff {items : List CJson} :
    PrintableItems items ↔ ∀ item ∈ items, item.Printable := by
  induction items with
  | nil => simp [PrintableItems]
  | cons item items ih => simp [PrintableItems, ih]

theorem printableMembers_iff {members : List (String × CJson)} :
    PrintableMembers members ↔ ∀ m ∈ members, NulFree m.1 ∧ m.2.Printable := by
  induction members with
  | nil => simp [PrintableMembers]
  | cons m members ih => simp [PrintableMembers, ih, and_assoc]

end CJson

/-- The functions of the cJSON library that the program calls. -/
structure CJsonLibrary where
  /-- `cJSON_ParseWithLength`; `none` is the null pointer. -/
  ParseWithLength : String → Option CJson
  /-- `cJSON_GetErrorPtr` after the parser refused a text. -/
  GetErrorPtr : String → Option String
  /-- `cJSON_Print`; `none` is the null pointer. -/
  Print : CJson → Option String
  /-- `cJSON_PrintUnformatted`; `none` is the null pointer. -/
  PrintUnformatted : CJson → Option String

/-- A formatted tree, followed by the newline `print_json` adds, is parsed back to itself. -/
def CJsonLibrary.Lossless (cJSON : CJsonLibrary) : Prop :=
  ∀ t : CJson, t.Printable → ∃ text, cJSON.Print t = some text ∧
    cJSON.ParseWithLength (text ++ "\n") = some t

end FactoryTest
