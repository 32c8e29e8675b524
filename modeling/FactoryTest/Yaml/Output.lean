import FactoryTest.Json.Serialization
import FactoryTest.Lib.Segments
import FactoryTest.Yaml.Events
import Mathlib.Data.List.Sort

/-!
# YAML output

`parse_yaml_output` of `src/serialization/serialization.cpp`: three functions that call each
other, one parser and one error message going through all of them.

libyaml is not part of the repository. A parser is the list of what its calls give (`Step`); a
call past the end gives `YAML_NO_EVENT`, as libyaml does after the end of the stream or an
error. The depth of the calls is bounded by `fuel`; more fuel than there are steps left is
always enough (`parse_yaml_returns`).
-/

namespace FactoryTest.Yaml

open Serialization (OutputValue)

/-- What a call of `yaml_parser_parse` gives: an event, or a failure with `parser.problem`. -/
inductive Step
  | event (e : Event)
  | failure (problem : Option String)
deriving DecidableEq

/-- The functions of libyaml that the program calls. -/
structure Libyaml where
  /-- `yaml_parser_initialize` succeeds. -/
  parser_initialize : Bool
  /-- What the calls of `yaml_parser_parse` on the text give. -/
  steps : String → List Step

/-- What `std::strtod` gives: the number, what follows it, and `errno`. -/
structure Strtod where
  value : Double
  rest : String
  errno : ℕ

variable (strtod : String → Strtod)

/-- `parse_number`; `strtod` depends on the locale. -/
def parse_number (text : String) : Option Double :=
  if text = "" then none
  else
    let parsed := strtod (c_str text)
    if parsed.errno = 0 ∧ parsed.rest = "" ∧ parsed.value.isfinite then some parsed.value
    else none

/-- `scalar_from_text`. -/
def scalar_from_text (value : String) : OutputValue :=
  let text := String.ofList (trim value.toList)
  if text = "null" ∨ text = "Null" ∨ text = "NULL" ∨ text = "~" then .null
  else if text = "true" ∨ text = "True" ∨ text = "TRUE" then .boolean true
  else if text = "false" ∨ text = "False" ∨ text = "FALSE" then .boolean false
  else
    match parse_number strtod text with
    | some number => .number number
    | none => .string value

/-- `next_yaml_event`: the event, unless the parser failed, with what is left and the error
message. -/
def next_yaml_event (parser : List Step) (error_message : String) :
    Option Event × List Step × String :=
  match parser with
  | [] => (some .no_event, [], error_message)
  | .failure problem :: parser => (none, parser, problem.getD "failed to parse YAML")
  | .event e :: parser => (some e, parser, error_message)

mutual

/-- The loop of `parse_yaml_mapping`, with the values so far. -/
def parse_yaml_mapping (fuel : ℕ) (values : List (String × OutputValue)) (parser : List Step)
    (error_message : String) : Option (OutputValue × List Step × String) :=
  match fuel with
  | 0 => none
  | fuel + 1 =>
    if error_message ≠ "" then some (.null, parser, error_message)
    else
      match next_yaml_event parser error_message with
      | (none, parser, error_message) => some (.null, parser, error_message)
      | (some .mapping_end, parser, error_message) => some (.object values, parser, error_message)
      | (some (.scalar key), parser, error_message) =>
        match parse_yaml_node fuel parser error_message with
        | none => none
        | some (value, parser, error_message) =>
          if error_message ≠ "" then some (.null, parser, error_message)
          else
            parse_yaml_mapping fuel (Assoc.emplace key value values) parser error_message
      | (some _, parser, _) => some (.null, parser, "YAML mapping key must be a scalar")

/-- The loop of `parse_yaml_sequence`, with the values so far. -/
def parse_yaml_sequence (fuel : ℕ) (values : List OutputValue) (parser : List Step)
    (error_message : String) : Option (OutputValue × List Step × String) :=
  match fuel with
  | 0 => none
  | fuel + 1 =>
    if error_message ≠ "" then some (.null, parser, error_message)
    else
      match next_yaml_event parser error_message with
      | (none, parser, error_message) => some (.null, parser, error_message)
      | (some .sequence_end, parser, error_message) => some (.array values, parser, error_message)
      | (some (.scalar value), parser, error_message) =>
        parse_yaml_sequence fuel (values ++ [scalar_from_text strtod value]) parser error_message
      | (some .sequence_start, parser, error_message) =>
        match parse_yaml_sequence fuel [] parser error_message with
        | none => none
        | some (value, parser, error_message) =>
          parse_yaml_sequence fuel (values ++ [value]) parser error_message
      | (some .mapping_start, parser, error_message) =>
        match parse_yaml_mapping fuel [] parser error_message with
        | none => none
        | some (value, parser, error_message) =>
          parse_yaml_sequence fuel (values ++ [value]) parser error_message
      | (some _, parser, _) => some (.null, parser, "unsupported YAML sequence node")

/-- `parse_yaml_node`. -/
def parse_yaml_node (fuel : ℕ) (parser : List Step) (error_message : String) :
    Option (OutputValue × List Step × String) :=
  match fuel with
  | 0 => none
  | fuel + 1 =>
    match next_yaml_event parser error_message with
    | (none, parser, error_message) => some (.null, parser, error_message)
    | (some (.scalar value), parser, error_message) =>
      some (scalar_from_text strtod value, parser, error_message)
    | (some .sequence_start, parser, error_message) =>
      parse_yaml_sequence fuel [] parser error_message
    | (some .mapping_start, parser, error_message) =>
      parse_yaml_mapping fuel [] parser error_message
    | (some .document_end, parser, error_message) => some (.null, parser, error_message)
    | (some _, parser, _) => some (.null, parser, "unsupported YAML node")

end

/-- `ParseResult`. -/
structure ParseResult where
  value : OutputValue := .null
  error_message : String := ""

/-- `parse_yaml_output`; `none` if the fuel runs out. -/
def parse_yaml_output (libyaml : Libyaml) (fuel : ℕ) (text : String) : Option ParseResult :=
  if !libyaml.parser_initialize then some { error_message := "failed to initialize YAML parser" }
  else
    match next_yaml_event (libyaml.steps text) "" with
    | (some .stream_start, parser, error_message) =>
      match next_yaml_event parser error_message with
      | (some .document_start, parser, error_message) =>
        (parse_yaml_node strtod fuel parser error_message).map fun result =>
          { value := result.1, error_message := result.2.2 }
      | (_, _, error_message) =>
        some { error_message :=
          if error_message = "" then "invalid YAML document" else error_message }
    | (_, _, error_message) =>
      some { error_message := if error_message = "" then "invalid YAML stream" else error_message }

end FactoryTest.Yaml
