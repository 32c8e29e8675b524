import FactoryTest.Yaml.Output
import Mathlib.Data.List.Chain

/-!
# Parsing event streams

`parse_yaml_output` on a stream that begins with the events of a tree gives the tree
(`parse_yaml_node_events`), and it reports no error on no other stream: where the parser comes
back without one, it has consumed the events of a tree, or met the end of the document where a
node should begin (`parse_yaml_node_sound`). An event that may not come therefore ends in an
error.
-/

namespace FactoryTest.Yaml

open Serialization (OutputValue)

variable {strtod : String → Strtod}

/-! ## The value of a tree -/

mutual

/-- The tree with its scalars converted. The members of an object are in the order of a
`std::map`. -/
def Tree.value (strtod : String → Strtod) : Tree → OutputValue
  | .scalar value => scalar_from_text strtod value
  | .sequence items => .array (itemsValues strtod items)
  | .mapping members => .object ((membersValues strtod members).mergeSort fun a b => a.1 ≤ b.1)

def itemsValues (strtod : String → Strtod) : List Tree → List OutputValue
  | [] => []
  | item :: items => item.value strtod :: itemsValues strtod items

def membersValues (strtod : String → Strtod) : List (String × Tree) → List (String × OutputValue)
  | [] => []
  | (key, value) :: members => (key, value.value strtod) :: membersValues strtod members

end

theorem map_fst_membersValues (members : List (String × Tree)) :
    (membersValues strtod members).map Prod.fst = members.map Prod.fst := by
  induction members with
  | nil => rfl
  | cons member members ih => simp [membersValues, ih]

/-! ## Every call returns -/

@[simp] theorem next_yaml_event_nil (message : String) :
    next_yaml_event [] message = (some .no_event, [], message) := rfl

@[simp] theorem next_yaml_event_failure (problem : Option String) (parser : List Step)
    (message : String) : next_yaml_event (.failure problem :: parser) message =
      (none, parser, problem.getD "failed to parse YAML") := rfl

@[simp] theorem next_yaml_event_event (e : Event) (parser : List Step) (message : String) :
    next_yaml_event (.event e :: parser) message = (some e, parser, message) := rfl

/-- The call comes back, with no more steps left than there were. -/
def Returns (parser : List Step) (result : Option (OutputValue × List Step × String)) : Prop :=
  ∃ value rest message, result = some (value, rest, message) ∧ rest.length ≤ parser.length

theorem Returns.of_some {parser rest : List Step} {value : OutputValue} {message : String}
    (h : rest.length ≤ parser.length) : Returns parser (some (value, rest, message)) :=
  ⟨value, rest, message, rfl, h⟩

theorem Returns.cons {parser : List Step} {result : Option (OutputValue × List Step × String)}
    (step : Step) (h : Returns parser result) : Returns (step :: parser) result := by
  obtain ⟨value, rest, message, heq, hlength⟩ := h
  exact ⟨value, rest, message, heq, by rw [List.length_cons]; omega⟩

theorem Returns.trans {parser rest : List Step}
    {result : Option (OutputValue × List Step × String)} (hlength : rest.length ≤ parser.length)
    (h : Returns rest result) : Returns parser result := by
  obtain ⟨value, rest', message, heq, hle⟩ := h
  exact ⟨value, rest', message, heq, hle.trans hlength⟩

/-- More fuel than there are steps left lets every call return. -/
theorem parse_yaml_returns (strtod : String → Strtod) (fuel : ℕ) :
    ∀ (parser : List Step) (message : String),
    parser.length < fuel →
    (∀ values, Returns parser (parse_yaml_mapping strtod fuel values parser message)) ∧
    (∀ values, Returns parser (parse_yaml_sequence strtod fuel values parser message)) ∧
    Returns parser (parse_yaml_node strtod fuel parser message) := by
  induction fuel with
  | zero => exact fun parser message h => absurd h (Nat.not_lt_zero _)
  | succ fuel ih =>
    intro parser message hfuel
    -- what is left is shorter than the fuel, wherever the loops go on
    have hnode := fun parser message h => (ih parser message h).2.2
    have hsequence := fun parser message h => (ih parser message h).2.1
    have hmapping := fun parser message h => (ih parser message h).1
    refine ⟨fun values => ?_, fun values => ?_, ?_⟩
    · rw [parse_yaml_mapping]
      split_ifs with hmessage
      · exact .of_some le_rfl
      rcases parser with - | ⟨e | problem, parser⟩
      · exact .of_some le_rfl
      · rw [List.length_cons] at hfuel
        cases e with
        | scalar key =>
          obtain ⟨value, rest, message', heq, hlength⟩ := hnode parser message (by omega)
          simp only [next_yaml_event_event, heq]
          split_ifs with hmessage'
          · exact .cons _ (.of_some hlength)
          · exact .cons _ (.trans hlength (hmapping rest message' (by omega) _))
        | _ => exact .of_some (Nat.le_succ _)
      · exact .of_some (Nat.le_succ _)
    · rw [parse_yaml_sequence]
      split_ifs with hmessage
      · exact .of_some le_rfl
      rcases parser with - | ⟨e | problem, parser⟩
      · exact .of_some le_rfl
      · rw [List.length_cons] at hfuel
        cases e with
        | scalar value => exact .cons _ (hsequence parser message (by omega) _)
        | sequence_start =>
          obtain ⟨value, rest, message', heq, hlength⟩ := hsequence parser message (by omega) []
          simp only [next_yaml_event_event, heq]
          exact .cons _ (.trans hlength (hsequence rest message' (by omega) _))
        | mapping_start =>
          obtain ⟨value, rest, message', heq, hlength⟩ := hmapping parser message (by omega) []
          simp only [next_yaml_event_event, heq]
          exact .cons _ (.trans hlength (hsequence rest message' (by omega) _))
        | _ => exact .of_some (Nat.le_succ _)
      · exact .of_some (Nat.le_succ _)
    · rw [parse_yaml_node]
      rcases parser with - | ⟨e | problem, parser⟩
      · exact .of_some le_rfl
      · rw [List.length_cons] at hfuel
        cases e with
        | sequence_start => exact .cons _ (hsequence parser message (by omega) [])
        | mapping_start => exact .cons _ (hmapping parser message (by omega) [])
        | _ => exact .of_some (Nat.le_succ _)
      · exact .of_some (Nat.le_succ _)

/-- A call that comes back comes back with the same result when it has more fuel. -/
theorem parse_yaml_succ (fuel : ℕ) : ∀ (parser : List Step) (message : String)
    (result : OutputValue × List Step × String),
    (∀ values, parse_yaml_mapping strtod fuel values parser message = some result →
      parse_yaml_mapping strtod (fuel + 1) values parser message = some result) ∧
    (∀ values, parse_yaml_sequence strtod fuel values parser message = some result →
      parse_yaml_sequence strtod (fuel + 1) values parser message = some result) ∧
    (parse_yaml_node strtod fuel parser message = some result →
      parse_yaml_node strtod (fuel + 1) parser message = some result) := by
  induction fuel with
  | zero =>
    intro parser message result
    simp [parse_yaml_mapping, parse_yaml_sequence, parse_yaml_node]
  | succ fuel ih =>
    intro parser message result
    have hnode := fun parser message result => (ih parser message result).2.2
    have hsequence := fun parser message result => (ih parser message result).2.1
    have hmapping := fun parser message result => (ih parser message result).1
    refine ⟨fun values h => ?_, fun values h => ?_, fun h => ?_⟩
    · rw [parse_yaml_mapping] at h ⊢
      split_ifs at h ⊢ with hmessage
      · exact h
      rcases parser with - | ⟨e | problem, parser⟩
      · exact h
      · cases e with
        | scalar key =>
          simp only [next_yaml_event_event] at h ⊢
          cases heq : parse_yaml_node strtod fuel parser message with
          | none => exact absurd h (by simp [heq])
          | some inner =>
            obtain ⟨value, rest, message'⟩ := inner
            simp only [heq] at h
            simp only [hnode _ _ _ heq]
            split_ifs at h ⊢ with hmessage'
            · exact h
            · exact hmapping _ _ _ _ h
        | _ => exact h
      · exact h
    · rw [parse_yaml_sequence] at h ⊢
      split_ifs at h ⊢ with hmessage
      · exact h
      rcases parser with - | ⟨e | problem, parser⟩
      · exact h
      · cases e with
        | scalar value => exact hsequence _ _ _ _ h
        | sequence_start =>
          simp only [next_yaml_event_event] at h ⊢
          cases heq : parse_yaml_sequence strtod fuel [] parser message with
          | none => exact absurd h (by simp [heq])
          | some inner =>
            simp only [heq] at h
            simp only [hsequence _ _ _ _ heq]
            exact hsequence _ _ _ _ h
        | mapping_start =>
          simp only [next_yaml_event_event] at h ⊢
          cases heq : parse_yaml_mapping strtod fuel [] parser message with
          | none => exact absurd h (by simp [heq])
          | some inner =>
            simp only [heq] at h
            simp only [hmapping _ _ _ _ heq]
            exact hsequence _ _ _ _ h
        | _ => exact h
      · exact h
    · rw [parse_yaml_node] at h ⊢
      rcases parser with - | ⟨e | problem, parser⟩
      · exact h
      · cases e with
        | sequence_start => exact hsequence _ _ _ _ h
        | mapping_start => exact hmapping _ _ _ _ h
        | _ => exact h
      · exact h

/-- All fuel above the number of steps gives the same result. -/
theorem parse_yaml_node_fuel {parser : List Step} {fuel : ℕ} (hfuel : parser.length < fuel)
    (message : String) : parse_yaml_node strtod fuel parser message =
      parse_yaml_node strtod (parser.length + 1) parser message := by
  obtain ⟨value, rest, message', heq, -⟩ :=
    (parse_yaml_returns strtod _ parser message (Nat.lt_succ_self _)).2.2
  rw [heq]
  induction fuel, hfuel using Nat.le_induction with
  | base => exact heq
  | succ fuel _ ih => exact (parse_yaml_succ fuel parser message _).2.2 ih

/-! ## The events of a tree -/

/-- The steps that give the events. -/
def steps (events : List Event) : List Step := events.map .event

@[simp] theorem steps_nil : steps [] = [] := rfl

@[simp] theorem steps_cons (e : Event) (events : List Event) :
    steps (e :: events) = .event e :: steps events := rfl

@[simp] theorem steps_append (es fs : List Event) : steps (es ++ fs) = steps es ++ steps fs :=
  List.map_append

theorem events_ne_nil (tree : Tree) : tree.events ≠ [] := by
  cases tree <;> simp [Tree.events]

theorem length_events_pos (tree : Tree) : 0 < (steps tree.events).length := by
  rw [steps, List.length_map]
  exact List.length_pos_of_ne_nil (events_ne_nil tree)

mutual

/-- A node takes the events of a tree, and no more. -/
theorem parse_yaml_node_events {fuel : ℕ} {rest : List Step} :
    (tree : Tree) → tree.DistinctKeys → (steps tree.events ++ rest).length < fuel + 1 →
    parse_yaml_node strtod (fuel + 1) (steps tree.events ++ rest) "" =
      some (tree.value strtod, rest, "")
  | .scalar value, _, hfuel => rfl
  | .sequence items, hdistinct, hfuel => by
    simp only [Tree.events, steps_cons, steps_append, steps_nil, List.cons_append,
      List.append_assoc, List.nil_append, List.length_cons] at hfuel ⊢
    rw [parse_yaml_node, next_yaml_event_event]
    exact parse_yaml_sequence_events items [] hdistinct (Nat.lt_of_succ_lt_succ hfuel)
  | .mapping members, ⟨hnodup, hdistinct⟩, hfuel => by
    simp only [Tree.events, steps_cons, steps_append, steps_nil, List.cons_append,
      List.append_assoc, List.nil_append, List.length_cons] at hfuel ⊢
    rw [parse_yaml_node, next_yaml_event_event]
    refine (parse_yaml_mapping_events members [] hdistinct (Nat.lt_of_succ_lt_succ hfuel)).trans ?_
    rw [Assoc.foldl_emplace_eq_mergeSort (by rwa [map_fst_membersValues]), Tree.value]

/-- The loop takes the events of an item, and goes on. -/
theorem parse_yaml_item_events {fuel : ℕ} {rest : List Step} (values : List OutputValue) :
    (item : Tree) → item.DistinctKeys → (steps item.events ++ rest).length < fuel + 1 →
    parse_yaml_sequence strtod (fuel + 1) values (steps item.events ++ rest) "" =
      parse_yaml_sequence strtod fuel (values ++ [item.value strtod]) rest ""
  | .scalar value, _, hfuel => rfl
  | .sequence items, hdistinct, hfuel => by
    simp only [Tree.events, steps_cons, steps_append, steps_nil, List.cons_append,
      List.append_assoc, List.nil_append, List.length_cons] at hfuel ⊢
    rw [parse_yaml_sequence, if_neg (not_not.2 rfl), next_yaml_event_event]
    have hitems := parse_yaml_sequence_events items [] hdistinct
      (Nat.lt_of_succ_lt_succ hfuel)
    simp only [hitems]
    rfl
  | .mapping members, ⟨hnodup, hdistinct⟩, hfuel => by
    simp only [Tree.events, steps_cons, steps_append, steps_nil, List.cons_append,
      List.append_assoc, List.nil_append, List.length_cons] at hfuel ⊢
    rw [parse_yaml_sequence, if_neg (not_not.2 rfl), next_yaml_event_event]
    have hmembers := parse_yaml_mapping_events members []
      hdistinct (Nat.lt_of_succ_lt_succ hfuel)
    rw [Assoc.foldl_emplace_eq_mergeSort (by rwa [map_fst_membersValues])] at hmembers
    simp only [hmembers]
    rfl

theorem parse_yaml_sequence_events {fuel : ℕ} {rest : List Step} : (items : List Tree) →
    (values : List OutputValue) → ItemsDistinct items →
    (steps (itemsEvents items) ++ .event .sequence_end :: rest).length < fuel →
    parse_yaml_sequence strtod fuel values
        (steps (itemsEvents items) ++ .event .sequence_end :: rest) "" =
      some (.array (values ++ itemsValues strtod items), rest, "")
  | [], values, _, hfuel => by
    cases fuel with
    | zero => exact absurd hfuel (Nat.not_lt_zero _)
    | succ fuel => simp [itemsEvents, itemsValues, parse_yaml_sequence]
  | item :: items, values, hdistinct, hfuel => by
    cases fuel with
    | zero => exact absurd hfuel (Nat.not_lt_zero _)
    | succ fuel =>
      have hpos := length_events_pos item
      simp only [itemsEvents, steps_append, List.append_assoc] at hfuel ⊢
      have hrest := hfuel
      rw [List.length_append] at hrest
      rw [parse_yaml_item_events values item hdistinct.1 hfuel,
        parse_yaml_sequence_events items _ hdistinct.2 (by omega), itemsValues, List.append_assoc,
        List.singleton_append]

theorem parse_yaml_mapping_events {fuel : ℕ} {rest : List Step} :
    (members : List (String × Tree)) → (values : List (String × OutputValue)) →
    MembersDistinct members →
    (steps (membersEvents members) ++ .event .mapping_end :: rest).length < fuel →
    parse_yaml_mapping strtod fuel values
        (steps (membersEvents members) ++ .event .mapping_end :: rest) "" =
      some (.object ((membersValues strtod members).foldl
        (fun values entry => Assoc.emplace entry.1 entry.2 values) values), rest, "")
  | [], values, _, hfuel => by
    cases fuel with
    | zero => exact absurd hfuel (Nat.not_lt_zero _)
    | succ fuel => rfl
  | (key, value) :: members, values, hdistinct, hfuel => by
    cases fuel with
    | zero => exact absurd hfuel (Nat.not_lt_zero _)
    | succ fuel =>
      have hpos := length_events_pos value
      simp only [membersEvents, steps_cons, steps_append, List.append_assoc, List.cons_append,
        List.length_cons] at hfuel ⊢
      have hrest := hfuel
      rw [List.length_append] at hrest
      obtain ⟨fuel, rfl⟩ : ∃ k, fuel = k + 1 := ⟨fuel - 1, by omega⟩
      rw [parse_yaml_mapping, if_neg (not_not.2 rfl), next_yaml_event_event]
      simp only [parse_yaml_node_events value hdistinct.1 (Nat.lt_of_succ_lt_succ hfuel)]
      rw [if_neg (not_not.2 rfl), parse_yaml_mapping_events members _ hdistinct.2 (by omega)]
      rfl

end

/-! ## Streams without an error -/

/-- A document has a node, and after its end comes another document or the end of the stream. -/
def MayFollow : Step → Step → Prop
  | .event .document_start, .event e => e ≠ .document_end
  | .event .document_end, .event e => e = .document_start ∨ e = .stream_end
  | _, _ => True

instance : DecidableRel MayFollow := fun a b => by
  unfold MayFollow
  split <;> infer_instance

/-- What libyaml documents of its streams: a problem is described, and the grammar of documents. -/
structure Documented (parser : List Step) : Prop where
  described : Step.failure (some "") ∉ parser
  grammar : parser.IsChain MayFollow

theorem Documented.suffix {parser rest : List Step} (h : Documented parser)
    (hsuffix : rest <:+ parser) : Documented rest where
  described hmem := h.described (hsuffix.subset hmem)
  grammar := h.grammar.suffix hsuffix

theorem Documented.tail {parser : List Step} {step : Step} (h : Documented (step :: parser)) :
    Documented parser :=
  h.suffix (List.suffix_cons _ _)

theorem Documented.follow {a b : Step} {parser : List Step} (h : Documented (a :: b :: parser)) :
    MayFollow a b :=
  (List.isChain_cons_cons.1 h.grammar).1

theorem Documented.problem_ne {parser : List Step} {problem : Option String}
    (h : Documented (.failure problem :: parser)) : problem.getD "failed to parse YAML" ≠ "" := by
  cases problem with
  | none => exact show "failed to parse YAML" ≠ "" by decide
  | some problem =>
    rintro rfl
    exact h.described List.mem_cons_self

/-- A loop that is entered with an error ends with one. -/
theorem parse_yaml_sequence_error {fuel : ℕ} {values : List OutputValue} {parser rest : List Step}
    {message : String} {value : OutputValue}
    (h : parse_yaml_sequence strtod fuel values parser message = some (value, rest, "")) :
    message = "" := by
  cases fuel with
  | zero => exact absurd h (by simp [parse_yaml_sequence])
  | succ fuel =>
    by_contra hmessage
    rw [parse_yaml_sequence, if_pos hmessage] at h
    exact hmessage (congrArg (fun r => r.2.2) (Option.some.inj h))

/-- A mapping does not go on after the end of a document. -/
theorem parse_yaml_mapping_ended {fuel : ℕ} {values : List (String × OutputValue)}
    {parser rest : List Step} {value : OutputValue}
    (hdocumented : Documented (.event .document_end :: parser)) :
    parse_yaml_mapping strtod fuel values parser "" ≠ some (value, rest, "") := by
  intro h
  cases fuel with
  | zero => exact absurd h (by simp [parse_yaml_mapping])
  | succ fuel =>
    rw [parse_yaml_mapping, if_neg (not_not.2 rfl)] at h
    rcases parser with - | ⟨e | problem, parser⟩
    · exact absurd h (by simp)
    · rcases hdocumented.follow with rfl | rfl <;> exact absurd h (by simp)
    · have hproblem := hdocumented.tail.problem_ne
      exact hproblem (congrArg (fun r => r.2.2) (Option.some.inj h))

/-- With that much fuel a mapping without an error has consumed members and their end. -/
def MappingSound (strtod : String → Strtod) (fuel : ℕ) : Prop :=
  ∀ parser, Documented parser → ∀ values value rest,
    parse_yaml_mapping strtod fuel values parser "" = some (value, rest, "") →
      ∃ members, parser = steps (membersEvents members) ++ .event .mapping_end :: rest

/-- With that much fuel a sequence without an error has consumed items and their end. -/
def SequenceSound (strtod : String → Strtod) (fuel : ℕ) : Prop :=
  ∀ parser, Documented parser → ∀ values value rest,
    parse_yaml_sequence strtod fuel values parser "" = some (value, rest, "") →
      ∃ items, parser = steps (itemsEvents items) ++ .event .sequence_end :: rest

/-- With that much fuel a node without an error has consumed a tree, or met the end of the
document. -/
def NodeSound (strtod : String → Strtod) (fuel : ℕ) : Prop :=
  ∀ parser, Documented parser → ∀ value rest,
    parse_yaml_node strtod fuel parser "" = some (value, rest, "") →
      (∃ tree : Tree, parser = steps tree.events ++ rest) ∨ parser = .event .document_end :: rest

theorem MappingSound.succ {fuel : ℕ} (hnode : NodeSound strtod fuel)
    (hmapping : MappingSound strtod fuel) : MappingSound strtod (fuel + 1) := by
  intro parser hdocumented values value rest h
  rw [parse_yaml_mapping, if_neg (not_not.2 rfl)] at h
  rcases parser with - | ⟨e | problem, parser⟩
  · exact absurd h (by simp)
  · cases e with
    | mapping_end =>
      simp only [next_yaml_event_event, Option.some.injEq, Prod.mk.injEq] at h
      exact ⟨[], by rw [h.2.1]; rfl⟩
    | scalar key =>
      simp only [next_yaml_event_event] at h
      split at h
      · exact absurd h (by simp)
      · next value' rest' message heq =>
        split_ifs at h with hmessage
        · exact absurd (congrArg (fun r => r.2.2) (Option.some.inj h)) hmessage
        · rw [not_not.1 hmessage] at h heq
          rcases hnode parser hdocumented.tail value' rest' heq with ⟨tree, rfl⟩ | rfl
          · obtain ⟨members, rfl⟩ := hmapping rest'
              (hdocumented.tail.suffix (List.suffix_append _ _)) _ value rest h
            exact ⟨(key, tree) :: members, by simp [membersEvents]⟩
          · exact absurd h (parse_yaml_mapping_ended hdocumented.tail)
    | _ => exact absurd h (by simp)
  · exact absurd (congrArg (fun r => r.2.2) (Option.some.inj h)) hdocumented.problem_ne

theorem SequenceSound.succ {fuel : ℕ} (hmapping : MappingSound strtod fuel)
    (hsequence : SequenceSound strtod fuel) : SequenceSound strtod (fuel + 1) := by
  intro parser hdocumented values value rest h
  rw [parse_yaml_sequence, if_neg (not_not.2 rfl)] at h
  rcases parser with - | ⟨e | problem, parser⟩
  · exact absurd h (by simp)
  · cases e with
    | sequence_end =>
      simp only [next_yaml_event_event, Option.some.injEq, Prod.mk.injEq] at h
      exact ⟨[], by rw [h.2.1]; rfl⟩
    | scalar value' =>
      obtain ⟨items, rfl⟩ := hsequence parser hdocumented.tail _ value rest h
      exact ⟨.scalar value' :: items, by simp [itemsEvents, Tree.events]⟩
    | sequence_start =>
      simp only [next_yaml_event_event] at h
      split at h
      · exact absurd h (by simp)
      · next value' rest' message heq =>
        obtain rfl := parse_yaml_sequence_error h
        obtain ⟨inner, rfl⟩ := hsequence parser hdocumented.tail _ value' rest' heq
        obtain ⟨items, rfl⟩ := hsequence rest'
          (hdocumented.tail.suffix ⟨_, (List.append_cons _ _ _).symm⟩) _ value rest h
        exact ⟨.sequence inner :: items, by simp [itemsEvents, Tree.events]⟩
    | mapping_start =>
      simp only [next_yaml_event_event] at h
      split at h
      · exact absurd h (by simp)
      · next value' rest' message heq =>
        obtain rfl := parse_yaml_sequence_error h
        obtain ⟨inner, rfl⟩ := hmapping parser hdocumented.tail _ value' rest' heq
        obtain ⟨items, rfl⟩ := hsequence rest'
          (hdocumented.tail.suffix ⟨_, (List.append_cons _ _ _).symm⟩) _ value rest h
        exact ⟨.mapping inner :: items, by simp [itemsEvents, Tree.events]⟩
    | _ => exact absurd h (by simp)
  · exact absurd (congrArg (fun r => r.2.2) (Option.some.inj h)) hdocumented.problem_ne

theorem NodeSound.succ {fuel : ℕ} (hmapping : MappingSound strtod fuel)
    (hsequence : SequenceSound strtod fuel) : NodeSound strtod (fuel + 1) := by
  intro parser hdocumented value rest h
  rw [parse_yaml_node] at h
  rcases parser with - | ⟨e | problem, parser⟩
  · exact absurd h (by simp)
  · cases e with
    | scalar value' =>
      simp only [next_yaml_event_event, Option.some.injEq, Prod.mk.injEq] at h
      exact .inl ⟨.scalar value', by rw [h.2.1]; rfl⟩
    | sequence_start =>
      obtain ⟨items, rfl⟩ := hsequence parser hdocumented.tail _ value rest h
      exact .inl ⟨.sequence items, by simp [Tree.events]⟩
    | mapping_start =>
      obtain ⟨members, rfl⟩ := hmapping parser hdocumented.tail _ value rest h
      exact .inl ⟨.mapping members, by simp [Tree.events]⟩
    | document_end =>
      simp only [next_yaml_event_event, Option.some.injEq, Prod.mk.injEq] at h
      exact .inr (by rw [h.2.1])
    | _ => exact absurd h (by simp)
  · exact absurd (congrArg (fun r => r.2.2) (Option.some.inj h)) hdocumented.problem_ne

/-- A call that comes back without an error has consumed what it is for; only a node may have met
the end of the document instead. -/
theorem parse_yaml_sound (fuel : ℕ) :
    MappingSound strtod fuel ∧ SequenceSound strtod fuel ∧ NodeSound strtod fuel := by
  induction fuel with
  | zero =>
    refine ⟨fun parser _ values value rest h => ?_, fun parser _ values value rest h => ?_,
      fun parser _ value rest h => ?_⟩
    · exact absurd h (by simp [parse_yaml_mapping])
    · exact absurd h (by simp [parse_yaml_sequence])
    · exact absurd h (by simp [parse_yaml_node])
  | succ fuel ih =>
    obtain ⟨hmapping, hsequence, hnode⟩ := ih
    exact ⟨hmapping.succ hnode, hsequence.succ hmapping, .succ hmapping hsequence⟩

/-! ## Streams from the start -/

/-- What may not come in a node of which these places are open: nothing, a failure, or an event
that the places do not expect. -/
def Breaks (places : List Place) : Option Step → Prop
  | none => True
  | some (.failure _) => True
  | some (.event e) => advance places e = none

/-- A premature end, a failure and an alias break a node, and so does a key that is no scalar. -/
theorem breaks_of_mem {places : List Place} {step : Option Step}
    (h : step = none ∨ (∃ problem, step = some (.failure problem)) ∨
      (∃ e ∈ [Event.no_event, .stream_start, .stream_end, .document_start, .document_end,
        .alias_event], step = some (.event e)) ∨
      (∃ e left, places = .key :: left ∧ e ≠ .mapping_end ∧ (∀ value, e ≠ .scalar value) ∧
        step = some (.event e))) : Breaks places step := by
  rcases h with rfl | ⟨problem, rfl⟩ | ⟨e, he, rfl⟩ | ⟨e, left, rfl, hend, hscalar, rfl⟩
  · trivial
  · trivial
  · exact advance_outside places he
  · exact advance_key hend hscalar

/-- A stream that breaks a node does not begin with the events of a tree. -/
theorem Breaks.ne_tree {places : List Place} {events : List Event} {parser rest : List Step}
    (hbreaks : Breaks places parser.head?) (hrun : run [.node] events = some places)
    (hplaces : places ≠ []) (tree : Tree) :
    steps events ++ parser ≠ steps tree.events ++ rest := by
  intro heq
  rcases List.append_eq_append_iff.1 heq with ⟨left, htree, hparser⟩ | ⟨right, hevents, -⟩
  · obtain ⟨before, after, hsplit, hbefore, hafter⟩ := List.map_eq_append_iff.1 htree
    obtain rfl := List.map_injective_iff.2 (fun _ _ h => Step.event.inj h) hbefore
    cases after with
    | nil =>
      rw [List.append_nil] at hsplit
      exact not_prefix_of_run hrun hplaces ⟨[], by rw [List.append_nil, hsplit]⟩
    | cons e after =>
      rw [hparser, ← hafter] at hbreaks
      have hprefix : before ++ [e] <+: tree.events :=
        ⟨after, by rw [hsplit, List.append_assoc, List.singleton_append]⟩
      exact advance_ne_none_of_prefix hrun hprefix hbreaks
  · obtain ⟨before, after, hsplit, hbefore, -⟩ := List.map_eq_append_iff.1 hevents
    obtain rfl := List.map_injective_iff.2 (fun _ _ h => Step.event.inj h) hbefore
    exact not_prefix_of_run hrun hplaces ⟨after, hsplit.symm⟩

/-- What `parse_yaml_output` makes of a stream that begins a document. -/
theorem parse_yaml_output_document {libyaml : Libyaml} {text : String} {parser : List Step}
    (hsteps : libyaml.steps text = .event .stream_start :: .event .document_start :: parser)
    (hready : libyaml.parser_initialize = true) (fuel : ℕ) :
    parse_yaml_output strtod libyaml fuel text =
      (parse_yaml_node strtod fuel parser "").map fun result =>
        { value := result.1, error_message := result.2.2 } := by
  rw [parse_yaml_output, hready, hsteps]
  rfl

/-- The tree of a document comes back as it is; a node that is broken ends in an error. -/
theorem parse_yaml_output_spec (strtod : String → Strtod) (libyaml : Libyaml) (text : String) :
    (∀ (tree : Tree) rest, tree.DistinctKeys → libyaml.parser_initialize = true →
      libyaml.steps text = steps (.stream_start :: .document_start :: tree.events) ++ rest →
      ∀ fuel, (libyaml.steps text).length < fuel →
        parse_yaml_output strtod libyaml fuel text = some { value := tree.value strtod } ∧
        parse_yaml_node strtod fuel (steps tree.events ++ rest) "" =
          some (tree.value strtod, rest, "")) ∧
    (Documented (libyaml.steps text) → ∀ events places rest,
      libyaml.steps text = steps (.stream_start :: .document_start :: events) ++ rest →
      run [.node] events = some places → places ≠ [] → Breaks places rest.head? →
      ∃ result, result.error_message ≠ "" ∧ ∀ fuel, (libyaml.steps text).length < fuel →
        parse_yaml_output strtod libyaml fuel text = some result) := by
  constructor
  · intro tree rest hdistinct hready hsteps fuel hfuel
    rw [steps_cons, steps_cons, List.cons_append, List.cons_append] at hsteps
    rw [hsteps, List.length_cons, List.length_cons] at hfuel
    obtain ⟨fuel, rfl⟩ : ∃ k, fuel = k + 1 := ⟨fuel - 1, by omega⟩
    have hnode : parse_yaml_node strtod (fuel + 1) (steps tree.events ++ rest) "" =
        some (tree.value strtod, rest, "") :=
      parse_yaml_node_events tree hdistinct (by omega)
    refine ⟨?_, hnode⟩
    rw [parse_yaml_output_document hsteps hready, hnode]
    rfl
  · intro hdocumented events places rest hsteps hrun hplaces hbreaks
    cases hready : libyaml.parser_initialize with
    | false =>
      refine ⟨{ error_message := "failed to initialize YAML parser" },
        show "failed to initialize YAML parser" ≠ "" by decide, fun fuel _ => ?_⟩
      rw [parse_yaml_output, hready]
      rfl
    | true =>
      rw [steps_cons, steps_cons, List.cons_append, List.cons_append] at hsteps
      obtain ⟨value, left, message, heq, -⟩ := (parse_yaml_returns strtod _
        (steps events ++ rest) "" (Nat.lt_succ_self _)).2.2
      refine ⟨{ value := value, error_message := message }, ?_, fun fuel hfuel => ?_⟩
      · rintro rfl
        rw [hsteps] at hdocumented
        have hsound := (parse_yaml_sound _).2.2 _ hdocumented.tail.tail value left heq
        rcases hsound with ⟨tree, htree⟩ | hend
        · exact hbreaks.ne_tree hrun hplaces tree htree
        · -- a document has a node
          rw [hend] at hdocumented
          exact hdocumented.tail.follow rfl
      · rw [hsteps, List.length_cons, List.length_cons] at hfuel
        rw [parse_yaml_output_document hsteps hready, parse_yaml_node_fuel (by omega), heq]
        rfl

/-- What `std::strtod` makes of `1` and of a text that begins with no number. -/
def sampleStrtod (text : String) : Strtod :=
  if text = "1" then ⟨.ofNat 1, "", 0⟩ else ⟨.ofNat 0, text, 0⟩

/-- A mapping with a sequence in it, and one whose value is an alias. -/
def sampleLibyaml : Libyaml where
  parser_initialize := true
  steps text :=
    if text = "a: [1, x]" then
      steps [.stream_start, .document_start, .mapping_start, .scalar "a", .sequence_start,
        .scalar "1", .scalar "x", .sequence_end, .mapping_end, .document_end, .stream_end]
    else if text = "a: *b" then
      steps [.stream_start, .document_start, .mapping_start, .scalar "a", .alias_event,
        .mapping_end, .document_end, .stream_end]
    else steps [.stream_start, .stream_end]

theorem parse_yaml_output_sample :
    parse_yaml_output sampleStrtod sampleLibyaml 20 "a: [1, x]" =
      some ⟨(Tree.mapping [("a", .sequence [.scalar "1", .scalar "x"])]).value sampleStrtod, ""⟩ ∧
    ∃ result, result.error_message ≠ "" ∧
      parse_yaml_output sampleStrtod sampleLibyaml 20 "a: *b" = some result := by
  constructor
  · exact ((parse_yaml_output_spec sampleStrtod sampleLibyaml "a: [1, x]").1
      (.mapping [("a", .sequence [.scalar "1", .scalar "x"])])
      [.event .document_end, .event .stream_end]
      ⟨by decide, ⟨trivial, trivial, trivial⟩, trivial⟩ rfl rfl 20 (by decide)).1
  · obtain ⟨result, hmessage, hresult⟩ :=
      (parse_yaml_output_spec sampleStrtod sampleLibyaml "a: *b").2 ⟨by decide, by decide⟩
        [.mapping_start, .scalar "a"] [.node, .key]
        (steps [.alias_event, .mapping_end, .document_end, .stream_end]) rfl rfl (by decide) rfl
    exact ⟨result, hmessage, hresult 20 (by decide)⟩

end FactoryTest.Yaml
