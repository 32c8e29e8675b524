import Mathlib.Data.List.Basic

/-!
# YAML events

What libyaml hands to the program: a document is given as a stream of events, a node as the
events between its start and its end. `Tree` is a document built of scalars, sequences and
mappings with scalar keys; `Tree.events` is its event stream.

A reader that has seen part of a node knows what may come next: `Place` says which part of the
node is expected, a stack of places what is expected after it, and `advance` what an event does
to the stack. The events of a tree empty the stack (`run_events`), and they are the only ones
that do so at their last event.
-/

namespace FactoryTest.Yaml

/-- `yaml_event_t`: the type of the event, and the value of a scalar. -/
inductive Event
  | no_event
  | stream_start
  | stream_end
  | document_start
  | document_end
  | alias_event
  | scalar (value : String)
  | sequence_start
  | sequence_end
  | mapping_start
  | mapping_end
deriving DecidableEq

/-- A document built of scalars, sequences and mappings with scalar keys. -/
inductive Tree
  | scalar (value : String)
  | sequence (items : List Tree)
  | mapping (members : List (String × Tree))

mutual

/-- The events of a tree. -/
def Tree.events : Tree → List Event
  | .scalar value => [.scalar value]
  | .sequence items => .sequence_start :: (itemsEvents items ++ [.sequence_end])
  | .mapping members => .mapping_start :: (membersEvents members ++ [.mapping_end])

def itemsEvents : List Tree → List Event
  | [] => []
  | item :: items => item.events ++ itemsEvents items

def membersEvents : List (String × Tree) → List Event
  | [] => []
  | (key, value) :: members => .scalar key :: (value.events ++ membersEvents members)

end

mutual

/-- The keys of every mapping in the tree are distinct. -/
def Tree.DistinctKeys : Tree → Prop
  | .scalar _ => True
  | .sequence items => ItemsDistinct items
  | .mapping members => (members.map Prod.fst).Nodup ∧ MembersDistinct members

def ItemsDistinct : List Tree → Prop
  | [] => True
  | item :: items => item.DistinctKeys ∧ ItemsDistinct items

def MembersDistinct : List (String × Tree) → Prop
  | [] => True
  | (_, value) :: members => value.DistinctKeys ∧ MembersDistinct members

end

/-! ## What may come next -/

/-- What is expected next: a node, an item or the end of a sequence, a key or the end of a
mapping. -/
inductive Place
  | node
  | item
  | key
deriving DecidableEq

/-- The places after an event, the innermost first; `none` where the event may not come. -/
def advance : List Place → Event → Option (List Place)
  | .node :: places, .scalar _ => some places
  | .node :: places, .sequence_start => some (.item :: places)
  | .node :: places, .mapping_start => some (.key :: places)
  | .item :: places, .scalar _ => some (.item :: places)
  | .item :: places, .sequence_start => some (.item :: .item :: places)
  | .item :: places, .mapping_start => some (.key :: .item :: places)
  | .item :: places, .sequence_end => some places
  | .key :: places, .scalar _ => some (.node :: .key :: places)
  | .key :: places, .mapping_end => some places
  | _, _ => none

/-- The places after a list of events. -/
def run (places : List Place) : List Event → Option (List Place)
  | [] => some places
  | e :: es => (advance places e).bind fun places => run places es

@[simp] theorem run_nil (places : List Place) : run places [] = some places := rfl

@[simp] theorem run_cons (places : List Place) (e : Event) (es : List Event) :
    run places (e :: es) = (advance places e).bind fun places => run places es := rfl

theorem run_append (places : List Place) (es fs : List Event) :
    run places (es ++ fs) = (run places es).bind fun places => run places fs := by
  induction es generalizing places with
  | nil => rfl
  | cons e es ih =>
    rw [List.cons_append, run_cons, run_cons, Option.bind_assoc]
    congr 1
    funext places
    exact ih places

/-- An alias may come nowhere, nor may an end of the document or of the stream inside a node. -/
theorem advance_outside (places : List Place) {e : Event}
    (he : e ∈ [Event.no_event, .stream_start, .stream_end, .document_start, .document_end,
      .alias_event]) : advance places e = none := by
  simp only [List.mem_cons, List.not_mem_nil, or_false] at he
  rcases places with - | ⟨_ | _ | _, places⟩ <;>
    rcases he with rfl | rfl | rfl | rfl | rfl | rfl <;> rfl

/-- A key is a scalar. -/
theorem advance_key {places : List Place} {e : Event} (hend : e ≠ .mapping_end)
    (hscalar : ∀ value, e ≠ .scalar value) : advance (.key :: places) e = none := by
  cases e with
  | scalar value => exact absurd rfl (hscalar value)
  | mapping_end => exact absurd rfl hend
  | _ => rfl

mutual

/-- The events of a tree are a node. -/
theorem run_events (places : List Place) :
    (tree : Tree) → run (.node :: places) tree.events = some places
  | .scalar value => by simp [Tree.events, advance]
  | .sequence items => by
    rw [Tree.events, run_cons, advance, Option.bind_some, run_append, run_itemsEvents places items]
    rfl
  | .mapping members => by
    rw [Tree.events, run_cons, advance, Option.bind_some, run_append,
      run_membersEvents places members]
    rfl

/-- An item is taken as a node is. -/
theorem run_item (places : List Place) :
    (tree : Tree) → run (.item :: places) tree.events = some (.item :: places)
  | .scalar value => by simp [Tree.events, advance]
  | .sequence items => by
    rw [Tree.events, run_cons, advance, Option.bind_some, run_append,
      run_itemsEvents (.item :: places) items]
    rfl
  | .mapping members => by
    rw [Tree.events, run_cons, advance, Option.bind_some, run_append,
      run_membersEvents (.item :: places) members]
    rfl

theorem run_itemsEvents (places : List Place) :
    (items : List Tree) → run (.item :: places) (itemsEvents items) = some (.item :: places)
  | [] => rfl
  | item :: items => by
    rw [itemsEvents, run_append, run_item places item, Option.bind_some,
      run_itemsEvents places items]

theorem run_membersEvents (places : List Place) : (members : List (String × Tree)) →
    run (.key :: places) (membersEvents members) = some (.key :: places)
  | [] => rfl
  | (key, value) :: members => by
    rw [membersEvents, run_cons, advance, Option.bind_some, run_append,
      run_events (.key :: places) value, Option.bind_some, run_membersEvents places members]

end

/-- A list of events that still expects something does not begin with the events of a tree. -/
theorem not_prefix_of_run {es : List Event} {places : List Place} {tree : Tree}
    (hrun : run [.node] es = some places) (hplaces : places ≠ []) : ¬ tree.events <+: es := by
  rintro ⟨fs, rfl⟩
  rw [run_append, run_events [] tree, Option.bind_some] at hrun
  cases fs with
  | nil => exact hplaces (Option.some.inj hrun).symm
  | cons e fs => exact absurd hrun (by simp [advance])

/-- The events of a tree go on after any of its beginnings with an event that may come there. -/
theorem advance_ne_none_of_prefix {es : List Event} {e : Event} {places : List Place}
    {tree : Tree} (hrun : run [.node] es = some places) (hbegins : es ++ [e] <+: tree.events) :
    advance places e ≠ none := by
  obtain ⟨fs, hfs⟩ := hbegins
  intro hnone
  have htree := run_events [] tree
  rw [← hfs, List.append_assoc, run_append, hrun, Option.bind_some, List.singleton_append, run_cons,
    hnone] at htree
  exact absurd htree (by simp)

end FactoryTest.Yaml
