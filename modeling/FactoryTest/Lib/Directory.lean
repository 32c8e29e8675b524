import Mathlib.Data.List.Nodup
import Mathlib.Algebra.BigOperators.Group.List.Basic
import Mathlib.Algebra.GroupWithZero.Nat
import Mathlib.Tactic.Common

/-!
# Directories of files

A directory gives names to regular files and to other things. A file is created only under a
name that is free (`create?`), written at its end (`append`) and removed (`remove`).

**Sizes.** `size p` adds up the files whose names satisfy `p`. Each operation changes it by the
size of what is created, written or removed.
-/

namespace FactoryTest

variable {ν β : Type*}

/-- What a name stands for: a regular file, or something else. -/
inductive Node (β : Type*)
  | file (content : List β) (write_time : ℤ)
  | other
  deriving DecidableEq

namespace Node

/-- The size of a regular file. -/
def size : Node β → ℕ
  | file content _ => content.length
  | other => 0

/-- A regular file is written at its end. -/
def append (bytes : List β) (time : ℤ) : Node β → Node β
  | file content _ => file (content ++ bytes) time
  | other => other

end Node

/-- A directory: no name occurs twice. -/
structure Directory (ν β : Type*) where
  entries : List (ν × Node β)
  nodup : (entries.map Prod.fst).Nodup

namespace Directory

variable [DecidableEq ν] {d d' : Directory ν β} {name n : ν} {node : Node β} {time : ℤ}
  {bytes content : List β} {p : ν → Bool}

/-- What the name stands for. -/
def find? (d : Directory ν β) (name : ν) : Option (Node β) :=
  (d.entries.find? fun e => e.1 = name).map Prod.snd

/-- A new file, if the name is free. -/
def create? (d : Directory ν β) (name : ν) (time : ℤ) : Option (Directory ν β) :=
  if h : name ∈ d.entries.map Prod.fst then none
  else some ⟨d.entries ++ [(name, .file [] time)], by
    rw [List.map_append, List.map_singleton]
    exact d.nodup.append (List.nodup_singleton _) (by simpa using h)⟩

/-- The file is written at its end. -/
def append (d : Directory ν β) (name : ν) (bytes : List β) (time : ℤ) : Directory ν β :=
  ⟨d.entries.map fun e => if e.1 = name then (e.1, e.2.append bytes time) else e, by
    have hnames : (Prod.fst ∘ fun e : ν × Node β =>
        if e.1 = name then (e.1, e.2.append bytes time) else e) = Prod.fst := by
      funext e
      simp only [Function.comp_apply, apply_ite Prod.fst, ite_self]
    rw [List.map_map, hnames]
    exact d.nodup⟩

def remove (d : Directory ν β) (name : ν) : Directory ν β :=
  ⟨d.entries.filter fun e => e.1 ≠ name, d.nodup.sublist (List.filter_sublist.map _)⟩

/-- The size of all files whose names satisfy `p`. -/
def size (p : ν → Bool) (d : Directory ν β) : ℕ :=
  ((d.entries.filter fun e => p e.1).map fun e => e.2.size).sum

/-! ## Names -/

theorem find?_eq_some : d.find? name = some node ↔ (name, node) ∈ d.entries := by
  constructor
  · intro h
    obtain ⟨⟨name', node'⟩, hfind, rfl⟩ := Option.map_eq_some_iff.1 h
    have hname : name' = name := by simpa using List.find?_some hfind
    exact hname ▸ List.mem_of_find?_eq_some hfind
  · intro h
    unfold find?
    cases hfind : d.entries.find? fun e => e.1 = name with
    | none =>
      have hmiss := List.find?_eq_none.1 hfind _ h
      simp at hmiss
    | some e =>
      have hname : e.1 = name := by simpa using List.find?_some hfind
      have hsame : e = (name, node) :=
        List.inj_on_of_nodup_map d.nodup (List.mem_of_find?_eq_some hfind) h hname
      rw [hsame]
      rfl

theorem find?_eq_none : d.find? name = none ↔ name ∉ d.entries.map Prod.fst := by
  rw [← not_iff_not, not_not, ← ne_eq, Option.ne_none_iff_exists', List.mem_map]
  constructor
  · rintro ⟨node, h⟩
    exact ⟨_, find?_eq_some.1 h, rfl⟩
  · rintro ⟨⟨_, node⟩, h, rfl⟩
    exact ⟨node, find?_eq_some.2 h⟩

theorem create?_eq_none : d.create? name time = none ↔ d.find? name ≠ none := by
  rw [ne_eq, find?_eq_none, not_not]
  unfold create?
  split_ifs with h
  · exact iff_of_true rfl h
  · exact iff_of_false (by simp) h

theorem find?_of_create? (h : d.create? name time = some d') : d.find? name = none := by
  by_contra hfound
  rw [create?_eq_none.2 hfound] at h
  cases h

theorem find?_create? (h : d.create? name time = some d') :
    d'.find? n = if n = name then some (.file [] time) else d.find? n := by
  have hfree := find?_of_create? h
  have hentries : d'.entries = d.entries ++ [(name, .file [] time)] := by
    unfold create? at h
    split_ifs at h
    rw [← Option.some.inj h]
  refine Option.ext fun node => ?_
  rw [find?_eq_some, hentries, List.mem_append, List.mem_singleton, Prod.mk.injEq]
  by_cases hn : n = name
  · subst hn
    rw [if_pos rfl, Option.some.injEq, ← find?_eq_some, hfree]
    simp [eq_comm]
  · rw [if_neg hn, ← find?_eq_some]
    simp [hn]

theorem find?_append : (d.append name bytes time).find? n =
    if n = name then (d.find? n).map (Node.append bytes time) else d.find? n := by
  have hmem (node : Node β) : (n, node) ∈ (d.append name bytes time).entries ↔
      ∃ node', (n, node') ∈ d.entries ∧
        node = if n = name then node'.append bytes time else node' := by
    unfold append
    simp only [List.mem_map, Prod.exists]
    constructor
    · rintro ⟨n', node', hmem, heq⟩
      split_ifs at heq with hn
      · obtain ⟨rfl, rfl⟩ := Prod.mk.inj heq
        exact ⟨node', hmem, (if_pos hn).symm⟩
      · obtain ⟨rfl, rfl⟩ := Prod.mk.inj heq
        exact ⟨node', hmem, (if_neg hn).symm⟩
    · rintro ⟨node', hmem, rfl⟩
      refine ⟨n, node', hmem, ?_⟩
      split_ifs <;> rfl
  refine Option.ext fun node => ?_
  rw [find?_eq_some, hmem]
  by_cases hn : n = name
  · simp only [if_pos hn, Option.map_eq_some_iff, find?_eq_some]
    exact exists_congr fun node' => and_congr_right fun _ => eq_comm
  · simp only [if_neg hn, find?_eq_some, exists_eq_right']

theorem find?_remove : (d.remove name).find? n = if n = name then none else d.find? n := by
  refine Option.ext fun node => ?_
  have hmem : (n, node) ∈ (d.remove name).entries ↔ (n, node) ∈ d.entries ∧ n ≠ name := by
    simp [remove]
  rw [find?_eq_some, hmem, ← find?_eq_some]
  by_cases hn : n = name
  · simp [hn]
  · simp [hn]

/-! ## Sizes -/

theorem size_create? (h : d.create? name time = some d') : d'.size p = d.size p := by
  unfold create? at h
  split_ifs at h
  rw [← Option.some.inj h]
  unfold size
  rw [List.filter_append, List.map_append, List.sum_append]
  by_cases hp : p name <;> simp [hp, Node.size]

/-- The entries before a name, its own, and those after. -/
theorem entries_split (h : d.find? name = some node) : ∃ front back,
    d.entries = front ++ (name, node) :: back ∧ (∀ e ∈ front, e.1 ≠ name) ∧
      ∀ e ∈ back, e.1 ≠ name := by
  obtain ⟨front, back, hentries⟩ := List.append_of_mem (find?_eq_some.1 h)
  have hnodup := d.nodup
  rw [hentries, List.map_append, List.map_cons, List.nodup_append, List.nodup_cons] at hnodup
  obtain ⟨-, ⟨hback, -⟩, hfront⟩ := hnodup
  refine ⟨front, back, hentries, fun e he => ?_, fun e he heq => ?_⟩
  · exact hfront _ (List.mem_map_of_mem he) _ List.mem_cons_self
  · exact hback (List.mem_map.2 ⟨e, he, heq⟩)

theorem size_append (h : d.find? name = some (.file content time)) (time' : ℤ) :
    (d.append name bytes time').size p = d.size p + if p name then bytes.length else 0 := by
  obtain ⟨front, back, hentries, hfront, hback⟩ := entries_split h
  have hkeep {l : List (ν × Node β)} (hl : ∀ e ∈ l, e.1 ≠ name) :
      (l.map fun e => if e.1 = name then (e.1, e.2.append bytes time') else e) = l := by
    rw [List.map_congr_left (fun e he => if_neg (hl e he)), List.map_id']
  have happend : (d.append name bytes time').entries =
      front ++ (name, .file (content ++ bytes) time') :: back := by
    unfold append
    dsimp only
    rw [hentries, List.map_append, List.map_cons, hkeep hfront, hkeep hback, if_pos rfl]
    rfl
  unfold size
  rw [happend, hentries]
  by_cases hp : p name
  · simp [hp, Node.size]
    omega
  · simp [hp]

theorem size_remove (h : d.find? name = some node) :
    d.size p = (d.remove name).size p + if p name then node.size else 0 := by
  obtain ⟨front, back, hentries, hfront, hback⟩ := entries_split h
  have hkeep {l : List (ν × Node β)} (hl : ∀ e ∈ l, e.1 ≠ name) :
      (l.filter fun e => e.1 ≠ name) = l :=
    List.filter_eq_self.2 fun e he => by simpa using hl e he
  have hremove : (d.remove name).entries = front ++ back := by
    unfold remove
    dsimp only
    rw [hentries, List.filter_append, hkeep hfront, List.filter_cons_of_neg (by simp), hkeep hback]
  unfold size
  rw [hremove, hentries]
  by_cases hp : p name
  · simp [hp]
    omega
  · simp [hp]

end Directory

end FactoryTest
