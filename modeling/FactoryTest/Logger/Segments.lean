import FactoryTest.Logger.Texts
import FactoryTest.Lib.History
import Mathlib.Data.List.Forall2

/-!
# The segments of a history

The history tells which segments there were and what was written to them, also of those that
have been removed since (`ledger`). The files agree with it (`Recorded`): a segment that was not
removed has its content, what was there before and was not removed is untouched, a file is
created only where there is none, and only the latest segment is written.
-/

namespace FactoryTest.Logger

/-- A segment, as the history tells. -/
structure Segment where
  directory : Text
  name : Text
  /-- The limit when it was created. -/
  limit : ℕ
  /-- What was written to it, a text for each time. -/
  writes : List Text
  removed : Bool

def Segment.content (g : Segment) : Text := g.writes.flatten

theorem Segment.content_concat (g : Segment) (bytes : Text) :
    Segment.content { g with writes := g.writes ++ [bytes] } = g.content ++ bytes := by
  simp [Segment.content]

/-- The segment is removed, if it has this path. -/
def Segment.strike (directory name : Text) (g : Segment) : Segment :=
  { g with removed := g.removed || decide (g.directory = directory ∧ g.name = name) }

/-- What a history amounts to. -/
structure Ledger where
  /-- The limit of the latest start. -/
  limit : ℕ := 0
  /-- The segments, the latest one first. -/
  segments : List Segment := []
  lines : List Text := []

def Ledger.record (l : Ledger) : Obs → Ledger
  | .started max_segment_size _ => { l with limit := max_segment_size }
  | .logged line => { l with lines := l.lines ++ [line] }
  | .created directory name =>
    { l with segments := ⟨directory, name, l.limit, [], false⟩ :: l.segments }
  | .wrote _ _ bytes =>
    match l.segments with
    | g :: rest => { l with segments := { g with writes := g.writes ++ [bytes] } :: rest }
    | [] => l
  | .removed directory name =>
    { l with segments := l.segments.map (Segment.strike directory name) }
  | .reported _ => l

def ledger (h : List Obs) : Ledger := h.foldl Ledger.record {}

@[simp] theorem ledger_concat (h : List Obs) (o : Obs) :
    ledger (h ++ [o]) = (ledger h).record o := by
  rw [ledger, List.foldl_append]
  rfl

/-- The name was taken at first or has been created, and was not removed since. -/
def taken (files : FileSystem) (h : List Obs) (directory name : Text) : Bool :=
  h.foldl (fun taken o =>
    match o with
    | .created d n => taken || decide (d = directory ∧ n = name)
    | .removed d n => taken && !decide (d = directory ∧ n = name)
    | _ => taken) ((files directory).find? name).isSome

/-- A file is created where there is none, and bytes are written to the latest segment. -/
def Exclusive (files : FileSystem) (h : List Obs) (o : Obs) : Prop :=
  match o with
  | .created directory name => taken files h directory name = false
  | .wrote directory name _ => ∃ g rest, (ledger h).segments = g :: rest ∧
    g.directory = directory ∧ g.name = name ∧ g.removed = false
  | _ => True

/-- The files agree with the history, which began with `files₀`. -/
structure Recorded (files₀ files : FileSystem) (h : List Obs) : Prop where
  taken : ∀ directory name, ((files directory).find? name).isSome = taken files₀ h directory name
  stored : ∀ g ∈ (ledger h).segments, g.removed = false →
    ∃ time, (files g.directory).find? g.name = some (.file g.content time)
  apart : (ledger h).segments.Pairwise fun g g' => g.removed = false → g'.removed = false →
    ¬ (g.directory = g'.directory ∧ g.name = g'.name)
  exclusive : Justified (Exclusive files₀) h
  untouched : ∀ directory name node, (files₀ directory).find? name = some node →
    .removed directory name ∉ h → (files directory).find? name = some node ∧
      ∀ g ∈ (ledger h).segments, ¬ (g.directory = directory ∧ g.name = name)
  bounded : ∀ g ∈ (ledger h).segments, g.content.length ≤ g.limit

section Recorded

variable {files₀ files : FileSystem} {h : List Obs} {directory name d n : Text} {time : ℤ}

theorem recorded_init (files₀ : FileSystem) : Recorded files₀ files₀ [] where
  taken _ _ := rfl
  stored := by simp [ledger]
  apart := .nil
  exclusive := justified_nil _
  untouched _ _ _ hnode _ := ⟨hnode, by simp [ledger]⟩
  bounded := by simp [ledger]

/-- An observation that is not about files. -/
def Obs.Quiet : Obs → Prop
  | .started .. | .logged _ | .reported _ => True
  | _ => False

theorem Obs.Quiet.segments {o : Obs} (ho : o.Quiet) (h : List Obs) :
    (ledger (h ++ [o])).segments = (ledger h).segments := by
  rw [ledger_concat]
  cases o with
  | started | logged | reported => rfl
  | created | wrote | removed => cases ho

theorem Recorded.observe (hr : Recorded files₀ files h) {o : Obs} (ho : o.Quiet) :
    Recorded files₀ files (h ++ [o]) where
  taken directory name := by
    rw [hr.taken, Logger.taken, Logger.taken, List.foldl_append]
    cases o with
    | started | logged | reported => rfl
    | created | wrote | removed => cases ho
  stored := by
    rw [ho.segments]
    exact hr.stored
  apart := by
    rw [ho.segments]
    exact hr.apart
  exclusive := by
    refine justified_concat.2 ⟨hr.exclusive, ?_⟩
    cases o with
    | started | logged | reported => trivial
    | created | wrote | removed => cases ho
  untouched directory name node hnode hremoved := by
    rw [ho.segments]
    exact hr.untouched directory name node hnode fun hmem =>
      hremoved (List.mem_append_left _ hmem)
  bounded := by
    rw [ho.segments]
    exact hr.bounded

theorem find?_update_remove : ((Function.update files directory
      ((files directory).remove name)) d).find? n =
    if directory = d ∧ name = n then none else (files d).find? n := by
  by_cases hd : d = directory
  · subst hd
    rw [Function.update_self, Directory.find?_remove]
    simp only [true_and, eq_comm]
  · rw [Function.update_of_ne hd, if_neg fun hpath => hd hpath.1.symm]

/-- A file is removed. -/
theorem Recorded.remove (hr : Recorded files₀ files h) (directory name : Text) :
    Recorded files₀ (Function.update files directory ((files directory).remove name))
      (h ++ [.removed directory name]) where
  taken d n := by
    have hrecord : Logger.taken files₀ (h ++ [.removed directory name]) d n =
        (Logger.taken files₀ h d n && !decide (directory = d ∧ name = n)) := by
      rw [Logger.taken, List.foldl_append]
      rfl
    rw [find?_update_remove, hrecord]
    by_cases hpath : directory = d ∧ name = n
    · rw [if_pos hpath, decide_eq_true hpath, Bool.not_true, Bool.and_false]
      rfl
    · rw [if_neg hpath, decide_eq_false hpath, Bool.not_false, Bool.and_true, hr.taken]
  stored := by
    rw [ledger_concat]
    intro g' hg' hremoved
    obtain ⟨g, hg, rfl⟩ := List.mem_map.1 hg'
    simp only [Segment.strike, Bool.or_eq_false_iff, decide_eq_false_iff_not] at hremoved
    obtain ⟨time, hfile⟩ := hr.stored g hg hremoved.1
    refine ⟨time, ?_⟩
    rw [find?_update_remove, if_neg]
    · exact hfile
    · exact fun hpath => hremoved.2 ⟨hpath.1.symm, hpath.2.symm⟩
  apart := by
    rw [ledger_concat]
    refine List.pairwise_map.2 (hr.apart.imp fun {g g'} hg hremoved hremoved' => ?_)
    simp only [Segment.strike, Bool.or_eq_false_iff] at hremoved hremoved'
    exact hg hremoved.1 hremoved'.1
  exclusive := justified_concat.2 ⟨hr.exclusive, trivial⟩
  untouched d n node hnode hremoved := by
    rw [List.mem_append, not_or, List.mem_singleton] at hremoved
    obtain ⟨hfile, hsegments⟩ := hr.untouched d n node hnode hremoved.1
    refine ⟨?_, ?_⟩
    · rw [find?_update_remove, if_neg, hfile]
      rintro ⟨rfl, rfl⟩
      exact hremoved.2 rfl
    · rw [ledger_concat]
      intro g' hg'
      obtain ⟨g, hg, rfl⟩ := List.mem_map.1 hg'
      exact hsegments g hg
  bounded := by
    rw [ledger_concat]
    intro g' hg'
    obtain ⟨g, hg, rfl⟩ := List.mem_map.1 hg'
    exact hr.bounded g hg

theorem find?_update_create {created : Directory Text UInt8}
    (hcreate : (files directory).create? name time = some created) :
    ((Function.update files directory created) d).find? n =
      if directory = d ∧ name = n then some (.file [] time) else (files d).find? n := by
  by_cases hd : d = directory
  · subst hd
    rw [Function.update_self, Directory.find?_create? hcreate]
    simp only [true_and, eq_comm]
  · rw [Function.update_of_ne hd, if_neg fun hpath => hd hpath.1.symm]

/-- A file is created. -/
theorem Recorded.create (hr : Recorded files₀ files h) {created : Directory Text UInt8}
    (hcreate : (files directory).create? name time = some created) :
    Recorded files₀ (Function.update files directory created)
      (h ++ [.created directory name]) := by
  have hfree : (files directory).find? name = none := Directory.find?_of_create? hcreate
  -- What is there has another path.
  have hother {d n : Text} {node : Node UInt8} (hnode : (files d).find? n = some node) :
      ¬ (directory = d ∧ name = n) := by
    rintro ⟨rfl, rfl⟩
    rw [hfree] at hnode
    cases hnode
  constructor
  case taken =>
    intro d n
    have hrecord : Logger.taken files₀ (h ++ [.created directory name]) d n =
        (Logger.taken files₀ h d n || decide (directory = d ∧ name = n)) := by
      rw [Logger.taken, List.foldl_append]
      rfl
    rw [find?_update_create hcreate, hrecord]
    by_cases hpath : directory = d ∧ name = n
    · rw [if_pos hpath, decide_eq_true hpath, Bool.or_true]
      rfl
    · rw [if_neg hpath, decide_eq_false hpath, Bool.or_false, hr.taken]
  case stored =>
    rw [ledger_concat]
    intro g hg hremoved
    rcases List.mem_cons.1 hg with rfl | hg
    · refine ⟨time, ?_⟩
      rw [find?_update_create hcreate, if_pos ⟨rfl, rfl⟩]
      rfl
    · obtain ⟨time', hfile⟩ := hr.stored g hg hremoved
      exact ⟨time', by rw [find?_update_create hcreate, if_neg (hother hfile), hfile]⟩
  case apart =>
    rw [ledger_concat]
    refine List.pairwise_cons.2 ⟨fun g hg _ hremoved => ?_, hr.apart⟩
    obtain ⟨time', hfile⟩ := hr.stored g hg hremoved
    exact hother hfile
  case exclusive =>
    refine justified_concat.2 ⟨hr.exclusive, ?_⟩
    show Logger.taken files₀ h directory name = false
    rw [← hr.taken, hfree]
    rfl
  case untouched =>
    intro d n node hnode hremoved
    obtain ⟨hfile, hsegments⟩ := hr.untouched d n node hnode fun hmem =>
      hremoved (List.mem_append_left _ hmem)
    refine ⟨by rw [find?_update_create hcreate, if_neg (hother hfile), hfile], ?_⟩
    rw [ledger_concat]
    exact List.forall_mem_cons.2 ⟨hother hfile, hsegments⟩
  case bounded =>
    rw [ledger_concat]
    exact List.forall_mem_cons.2 ⟨Nat.zero_le _, hr.bounded⟩

theorem find?_update_append {bytes : Text} : ((Function.update files directory
      ((files directory).append name bytes time)) d).find? n =
    if directory = d ∧ name = n then ((files d).find? n).map (Node.append bytes time)
    else (files d).find? n := by
  by_cases hd : d = directory
  · subst hd
    rw [Function.update_self, Directory.find?_append]
    simp only [true_and, eq_comm]
  · rw [Function.update_of_ne hd, if_neg fun hpath => hd hpath.1.symm]

/-- Bytes are written to the latest segment. -/
theorem Recorded.write (hr : Recorded files₀ files h) {g : Segment} {rest : List Segment}
    (hsegments : (ledger h).segments = g :: rest) (hremoved : g.removed = false) {bytes : Text}
    (hroom : g.content.length + bytes.length ≤ g.limit) (time : ℤ) :
    Recorded files₀
      (Function.update files g.directory ((files g.directory).append g.name bytes time))
      (h ++ [.wrote g.directory g.name bytes]) := by
  have hafter : (ledger (h ++ [.wrote g.directory g.name bytes])).segments =
      { g with writes := g.writes ++ [bytes] } :: rest := by
    rw [ledger_concat, Ledger.record, hsegments]
  have hmem : g ∈ (ledger h).segments := by
    rw [hsegments]
    exact List.mem_cons_self
  have hapart := hr.apart
  rw [hsegments, List.pairwise_cons] at hapart
  constructor
  case taken =>
    intro d n
    rw [find?_update_append, Logger.taken, List.foldl_append]
    have hsome : ((files d).find? n).isSome = Logger.taken files₀ h d n := hr.taken d n
    split_ifs <;> simpa [Logger.taken] using hsome
  case stored =>
    rw [hafter]
    intro g' hg' hremoved'
    rcases List.mem_cons.1 hg' with rfl | hg'
    · obtain ⟨time', hfile⟩ := hr.stored g hmem hremoved
      refine ⟨time, ?_⟩
      rw [find?_update_append, if_pos ⟨rfl, rfl⟩]
      dsimp only
      rw [hfile, Segment.content_concat]
      rfl
    · obtain ⟨time', hfile⟩ := hr.stored g' (by rw [hsegments]; exact List.mem_cons_of_mem _ hg')
        hremoved'
      refine ⟨time', ?_⟩
      rw [find?_update_append, if_neg (hapart.1 g' hg' hremoved hremoved'), hfile]
  case apart =>
    rw [hafter]
    exact List.pairwise_cons.2 hapart
  case exclusive =>
    exact justified_concat.2 ⟨hr.exclusive, g, rest, hsegments, rfl, rfl, hremoved⟩
  case untouched =>
    intro d n node hnode hnever
    obtain ⟨hfile, hpaths⟩ := hr.untouched d n node hnode fun hmem =>
      hnever (List.mem_append_left _ hmem)
    refine ⟨by rw [find?_update_append, if_neg (hpaths g hmem), hfile], ?_⟩
    rw [hafter]
    rw [hsegments] at hpaths
    exact List.forall_mem_cons.2 (List.forall_mem_cons.1 hpaths)
  case bounded =>
    have hbounded := hr.bounded
    rw [hsegments] at hbounded
    rw [hafter]
    refine List.forall_mem_cons.2 ⟨?_, (List.forall_mem_cons.1 hbounded).2⟩
    rw [Segment.content_concat, List.length_append]
    exact hroom

end Recorded

end FactoryTest.Logger
