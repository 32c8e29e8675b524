import FactoryTest.Logger.Retention
import FactoryTest.Logger.Segments

/-!
# Rotation

A full segment is closed, log files are removed until a whole segment fits into the directory, and
the next segment is opened. If all operations on files succeed, this never fails once it has
succeeded: what the logger cannot remove does not grow.

**Theorem (`segments_spec`).** Segments, the open one, and the directory keep their limits, no file
is written that was there before, and the segments have all logged lines in order, if also those
count that were removed since. Those that are left need not have all lines (`rotation_forgets`).
-/

namespace FactoryTest.Logger

/-! ## The property -/

/-- All operations on files succeed. -/
structure Answers.Successful (a : Answers) : Prop where
  creates : a.creates = true
  lists : a.lists = true
  removes : ∀ name, a.removes name = true
  opens : ∀ name, a.opens name = true
  written : ∀ text, a.written text = none

namespace Segment

/-- The first line. -/
def header (g : Segment) : Text := g.writes.headD []

/-- What the segment has of the logged lines. -/
def records (g : Segment) : List Text := g.writes.tail

/-- The limit exceeds the header and the marker. -/
def Roomy (g : Segment) : Prop := g.header.length + marker.length < g.limit

end Segment

/-- The segments, the latest one first, have the lines in order: each in one segment, whole or cut
and ended by the marker. -/
def Complete (segments : List Segment) (lines : List Text) : Prop :=
  List.Forall₂ IsRecord lines (segments.reverse.flatMap Segment.records)

/-- The open file of the logger. -/
def Open (w : World) : Prop :=
  ∃ directory name content time, w.state.current_path = some (directory, name) ∧
    (w.files directory).find? name = some (.file content time) ∧
    content.length = w.state.current_size

/-- What the logger keeps, if at first there were `files₀`. -/
structure Logged (files₀ : FileSystem) (w : World) : Prop where
  bounded : ∀ g ∈ (ledger w.history).segments, g.content.length ≤ g.limit
  stored : ∀ g ∈ (ledger w.history).segments, g.removed = false →
    ∃ time, (w.files g.directory).find? g.name = some (.file g.content time)
  current : w.state.current_size ≤ w.state.max_segment_size
  opened : w.state.file = true → Open w
  closed : w.state.file = false → w.state.current_size = 0
  directory : w.state.file_logging_enabled = true →
    ((w.files w.state.directory).size fun _ => true) ≤ w.state.max_directory_size
  exclusive : Justified (Exclusive files₀) w.history
  untouched : ∀ directory name node, (files₀ directory).find? name = some node →
    .removed directory name ∉ w.history → (w.files directory).find? name = some node
  complete : (∀ g ∈ (ledger w.history).segments, g.Roomy) →
    Complete (ledger w.history).segments (ledger w.history).lines

/-! ## Sizes -/

/-- The size of the files that are not log files. -/
def foreign (d : Directory Text UInt8) : ℕ := d.size fun name => !is_log_name name

theorem total_eq (d : Directory Text UInt8) : total d = d.size is_log_name + foreign d := by
  unfold total foreign Directory.size
  induction d.entries with
  | nil => rfl
  | cons e entries ih =>
    by_cases hlog : is_log_name e.1 = true
    · simp [hlog] at ih ⊢
      omega
    · simp [hlog] at ih ⊢
      omega

/-- Without regular log files, there are only the others. -/
theorem total_eq_foreign {d : Directory Text UInt8}
    (h : ∀ name content time, is_log_name name = true →
      d.find? name ≠ some (.file content time)) : total d = foreign d := by
  rw [total_eq]
  have hnone : d.size is_log_name = 0 := by
    unfold Directory.size
    refine List.sum_eq_zero fun size hsize => ?_
    obtain ⟨⟨name, node⟩, hentry, rfl⟩ := List.mem_map.1 hsize
    obtain ⟨hentry, hlog⟩ := List.mem_filter.1 hentry
    cases node with
    | file content time =>
      exact absurd (Directory.find?_eq_some.2 hentry) (h name content time hlog)
    | other => rfl
  rw [hnone, Nat.zero_add]

/-! ## Making room -/

section Room

variable {files₀ : FileSystem} {w w' w'' : World} {a : Answers}

/-- What a segment has, whether it is removed or not. -/
def Segment.text (g : Segment) : ℕ × List Text := (g.limit, g.writes)

/-- Only the directory of the logger is changed. -/
structure Framed (w w' : World) : Prop where
  directory : w'.state.directory = w.state.directory
  max_directory_size : w'.state.max_directory_size = w.state.max_directory_size
  elsewhere : ∀ d, d ≠ w.state.directory → w'.files d = w.files d

theorem Framed.refl (w : World) : Framed w w := ⟨rfl, rfl, fun _ _ => rfl⟩

theorem Framed.trans (h : Framed w w') (h' : Framed w' w'') : Framed w w'' :=
  ⟨h'.directory.trans h.directory, h'.max_directory_size.trans h.max_directory_size,
    fun d hd => (h'.elsewhere d (h.directory.symm ▸ hd)).trans (h.elsewhere d hd)⟩

/-- The files of a directory, and its limit, are below 2^64 bytes. -/
structure Counted (w : World) : Prop where
  files : ∀ d, total (w.files d) < 2 ^ 64
  limit : w.state.max_directory_size < 2 ^ 64

theorem Counted.framed (h : Counted w) (hframed : Framed w w')
    (htotal : total w'.directory < 2 ^ 64) : Counted w' where
  files d := by
    by_cases hd : d = w.state.directory
    · rw [hd, ← hframed.directory]
      exact htotal
    · rw [hframed.elsewhere d hd]
      exact h.files d
  limit := hframed.max_directory_size ▸ h.limit

/-- Some log files were removed. -/
structure Trimmed (files₀ : FileSystem) (w w' : World) : Prop where
  state : w'.state = w.state
  elsewhere : ∀ d, d ≠ w.state.directory → w'.files d = w.files d
  total_le : total w'.directory ≤ total w.directory
  texts : (ledger w'.history).segments.map Segment.text =
    (ledger w.history).segments.map Segment.text
  lines : (ledger w'.history).lines = (ledger w.history).lines
  limit : (ledger w'.history).limit = (ledger w.history).limit
  foreign : foreign w'.directory = foreign w.directory
  recorded : Recorded files₀ w.files w.history → Recorded files₀ w'.files w'.history

theorem Trimmed.refl (files₀ : FileSystem) (w : World) : Trimmed files₀ w w :=
  ⟨rfl, fun _ _ => rfl, le_rfl, rfl, rfl, rfl, rfl, id⟩

theorem Trimmed.framed (h : Trimmed files₀ w w') : Framed w w' :=
  ⟨congrArg LoggerState.directory h.state, congrArg LoggerState.max_directory_size h.state,
    h.elsewhere⟩

theorem Trimmed.trans (h : Trimmed files₀ w w') (h' : Trimmed files₀ w' w'') :
    Trimmed files₀ w w'' :=
  ⟨h'.state.trans h.state, (h.framed.trans h'.framed).elsewhere, h'.total_le.trans h.total_le,
    h'.texts.trans h.texts, h'.lines.trans h.lines, h'.limit.trans h.limit,
    h'.foreign.trans h.foreign, fun hr => h'.recorded (h.recorded hr)⟩

theorem trimmed_remove {name : Text} {node : Node UInt8} (hlog : is_log_name name = true)
    (hfile : w.directory.find? name = some node) :
    Trimmed files₀ w (w.remove w.state.directory name) where
  state := rfl
  elsewhere d hd := Function.update_of_ne hd ..
  total_le := by
    have hsize := Directory.size_remove (p := fun _ => true) hfile
    rw [directory_remove]
    exact (Nat.le_add_right ..).trans_eq hsize.symm
  texts := by
    show (ledger (w.history ++ [.removed w.state.directory name])).segments.map _ = _
    rw [ledger_concat]
    exact List.map_map
  lines := by
    show (ledger (w.history ++ [.removed w.state.directory name])).lines = _
    rw [ledger_concat]
    rfl
  limit := by
    show (ledger (w.history ++ [.removed w.state.directory name])).limit = _
    rw [ledger_concat]
    rfl
  foreign := by
    have hsize := Directory.size_remove (p := fun name => !is_log_name name) hfile
    rw [hlog, if_neg (by decide), Nat.add_zero] at hsize
    rw [directory_remove]
    exact hsize.symm
  recorded hr := hr.remove w.state.directory name

theorem trimmed_removeAll {files : List ManagedFile}
    (hnames : (files.map ManagedFile.name).Nodup)
    (hfiles : ∀ file ∈ files, is_log_name file.name = true ∧ ∃ node,
      w.directory.find? file.name = some node) : Trimmed files₀ w (w.removeAll files) := by
  induction files generalizing w with
  | nil => exact .refl files₀ w
  | cons file files ih =>
    obtain ⟨hnot, hnames⟩ := List.nodup_cons.1 hnames
    obtain ⟨⟨hlog, node, hfile⟩, hrest⟩ := List.forall_mem_cons.1 hfiles
    refine (trimmed_remove hlog hfile).trans (ih hnames fun f hf => ⟨(hrest f hf).1, ?_⟩)
    have hother : f.name ≠ file.name := fun heq => hnot (heq ▸ List.mem_map_of_mem hf)
    rw [directory_remove, Directory.find?_remove, if_neg hother]
    exact (hrest f hf).2

/-- Room can be made unless the other files leave too little of it. -/
theorem make_directory_room_trims (files₀ : FileSystem) (ha : a.Successful)
    (hclosed : w.state.current_path = none) (hcounted : total w.directory < 2 ^ 64)
    (reserved : ℕ) :
    ∃ w', Trimmed files₀ w w' ∧
      ((make_directory_room_locked w a reserved = (w', true) ∧
          total w'.directory + reserved ≤ w.state.max_directory_size) ∨
        (make_directory_room_locked w a reserved = (w', false) ∧
          w.state.max_directory_size < foreign w.directory + reserved)) := by
  by_cases hreserved : w.state.max_directory_size < reserved
  · refine ⟨w, .refl files₀ w, .inr ⟨?_, hreserved.trans_le (Nat.le_add_left ..)⟩⟩
    rw [make_directory_room_locked, if_pos hreserved]
  obtain ⟨order, n, hretained⟩ := retains ha.lists ha.removes (not_lt.1 hreserved) hcounted
  rcases hroom : make_directory_room_locked w a reserved with ⟨w', made⟩
  rw [hroom] at hretained
  replace hretained : Retained w w' reserved made order n := hretained
  have htrimmed : Trimmed files₀ w w' := by
    rw [hretained.world]
    refine trimmed_removeAll (hretained.nodup.sublist ((List.take_sublist ..).map _))
      fun file hfile => ?_
    obtain ⟨hlog, -, content, hfound, -⟩ := (hretained.managed file).1 (List.mem_of_mem_take hfile)
    exact ⟨hlog, _, hfound⟩
  refine ⟨w', htrimmed, ?_⟩
  cases made with
  | true => exact .inl ⟨rfl, hretained.answer.1 rfl⟩
  | false =>
    have hlarge : w.state.max_directory_size < total w'.directory + reserved :=
      not_le.1 fun hle => Bool.false_ne_true (hretained.answer.2 hle)
    -- All log files are gone.
    have hall : order.take n = order :=
      List.take_of_length_le (not_lt.1 fun hlt => absurd (hretained.enough hlt) (not_le.2 hlarge))
    have hleft : total w'.directory = foreign w'.directory := by
      refine total_eq_foreign fun name content time hlog hfile => ?_
      rw [hretained.world, hall, find?_removeAll] at hfile
      split at hfile
      · cases hfile
      next hkept =>
        refine hkept (List.mem_map.2 ⟨⟨name, content.length, time⟩, ?_, rfl⟩)
        refine (hretained.managed _).2 ⟨hlog, ?_, content, hfile, rfl⟩
        rw [hclosed]
        exact Option.some_ne_none _
    refine .inr ⟨rfl, ?_⟩
    rwa [← htrimmed.foreign, ← hleft]

end Room

/-! ## The open segment -/

section Kept

variable {files₀ : FileSystem} {w w' : World} {a : Answers} {lines : List Text}

/-- The segment is the open file of the logger. -/
structure Current (s : LoggerState) (g : Segment) : Prop where
  kept : g.removed = false
  path : s.current_path = some (g.directory, g.name)
  directory : g.directory = s.directory
  size : s.current_size = g.content.length
  limit : g.limit = s.max_segment_size
  log_name : is_log_name g.name = true

/-- The segments have the lines, and the open one is the latest one. -/
structure Kept (files₀ : FileSystem) (w : World) (lines : List Text) : Prop where
  recorded : Recorded files₀ w.files w.history
  complete : (∀ g ∈ (ledger w.history).segments, g.Roomy) →
    Complete (ledger w.history).segments lines
  opened : w.state.file = true → ∃ g rest, (ledger w.history).segments = g :: rest ∧
    Current w.state g ∧ g.writes ≠ []
  closed : w.state.file = false → w.state.current_path = none ∧ w.state.current_size = 0

/-- The limits of the directory are kept, and will be. -/
structure Enabled (w : World) : Prop where
  file : w.state.file = true
  positive : 0 < w.state.max_segment_size
  le : w.state.max_segment_size ≤ w.state.max_directory_size
  limit : (ledger w.history).limit = w.state.max_segment_size
  run : K_LOG_FILE_PREFIX <+: w.state.run_name
  room : total w.directory + w.state.max_segment_size ≤
    w.state.max_directory_size + w.state.current_size
  others : foreign w.directory + w.state.max_segment_size ≤ w.state.max_directory_size

/-- A write, when it succeeds. -/
def World.written (w : World) (a : Answers) (text : Text) : World :=
  let w := w.write a text
  { w with state.current_size := w.state.current_size + text.length }

theorem write_bytes_eq (ha : a.Successful) (hfile : w.state.file = true) {text : Text}
    (htext : text ≠ []) : write_bytes w a text = (w.written a text, true) := by
  unfold write_bytes
  rw [if_neg, ha.written]
  · rfl
  · rintro (hclosed | hempty)
    · rw [hfile] at hclosed
      cases hclosed
    · exact htext hempty

/-- What the write of a text to the open segment does. -/
structure Wrote (files₀ : FileSystem) (w w' : World) (g : Segment) (rest : List Segment)
    (text : Text) : Prop where
  state : w'.state = { w.state with current_size := w.state.current_size + text.length }
  segments : (ledger w'.history).segments = { g with writes := g.writes ++ [text] } :: rest
  lines : (ledger w'.history).lines = (ledger w.history).lines
  limit : (ledger w'.history).limit = (ledger w.history).limit
  recorded : Recorded files₀ w'.files w'.history
  current : Current w'.state { g with writes := g.writes ++ [text] }
  elsewhere : ∀ d, d ≠ w.state.directory → w'.files d = w.files d
  total : total w'.directory = total w.directory + text.length
  foreign : foreign w'.directory = foreign w.directory

theorem wrote_written (hr : Recorded files₀ w.files w.history) {g : Segment} {rest : List Segment}
    (hsegments : (ledger w.history).segments = g :: rest) (hg : Current w.state g) {text : Text}
    (hroom : g.content.length + text.length ≤ g.limit) :
    Wrote files₀ w (w.written a text) g rest text := by
  have hfiles : (w.written a text).files = Function.update w.files g.directory
      ((w.files g.directory).append g.name text a.write_time) := by
    unfold World.written World.write
    rw [hg.path]
  have hhistory : (w.written a text).history = w.history ++ [.wrote g.directory g.name text] := by
    unfold World.written World.write
    rw [hg.path]
  have hstate : (w.written a text).state =
      { w.state with current_size := w.state.current_size + text.length } := by
    unfold World.written World.write
    rw [hg.path]
  have hledger : ledger (w.written a text).history =
      { ledger w.history with segments := { g with writes := g.writes ++ [text] } :: rest } := by
    rw [hhistory, ledger_concat, Ledger.record, hsegments]
  have hdirectory : (w.written a text).directory =
      w.directory.append g.name text a.write_time := by
    unfold World.directory
    rw [hstate, hfiles, hg.directory]
    exact Function.update_self ..
  have hmem : g ∈ (ledger w.history).segments := by
    rw [hsegments]
    exact List.mem_cons_self
  obtain ⟨time, hfile⟩ := hr.stored g hmem hg.kept
  rw [hg.directory] at hfile
  exact {
    state := hstate
    segments := by rw [hledger]
    lines := by rw [hledger]
    limit := by rw [hledger]
    recorded := by
      rw [hfiles, hhistory]
      exact hr.write hsegments hg.kept hroom a.write_time
    current := by
      rw [hstate]
      refine ⟨hg.kept, hg.path, hg.directory, ?_, hg.limit, hg.log_name⟩
      show w.state.current_size + text.length = _
      rw [Segment.content_concat, List.length_append, hg.size]
    elsewhere := fun d hd => by
      rw [hfiles, hg.directory]
      exact Function.update_of_ne hd ..
    total := by
      rw [hdirectory]
      refine (Directory.size_append hfile a.write_time).trans ?_
      rw [if_pos rfl]
      rfl
    foreign := by
      rw [hdirectory]
      refine (Directory.size_append hfile a.write_time).trans ?_
      rw [hg.log_name, if_neg (by decide)]
      rfl }

theorem Wrote.framed {g : Segment} {rest : List Segment} {text : Text}
    (h : Wrote files₀ w w' g rest text) : Framed w w' :=
  ⟨by rw [h.state], by rw [h.state], h.elsewhere⟩

/-- The limits of the directory are kept by a write that fits. -/
theorem Enabled.wrote (h : Enabled w) {g : Segment} {rest : List Segment} {text : Text}
    (hwrote : Wrote files₀ w w' g rest text) : Enabled w' := by
  have hstate := hwrote.state
  refine ⟨?_, ?_, ?_, ?_, ?_, ?_, ?_⟩ <;> rw [hstate]
  · exact h.file
  · exact h.positive
  · exact h.le
  · exact hwrote.limit.trans h.limit
  · exact h.run
  · rw [hwrote.total]
    have hroom := h.room
    dsimp only
    omega
  · rw [hwrote.foreign]
    exact h.others

theorem Segment.roomy_concat {g : Segment} (hbegun : g.writes ≠ []) (text : Text) :
    Roomy { g with writes := g.writes ++ [text] } ↔ g.Roomy := by
  unfold Roomy header
  dsimp only
  rw [List.headD_eq_head?_getD, List.headD_eq_head?_getD, List.head?_append_of_ne_nil _ hbegun]

theorem Complete.concat {g : Segment} {rest : List Segment} (h : Complete (g :: rest) lines)
    (hbegun : g.writes ≠ []) {text line : Text} (htext : IsRecord line text) :
    Complete ({ g with writes := g.writes ++ [text] } :: rest) (lines ++ [line]) := by
  have hrecords : Segment.records { g with writes := g.writes ++ [text] } = g.records ++ [text] :=
    List.tail_append_of_ne_nil hbegun
  unfold Complete at h ⊢
  rw [List.reverse_cons, List.flatMap_append, List.flatMap_singleton] at h ⊢
  rw [hrecords, ← List.append_assoc]
  exact List.rel_append h (.cons htext .nil)

/-- The open segment keeps its limit. -/
theorem Kept.current_le (h : Kept files₀ w lines) {g : Segment} {rest : List Segment}
    (hsegments : (ledger w.history).segments = g :: rest) (hg : Current w.state g) :
    w.state.current_size ≤ w.state.max_segment_size := by
  rw [hg.size, ← hg.limit]
  refine h.recorded.bounded g ?_
  rw [hsegments]
  exact List.mem_cons_self

/-- The directory keeps its limit. -/
theorem Kept.total_le (h : Kept files₀ w lines) (henabled : Enabled w) :
    total w.directory ≤ w.state.max_directory_size := by
  have hroom := henabled.room
  obtain ⟨g, rest, hsegments, hg, -⟩ := h.opened henabled.file
  have hle := h.current_le hsegments hg
  omega

/-- A record of the line is written to the open segment, if the segment is roomy. -/
theorem Kept.record (h : Kept files₀ w lines) (ha : a.Successful) (hfile : w.state.file = true)
    {text line : Text}
    (hroom : text.length ≤ w.state.max_segment_size - w.state.current_size)
    (htext : ∀ g rest, (ledger w.history).segments = g :: rest → Current w.state g → g.Roomy →
      text ≠ [] ∧ IsRecord line text) :
    Kept files₀ (write_bytes w a text).1 (lines ++ [line]) ∧
      (Enabled w → Enabled (write_bytes w a text).1) ∧ Framed w (write_bytes w a text).1 ∧
      (ledger (write_bytes w a text).1.history).lines = (ledger w.history).lines ∧
      (write_bytes w a text).1.state.file_logging_enabled = w.state.file_logging_enabled := by
  obtain ⟨g, rest, hsegments, hg, hbegun⟩ := h.opened hfile
  by_cases hempty : text = []
  · have hnothing : write_bytes w a text = (w, w.state.file) := if_pos (.inr hempty)
    rw [hnothing]
    refine ⟨⟨h.recorded, fun hroomy => ?_, h.opened, h.closed⟩, id, .refl w, rfl, rfl⟩
    rw [hsegments] at hroomy
    exact absurd hempty (htext g rest hsegments hg (hroomy g List.mem_cons_self)).1
  · rw [write_bytes_eq ha hfile hempty]
    have hle := h.current_le hsegments hg
    have hfits : g.content.length + text.length ≤ g.limit := by
      rw [← hg.size, hg.limit]
      omega
    have hwrote := wrote_written (a := a) h.recorded hsegments hg hfits
    refine ⟨⟨hwrote.recorded, fun hroomy => ?_, fun _ => ?_, fun hclosed => ?_⟩,
      fun henabled => henabled.wrote hwrote, hwrote.framed, hwrote.lines, by rw [hwrote.state]⟩
    · rw [hwrote.segments, List.forall_mem_cons, Segment.roomy_concat hbegun] at hroomy
      have hcomplete := h.complete (by rwa [hsegments, List.forall_mem_cons])
      rw [hsegments] at hcomplete
      rw [hwrote.segments]
      exact hcomplete.concat hbegun (htext g rest hsegments hg hroomy.1).2
    · exact ⟨_, rest, hwrote.segments, hwrote.current, List.append_ne_nil_of_left_ne_nil hbegun _⟩
    · rw [hwrote.state] at hclosed
      exact absurd (hfile.symm.trans hclosed) (by decide)

/-! ## The next segment -/

/-- What is kept does not depend on the rest of the state while no file is open. -/
theorem Kept.of_closed (h : Kept files₀ w lines) {s : LoggerState} (hfile : s.file = false)
    (hpath : s.current_path = none) (hsize : s.current_size = 0) :
    Kept files₀ { w with state := s } lines :=
  ⟨h.recorded, h.complete, fun hopen => absurd (hfile.symm.trans hopen) (by decide),
    fun _ => ⟨hpath, hsize⟩⟩

theorem Kept.close_file_eq (h : Kept files₀ w lines) : w.close_file = { w with
    state.file := false
    state.current_path := none
    state.current_size := 0 } := by
  unfold World.close_file
  cases hfile : w.state.file with
  | true => rfl
  | false =>
    obtain ⟨hpath, hsize⟩ := h.closed hfile
    rw [Bool.not_false, if_pos rfl, ← hpath, ← hsize, ← hfile]

theorem Kept.close_file (h : Kept files₀ w lines) : Kept files₀ w.close_file lines := by
  rw [h.close_file_eq]
  exact h.of_closed rfl rfl rfl

theorem Obs.Quiet.ledger_lines {o : Obs} (ho : o.Quiet) (hline : ∀ line, o ≠ .logged line)
    (h : List Obs) : (ledger (h ++ [o])).lines = (ledger h).lines := by
  rw [ledger_concat]
  cases o with
  | logged line => exact absurd rfl (hline line)
  | started | reported => rfl
  | created | wrote | removed => cases ho

theorem Kept.observe (h : Kept files₀ w lines) {o : Obs} (ho : o.Quiet) :
    Kept files₀ (w.observe o) lines := by
  refine ⟨h.recorded.observe ho, ?_, ?_, h.closed⟩
  · rw [World.observe, ho.segments]
    exact h.complete
  · rw [World.observe, ho.segments]
    exact h.opened

/-- An error closes the file and ends file logging. -/
theorem Kept.report_file_error (h : Kept files₀ w lines) (message : Text) :
    Kept files₀ (w.report_file_error message) lines ∧
      (w.report_file_error message).state.file_logging_enabled = false ∧
      (w.report_file_error message).state.file = false ∧
      (ledger (w.report_file_error message).history).lines = (ledger w.history).lines := by
  have hlines := Obs.Quiet.ledger_lines (o := .reported message) trivial (fun _ hne => by cases hne)
    w.history
  have hclosed := h.close_file
  unfold World.report_file_error
  rw [h.close_file_eq] at hclosed ⊢
  dsimp only
  split
  · exact ⟨(hclosed.observe (o := .reported message) trivial).of_closed rfl rfl rfl, rfl, rfl,
      hlines⟩
  · exact ⟨hclosed.of_closed rfl rfl rfl, rfl, rfl, rfl⟩

theorem Counted.report_file_error (h : Counted w) (message : Text) :
    Counted (w.report_file_error message) := by
  unfold World.report_file_error World.close_file
  dsimp only
  split <;> split <;> exact ⟨h.files, h.limit⟩

theorem complete_congr {segments segments' : List Segment}
    (h : segments'.map Segment.text = segments.map Segment.text)
    (hcomplete : (∀ g ∈ segments, g.Roomy) → Complete segments lines) :
    (∀ g ∈ segments', g.Roomy) → Complete segments' lines := by
  intro hroomy
  have hall : (∀ g ∈ segments, g.Roomy) ↔ ∀ g ∈ segments', g.Roomy := by
    have hmap (l : List Segment) : (∀ g ∈ l, g.Roomy) ↔
        ∀ text ∈ l.map Segment.text, (text.2.headD []).length + marker.length < text.1 := by
      rw [List.forall_mem_map]
      rfl
    rw [hmap, hmap, h]
  have hrecords (l : List Segment) : l.reverse.flatMap Segment.records =
      (l.map Segment.text).reverse.flatMap fun text => text.2.tail := by
    rw [← List.map_reverse, List.flatMap_map]
    rfl
  have hdone := hcomplete (hall.2 hroomy)
  unfold Complete at hdone ⊢
  rwa [hrecords, h, ← hrecords]

theorem Kept.trimmed (h : Kept files₀ w lines) (hfile : w.state.file = false)
    (htrimmed : Trimmed files₀ w w') : Kept files₀ w' lines := by
  refine ⟨htrimmed.recorded h.recorded, complete_congr htrimmed.texts h.complete, ?_, ?_⟩
  · rw [htrimmed.state]
    intro hopen
    exact absurd (hfile.symm.trans hopen) (by decide)
  · rw [htrimmed.state]
    exact h.closed

theorem segment_header_ne_nil (a : Answers) (run_name : Text) (segment : ℕ) :
    segment_header a run_name segment ≠ [] :=
  List.append_ne_nil_of_right_ne_nil _ (by decide)

/-- A new segment, before its header. -/
def World.begun (w : World) (run_name : Text) (segment : ℕ) : World :=
  { w with
    state.run_name := run_name
    state.current_path := some (w.state.directory, segment_name run_name segment)
    state.file := true
    state.segment_index := segment + 1 }

/-- The next segment is open and has its header. -/
structure Opened (files₀ : FileSystem) (w w' : World) (lines : List Text) : Prop where
  kept : Kept files₀ w' lines
  lines : (ledger w'.history).lines = (ledger w.history).lines
  limit : (ledger w'.history).limit = (ledger w.history).limit
  max_segment_size : w'.state.max_segment_size = w.state.max_segment_size
  max_directory_size : w'.state.max_directory_size = w.state.max_directory_size
  framed : Framed w w'
  file_logging_enabled : w'.state.file_logging_enabled = w.state.file_logging_enabled
  file : w'.state.file = true
  run : K_LOG_FILE_PREFIX <+: w'.state.run_name
  total : total w'.directory = total w.directory + w'.state.current_size
  foreign : foreign w'.directory = foreign w.directory
  header : ∃ g rest, (ledger w'.history).segments = g :: rest ∧
    w'.state.current_size = g.header.length

theorem Kept.create (h : Kept files₀ w lines) (ha : a.Successful)
    (hclosed : w.state.current_size = 0) (hpositive : 0 < w.state.max_segment_size)
    (hlimit : (ledger w.history).limit = w.state.max_segment_size) {run_name : Text}
    {segment : ℕ} (hrun : K_LOG_FILE_PREFIX <+: run_name)
    (hfree : w.directory.find? (segment_name run_name segment) = none) :
    ∃ w' w'', w.open_exclusive_file a w.state.directory (segment_name run_name segment) = some w' ∧
      w'.state = w.state ∧
      write_bytes (w'.begun run_name segment) a
        (truncate_line (segment_header a run_name segment) w.state.max_segment_size) =
          (w'', true) ∧ Opened files₀ w w'' lines := by
  cases hcreate : w.directory.create? (segment_name run_name segment) a.write_time with
  | none => exact absurd hfree (Directory.create?_eq_none.1 hcreate)
  | some created =>
    have hexclusive : w.open_exclusive_file a w.state.directory (segment_name run_name segment) =
        some ⟨w.state, Function.update w.files w.state.directory created,
          w.history ++ [.created w.state.directory (segment_name run_name segment)]⟩ := by
      unfold World.open_exclusive_file
      rw [World.directory] at hcreate
      rw [hcreate]
      rfl
    have hrecorded := h.recorded.create hcreate
    have hledger := ledger_concat w.history
      (.created w.state.directory (segment_name run_name segment))
    have hlines := congrArg Ledger.lines hledger
    have hlimits := congrArg Ledger.limit hledger
    set w' : World := ⟨w.state, Function.update w.files w.state.directory created,
      w.history ++ [.created w.state.directory (segment_name run_name segment)]⟩
    set text := truncate_line (segment_header a run_name segment) w.state.max_segment_size
    have hnonempty : text ≠ [] :=
      truncate_line_ne_nil (segment_header_ne_nil a run_name segment) hpositive
    have hg : Current (w'.begun run_name segment).state ⟨w.state.directory,
        segment_name run_name segment, (ledger w.history).limit, [], false⟩ :=
      ⟨rfl, rfl, rfl, hclosed, hlimit, is_log_name_segment hrun segment⟩
    have hroom : 0 + text.length ≤ (ledger w.history).limit := by
      rw [hlimit, Nat.zero_add]
      exact length_truncate_line _ _
    have hwrote := @wrote_written files₀ (w'.begun run_name segment) a hrecorded _
      (ledger w.history).segments (congrArg Ledger.segments hledger) hg text hroom
    refine ⟨w', (w'.begun run_name segment).written a text, hexclusive, rfl,
      write_bytes_eq ha rfl hnonempty, ?_⟩
    have hdirectory : (w'.begun run_name segment).directory = created := Function.update_self ..
    have hsize : ((w'.begun run_name segment).written a text).state.current_size =
        text.length := by
      rw [hwrote.state]
      show w.state.current_size + text.length = text.length
      rw [hclosed, Nat.zero_add]
    exact {
      kept :=
        { recorded := hwrote.recorded
          complete := fun hroomy => by
            rw [hwrote.segments, List.forall_mem_cons] at hroomy
            have hcomplete := h.complete hroomy.2
            rw [hwrote.segments]
            unfold Complete at hcomplete ⊢
            rw [List.reverse_cons, List.flatMap_append, List.flatMap_singleton]
            exact (List.append_nil _).symm ▸ hcomplete
          opened := fun _ => ⟨_, _, hwrote.segments, hwrote.current, List.cons_ne_nil _ _⟩
          closed := fun hfile => by
            rw [hwrote.state] at hfile
            cases hfile }
      lines := by
        rw [hwrote.lines]
        exact hlines
      limit := by
        rw [hwrote.limit]
        exact hlimits
      max_segment_size := by
        rw [hwrote.state]
        rfl
      max_directory_size := by
        rw [hwrote.state]
        rfl
      framed := by
        have hbegun : Framed w (w'.begun run_name segment) :=
          ⟨rfl, rfl, fun d hd => Function.update_of_ne hd ..⟩
        exact hbegun.trans hwrote.framed
      file_logging_enabled := by
        rw [hwrote.state]
        rfl
      file := by
        rw [hwrote.state]
        rfl
      run := by
        rw [hwrote.state]
        exact hrun
      total := by
        rw [hwrote.total, hdirectory, hsize]
        exact congrArg (· + text.length) (Directory.size_create? hcreate)
      foreign := by
        rw [hwrote.foreign, hdirectory]
        exact Directory.size_create? hcreate
      header := ⟨_, _, hwrote.segments, hsize⟩ }

/-- The next segment is opened, unless the other files leave too little room for it. -/
theorem Kept.open_next_segment (h : Kept files₀ w lines) (hcounted : Counted w)
    (ha : a.Successful) (hpositive : 0 < w.state.max_segment_size)
    (hlimit : (ledger w.history).limit = w.state.max_segment_size)
    (hrun : K_LOG_FILE_PREFIX <+: w.state.run_name) :
    (∃ w₁ w', Logger.open_next_segment w a = (w', true) ∧ Trimmed files₀ w.close_file w₁ ∧
      total w₁.directory + w.state.max_segment_size ≤ w.state.max_directory_size ∧
      Opened files₀ w₁ w' lines) ∨
    (∃ w', Logger.open_next_segment w a = (w', false) ∧ Kept files₀ w' lines ∧
      (ledger w'.history).lines = (ledger w.history).lines ∧
      w'.state.file_logging_enabled = false ∧ Counted w' ∧
      w.state.max_directory_size < foreign w.directory + w.state.max_segment_size) := by
  have hclose := h.close_file
  have heq := h.close_file_eq
  have hfile : w.close_file.state.file = false := by rw [heq]
  have hpath : w.close_file.state.current_path = none := by rw [heq]
  have hmax : w.close_file.state.max_segment_size = w.state.max_segment_size := by rw [heq]
  have hmax' : w.close_file.state.max_directory_size = w.state.max_directory_size := by rw [heq]
  have hhistory : w.close_file.history = w.history := by rw [heq]
  have hdirectory : w.close_file.directory = w.directory := by rw [heq]; rfl
  have hname : w.close_file.state.run_name = w.state.run_name := by rw [heq]
  have hclosed : Framed w w.close_file := by
    rw [heq]
    exact ⟨rfl, rfl, fun _ _ => rfl⟩
  have hsmall : total w.directory < 2 ^ 64 := hcounted.files _
  obtain ⟨w₁, htrimmed, hroom⟩ := make_directory_room_trims files₀ ha hpath (hdirectory ▸ hsmall)
    w.close_file.state.max_segment_size
  rw [hmax, hmax', hdirectory] at hroom
  have hkept := hclose.trimmed hfile htrimmed
  unfold Logger.open_next_segment
  dsimp only
  rw [hmax]
  rcases hroom with ⟨hmade, hfits⟩ | ⟨hmade, hlarge⟩
  · rw [hmade]
    dsimp only
    obtain ⟨run_name, segment, hfind, hfree, hrun'⟩ := @find_segment_spec a
      w₁.directory w₁.state.run_name ha.opens (by rwa [htrimmed.state, hname])
      w₁.state.segment_index
    have hsize : w₁.state.current_size = 0 := by
      rw [htrimmed.state]
      exact (hclose.closed hfile).2
    have hmax₁ : w₁.state.max_segment_size = w.state.max_segment_size := by
      rw [htrimmed.state, hmax]
    obtain ⟨w₂, w₃, hcreate, hstate, hwrite, hopened⟩ := hkept.create ha hsize
      (hmax₁ ▸ hpositive) (by rw [htrimmed.limit, hhistory, hlimit, hmax₁]) hrun' hfree
    refine .inl ⟨w₁, w₃, ?_, htrimmed, hfits, hopened⟩
    rw [World.directory] at hfind
    rw [hfind]
    dsimp only
    rw [hcreate]
    rw [← hstate] at hwrite
    exact hwrite
  · rw [hmade]
    obtain ⟨hkept', hdisabled, -, hlines⟩ := hkept.report_file_error
      (ascii "cannot enforce log directory size limit")
    have hcounted' : Counted w₁ := hcounted.framed (hclosed.trans htrimmed.framed)
      (htrimmed.total_le.trans_lt (hdirectory ▸ hsmall))
    exact .inr ⟨_, rfl, hkept', by rw [hlines, htrimmed.lines, hhistory], hdisabled,
      hcounted'.report_file_error _, hlarge⟩

/-- After a segment is opened the limits of the directory are kept. -/
theorem enabled_of_opened {w₁ : World} (h : Opened files₀ w₁ w' lines) (hkept : Kept files₀ w lines)
    (htrimmed : Trimmed files₀ w.close_file w₁)
    (hfits : total w₁.directory + w.state.max_segment_size ≤ w.state.max_directory_size)
    (hpositive : 0 < w.state.max_segment_size)
    (hlimit : (ledger w.history).limit = w.state.max_segment_size) : Enabled w' := by
  have heq := hkept.close_file_eq
  have hmax : w'.state.max_segment_size = w.state.max_segment_size := by
    rw [h.max_segment_size, htrimmed.state, heq]
  have hmax' : w'.state.max_directory_size = w.state.max_directory_size := by
    rw [h.max_directory_size, htrimmed.state, heq]
  have hothers : foreign w₁.directory ≤ total w₁.directory := by
    rw [total_eq]
    exact Nat.le_add_left ..
  refine ⟨h.file, ?_, ?_, ?_, h.run, ?_, ?_⟩ <;> rw [hmax]
  · exact hpositive
  · rw [hmax']
    exact (Nat.le_add_left ..).trans hfits
  · rw [h.limit, htrimmed.limit, heq]
    exact hlimit
  · rw [hmax', h.total]
    omega
  · rw [hmax', h.foreign]
    omega

/-- So is the limit of what can be counted. -/
theorem Counted.of_opened {w₁ : World} (hcounted : Counted w) (h : Opened files₀ w₁ w' lines)
    (hkept : Kept files₀ w lines) (htrimmed : Trimmed files₀ w.close_file w₁)
    (henabled : Enabled w') : Counted w' := by
  have hclosed : Framed w w.close_file := by
    rw [hkept.close_file_eq]
    exact ⟨rfl, rfl, fun _ _ => rfl⟩
  have hframed := (hclosed.trans htrimmed.framed).trans h.framed
  exact hcounted.framed hframed
    ((h.kept.total_le henabled).trans_lt (hframed.max_directory_size ▸ hcounted.limit))

end Kept

/-! ## Runs -/

section Run

variable {files₀ : FileSystem} {w : World} {a : Answers}

/-- What every call keeps. -/
structure Sound (files₀ : FileSystem) (w : World) : Prop where
  kept : Kept files₀ w (ledger w.history).lines
  counted : Counted w
  enabled : w.state.file_logging_enabled = true → Enabled w

theorem file_log_line_ne_nil (a : Answers) (level : LogLevel) (tag msg : Text)
    (file : Option Text) (line : ℤ) : file_log_line a level tag msg file line ≠ [] :=
  List.append_ne_nil_of_right_ne_nil _ (by decide)

theorem Enabled.logged (h : Enabled w) (line : Text) : Enabled (w.observe (.logged line)) where
  file := h.file
  positive := h.positive
  le := h.le
  limit := by
    show (ledger (w.history ++ [.logged line])).limit = w.state.max_segment_size
    rw [ledger_concat]
    exact h.limit
  run := h.run
  room := h.room
  others := h.others

/-- The line is written to the open segment. -/
theorem Kept.log_line {lines : List Text} (h : Kept files₀ w lines) (hcounted : Counted w)
    (henabled : Enabled w) (ha : a.Successful) {line : Text} (hline : line ≠ [])
    (hlines : (ledger w.history).lines = lines ++ [line])
    (hroomy : ∀ g rest, (ledger w.history).segments = g :: rest → Current w.state g → g.Roomy →
      (truncate_line line w.state.max_segment_size).length ≤
          w.state.max_segment_size - w.state.current_size ∨
        marker.length < w.state.max_segment_size - w.state.current_size) :
    Sound files₀ (write_bytes w a (truncate_line (truncate_line line w.state.max_segment_size)
      (w.state.max_segment_size - w.state.current_size))).1 := by
  obtain ⟨hkept, hafter, hframed, hledger, -⟩ := @Kept.record _ _ _ _ h ha henabled.file _ line
    (length_truncate_line (truncate_line line w.state.max_segment_size) _)
    fun g rest hsegments hg hroom => by
      have hmarker : marker.length < w.state.max_segment_size := by
        rw [← hg.limit]
        exact (Nat.le_add_left ..).trans_lt hroom
      have hcut := truncate_line_ne_nil hline henabled.positive
      rcases hroomy g rest hsegments hg hroom with hfits | hcuts
      · rw [truncate_line_of_le hfits]
        exact ⟨hcut, isRecord_truncate hmarker⟩
      · refine ⟨truncate_line_ne_nil hcut ((Nat.zero_le _).trans_lt hcuts), ?_⟩
        rw [truncate_line_twice (Nat.sub_le ..) hcuts]
        exact isRecord_truncate hcuts
  have hcounted' := hcounted.framed hframed
    ((hkept.total_le (hafter henabled)).trans_lt (hframed.max_directory_size ▸ hcounted.limit))
  exact ⟨by rwa [hledger, hlines], hcounted', fun _ => hafter henabled⟩

theorem Sound.log (h : Sound files₀ w) (ha : a.Successful) (level : LogLevel) (msg : Text)
    (file : Option Text) (line : ℤ) : Sound files₀ (log w a level msg file line) := by
  unfold Logger.log
  split
  · exact h
  split
  · exact h
  next hlogging =>
  have henabled := h.enabled (by simpa using hlogging)
  set log_line := file_log_line a level w.state.tag msg file line
  have hline : log_line ≠ [] := file_log_line_ne_nil a level _ msg file line
  have hkept := h.kept.observe (o := .logged log_line) trivial
  have hlines : (ledger (w.observe (.logged log_line)).history).lines =
      (ledger w.history).lines ++ [log_line] := by
    show (ledger (w.history ++ [.logged log_line])).lines = _
    rw [ledger_concat]
    rfl
  replace henabled := henabled.logged log_line
  have hcounted : Counted (w.observe (.logged log_line)) := ⟨h.counted.files, h.counted.limit⟩
  -- A line that is not too long is not cut.
  have hcut : (if (w.observe (.logged log_line)).state.max_segment_size < log_line.length then
      truncate_line log_line (w.observe (.logged log_line)).state.max_segment_size
      else log_line) = truncate_line log_line w.state.max_segment_size := by
    split
    · rfl
    next hshort => exact (truncate_line_of_le (not_lt.1 hshort)).symm
  dsimp only
  rw [hcut]
  split
  next hrotate =>
    rcases hkept.open_next_segment hcounted ha henabled.positive henabled.limit henabled.run with
      ⟨w₁, w', hopen, htrimmed, hfits, hopened⟩ | ⟨w', -, -, -, -, -, hlarge⟩
    · rw [hopen]
      dsimp only
      have hmax : w'.state.max_segment_size = w.state.max_segment_size := by
        rw [hopened.max_segment_size, htrimmed.state, hkept.close_file_eq]
        rfl
      have henabled' := enabled_of_opened hopened hkept htrimmed hfits henabled.positive
        henabled.limit
      have hlines' : (ledger w'.history).lines = (ledger w.history).lines ++ [log_line] := by
        rw [hopened.lines, htrimmed.lines, hkept.close_file_eq]
        exact hlines
      have hcounted' := hcounted.of_opened hopened hkept htrimmed henabled'
      rw [← hmax]
      refine hopened.kept.log_line hcounted' henabled' ha hline hlines'
        fun g rest hsegments hg hroomy => ?_
      -- There is room for more than the marker after the header.
      obtain ⟨g', rest', hsegments', hsize⟩ := hopened.header
      obtain ⟨rfl, -⟩ := List.cons_eq_cons.1 (hsegments.symm.trans hsegments')
      unfold Segment.Roomy at hroomy
      rw [hg.limit] at hroomy
      rw [hsize]
      exact .inr (Nat.lt_sub_of_add_lt (by omega))
    · exact absurd henabled.others (not_le.2 hlarge)
  next hkeeps =>
    refine hkept.log_line hcounted henabled ha hline hlines fun g rest hsegments hg _ => .inl ?_
    have hlength := length_truncate_line log_line w.state.max_segment_size
    have hkeeps : ¬ (0 < w.state.current_size ∧ w.state.max_segment_size <
        w.state.current_size + (truncate_line log_line w.state.max_segment_size).length) := hkeeps
    show (truncate_line log_line w.state.max_segment_size).length ≤
      w.state.max_segment_size - w.state.current_size
    omega

theorem Kept.reported (h : Kept files₀ w (ledger w.history).lines) (hcounted : Counted w)
    (message : Text) : Sound files₀ (w.report_file_error message) := by
  obtain ⟨hkept, hdisabled, -, hlines⟩ := h.report_file_error message
  exact ⟨hlines ▸ hkept, hcounted.report_file_error message,
    fun henabled => absurd (hdisabled.symm.trans henabled) (by decide)⟩

/-- The first segment of a run is opened. -/
theorem Kept.start (h : Kept files₀ w (ledger w.history).lines) (hcounted : Counted w)
    (ha : a.Successful) (hpositive : 0 < w.state.max_segment_size)
    (hlimit : (ledger w.history).limit = w.state.max_segment_size)
    (hrun : K_LOG_FILE_PREFIX <+: w.state.run_name) :
    Sound files₀ (Logger.open_next_segment w a).1 := by
  rcases h.open_next_segment hcounted ha hpositive hlimit hrun with
    ⟨w₁, w', hopen, htrimmed, hfits, hopened⟩ |
      ⟨w', hopen, hkept, hlines, hdisabled, hcounted', -⟩
  · rw [hopen]
    have hlines : (ledger w'.history).lines = (ledger w.history).lines := by
      rw [hopened.lines, htrimmed.lines, h.close_file_eq]
    have henabled := enabled_of_opened hopened h htrimmed hfits hpositive hlimit
    exact ⟨hlines ▸ hopened.kept, hcounted.of_opened hopened h htrimmed henabled, fun _ => henabled⟩
  · rw [hopen]
    exact ⟨hlines ▸ hkept, hcounted',
      fun henabled => absurd (hdisabled.symm.trans henabled) (by decide)⟩

theorem Sound.init (h : Sound files₀ w) (ha : a.Successful) (config : FileLogConfig) :
    Sound files₀ (init w a config) := by
  have hclosed {s : LoggerState} (hfile : s.file = false) (hpath : s.current_path = none)
      (hsize : s.current_size = 0) : Kept files₀ { w with state := s } (ledger w.history).lines :=
    h.kept.of_closed hfile hpath hsize
  have hcounted := h.counted
  unfold Logger.init
  rw [h.kept.close_file_eq]
  dsimp only
  split
  · exact ⟨hclosed rfl rfl rfl, ⟨hcounted.files, hcounted.limit⟩,
      fun henabled => absurd henabled Bool.false_ne_true⟩
  split
  · refine Kept.reported ?_ ?_ _
    · exact hclosed rfl rfl rfl
    · exact ⟨hcounted.files, hcounted.limit⟩
  next hlimits =>
  split
  · refine Kept.reported ?_ ?_ _
    · exact hclosed rfl rfl rfl
    · exact ⟨hcounted.files, hcounted.limit⟩
  split
  next hcreates => exact absurd ha.creates (by simpa using hcreates)
  rw [not_or] at hlimits
  have hlines := Obs.Quiet.ledger_lines (o := .started
    (min config.max_segment_size_bytes.toNat config.max_directory_size_bytes.toNat)
    config.max_directory_size_bytes.toNat) trivial (fun _ hne => by cases hne) w.history
  have hpositive {size : UInt64} (hsize : size ≠ 0) : 0 < size.toNat :=
    Nat.pos_of_ne_zero fun heq => hsize (UInt64.toNat_inj.1 heq)
  refine Kept.start ?_ ⟨hcounted.files, UInt64.toNat_lt _⟩ ha ?_ ?_ ?_
  · rw [World.observe, hlines]
    exact (hclosed rfl rfl rfl).observe trivial
  · exact lt_min (hpositive hlimits.1) (hpositive hlimits.2)
  · rw [World.observe, ledger_concat]
    rfl
  · dsimp only [World.observe]
    rw [List.append_assoc, List.append_assoc, List.append_assoc, List.append_assoc]
    exact List.prefix_append _ _

theorem Sound.shutdown (h : Sound files₀ w) : Sound files₀ (shutdown w) := by
  have hclose := h.kept.close_file_eq
  unfold Logger.shutdown
  rw [hclose]
  exact ⟨h.kept.of_closed rfl rfl rfl, ⟨h.counted.files, h.counted.limit⟩,
    fun henabled => absurd henabled Bool.false_ne_true⟩

theorem Sound.step (h : Sound files₀ w) (call : Call × Answers) (ha : call.2.Successful) :
    Sound files₀ (step w call) := by
  obtain ⟨call, a⟩ := call
  cases call with
  | init config => exact h.init ha config
  | shutdown => exact h.shutdown
  | log level msg file line => exact h.log ha level msg file line
  | set_level level | set_tag tag =>
    refine ⟨⟨h.kept.recorded, h.kept.complete, fun hfile => ?_, h.kept.closed⟩,
      ⟨h.counted.files, h.counted.limit⟩, fun henabled => ?_⟩
    · obtain ⟨g, rest, hsegments, hg, hbegun⟩ := h.kept.opened hfile
      exact ⟨g, rest, hsegments, ⟨hg.kept, hg.path, hg.directory, hg.size, hg.limit, hg.log_name⟩,
        hbegun⟩
    · obtain ⟨hfile, hpositive, hle, hlimit, hrun, hroom, hothers⟩ := h.enabled henabled
      exact ⟨hfile, hpositive, hle, hlimit, hrun, hroom, hothers⟩

theorem sound_run (files₀ : FileSystem) (hfiles : ∀ d, total (files₀ d) < 2 ^ 64)
    (calls : List (Call × Answers)) (hcalls : ∀ call ∈ calls, call.2.Successful) :
    Sound files₀ (run ⟨{}, files₀, []⟩ calls) := by
  have hinit : Sound files₀ ⟨{}, files₀, []⟩ :=
    ⟨⟨recorded_init files₀, fun _ => .nil, fun hfile => absurd hfile Bool.false_ne_true,
      fun _ => ⟨rfl, rfl⟩⟩, ⟨hfiles, (by decide : 50 * 1024 * 1024 < 2 ^ 64)⟩,
      fun henabled => absurd henabled Bool.false_ne_true⟩
  unfold run
  induction calls using List.reverseRecOn with
  | nil => exact hinit
  | append_singleton calls call ih =>
    rw [List.forall_mem_append, List.forall_mem_singleton] at hcalls
    rw [List.foldl_append]
    exact (ih hcalls.1).step call hcalls.2

theorem Sound.logged (h : Sound files₀ w) : Logged files₀ w where
  bounded := h.kept.recorded.bounded
  stored := h.kept.recorded.stored
  current := by
    cases hfile : w.state.file with
    | true =>
      obtain ⟨g, rest, hsegments, hg, -⟩ := h.kept.opened hfile
      exact h.kept.current_le hsegments hg
    | false =>
      rw [(h.kept.closed hfile).2]
      exact Nat.zero_le _
  opened hfile := by
    obtain ⟨g, rest, hsegments, hg, -⟩ := h.kept.opened hfile
    obtain ⟨time, hstored⟩ := h.kept.recorded.stored g (by simp [hsegments]) hg.kept
    exact ⟨g.directory, g.name, g.content, time, hg.path, hstored, hg.size.symm⟩
  closed hfile := (h.kept.closed hfile).2
  directory henabled := h.kept.total_le (h.enabled henabled)
  exclusive := h.kept.recorded.exclusive
  untouched directory name node hnode hremoved :=
    (h.kept.recorded.untouched directory name node hnode hremoved).1
  complete := h.kept.complete

/-- Whatever there was at first, if less than 2^64 bytes in each directory, after every sequence of
calls in which all operations on files succeed the segments, the open file and the directory keep
their limits, nothing that was there has been written, and the segments, removed ones included, have
the logged lines. -/
theorem segments_spec (files₀ : FileSystem) (hfiles : ∀ d, total (files₀ d) < 2 ^ 64)
    (calls : List (Call × Answers)) (hcalls : ∀ call ∈ calls, call.2.Successful) :
    Logged files₀ (run ⟨{}, files₀, []⟩ calls) :=
  (sound_run files₀ hfiles calls hcalls).logged

end Run

/-- A start in an empty directory that has room for one segment, and two lines. -/
def two_segments : List (Call × Answers) :=
  [(.init ⟨ascii "d", 90, 100, true⟩, {}), (.log .INFO (ascii "first") none 0, {}),
    (.log .INFO (ascii "second") none 0, {})]

def empty_files : FileSystem := fun _ => ⟨[], List.nodup_nil⟩

theorem successful_two_segments : ∀ call ∈ two_segments, call.2.Successful := by
  have hdefault : Answers.Successful {} := ⟨rfl, rfl, fun _ => rfl, fun _ => rfl, fun _ => rfl⟩
  unfold two_segments
  rw [List.forall_mem_cons, List.forall_mem_cons, List.forall_mem_singleton]
  exact ⟨hdefault, hdefault, hdefault⟩

theorem segments_spec_two : Logged empty_files (run ⟨{}, empty_files, []⟩ two_segments) :=
  segments_spec empty_files (fun _ => Nat.two_pow_pos 64) two_segments successful_two_segments

/-- The first segment is removed when the second one is opened, and its line with it. -/
theorem rotation_forgets : (∀ call ∈ two_segments, call.2.Successful) ∧
    (∀ g ∈ (ledger (run ⟨{}, empty_files, []⟩ two_segments).history).segments,
      g.header.length + marker.length < g.limit) ∧
    ¬ Complete ((ledger (run ⟨{}, empty_files, []⟩ two_segments).history).segments.filter
      fun g => !g.removed) (ledger (run ⟨{}, empty_files, []⟩ two_segments).history).lines := by
  refine ⟨successful_two_segments, by decide +kernel, fun hcomplete => ?_⟩
  have hlength := hcomplete.length_eq
  exact absurd hlength (by decide +kernel)

end FactoryTest.Logger
