import FactoryTest.View.ExtIoLines

/-!
# Runs of the EXT.IO page

**What is kept** (`Steady`, `UpToDate`). The lines are in order for the function of the page, each
row that is visible shows the outcome of the last access to it, the row that is selected is visible,
and every row is drawn as it is. Each event keeps this (`step_continues`), so every run does
(`run_steady`).

**Theorem (`ext_io_lines`).** In every run, whatever the system answers, the view never has two
requests of one line, those it has are outputs or inputs as its function is, and the lines of others
are left alone. While it is `INPUT` nothing is driven, and nothing is left when it is destroyed. Two
outputs that are set with no release between them are set 120 milliseconds apart or more, also when
the clock turns over.

**Theorem (`ext_io_shown`).** After every run the row that is selected is visible, all rows are
drawn as they are, and a level that is shown of a line is the one that was last read of it.
-/

namespace FactoryTest.View

open Gpio Process

namespace ExtIoView

/-- What is drawn of a row comes of what it shows. -/
theorem styled_of_unchanged {v v' : ExtIoView} {i : Fin 5}
    (hrow : changed (v.rows i) (v'.rows i) = false) (hsettings : v'.settings = v.settings) :
    v'.styled i = v.styled i := by
  unfold settings at hsettings
  simp only [Prod.mk.injEq] at hsettings
  obtain ⟨hfunction, hselected, hdark, htr⟩ := hsettings
  simp only [changed, Bool.or_eq_false_iff, decide_eq_false_iff_not, not_not] at hrow
  obtain ⟨⟨hactive, herror⟩, hmessage⟩ := hrow
  unfold styled state_text
  simp only [hactive, herror, hmessage, hfunction, hselected, hdark, htr]

theorem styled_congr {v v' : ExtIoView} {i : Fin 5} (hrow : v'.rows i = v.rows i)
    (hsettings : v'.settings = v.settings) : v'.styled i = v.styled i := by
  apply styled_of_unchanged _ hsettings
  simp [changed, hrow]

theorem row_visible_iff (v : ExtIoView) (i : Fin 5) : v.row_visible_ i = true ↔
    v.io_function = .OUTPUT ∨ (row_config i).supports_input = true := by
  simp [row_visible_]

/-- There is a row that is always visible. -/
theorem row_visible_two (v : ExtIoView) : v.row_visible_ 2 = true := by
  apply (v.row_visible_iff 2).2
  exact .inr rfl

end ExtIoView

/-- The direction of the lines. -/
def IoFunction.direction : IoFunction → Direction
  | .OUTPUT => .OUTPUT
  | .INPUT => .INPUT

/-- What is seen is up to date. -/
structure UpToDate (v : ExtIoView) : Prop where
  selected : v.row_visible_ v.selected_index = true
  drawn : ∀ i, v.drawn i = v.styled i

/-- The lines are in order, and the rows that are visible show what was accessed last. -/
structure Steady (w₀ : World) (v : ExtIoView) : Prop where
  tidy : Tidy w₀ v.world
  output : v.io_function = .OUTPUT → ∀ i, OutputRow i v
  input : v.io_function = .INPUT → ∀ i, InputRow i v
  shown : ∀ i : Fin 5, v.row_visible_ i = true → Shown i v
  paced : Paced v

section

variable {w₀ : World} {v v' : ExtIoView} {i j : Fin 5}

theorem Same.steady (h : Same v v') (hfunction : v'.io_function = v.io_function)
    (hsteady : Steady w₀ v) : Steady w₀ v' := by
  constructor
  · rw [h.world]
    exact hsteady.tidy
  · intro houtput i
    exact h.outputRow (hsteady.output (hfunction ▸ houtput) i)
  · intro hinput i
    exact h.inputRow (hsteady.input (hfunction ▸ hinput) i)
  · intro i hvisible
    rw [ExtIoView.row_visible_iff, hfunction, ← ExtIoView.row_visible_iff] at hvisible
    exact h.shown (hsteady.shown i hvisible)
  · exact h.paced hsteady.paced

/-! ## Drawing -/

theorem ensure_selected_visible_spec (v : ExtIoView) :
    ∃ index, v.ensure_selected_visible_ = { v with selected_index := index } ∧
      v.row_visible_ index = true := by
  unfold ExtIoView.ensure_selected_visible_
  by_cases hvisible : v.row_visible_ v.selected_index = true
  · rw [if_pos hvisible]
    exact ⟨v.selected_index, rfl, hvisible⟩
  · rw [if_neg hvisible]
    cases hfind : (List.range 5).find? v.row_visible_ with
    | none =>
      have hnone := List.find?_eq_none.1 hfind 2 (by decide)
      exact absurd v.row_visible_two hnone
    | some index => exact ⟨index, rfl, List.find?_some hfind⟩

/-- All that drawing leaves. -/
def undrawn (v : ExtIoView) :=
  (v.world, v.rows, v.accesses, v.settings, pacing v)

theorem apply_theme_spec (v : ExtIoView) :
    Same v v.apply_theme_ ∧ v.apply_theme_.io_function = v.io_function ∧
      UpToDate v.apply_theme_ := by
  obtain ⟨index, hensure, hvisible⟩ := ensure_selected_visible_spec v
  unfold ExtIoView.apply_theme_
  rw [hensure]
  have hstep : ∀ (u : ExtIoView) i, undrawn (u.apply_row_style_ i) = undrawn u := fun _ _ => rfl
  have hundrawn : undrawn ((List.finRange 5).foldl ExtIoView.apply_row_style_
      { v with selected_index := index }) = undrawn { v with selected_index := index } :=
    foldl_unchanged undrawn hstep _ _
  have hdrawn : True ∧ ∀ i, ((List.finRange 5).foldl ExtIoView.apply_row_style_
        { v with selected_index := index }).drawn i =
      ((List.finRange 5).foldl ExtIoView.apply_row_style_
        { v with selected_index := index }).styled i := by
    apply sweep_all (fun _ => True) (fun _ _ => True)
      (fun i (u : ExtIoView) => u.drawn i = u.styled i) _ _ trivial (fun _ => trivial)
    · exact fun u i _ _ => ⟨trivial, Function.update_self ..⟩
    · intro u i j hne _ _
      exact ⟨fun _ => trivial, fun h => (Function.update_of_ne hne _ _).trans h⟩
  replace hdrawn := hdrawn.2
  generalize (List.finRange 5).foldl ExtIoView.apply_row_style_
    { v with selected_index := index } = u at hundrawn hdrawn ⊢
  unfold undrawn ExtIoView.settings at hundrawn
  simp only [Prod.mk.injEq] at hundrawn
  obtain ⟨hworld, hrows, haccesses, ⟨hfunction, hselected, -, -⟩, hpacing⟩ := hundrawn
  refine ⟨⟨hworld, hrows, haccesses, fun h => h.congr hpacing⟩, hfunction, ?_, hdrawn⟩
  unfold ExtIoView.row_visible_ at hvisible ⊢
  rw [hselected, hfunction]
  exact hvisible

theorem set_selected_index_spec (v : ExtIoView) (index : ℕ) :
    Same v (v.set_selected_index_ index) ∧
      (v.set_selected_index_ index).io_function = v.io_function ∧
      (v.set_selected_index_ index = v ∨ UpToDate (v.set_selected_index_ index)) := by
  unfold ExtIoView.set_selected_index_
  split_ifs
  · exact ⟨⟨rfl, rfl, rfl, fun h => h.congr rfl⟩, rfl, .inl rfl⟩
  · obtain ⟨hsame, hfunction, hseen⟩ := apply_theme_spec { v with selected_index := index }
    have hall : Same v (ExtIoView.apply_theme_ { v with selected_index := index }) :=
      ⟨hsame.world, hsame.rows, hsame.accesses, fun h => hsame.paced (h.congr rfl)⟩
    exact ⟨hall, hfunction, .inr hseen⟩

theorem write_row_frame (v : ExtIoView) (i : Fin 5) (next : Bool) (answers : ExtIoAnswers) :
    (v.write_row i next answers).2.settings = v.settings ∧
      (v.write_row i next answers).2.drawn = v.drawn ∧
      (v.write_row i next answers).2.rows = v.rows := by
  unfold ExtIoView.write_row
  split <;> exact ⟨rfl, rfl, rfl⟩

theorem accessed_frame (v : ExtIoView) (i : Fin 5) (result : Except String Bool) (failed : Bool) :
    (v.accessed i result failed).settings = v.settings ∧
      (v.accessed i result failed).drawn = v.drawn := by
  cases result <;> exact ⟨rfl, rfl⟩

theorem toggle_row_settings (v : ExtIoView) (i : Fin 5) (answers : ExtIoAnswers) :
    (v.toggle_row_ i answers).settings = v.settings := by
  unfold ExtIoView.toggle_row_
  split_ifs
  · rfl
  · obtain ⟨hsettings, -, -⟩ := write_row_frame v i (!(v.rows i).active) answers
    exact (accessed_frame _ i _ _).1.trans hsettings

/-- The row that is toggled is drawn again. -/
theorem toggle_row_drawn (houtput : v.io_function = .OUTPUT)
    (h : ∀ j ≠ i, v.drawn j = v.styled j) (answers : ExtIoAnswers) :
    ∀ j, (v.toggle_row_ i answers).drawn j = (v.toggle_row_ i answers).styled j := by
  have hvisible : v.row_visible_ i = true := (v.row_visible_iff i).2 (.inl houtput)
  obtain ⟨hsettings, hdrawn, hrows⟩ := write_row_frame v i (!(v.rows i).active) answers
  unfold ExtIoView.toggle_row_
  rw [if_neg (by simp [houtput, hvisible])]
  dsimp only
  generalize v.write_row i (!(v.rows i).active) answers = written at hsettings hdrawn hrows ⊢
  obtain ⟨result, u⟩ := written
  dsimp only at hsettings hdrawn hrows ⊢
  generalize (result.map fun _ => !(v.rows i).active) = outcome
  obtain ⟨hsettings', hdrawn'⟩ := accessed_frame u i outcome (v.rows i).active
  intro j
  by_cases hne : j = i
  · subst hne
    exact Function.update_self ..
  · refine (Function.update_of_ne hne _ _).trans ?_
    rw [hdrawn', hdrawn, h j hne]
    have hrow : (u.accessed i outcome (v.rows i).active).rows j = v.rows j := by
      rw [accessed_rows u hne, hrows]
    exact (ExtIoView.styled_congr hrow (hsettings'.trans hsettings)).symm

/-! ## Polling -/

/-- A row before it is drawn again. -/
theorem read_input_state_frame (v : ExtIoView) (i : Fin 5) (answers : Fin 5 → RowAnswers) :
    v.read_input_state true answers i = v ∨ ∃ u : ExtIoView, u.settings = v.settings ∧
      u.drawn = v.drawn ∧ (∀ j ≠ i, u.rows j = v.rows j) ∧
      v.read_input_state true answers i =
        if ExtIoView.changed (v.rows i) (u.rows i) then u.apply_row_style_ i else u := by
  unfold ExtIoView.read_input_state
  split_ifs with hinput
  · exact .inl rfl
  · right
    cases hgpio : (row_config i).gpio with
    | none =>
      obtain ⟨hsettings, hdrawn⟩ :=
        accessed_frame v i (.error "Input backend is not configured") false
      exact ⟨_, hsettings, hdrawn, fun j hne => accessed_rows v hne _ _, rfl⟩
    | some gpio =>
      dsimp only
      generalize ExtIoView.input_value i gpio (v.rows i).input_ready (answers i) v.world = value
      obtain ⟨⟨result, input_ready⟩, world⟩ := value
      obtain ⟨hsettings, hdrawn⟩ := accessed_frame
        (ExtIoView.set_row { v with world } i { v.rows i with input_ready }) i result false
      refine ⟨_, hsettings, hdrawn, fun j hne => ?_, rfl⟩
      rw [accessed_rows _ hne]
      exact Function.update_of_ne hne _ _

theorem read_input_state_drawn (answers : Fin 5 → RowAnswers) (hi : v.drawn i = v.styled i) :
    (v.read_input_state true answers i).drawn i = (v.read_input_state true answers i).styled i ∧
      ∀ j ≠ i, v.drawn j = v.styled j → (v.read_input_state true answers i).drawn j =
        (v.read_input_state true answers i).styled j := by
  rcases read_input_state_frame v i answers with heq | ⟨u, hsettings, hdrawn, hrows, heq⟩
  · rw [heq]
    exact ⟨hi, fun _ _ hj => hj⟩
  · rw [heq]
    have hothers : ∀ j ≠ i, v.drawn j = v.styled j → u.drawn j = u.styled j := by
      intro j hne hj
      rw [hdrawn, hj]
      exact (ExtIoView.styled_congr (hrows j hne) hsettings).symm
    split_ifs with hchanged
    · refine ⟨Function.update_self .., fun j hne hj => ?_⟩
      exact (Function.update_of_ne hne _ _).trans (hothers j hne hj)
    · refine ⟨?_, hothers⟩
      rw [hdrawn, hi]
      exact (ExtIoView.styled_of_unchanged (Bool.eq_false_iff.2 hchanged) hsettings).symm

theorem read_input_states_settings (v : ExtIoView) (refresh_changed_rows : Bool)
    (answers : Fin 5 → RowAnswers) :
    (v.read_input_states_ refresh_changed_rows answers).settings = v.settings :=
  congrArg Prod.fst (read_input_states_unread v refresh_changed_rows answers)

theorem read_output_states_settings (v : ExtIoView) (answers : Fin 5 → RowAnswers) :
    (v.read_output_states_ answers).settings = v.settings :=
  congrArg Prod.fst (read_output_states_unread v answers)

theorem poll_drawn (h : ∀ i, v.drawn i = v.styled i) (answers : Fin 5 → RowAnswers) (i : Fin 5) :
    (v.read_input_states_ true answers).drawn i = (v.read_input_states_ true answers).styled i := by
  have hend : True ∧ ∀ i, (v.read_input_states_ true answers).drawn i =
      (v.read_input_states_ true answers).styled i := by
    apply sweep_all (fun _ => True) (fun i (u : ExtIoView) => u.drawn i = u.styled i)
      (fun i (u : ExtIoView) => u.drawn i = u.styled i) _ _ trivial h
    · exact fun u i _ hi => ⟨trivial, (read_input_state_drawn answers hi).1⟩
    · intro u i j hne _ hi
      have hothers := (read_input_state_drawn answers hi).2 j hne
      exact ⟨hothers, hothers⟩
  exact hend.2 i

/-! ## Steps -/

/-- What a step leaves in order. In the function `INPUT` it drives nothing. -/
structure Continues (w₀ : World) (v v' : ExtIoView) : Prop where
  steady : Steady w₀ v'
  seen : UpToDate v'
  quiet : v.io_function = .INPUT → DrivesNothing v.world.log v'.world.log

/-- The lines are left alone. -/
theorem Same.continues (h : Same v v') (hfunction : v'.io_function = v.io_function)
    (hsteady : Steady w₀ v) (hseen : UpToDate v') : Continues w₀ v v' where
  steady := h.steady hfunction hsteady
  seen := hseen
  quiet _ := by
    rw [h.world]
    exact .refl _

theorem selected_congr (h : v'.settings = v.settings) :
    v'.row_visible_ v'.selected_index = v.row_visible_ v.selected_index := by
  unfold ExtIoView.settings at h
  simp only [Prod.mk.injEq] at h
  unfold ExtIoView.row_visible_
  rw [h.1, h.2.1]

theorem apply_theme_continues (h : Steady w₀ v) : Continues w₀ v v.apply_theme_ := by
  obtain ⟨hsame, hfunction, hseen⟩ := apply_theme_spec v
  exact hsame.continues hfunction h hseen

theorem set_selected_index_continues (h : Steady w₀ v) (hseen : UpToDate v) (index : ℕ) :
    Continues w₀ v (v.set_selected_index_ index) := by
  obtain ⟨hsame, hfunction, hset⟩ := set_selected_index_spec v index
  apply hsame.continues hfunction h
  rcases hset with heq | hseen'
  · rw [heq]
    exact hseen
  · exact hseen'

/-- Nothing is toggled unless the function is `OUTPUT`. -/
theorem toggle_row_input (h : v.io_function = .INPUT) (i : Fin 5) (answers : ExtIoAnswers) :
    v.toggle_row_ i answers = v := by
  unfold ExtIoView.toggle_row_
  rw [if_pos (by simp [h])]

/-- A row is toggled that may have to be drawn again. -/
theorem toggle_row_continues (h : Steady w₀ v) (houtput : v.io_function = .OUTPUT)
    (hselected : v.row_visible_ v.selected_index = true)
    (hdrawn : ∀ j ≠ i, v.drawn j = v.styled j) (answers : ExtIoAnswers) :
    Continues w₀ v (v.toggle_row_ i answers) := by
  have hsettings := toggle_row_settings v i answers
  have hfunction : (v.toggle_row_ i answers).io_function = .OUTPUT :=
    (congrArg Prod.fst hsettings).trans houtput
  obtain ⟨htouches, hrow, hshown⟩ := toggle_row_spec h.tidy (h.output houtput i) answers
  have hvisible : ∀ j : Fin 5, v.row_visible_ j = true := fun j =>
    (v.row_visible_iff j).2 (.inl houtput)
  constructor
  · constructor
    · exact htouches.tidy h.tidy
    · intro _ j
      by_cases hne : j = i
      · rw [hne]
        exact hrow
      · exact htouches.outputRow hne (h.output houtput j)
    · intro hinput
      rw [hfunction] at hinput
      cases hinput
    · intro j _
      by_cases hne : j = i
      · rw [hne]
        exact hshown (h.shown i (hvisible i))
      · exact htouches.shown h.tidy hne (h.shown j (hvisible j))
    · exact toggle_row_paced h.paced i answers
  · refine ⟨?_, toggle_row_drawn houtput hdrawn answers⟩
    rw [selected_congr hsettings]
    exact hselected
  · intro hinput
    rw [houtput] at hinput
    cases hinput

theorem update_poll_timer_spec (v : ExtIoView) :
    ∃ timer, v.update_poll_timer_ = { v with input_poll_timer := timer } := by
  unfold ExtIoView.update_poll_timer_
  split_ifs <;> exact ⟨_, rfl⟩

/-- The timer is nothing to what is drawn. -/
theorem UpToDate.with_timer (h : UpToDate v) (timer : Option Bool) :
    UpToDate { v with input_poll_timer := timer } := ⟨h.selected, h.drawn⟩

theorem shown_anew_spec (h : Steady w₀ v) :
    Steady w₀ v.shown_anew ∧ UpToDate v.shown_anew ∧ v.shown_anew.world = v.world := by
  unfold ExtIoView.shown_anew
  obtain ⟨index, hensure, -⟩ := ensure_selected_visible_spec v
  rw [hensure]
  obtain ⟨hsame, hfunction, hseen⟩ := apply_theme_spec { v with selected_index := index }
  obtain ⟨timer, htimer⟩ :=
    update_poll_timer_spec (ExtIoView.apply_theme_ { v with selected_index := index })
  rw [htimer]
  have hall : Same v { ExtIoView.apply_theme_ { v with selected_index := index } with
      input_poll_timer := timer } := ⟨hsame.world, hsame.rows, hsame.accesses,
    fun h => (hsame.paced (h.congr rfl)).congr rfl⟩
  exact ⟨hall.steady hfunction h, hseen.with_timer timer, hall.world⟩

/-- The lines are read as inputs. -/
theorem read_inputs {log : Log} (h : Calm w₀ log v) (hrows : ∀ i, InputRow i v)
    (hpaced : Paced v) (hinput : v.io_function = .INPUT) (refresh_changed_rows : Bool)
    (answers : Fin 5 → RowAnswers) :
    Steady w₀ (v.read_input_states_ refresh_changed_rows answers) ∧
      DrivesNothing log (v.read_input_states_ refresh_changed_rows answers).world.log := by
  have hsettings := read_input_states_settings v refresh_changed_rows answers
  have hfunction : (v.read_input_states_ refresh_changed_rows answers).io_function = .INPUT :=
    (congrArg Prod.fst hsettings).trans hinput
  obtain ⟨hcalm, hafter⟩ := read_input_states_spec h hrows refresh_changed_rows answers
  refine ⟨⟨hcalm.1, fun houtput => ?_, fun _ i => (hafter i).1, fun i hvisible => ?_,
    hpaced.congr
      (congrArg Prod.snd (read_input_states_unread v refresh_changed_rows answers))⟩, hcalm.2⟩
  · rw [hfunction] at houtput
    cases houtput
  · apply (hafter i).2
    have hor := (ExtIoView.row_visible_iff _ i).1 hvisible
    rw [hfunction] at hor
    exact hor.resolve_left (by decide)

/-- The lines are read as outputs when nothing is left of them as inputs. -/
theorem read_outputs {log : Log} (h : Calm w₀ log v) (hbare : ∀ i, Bare i v)
    (hpaced : Paced v) (houtput : v.io_function = .OUTPUT) (answers : Fin 5 → RowAnswers) :
    Steady w₀ (v.read_output_states_ answers) ∧
      DrivesNothing log (v.read_output_states_ answers).world.log := by
  have hfunction : (v.read_output_states_ answers).io_function = .OUTPUT :=
    (congrArg Prod.fst (read_output_states_settings v answers)).trans houtput
  obtain ⟨hcalm, hrows⟩ := read_output_states_spec h hbare answers
  refine ⟨⟨hcalm.1, fun _ i => (hrows i).1.outputRow, fun hinput => ?_, fun i _ => (hrows i).2,
    hpaced.congr (congrArg Prod.snd (read_output_states_unread v answers))⟩, hcalm.2⟩
  rw [hfunction] at hinput
  cases hinput

/-- The dialog is nothing to the rows. -/
theorem with_dialog_continues (h : Steady w₀ v) (hseen : UpToDate v)
    (dialog : Option FunctionDialog) : Continues w₀ v { v with dialog } := by
  have hsame : Same v { v with dialog } := ⟨rfl, rfl, rfl, fun h => h.congr rfl⟩
  exact hsame.continues rfl h ⟨hseen.selected, hseen.drawn⟩

theorem other_function {function next : IoFunction} (hne : next ≠ function) :
    (function = .INPUT ∧ next = .OUTPUT) ∨ (function = .OUTPUT ∧ next = .INPUT) := by
  cases function <;> cases next <;> simp_all

/-- From one function to the other: the lines of the one are given up before those of the other are
asked for. -/
theorem apply_config_dialog_continues (h : Steady w₀ v) (hseen : UpToDate v)
    (answers : ExtIoAnswers) : Continues w₀ v (v.apply_config_dialog_ answers) := by
  have hhidden : Continues w₀ v v.hide_config_dialog_ := with_dialog_continues h hseen none
  have hfunction : v.hide_config_dialog_.io_function = v.io_function := rfl
  have hworld : v.hide_config_dialog_.world = v.world := rfl
  unfold ExtIoView.apply_config_dialog_
  dsimp only
  by_cases hnext : v.selected_function_ = v.hide_config_dialog_.io_function
  · rw [if_pos hnext]
    exact hhidden
  · rw [if_neg hnext]
    generalize v.hide_config_dialog_ = u at hhidden hfunction hworld hnext ⊢
    rcases other_function hnext with ⟨hbefore, hnext'⟩ | ⟨hbefore, hnext'⟩
    · rw [if_pos hbefore, hnext']
      obtain ⟨hcalm, hbare⟩ := release_input_lines_spec hhidden.steady.tidy
        (hhidden.steady.input hbefore)
      let left : ExtIoView := { u.release_input_lines_ with io_function := .OUTPUT }
      have hbare' : ∀ i, Bare i left := fun i => ⟨(hbare i).lines, (hbare i).input_ready⟩
      have hcalm' : Calm w₀ u.world.log left := hcalm
      have hpaced : Paced left := hhidden.steady.paced.congr (release_input_lines_pacing u)
      obtain ⟨hsteady, hquiet⟩ := read_outputs hcalm' hbare' hpaced rfl answers.rows
      obtain ⟨hend, hshown, hsame⟩ := shown_anew_spec hsteady
      change Continues w₀ v (left.read_output_states_ answers.rows).shown_anew
      refine ⟨hend, hshown, fun _ => ?_⟩
      rw [hsame, ← hworld]
      exact hquiet
    · have hnot : u.io_function ≠ .INPUT := by
        rw [hbefore]
        decide
      rw [if_neg hnot, hnext']
      obtain ⟨hcalm, hbare⟩ := release_output_lines_spec hhidden.steady.tidy
        (hhidden.steady.output hbefore)
      let left : ExtIoView := { u.release_output_lines_ with io_function := .INPUT }
      have hbare' : ∀ i, Bare i left := fun i => ⟨(hbare i).lines, (hbare i).input_ready⟩
      have hcalm' : Calm w₀ u.world.log left := hcalm
      have hpaced : Paced left := (release_output_lines_paced hhidden.steady.paced).congr rfl
      obtain ⟨hsteady, -⟩ :=
        read_inputs hcalm' (fun i => (hbare' i).inputRow) hpaced rfl false answers.rows
      obtain ⟨hend, hshown, -⟩ := shown_anew_spec hsteady
      refine ⟨hend, hshown, fun hback => ?_⟩
      rw [← hfunction, hbefore] at hback
      cases hback

/-- What is left alone before a step may be left out. -/
theorem Continues.of_same {u : ExtIoView} (h : Same v u) (hfunction : u.io_function = v.io_function)
    (hcontinues : Continues w₀ u v') : Continues w₀ v v' where
  steady := hcontinues.steady
  seen := hcontinues.seen
  quiet hinput := by
    rw [← h.world]
    exact hcontinues.quiet (hfunction.trans hinput)

theorem press_continues (h : Steady w₀ v) (hseen : UpToDate v) (button : DialogButton)
    (answers : ExtIoAnswers) : Continues w₀ v (v.press button answers) := by
  have hself : Continues w₀ v v := with_dialog_continues h hseen v.dialog
  unfold ExtIoView.press
  cases v.dialog with
  | none => exact hself
  | some dialog =>
    dsimp only
    split_ifs
    · exact hself
    · cases button with
      | OK => exact apply_config_dialog_continues h hseen answers
      | CANCEL => exact with_dialog_continues h hseen none

theorem handle_dialog_key_continues (h : Steady w₀ v) (hseen : UpToDate v)
    (dialog : FunctionDialog) (k : Key) (answers : ExtIoAnswers) :
    Continues w₀ v (v.handle_dialog_key_ dialog k answers) := by
  unfold ExtIoView.handle_dialog_key_
  split_ifs
  · exact with_dialog_continues h hseen _
  · exact with_dialog_continues h hseen _
  · exact apply_config_dialog_continues h hseen answers
  · exact with_dialog_continues h hseen none
  · cases dialog.dialog.handle_key k with
    | none => exact with_dialog_continues h hseen v.dialog
    | some button => exact press_continues h hseen button answers

theorem select_continues (h : Steady w₀ v) (hseen : UpToDate v) :
    Continues w₀ v v.select_previous_ ∧ Continues w₀ v v.select_next_ := by
  have hself : Continues w₀ v v := with_dialog_continues h hseen v.dialog
  constructor
  · unfold ExtIoView.select_previous_
    split
    · exact set_selected_index_continues h hseen _
    · exact hself
  · unfold ExtIoView.select_next_
    split
    · exact set_selected_index_continues h hseen _
    · exact hself

theorem toggle_selected_continues (h : Steady w₀ v) (hseen : UpToDate v)
    (answers : ExtIoAnswers) : Continues w₀ v (v.toggle_selected_ answers) := by
  have hself : Continues w₀ v v := with_dialog_continues h hseen v.dialog
  unfold ExtIoView.toggle_selected_
  split_ifs with hindex
  · cases hfunction : v.io_function with
    | INPUT =>
      rw [toggle_row_input hfunction]
      exact hself
    | OUTPUT =>
      exact toggle_row_continues h hfunction hseen.selected (fun j _ => hseen.drawn j) answers
  · exact hself

theorem show_config_dialog_continues (h : Steady w₀ v) (hseen : UpToDate v) :
    Continues w₀ v v.show_config_dialog := by
  unfold ExtIoView.show_config_dialog
  split_ifs
  · exact with_dialog_continues h hseen v.dialog
  · exact with_dialog_continues h hseen _

theorem handle_key_continues (h : Steady w₀ v) (hseen : UpToDate v) (k : Key)
    (answers : ExtIoAnswers) : Continues w₀ v (v.handle_key k answers).1 := by
  unfold ExtIoView.handle_key
  cases v.dialog with
  | some dialog => exact handle_dialog_key_continues h hseen dialog k answers
  | none =>
    dsimp only
    split_ifs
    · exact (select_continues h hseen).1
    · exact (select_continues h hseen).2
    · exact toggle_selected_continues h hseen answers
    · exact show_config_dialog_continues h hseen
    · exact with_dialog_continues h hseen v.dialog

/-- A row is clicked whose switch may be drawn wrong. -/
theorem clicked_continues (h : Steady w₀ v)
    (hselected : v.row_visible_ v.selected_index = true)
    (hothers : ∀ j ≠ i, v.drawn j = v.styled j)
    (hinput : v.io_function = .INPUT → v.drawn i = v.styled i) (answers : ExtIoAnswers) :
    Continues w₀ v (v.row_clicked_cb i false answers) := by
  obtain ⟨hsame, hfunction, hset⟩ := set_selected_index_spec v i
  unfold ExtIoView.row_clicked_cb
  dsimp only
  cases hbefore : v.io_function with
  | OUTPUT =>
    have houtput : (v.set_selected_index_ i).io_function = .OUTPUT := hfunction.trans hbefore
    rw [if_neg Bool.false_ne_true, if_pos houtput]
    apply Continues.of_same hsame hfunction
    apply toggle_row_continues (hsame.steady hfunction h) houtput
    · rcases hset with heq | hseen
      · rw [heq]
        exact hselected
      · exact hseen.selected
    · rcases hset with heq | hseen
      · rw [heq]
        exact hothers
      · exact fun j _ => hseen.drawn j
  | INPUT =>
    have hnot : (v.set_selected_index_ i).io_function ≠ .OUTPUT := by
      rw [hfunction, hbefore]
      decide
    rw [if_neg Bool.false_ne_true, if_neg hnot]
    apply set_selected_index_continues h ⟨hselected, fun j => ?_⟩
    by_cases hne : j = i
    · rw [hne]
      exact hinput hbefore
    · exact hothers j hne

/-- While the switches are hidden there is none to flip. -/
theorem flip_switch_input (hseen : UpToDate v) (hinput : v.io_function = .INPUT) (i : Fin 5) :
    (v.flip_switch i).drawn = v.drawn := by
  have hhidden : (v.drawn i).switch = none := by
    rw [hseen.drawn]
    simp [ExtIoView.styled, hinput]
  have hflip : ∀ drawn : Drawn, drawn.switch = none →
      { drawn with switch := drawn.switch.map (!·) } = drawn := by
    intro drawn hnone
    cases drawn
    dsimp only at hnone ⊢
    rw [hnone]
    rfl
  exact Function.update_eq_self_iff.2 (hflip _ hhidden)

/-- A switch that is clicked is flipped on the screen before its row is toggled. -/
theorem row_clicked_continues (h : Steady w₀ v) (hseen : UpToDate v) (i : Fin 5)
    (on_switch : Bool) (answers : ExtIoAnswers) :
    Continues w₀ v (v.row_clicked_cb i on_switch answers) := by
  cases on_switch with
  | false =>
    exact clicked_continues h hseen.selected (fun j _ => hseen.drawn j) (fun _ => hseen.drawn i)
      answers
  | true =>
    have hsame : Same v (v.flip_switch i) := ⟨rfl, rfl, rfl, fun h => h.congr rfl⟩
    have hclicked : Continues w₀ (v.flip_switch i)
        ((v.flip_switch i).row_clicked_cb i false answers) := by
      apply clicked_continues (hsame.steady rfl h) hseen.selected
      · intro j hne
        exact (Function.update_of_ne hne _ _).trans (hseen.drawn j)
      · intro hinput
        rw [flip_switch_input hseen hinput]
        exact hseen.drawn i
    exact hclicked.of_same hsame rfl

theorem poll_continues (h : Steady w₀ v) (hseen : UpToDate v) (answers : Fin 5 → RowAnswers) :
    Continues w₀ v (v.input_poll_timer_cb answers) := by
  unfold ExtIoView.input_poll_timer_cb
  split_ifs with hfunction
  · exact with_dialog_continues h hseen v.dialog
  · have hinput := not_not.1 hfunction
    obtain ⟨hsteady, hquiet⟩ :=
      read_inputs (calm_self h.tidy) (h.input hinput) h.paced hinput true answers
    refine ⟨hsteady, ⟨?_, poll_drawn hseen.drawn answers⟩, fun _ => hquiet⟩
    rw [selected_congr (read_input_states_settings v true answers)]
    exact hseen.selected

theorem handle_continues (h : Steady w₀ v) (hseen : UpToDate v) (event : ExtIoEvent) :
    Continues w₀ v (v.handle event) := by
  cases event with
  | key k answers => exact handle_key_continues h hseen k answers
  | row_clicked i on_switch answers => exact row_clicked_continues h hseen i on_switch answers
  | show_config_dialog => exact show_config_dialog_continues h hseen
  | dropdown_selected index => exact with_dialog_continues h hseen _
  | dialog_button button answers => exact press_continues h hseen button answers
  | poll answers =>
    unfold ExtIoView.handle
    dsimp only
    split_ifs
    · exact poll_continues h hseen answers
    · exact with_dialog_continues h hseen v.dialog
  | theme dark =>
    have hsame : Same v { v with dark } := ⟨rfl, rfl, rfl, fun h => h.congr rfl⟩
    exact (apply_theme_continues (hsame.steady rfl h)).of_same hsame rfl

theorem step_continues (h : Steady w₀ v) (hseen : UpToDate v) (passed : ℕ) (event : ExtIoEvent) :
    Continues w₀ v (v.step passed event) := by
  have hsame : Same v { v with now := v.now + passed } := ⟨rfl, rfl, rfl, fun h => h.passed passed⟩
  have hseen' : UpToDate { v with now := v.now + passed } := ⟨hseen.selected, hseen.drawn⟩
  exact (handle_continues (hsame.steady rfl h) hseen' event).of_same hsame rfl

/-! ## Runs -/

/-- The view begins with nothing and reads its outputs. -/
theorem build_spec (hagrees : w₀.Agrees) (hfree : ∀ holder, Mine holder → w₀.lines holder = none)
    (tr : Text → Text) (dark : Bool) (now : ℕ) (answers : Fin 5 → RowAnswers) :
    Steady w₀ (ExtIoView.build w₀ tr dark now answers) ∧
      UpToDate (ExtIoView.build w₀ tr dark now answers) := by
  unfold ExtIoView.build
  dsimp only
  let first : ExtIoView := { world := w₀, tr, dark, now }
  have hcalm : Calm w₀ w₀.log first := ⟨tidy_self hagrees hfree, .refl _⟩
  have hbare : ∀ i, Bare i first := fun i => ⟨fun holder h => hfree holder ⟨i, h⟩, rfl⟩
  have hpaced : Paced first := ⟨.nil, fun hhas => (nomatch hhas), fun _ _ _ _ => nofun⟩
  have hread := (read_outputs hcalm hbare hpaced rfl answers).1
  obtain ⟨hsame, hfunction, hseen⟩ := apply_theme_spec (first.read_output_states_ answers)
  obtain ⟨timer, htimer⟩ := update_poll_timer_spec (first.read_output_states_ answers).apply_theme_
  rw [htimer]
  have hall : Same (first.read_output_states_ answers)
      { (first.read_output_states_ answers).apply_theme_ with input_poll_timer := timer } :=
    ⟨hsame.world, hsame.rows, hsame.accesses, fun h => (hsame.paced h).congr rfl⟩
  exact ⟨hall.steady hfunction hread, hseen.with_timer timer⟩

/-- By induction over the events. -/
theorem run_steady (events : List (ℕ × ExtIoEvent)) (h : Steady w₀ v) (hseen : UpToDate v) :
    Steady w₀ (v.run events) ∧ UpToDate (v.run events) := by
  induction events generalizing v with
  | nil => exact ⟨h, hseen⟩
  | cons event events ih =>
    have hstep := step_continues h hseen event.1 event.2
    exact ih hstep.steady hstep.seen

/-- What the view holds are outputs or inputs, as its function is. -/
theorem Steady.direction (h : Steady w₀ v) {holder : Holder} (hmine : Mine holder)
    {made : Grant Holder LineRequest} (hmade : made ∈ held v.world.log holder) :
    made.tag.direction = v.io_function.direction := by
  obtain ⟨i, hholder⟩ := hmine
  have hsome : ∃ line, v.world.lines holder = some line := by
    cases hline : v.world.lines holder with
    | some line => exact ⟨line, rfl⟩
    | none =>
      rw [h.tidy.agrees.held_eq_nil hline] at hmade
      cases hmade
  obtain ⟨line, hline⟩ := hsome
  have hof : ∀ direction, line.Released holder v.world.log ∨
      line.Requested holder direction v.world.log → made.tag.direction = direction := by
    rintro direction (hreleased | ⟨-, request, value, -, hheld⟩)
    · rw [hreleased.held] at hmade
      cases hmade
    · rw [hheld] at hmade
      rw [List.mem_singleton.1 hmade]
  cases hfunction : v.io_function with
  | OUTPUT =>
    have hrow := h.output hfunction i
    cases hholder with
    | object =>
      rw [hrow.object] at hline
      cases hline
    | registered config hconfig => exact hof .OUTPUT (hrow.registered config line hconfig hline)
  | INPUT =>
    have hrow := h.input hfunction i
    cases hholder with
    | object =>
      cases hready : (v.rows i).input_ready with
      | false => exact hof .INPUT (.inl (hrow.released line hready hline))
      | true =>
        obtain ⟨line', hline', hrequested⟩ := hrow.requested hready
        rw [hline] at hline'
        cases hline'
        exact hof .INPUT (.inr hrequested)
    | registered config hconfig =>
      rw [hrow.registered config hconfig] at hline
      cases hline

end

/-- What the page may rely on of its lines, and others of theirs, from the world that it was made
in. -/
structure LinesInOrder (w₀ : World) (v : ExtIoView) : Prop where
  agrees : v.world.Agrees
  exclusive : ∀ moment, w₀.log <:+ moment → moment <:+ v.world.log →
    ExclusiveAmong Mine LineRequest.place moment
  direction : ∀ holder, Mine holder → ∀ made ∈ held v.world.log holder,
    made.tag.direction = v.io_function.direction
  others : ∀ holder, ¬ Mine holder → v.world.lines holder = w₀.lines holder ∧
    held v.world.log holder = held w₀.log holder
  quiet : v.io_function = .INPUT → ∀ passed event,
    DrivesNothing v.world.log (v.step passed event).world.log
  destroyed : DrivesNothing v.world.log v.destroy.world.log ∧ ∀ holder, Mine holder →
    v.destroy.world.lines holder = none ∧ held v.destroy.world.log holder = []
  paced : v.actions.IsChain Apart

theorem Steady.linesInOrder {w₀ : World} {v : ExtIoView} (h : Steady w₀ v) (hseen : UpToDate v) :
    LinesInOrder w₀ v := by
  obtain ⟨⟨htidy, hquiet⟩, hnone⟩ := destroy_spec h.tidy
  refine ⟨h.tidy.agrees, h.tidy.exclusive, fun holder hmine made => h.direction hmine,
    h.tidy.others, fun hinput passed event => (step_continues h hseen passed event).quiet hinput,
    ⟨hquiet, fun holder hmine => ?_⟩, h.paced.apart⟩
  exact ⟨hnone holder hmine, htidy.agrees.held_eq_nil (hnone holder hmine)⟩

/-- After every run the lines are in order, and others find theirs as they were. -/
theorem ext_io_lines (w₀ : World) (hagrees : w₀.Agrees)
    (hfree : ∀ holder, Mine holder → w₀.lines holder = none) (tr : Text → Text) (dark : Bool)
    (now : ℕ) (answers : Fin 5 → RowAnswers) (events : List (ℕ × ExtIoEvent)) :
    LinesInOrder w₀ ((ExtIoView.build w₀ tr dark now answers).run events) := by
  obtain ⟨hsteady, hseen⟩ := build_spec hagrees hfree tr dark now answers
  obtain ⟨hend, hseen'⟩ := run_steady events hsteady hseen
  exact hend.linesInOrder hseen'

/-- What the kernel answers when all goes well. -/
def granting : RequestAnswers := ⟨true, true, true, true, 0, 0, 0, 0, true, ""⟩

def lowRow : RowAnswers := ⟨.number 0, granting, ⟨granting, ⟨.INACTIVE, ""⟩⟩⟩

def highRow : RowAnswers := ⟨.number 1, granting, ⟨granting, ⟨.ACTIVE, ""⟩⟩⟩

/-- An output takes the value, and the lines are low otherwise. -/
def sampleAnswers : ExtIoAnswers where
  write := { readings := fun _ => .number 1 }
  set := ⟨granting, 0, ⟨.ACTIVE, ""⟩, granting, 0, ⟨.ACTIVE, ""⟩, ""⟩
  overslept := 0
  rows := fun _ => lowRow

/-- Two outputs are switched on, the function is changed, and the inputs are polled. -/
def sampleEvents : List (ℕ × ExtIoEvent) :=
  [(500, .row_clicked 3 true sampleAnswers), (50, .row_clicked 4 true sampleAnswers),
    (500, .show_config_dialog), (500, .dropdown_selected 1),
    (500, .dialog_button .OK sampleAnswers), (500, .poll fun _ => highRow), (500, .theme true)]

def sampleRun : ExtIoView := (ExtIoView.build {} id false 0 fun _ => lowRow).run sampleEvents

/-- The second output is set 120 milliseconds after the first one. -/
theorem ext_io_lines_fresh : LinesInOrder {} sampleRun ∧ sampleRun.io_function = .INPUT ∧
    sampleRun.actions = [.release_output_lines, .set_output_value 4 620, .set_output_value 3 500] :=
  ⟨ext_io_lines {} World.agrees_empty (fun _ _ => rfl) id false 0 (fun _ => lowRow) sampleEvents,
    by decide +kernel, by decide +kernel⟩

/-- After every run it is seen where the selection is and what was last accessed. -/
theorem ext_io_shown (w₀ : World) (hagrees : w₀.Agrees)
    (hfree : ∀ holder, Mine holder → w₀.lines holder = none) (tr : Text → Text) (dark : Bool)
    (now : ℕ) (answers : Fin 5 → RowAnswers) (events : List (ℕ × ExtIoEvent)) :
    let v := (ExtIoView.build w₀ tr dark now answers).run events
    v.row_visible_ v.selected_index = true ∧
      ∀ i : Fin 5, v.drawn i = v.styled i ∧ (v.row_visible_ i = true → Shown i v) := by
  intro v
  obtain ⟨hsteady, hseen⟩ := build_spec hagrees hfree tr dark now answers
  obtain ⟨hend, hseen'⟩ := run_steady events hsteady hseen
  exact ⟨hseen'.selected, fun i => ⟨hseen'.drawn i, hend.shown i⟩⟩

/-- The inputs are shown as they were polled. -/
theorem ext_io_shown_fresh :
    let v := sampleRun
    (v.row_visible_ v.selected_index = true ∧
      ∀ i : Fin 5, v.drawn i = v.styled i ∧ (v.row_visible_ i = true → Shown i v)) ∧
    ∀ i : Fin 5, (v.rows i).active = v.row_visible_ i :=
  ⟨ext_io_shown {} World.agrees_empty (fun _ _ => rfl) id false 0 (fun _ => lowRow) sampleEvents,
    by decide +kernel⟩

end FactoryTest.View
