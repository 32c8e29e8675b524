import FactoryTest.Gpio.Growth
import FactoryTest.Lib.Sweep
import FactoryTest.View.ExtIoPage

/-!
# The lines of the EXT.IO page

**One row acts** (`Tidy.acts`). What the view does to the lines is done row by row, as the service
while they are outputs and as the object of the row while they are inputs. The other of the two has
no line then, so that a line of the chip is never requested twice, and what the view does is nothing
to the lines of others.

**What a row shows** (`Shown`). The outcome of the last access to what is behind it: an error, or
the level, which is the one that was last read of the line.

**Pacing** (`Paced`). The view knows when it last set an output, and waits until it may set the
next.

**All rows** (`Calm`). Reading and releasing the rows one after the other drives nothing.
-/

namespace FactoryTest.View

open Gpio Process

/-! ## Holders -/

/-- Who may hold the line of a row. -/
inductive RowHolder (i : Fin 5) : Holder → Prop
  | object : RowHolder i (.object i)
  | registered (config : OutputLineConfig) : (row_config i).gpio = some config →
      RowHolder i (.registered (line_key config))

/-- The holder is one of the view. -/
def Mine (holder : Holder) : Prop := ∃ i, RowHolder i holder

theorem row_of_key : ∀ i j : Fin 5, (row_config i).gpio.isSome = true →
    (row_config i).gpio.map line_key = (row_config j).gpio.map line_key → i = j := by
  decide

theorem row_of_place : ∀ i j : Fin 5, (row_config i).gpio.isSome = true →
    ((row_config i).gpio.map fun config => (config.chip_path, config.line_offset)) =
      ((row_config j).gpio.map fun config => (config.chip_path, config.line_offset)) → i = j := by
  decide

theorem RowHolder.unique {i j : Fin 5} {holder : Holder} (hi : RowHolder i holder)
    (hj : RowHolder j holder) : i = j := by
  cases hi with
  | object =>
    generalize hid : Holder.object i = holder at hj
    cases hj with
    | object => exact Fin.ext (Holder.object.inj hid)
    | registered config hconfig => cases hid
  | registered config hconfig =>
    generalize hkey : Holder.registered (line_key config) = holder at hj
    cases hj with
    | object => cases hkey
    | registered config' hconfig' =>
      apply row_of_key i j
      · simp [hconfig]
      · simp [hconfig, hconfig', Holder.registered.inj hkey]

/-! ## Lines -/

/-- What is kept of the lines, from the world that the view was made in. -/
structure Tidy (w₀ w : World) : Prop where
  agrees : w.Agrees
  suffix : w₀.log <:+ w.log
  config : ∀ i holder line, RowHolder i holder → w.lines holder = some line →
    (row_config i).gpio = some line.config
  single : ∀ i holder other, RowHolder i holder → RowHolder i other → holder ≠ other →
    w.lines holder = none ∨ w.lines other = none
  exclusive : ∀ moment, w₀.log <:+ moment → moment <:+ w.log →
    ExclusiveAmong Mine LineRequest.place moment
  others : ∀ holder, ¬ Mine holder →
    w.lines holder = w₀.lines holder ∧ held w.log holder = held w₀.log holder

section

variable {w₀ w w' : World} {i j : Fin 5} {holder : Holder} {config : OutputLineConfig}
  {drives : Bool}

/-- The view begins without a line. -/
theorem tidy_self (h : w₀.Agrees) (hfree : ∀ holder, Mine holder → w₀.lines holder = none) :
    Tidy w₀ w₀ where
  agrees := h
  suffix := List.suffix_rfl
  config i holder line hholder hline := by
    rw [hfree holder ⟨i, hholder⟩] at hline
    cases hline
  single i holder other hholder _ _ := .inl (hfree holder ⟨i, hholder⟩)
  exclusive moment hlog hmoment := by
    obtain rfl := hmoment.eq_of_length_le hlog.length_le
    apply List.pairwise_of_forall_mem_list
    intro made hmade other _ hmine _
    have hheld := mem_held.2 ⟨hmade, rfl⟩
    rw [h.held_eq_nil (hfree made.holder hmine)] at hheld
    cases hheld
  others _ _ := ⟨rfl, rfl⟩

/-- What the view has requested is the line of a row. -/
theorem Tidy.tags (h : Tidy w₀ w) (hholder : RowHolder i holder)
    {made : Grant Holder LineRequest} (hmade : made ∈ held w.log holder) :
    (row_config i).gpio = some made.tag.config := by
  cases hline : w.lines holder with
  | none =>
    rw [h.agrees.held_eq_nil hline] at hmade
    cases hmade
  | some line =>
    rw [h.config i holder line hholder hline]
    rcases h.agrees.holds hline with hreleased | ⟨direction, -, request, value, -, hone⟩
    · rw [hreleased.held] at hmade
      cases hmade
    · rw [hone, List.mem_singleton] at hmade
      rw [hmade]

/-- One of the holders of a row acts, while the other has no line. -/
theorem Tidy.acts (h : Tidy w₀ w) (hholder : RowHolder i holder)
    (hconfig : (row_config i).gpio = some config)
    (hother : ∀ other, RowHolder i other → other ≠ holder → w.lines other = none)
    (hacts : World.Acts holder config drives w w') : Tidy w₀ w' := by
  have hexclusive : ∀ moment, w.log <:+ moment → moment <:+ w'.log →
      ExclusiveAmong Mine LineRequest.place moment := by
    apply (h.exclusive w.log h.suffix List.suffix_rfl).grows hacts.grows hacts.goes.sound
    intro tag htag other hmem hmine hne hplace
    obtain ⟨j, hj⟩ := hmine
    have hheld := mem_held.2 ⟨hmem, rfl⟩
    by_cases hrow : j = i
    · rw [h.agrees.held_eq_nil (hother other.holder (hrow ▸ hj) hne)] at hheld
      cases hheld
    · have htags := h.tags hj hheld
      apply hrow
      apply row_of_place j i
      · simp [htags]
      · rw [htags, hconfig, ← htag.1]
        exact congrArg some hplace.symm
  constructor
  · exact hacts.agrees
  · exact h.suffix.trans hacts.grows.suffix
  · intro j other line hj hline
    by_cases heq : other = holder
    · subst heq
      rw [hacts.same line hline, hj.unique hholder]
      exact hconfig
    · rw [hacts.others other heq] at hline
      exact h.config j other line hj hline
  · intro j one other hone hother' hne
    by_cases heq : one = holder
    · subst heq
      have hrow := hone.unique hholder
      subst hrow
      rw [hacts.others other (Ne.symm hne)]
      exact .inr (hother other hother' (Ne.symm hne))
    · by_cases heq' : other = holder
      · subst heq'
        have hrow := hother'.unique hholder
        subst hrow
        rw [hacts.others one heq]
        exact .inl (hother one hone heq)
      · rw [hacts.others one heq, hacts.others other heq']
        exact h.single j one other hone hother' hne
  · intro moment hlog hmoment
    rcases List.suffix_or_suffix_of_suffix hmoment hacts.grows.suffix with hbefore | hafter
    · exact h.exclusive moment hlog hbefore
    · exact hexclusive moment hafter hmoment
  · intro other hnot
    have hne : other ≠ holder := fun heq => hnot ⟨i, heq ▸ hholder⟩
    obtain ⟨hlines, hheld⟩ := h.others other hnot
    exact ⟨(hacts.others other hne).trans hlines, (hacts.goes.others other hne).trans hheld⟩

/-- What is read of the other lines is not changed. -/
theorem Tidy.last_read_acts (h : Tidy w₀ w) (hholder : RowHolder i holder)
    (hconfig : (row_config i).gpio = some config) (hacts : World.Acts holder config drives w w')
    (hne : j ≠ i) {config' : OutputLineConfig} (hconfig' : (row_config j).gpio = some config') :
    last_read config' w'.log = last_read config' w.log := by
  have hgrows : Grows holder (fun made => made.config = config)
      (fun access => drives = true ∨ access.Reads) w.log w'.log :=
    hacts.grows.mono (fun _ h => h.1) fun _ h => h
  apply last_read_grows hgrows hacts.goes.sound
  · intro made hmade
    have htags := h.tags hholder hmade
    rw [hconfig] at htags
    exact (Option.some.inj htags).symm
  · intro heq
    apply hne
    apply row_of_place j i
    · simp [hconfig']
    · rw [hconfig', hconfig, heq]

end

/-! ## Rows -/

/-- A row has no line. -/
structure Bare (i : Fin 5) (v : ExtIoView) : Prop where
  lines : ∀ holder, RowHolder i holder → v.world.lines holder = none
  input_ready : (v.rows i).input_ready = false

/-- The line of a row while it is an output: the service keeps it, if anyone. -/
structure OutputRow (i : Fin 5) (v : ExtIoView) : Prop where
  object : v.world.lines (.object i) = none
  registered : ∀ config line, (row_config i).gpio = some config →
    v.world.lines (.registered (line_key config)) = some line →
      line.Released (.registered (line_key config)) v.world.log ∨
        line.Requested (.registered (line_key config)) .OUTPUT v.world.log
  input_ready : (v.rows i).input_ready = false

/-- The line of a row while it is an input: the object of the row has it, if anyone. -/
structure InputRow (i : Fin 5) (v : ExtIoView) : Prop where
  registered : ∀ config, (row_config i).gpio = some config →
    v.world.lines (.registered (line_key config)) = none
  released : ∀ line, (v.rows i).input_ready = false → v.world.lines (.object i) = some line →
    line.Released (.object i) v.world.log
  requested : (v.rows i).input_ready = true → ∃ line, v.world.lines (.object i) = some line ∧
    line.Requested (.object i) .INPUT v.world.log

/-- The row shows the outcome of the last access to what is behind it. -/
def Shown (i : Fin 5) (v : ExtIoView) : Prop :=
  ∃ result, v.accesses.lookup i = some result ∧
    match result with
    | .ok active => (v.rows i).active = active ∧ (v.rows i).error = false ∧
        (v.rows i).error_message = [] ∧ ∀ config, (row_config i).gpio = some config →
          last_read config v.world.log = some (OutputLine.level active)
    | .error error => (v.rows i).error = true ∧ (v.rows i).error_message = compact_error error

theorem Bare.outputRow {i : Fin 5} {v : ExtIoView} (h : Bare i v) : OutputRow i v where
  object := h.lines _ .object
  registered config line hconfig hline := by
    rw [h.lines _ (.registered config hconfig)] at hline
    cases hline
  input_ready := h.input_ready

theorem Bare.inputRow {i : Fin 5} {v : ExtIoView} (h : Bare i v) : InputRow i v where
  registered config hconfig := h.lines _ (.registered config hconfig)
  released line _ hline := by
    rw [h.lines _ .object] at hline
    cases hline
  requested hready := absurd (h.input_ready.symm.trans hready) (by decide)

/-- What something done to a row does, with the line driven or not. -/
structure Touches (drives : Bool) (i : Fin 5) (v v' : ExtIoView) : Prop where
  world : v'.world = v.world ∨ ∃ holder config, RowHolder i holder ∧
    (row_config i).gpio = some config ∧ World.Acts holder config drives v.world v'.world ∧
      ∀ other, RowHolder i other → other ≠ holder → v.world.lines other = none
  rows : ∀ j ≠ i, v'.rows j = v.rows j
  accesses : ∀ j ≠ i, v'.accesses.lookup j = v.accesses.lookup j

section

variable {w₀ : World} {v v' : ExtIoView} {i j : Fin 5} {drives : Bool}

theorem Touches.tidy (h : Touches drives i v v') (htidy : Tidy w₀ v.world) : Tidy w₀ v'.world := by
  rcases h.world with hworld | ⟨holder, config, hholder, hconfig, hacts, hother⟩
  · rw [hworld]
    exact htidy
  · exact htidy.acts hholder hconfig hother hacts

theorem Touches.lines (h : Touches drives i v v') (hne : j ≠ i) {holder : Holder}
    (hholder : RowHolder j holder) : v'.world.lines holder = v.world.lines holder ∧
      held v'.world.log holder = held v.world.log holder := by
  rcases h.world with hworld | ⟨other, config, hother, -, hacts, -⟩
  · rw [hworld]
    exact ⟨rfl, rfl⟩
  · have hdiffer : holder ≠ other := by
      intro heq
      subst heq
      exact hne (hholder.unique hother)
    exact ⟨hacts.others holder hdiffer, hacts.goes.others holder hdiffer⟩

theorem Touches.last_read (h : Touches drives i v v') (htidy : Tidy w₀ v.world) (hne : j ≠ i)
    {config : OutputLineConfig} (hconfig : (row_config j).gpio = some config) :
    Gpio.last_read config v'.world.log = Gpio.last_read config v.world.log := by
  rcases h.world with hworld | ⟨holder, own, hholder, hown, hacts, -⟩
  · rw [hworld]
  · exact htidy.last_read_acts hholder hown hacts hne hconfig

theorem released_congr {holder : Holder} {line : OutputLine} {log log' : Log}
    (h : line.Released holder log) (hheld : held log' holder = held log holder) :
    line.Released holder log' := ⟨h.request, h.output_mode, hheld.trans h.held⟩

theorem requested_congr {holder : Holder} {direction : Direction} {line : OutputLine}
    {log log' : Log} (h : line.Requested holder direction log)
    (hheld : held log' holder = held log holder) : line.Requested holder direction log' := by
  obtain ⟨hmode, request, value, hrequest, hone⟩ := h
  exact ⟨hmode, request, value, hrequest, hheld.trans hone⟩

theorem Touches.bare (h : Touches drives i v v') (hne : j ≠ i) (hbare : Bare j v) : Bare j v' := by
  constructor
  · intro holder hholder
    rw [(h.lines hne hholder).1]
    exact hbare.lines holder hholder
  · rw [h.rows j hne]
    exact hbare.input_ready

theorem Touches.outputRow (h : Touches drives i v v') (hne : j ≠ i) (hrow : OutputRow j v) :
    OutputRow j v' := by
  constructor
  · rw [(h.lines hne .object).1]
    exact hrow.object
  · intro config line hconfig hline
    obtain ⟨hlines, hheld⟩ := h.lines hne (.registered config hconfig)
    rw [hlines] at hline
    rcases hrow.registered config line hconfig hline with hreleased | hrequested
    · exact .inl (released_congr hreleased hheld)
    · exact .inr (requested_congr hrequested hheld)
  · rw [h.rows j hne]
    exact hrow.input_ready

theorem Touches.inputRow (h : Touches drives i v v') (hne : j ≠ i) (hrow : InputRow j v) :
    InputRow j v' := by
  obtain ⟨hlines, hheld⟩ := h.lines hne .object
  constructor
  · intro config hconfig
    rw [(h.lines hne (.registered config hconfig)).1]
    exact hrow.registered config hconfig
  · intro line hready hline
    rw [h.rows j hne] at hready
    rw [hlines] at hline
    exact released_congr (hrow.released line hready hline) hheld
  · intro hready
    rw [h.rows j hne] at hready
    obtain ⟨line, hline, hrequested⟩ := hrow.requested hready
    exact ⟨line, hlines.trans hline, requested_congr hrequested hheld⟩

theorem Touches.shown (h : Touches drives i v v') (htidy : Tidy w₀ v.world) (hne : j ≠ i)
    (hshown : Shown j v) : Shown j v' := by
  obtain ⟨result, hresult, hrow⟩ := hshown
  refine ⟨result, (h.accesses j hne).trans hresult, ?_⟩
  rw [h.rows j hne]
  cases result with
  | error error => exact hrow
  | ok active =>
    obtain ⟨hactive, herror, hmessage, hread⟩ := hrow
    refine ⟨hactive, herror, hmessage, fun config hconfig => ?_⟩
    rw [h.last_read htidy hne hconfig]
    exact hread config hconfig

/-- After an access a row shows its outcome. -/
theorem shown_accessed {result : Except String Bool} {failed : Bool}
    (h : ∀ active, result = .ok active → ∀ config, (row_config i).gpio = some config →
      last_read config v.world.log = some (OutputLine.level active)) :
    Shown i (v.accessed i result failed) := by
  refine ⟨result, ?_, ?_⟩
  · cases result <;> simp [ExtIoView.accessed, ExtIoView.set_row]
  · cases result with
    | ok active =>
      refine ⟨?_, ?_, ?_, fun config hconfig => h active rfl config hconfig⟩ <;>
        simp [ExtIoView.accessed, ExtIoView.set_row]
    | error error => constructor <;> simp [ExtIoView.accessed, ExtIoView.set_row]

@[simp] theorem accessed_world (v : ExtIoView) (i : Fin 5) (result : Except String Bool)
    (failed : Bool) : (v.accessed i result failed).world = v.world := by
  cases result <;> rfl

@[simp] theorem accessed_input_ready (v : ExtIoView) (i j : Fin 5) (result : Except String Bool)
    (failed : Bool) :
    ((v.accessed i result failed).rows j).input_ready = (v.rows j).input_ready := by
  by_cases hne : j = i
  · subst hne
    cases result <;> simp [ExtIoView.accessed, ExtIoView.set_row]
  · cases result <;> simp [ExtIoView.accessed, ExtIoView.set_row, hne]

theorem accessed_rows (v : ExtIoView) (hne : j ≠ i) (result : Except String Bool) (failed : Bool) :
    (v.accessed i result failed).rows j = v.rows j := by
  cases result <;> simp [ExtIoView.accessed, ExtIoView.set_row, hne]

theorem accessed_lookup (v : ExtIoView) (hne : j ≠ i) (result : Except String Bool)
    (failed : Bool) : (v.accessed i result failed).accesses.lookup j = v.accesses.lookup j := by
  have hbeq : (j == i) = false := by simp [hne]
  cases result <;> simp [ExtIoView.accessed, ExtIoView.set_row, List.lookup_cons, hbeq]

/-! ## What is done to a row -/

theorem destroy_none {w : World} {holder : Holder} (h : w.lines holder = none) :
    w.destroy holder = w := by
  unfold World.destroy
  rw [h]

/-- A holder of a row gives its line up. -/
theorem touches_destroy (h : Tidy w₀ v.world) {holder : Holder} (hholder : RowHolder i holder)
    {config : OutputLineConfig} (hconfig : (row_config i).gpio = some config)
    (hworld : v'.world = v.world.destroy holder) (hrows : ∀ j ≠ i, v'.rows j = v.rows j)
    (haccesses : v'.accesses = v.accesses) :
    Touches false i v v' ∧ v'.world.lines holder = none ∧
      ∀ other ≠ holder, v'.world.lines other = v.world.lines other := by
  obtain ⟨hacts, hgone⟩ := destroy_acts h.agrees holder config
  rw [← hworld] at hacts hgone
  refine ⟨⟨?_, hrows, fun j _ => by rw [haccesses]⟩, hgone, hacts.others⟩
  cases hline : v.world.lines holder with
  | none => exact .inl (hworld.trans (destroy_none hline))
  | some line =>
    refine .inr ⟨holder, config, hholder, hconfig, hacts, fun other hother hne => ?_⟩
    have hsingle := h.single i holder other hholder hother (Ne.symm hne)
    rw [hline] at hsingle
    exact hsingle.resolve_left (by simp)

theorem release_output_line_spec (h : Tidy w₀ v.world) (i : Fin 5) :
    Touches false i v (v.release_output_line i) ∧
      (∀ config, (row_config i).gpio = some config →
        (v.release_output_line i).world.lines (.registered (line_key config)) = none) ∧
      (v.release_output_line i).world.lines (.object i) = v.world.lines (.object i) ∧
      ((v.release_output_line i).rows i).input_ready = (v.rows i).input_ready := by
  have hrows : ∀ j ≠ i, (v.release_output_line i).rows j = v.rows j := by
    intro j hne
    simp [ExtIoView.release_output_line, ExtIoView.set_row, hne]
  have hready : ((v.release_output_line i).rows i).input_ready = (v.rows i).input_ready := by
    simp [ExtIoView.release_output_line, ExtIoView.set_row]
  cases hgpio : (row_config i).gpio with
  | none =>
    have hworld : (v.release_output_line i).world = v.world := by
      simp [ExtIoView.release_output_line, ExtIoView.set_row, hgpio]
    rw [hworld]
    exact ⟨⟨.inl hworld, hrows, fun _ _ => rfl⟩, fun _ hnone => (nomatch hnone), rfl, hready⟩
  | some gpio =>
    have hworld : (v.release_output_line i).world =
        v.world.destroy (.registered (line_key gpio)) := by
      rw [← release_output_value_eq h.agrees]
      simp [ExtIoView.release_output_line, ExtIoView.set_row, hgpio]
    obtain ⟨htouches, hgone, hothers⟩ :=
      touches_destroy h (.registered gpio hgpio) hgpio hworld hrows rfl
    refine ⟨htouches, fun config hconfig => ?_, hothers _ (by simp), hready⟩
    rw [← Option.some.inj hconfig]
    exact hgone

/-- A row whose line nobody has as an input gives it up. -/
theorem release_output_line_bare (h : Tidy w₀ v.world) (hrow : OutputRow i v) :
    Bare i (v.release_output_line i) := by
  obtain ⟨-, hregistered, hobject, hready⟩ := release_output_line_spec h i
  constructor
  · intro holder hholder
    cases hholder with
    | object => exact hobject.trans hrow.object
    | registered config hconfig => exact hregistered config hconfig
  · exact hready.trans hrow.input_ready

theorem row_input : ∀ i : Fin 5, (row_config i).supports_input = (row_config i).gpio.isSome := by
  decide

theorem object_none (h : Tidy w₀ v.world) (hgpio : (row_config i).gpio = none) :
    v.world.lines (.object i) = none := by
  cases hline : v.world.lines (.object i) with
  | none => rfl
  | some line =>
    have hconfig := h.config i _ line .object hline
    rw [hgpio] at hconfig
    cases hconfig

theorem release_input_line_spec (h : Tidy w₀ v.world) (i : Fin 5) :
    Touches false i v (v.release_input_line i) ∧
      (v.release_input_line i).world.lines (.object i) = none ∧
      (∀ key, (v.release_input_line i).world.lines (.registered key) =
        v.world.lines (.registered key)) ∧
      ((v.release_input_line i).rows i).input_ready = false := by
  have hrows : ∀ j ≠ i, (v.release_input_line i).rows j = v.rows j := by
    intro j hne
    simp [ExtIoView.release_input_line, ExtIoView.set_row, hne]
  have hready : ((v.release_input_line i).rows i).input_ready = false := by
    simp [ExtIoView.release_input_line, ExtIoView.set_row]
  cases hgpio : (row_config i).gpio with
  | none =>
    have hnone := object_none h hgpio
    have hworld : (v.release_input_line i).world = v.world := destroy_none hnone
    rw [hworld]
    exact ⟨⟨.inl hworld, hrows, fun _ _ => rfl⟩, hnone, fun _ => rfl, hready⟩
  | some gpio =>
    have hdestroy : Touches false i v (v.release_input_line i) ∧ _ :=
      touches_destroy h .object hgpio rfl hrows rfl
    obtain ⟨htouches, hgone, hothers⟩ := hdestroy
    exact ⟨htouches, hgone, fun key => hothers _ (by simp), hready⟩

theorem release_input_line_bare (h : Tidy w₀ v.world) (hrow : InputRow i v) :
    Bare i (v.release_input_line i) := by
  obtain ⟨-, hobject, hregistered, hready⟩ := release_input_line_spec h i
  constructor
  · intro holder hholder
    cases hholder with
    | object => exact hobject
    | registered config hconfig => exact (hregistered _).trans (hrow.registered config hconfig)
  · exact hready

/-- The state of an output is read without a request that is left. -/
theorem read_output_state_spec (h : Tidy w₀ v.world) (hbare : Bare i v)
    (answers : Fin 5 → RowAnswers) :
    Touches false i v (v.read_output_state answers i) ∧ Bare i (v.read_output_state answers i) ∧
      Shown i (v.read_output_state answers i) := by
  unfold ExtIoView.read_output_state
  cases hpath : (row_config i).brightness_path with
  | some path =>
    dsimp only
    have hgpio : ∀ config, (row_config i).gpio ≠ some config := by
      have hnone : ∀ i : Fin 5, (row_config i).brightness_path.isSome = true →
          (row_config i).gpio = none := by decide
      intro config
      rw [hnone i (by simp [hpath])]
      simp
    refine ⟨⟨.inl (by simp), fun j hne => accessed_rows v hne _ _,
      fun j hne => accessed_lookup v hne _ _⟩, ?_, ?_⟩
    · exact ⟨by simpa using hbare.lines, by simpa using hbare.input_ready⟩
    · exact shown_accessed fun _ _ config hconfig => absurd hconfig (hgpio config)
  | none =>
    cases hgpio : (row_config i).gpio with
    | none =>
      dsimp only
      refine ⟨⟨.inl (by simp), fun j hne => accessed_rows v hne _ _,
        fun j hne => accessed_lookup v hne _ _⟩, ?_, shown_accessed fun _ hok => nomatch hok⟩
      exact ⟨by simpa using hbare.lines, by simpa using hbare.input_ready⟩
    | some gpio =>
      have hnone := hbare.lines _ (.registered gpio hgpio)
      obtain ⟨result, w', hget, hlines, hacts, hread⟩ :=
        get_output_value_acts h.agrees hnone (answers i).get
      dsimp only
      rw [hget]
      refine ⟨⟨.inr ⟨_, gpio, .registered gpio hgpio, hgpio, ?_, ?_⟩, fun j hne => ?_,
        fun j hne => ?_⟩, ⟨?_, ?_⟩, ?_⟩
      · simpa using hacts
      · exact fun other hother _ => hbare.lines other hother
      · exact accessed_rows _ hne _ _
      · exact accessed_lookup _ hne _ _
      · intro holder hholder
        simp [hlines, hbare.lines holder hholder]
      · simpa using hbare.input_ready
      · apply shown_accessed
        intro active hok config hconfig
        rw [hgpio] at hconfig
        rw [← Option.some.inj hconfig]
        exact hread active hok

theorem input_value_spec (h : Tidy w₀ v.world) (hrow : InputRow i v) {config : OutputLineConfig}
    (hgpio : (row_config i).gpio = some config) (answers : RowAnswers) :
    ∃ result ready w', ExtIoView.input_value i config (v.rows i).input_ready answers v.world =
        ((result, ready), w') ∧
      World.Acts (.object i) config false v.world w' ∧
      (∀ line, ready = false → w'.lines (.object i) = some line →
        line.Released (.object i) w'.log) ∧
      (ready = true → ∃ line, w'.lines (.object i) = some line ∧
        line.Requested (.object i) .INPUT w'.log) ∧
      ∀ active, result = .ok active → last_read config w'.log = some (OutputLine.level active) := by
  have hsound := h.agrees.sound
  -- The line, which is made if there is none.
  obtain ⟨line, hline⟩ : ∃ line, (v.world.lines (.object i)).getD { config := config } = line :=
    ⟨_, rfl⟩
  have hconfig : line.config = config := by
    cases hfound : v.world.lines (.object i) with
    | none =>
      rw [hfound] at hline
      rw [← hline]
      rfl
    | some found =>
      have hsame := h.config i _ found .object hfound
      rw [hgpio, Option.some.injEq] at hsame
      rw [hfound] at hline
      rw [← hline, hsame]
      rfl
  -- It becomes an input unless it is one.
  obtain ⟨made, line₁, log₁, hmade, hgoes₁, hgrows₁, hconfig₁, herror₁, hok₁⟩ :
      ∃ made line₁ log₁, (if (v.rows i).input_ready then (.ok (), line, v.world.log)
          else line.set_input (.object i) answers.request v.world.log) = (made, line₁, log₁) ∧
        Sound.Goes (.object i) v.world.log log₁ ∧
        Grows (.object i) (Made config .INPUT) Access.Reads v.world.log log₁ ∧
        line₁.config = config ∧
        (∀ message, made = .error message → line₁.Released (.object i) log₁) ∧
        (made = .ok () → line₁.Requested (.object i) .INPUT log₁) := by
    cases hready : (v.rows i).input_ready with
    | true =>
      obtain ⟨found, hfound, hrequested⟩ := hrow.requested hready
      rw [hfound, Option.getD_some] at hline
      subst hline
      exact ⟨_, _, _, rfl, .refl hsound, .refl, hconfig, fun _ hmade => (nomatch hmade),
        fun _ => hrequested⟩
    | false =>
      have hholds : line.Holds (.object i) v.world.log := by
        cases hfound : v.world.lines (.object i) with
        | none =>
          rw [hfound] at hline
          rw [← hline]
          exact .inl ⟨rfl, rfl, h.agrees.held_eq_nil hfound⟩
        | some found =>
          rw [hfound, Option.getD_some] at hline
          subst hline
          exact .inl (hrow.released found hready hfound)
      obtain ⟨made, line₁, log₁, hset, hgoes, -, hok, -⟩ :=
        OutputLine.set_input_spec hholds hsound answers.request
      have hgrows := OutputLine.set_input_grows hholds answers.request
      have hconfig₁ := OutputLine.set_input_config (.object i) line answers.request v.world.log
      rw [hset, hconfig] at hgrows hconfig₁
      refine ⟨made, line₁, log₁, hset, hgoes, hgrows, hconfig₁, fun message hmade => ?_, hok⟩
      rw [hmade] at hset
      exact OutputLine.set_input_error hholds hsound hset
  have hundriven : ∀ made, Made config .INPUT made → _ := Made.undriven (by decide)
  unfold ExtIoView.input_value
  dsimp only
  rw [hline, hmade]
  cases made with
  | error message =>
    have hreleased := herror₁ message rfl
    refine ⟨_, _, _, rfl, ?_, ?_, fun hready => (nomatch hready), fun _ hok => nomatch hok⟩
    · exact h.agrees.acts_put hgoes₁ (.inl hreleased) hconfig₁
        (hgrows₁.mono hundriven fun _ hreads => .inr hreads)
    · intro line' _ hline'
      rw [World.put_lines_self] at hline'
      exact Option.some.inj hline' ▸ hreleased
  | ok _ =>
    have hrequested := hok₁ rfl
    obtain ⟨result, log₂, hget, hgrows₂, hgoes₂, hused, hread⟩ :=
      OutputLine.get_value_requested (Made config .INPUT) hrequested hgoes₁.sound answers.get
    have hgoes := hgoes₁.trans hgoes₂
    have hgrows := hgrows₁.trans hgrows₂
    rw [hconfig₁] at hread
    dsimp only
    rw [hget]
    cases result with
    | error message =>
      -- The line is released when it cannot be read.
      obtain ⟨line₃, log₃, hrelease, hgoes₃, hreleased⟩ :=
        OutputLine.release_locked_spec (.inr ⟨_, hused⟩) hgoes₂.sound
      have hgrows₃ := OutputLine.release_locked_grows (Made config .INPUT) Access.Reads
        (.inr ⟨_, hused⟩)
      have hconfig₃ := OutputLine.release_locked_config line₁ log₂
      rw [hrelease] at hgrows₃ hconfig₃
      dsimp only
      rw [hrelease]
      refine ⟨_, _, _, rfl, ?_, ?_, fun hready => (nomatch hready), fun _ hok => nomatch hok⟩
      · exact h.agrees.acts_put (hgoes.trans hgoes₃) (.inl hreleased)
          (hconfig₃.trans hconfig₁)
          ((hgrows.trans hgrows₃).mono hundriven fun _ hreads => .inr hreads)
      · intro line' _ hline'
        rw [World.put_lines_self] at hline'
        exact Option.some.inj hline' ▸ hreleased
    | ok active =>
      refine ⟨_, _, _, rfl, ?_, fun _ hready => (nomatch hready), fun _ => ?_, ?_⟩
      · exact h.agrees.acts_put hgoes (.inr ⟨_, hused⟩) hconfig₁
          (hgrows.mono hundriven fun _ hreads => .inr hreads)
      · exact ⟨line₁, World.put_lines_self .., hused⟩
      · intro active' hok
        exact hread active' hok

/-! ## Pacing -/

/-- What is set later is set at least the delay after. -/
def Apart (later earlier : GpioAction) : Prop :=
  ∀ i time j before, later = .set_output_value i time → earlier = .set_output_value j before →
    before + K_GPIO_ACTION_DELAY_MS ≤ time

/-- Outputs are set apart from each other, and the view knows when the last one was, unless the
lines were released since. -/
structure Paced (v : ExtIoView) : Prop where
  apart : v.actions.IsChain Apart
  last : v.has_gpio_action = true → ∃ i time earlier,
    v.actions = .set_output_value i time :: earlier ∧
      v.last_gpio_action_at = UInt32.ofNat time ∧ time ≤ v.now
  released : v.has_gpio_action = false → ∀ i time earlier,
    v.actions ≠ .set_output_value i time :: earlier

/-- What is paced, and the clock. -/
def pacing (v : ExtIoView) : List GpioAction × ℕ × UInt32 × Bool :=
  (v.actions, v.now, v.last_gpio_action_at, v.has_gpio_action)

theorem Paced.congr (h : Paced v) (heq : pacing v' = pacing v) : Paced v' := by
  unfold pacing at heq
  simp only [Prod.mk.injEq] at heq
  obtain ⟨hactions, hnow, hlast, hhas⟩ := heq
  constructor
  · rw [hactions]
    exact h.apart
  · rw [hactions, hnow, hlast, hhas]
    exact h.last
  · rw [hactions, hhas]
    exact h.released

/-- Time passes. -/
theorem Paced.passed (h : Paced v) (passed : ℕ) : Paced { v with now := v.now + passed } := by
  refine ⟨h.apart, fun hhas => ?_, h.released⟩
  obtain ⟨i, time, earlier, hactions, hlast, hle⟩ := h.last hhas
  exact ⟨i, time, earlier, hactions, hlast, hle.trans (Nat.le_add_right ..)⟩

/-- The clock of the kernel turns over, but what has elapsed is never more than it shows. -/
theorem elapsed_le {time now : ℕ} (h : time ≤ now) :
    (UInt32.ofNat now - UInt32.ofNat time).toNat ≤ now - time := by
  rw [UInt32.toNat_sub, UInt32.toNat_ofNat', UInt32.toNat_ofNat']
  omega

theorem wait_for_gpio_slot_paced (h : Paced v) (i : Fin 5) (overslept : ℕ) :
    Paced (v.wait_for_gpio_slot_ i overslept) := by
  refine ⟨?_, fun _ => ⟨i, _, _, rfl, rfl, le_rfl⟩, fun hhas => nomatch hhas⟩
  refine h.apart.cons fun earlier hearlier => ?_
  rintro i' time j before ⟨⟩ rfl
  obtain ⟨earliest, hactions⟩ := List.head?_eq_some_iff.1 hearlier
  cases hhas : v.has_gpio_action with
  | false => exact absurd hactions (h.released hhas j before earliest)
  | true =>
    obtain ⟨i₀, time, earlier, hactions', hlast, hle⟩ := h.last hhas
    rw [hactions] at hactions'
    cases hactions'
    have helapsed := elapsed_le hle
    rw [← hlast] at helapsed
    simp only [Bool.true_and, decide_eq_true_eq]
    unfold K_GPIO_ACTION_DELAY_MS
    split_ifs <;> omega

/-- What the rows are drawn with. -/
def ExtIoView.settings (v : ExtIoView) : IoFunction × ℕ × Bool × (Text → Text) :=
  (v.io_function, v.selected_index, v.dark, v.tr)

/-- What reading leaves alone. -/
def unread (v : ExtIoView) := (v.settings, pacing v)

theorem accessed_unread (v : ExtIoView) (i : Fin 5) (result : Except String Bool) (failed : Bool) :
    unread (v.accessed i result failed) = unread v := by
  cases result <;> rfl

theorem toggle_row_paced (h : Paced v) (i : Fin 5) (answers : ExtIoAnswers) :
    Paced (v.toggle_row_ i answers) := by
  unfold ExtIoView.toggle_row_
  split_ifs
  · exact h
  · have hwritten : Paced (v.write_row i (!(v.rows i).active) answers).2 := by
      unfold ExtIoView.write_row
      split
      · exact h
      · exact (wait_for_gpio_slot_paced h i answers.overslept).congr rfl
      · exact h
    exact hwritten.congr (congrArg Prod.snd (accessed_unread _ i _ _))

theorem release_output_lines_paced (h : Paced v) : Paced v.release_output_lines_ := by
  have hstep : ∀ (u : ExtIoView) i, pacing (u.release_output_line i) = pacing u := fun _ _ => rfl
  have hpacing : pacing ((List.finRange 5).foldl ExtIoView.release_output_line v) = pacing v :=
    foldl_unchanged pacing hstep _ _
  refine ⟨(h.congr hpacing).apart.cons fun _ _ => ?_, fun hhas => (nomatch hhas), fun _ => ?_⟩
  · rintro i time j before ⟨⟩
  · rintro i time earlier ⟨⟩

theorem release_input_lines_pacing (v : ExtIoView) : pacing v.release_input_lines_ = pacing v := by
  have hstep : ∀ (u : ExtIoView) i, pacing (u.release_input_line i) = pacing u := fun _ _ => rfl
  exact foldl_unchanged pacing hstep _ _

theorem read_output_states_unread (v : ExtIoView) (answers : Fin 5 → RowAnswers) :
    unread (v.read_output_states_ answers) = unread v := by
  apply foldl_unchanged unread
  intro u i
  unfold ExtIoView.read_output_state
  split <;> exact accessed_unread _ i _ _

theorem read_input_states_unread (v : ExtIoView) (refresh_changed_rows : Bool)
    (answers : Fin 5 → RowAnswers) :
    unread (v.read_input_states_ refresh_changed_rows answers) = unread v := by
  apply foldl_unchanged unread
  intro u i
  unfold ExtIoView.read_input_state
  split_ifs
  · rfl
  · cases (row_config i).gpio with
    | none =>
      dsimp only
      split_ifs
      · exact accessed_unread _ i _ _
      · exact accessed_unread _ i _ _
    | some gpio =>
      dsimp only
      split_ifs
      · exact accessed_unread _ i _ _
      · exact accessed_unread _ i _ _

/-! ## What is left alone -/

/-- What is drawn, selected and measured is nothing to the lines. -/
structure Same (v v' : ExtIoView) : Prop where
  world : v'.world = v.world
  rows : v'.rows = v.rows
  accesses : v'.accesses = v.accesses
  paced : Paced v → Paced v'

theorem Same.touches {u : ExtIoView} (h : Same v v') (htouches : Touches drives i u v) :
    Touches drives i u v' := by
  constructor
  · rw [h.world]
    exact htouches.world
  · rw [h.rows]
    exact htouches.rows
  · rw [h.accesses]
    exact htouches.accesses

theorem Same.outputRow (h : Same v v') (hrow : OutputRow i v) : OutputRow i v' := by
  obtain ⟨hobject, hregistered, hready⟩ := hrow
  constructor
  · rw [h.world]
    exact hobject
  · rw [h.world]
    exact hregistered
  · rw [h.rows]
    exact hready

theorem Same.inputRow (h : Same v v') (hrow : InputRow i v) : InputRow i v' := by
  obtain ⟨hregistered, hreleased, hrequested⟩ := hrow
  constructor
  · rw [h.world]
    exact hregistered
  · rw [h.world, h.rows]
    exact hreleased
  · rw [h.world, h.rows]
    exact hrequested

theorem Same.shown (h : Same v v') (hshown : Shown i v) : Shown i v' := by
  unfold Shown
  rw [h.world, h.rows, h.accesses]
  exact hshown

theorem read_input_state_spec (h : Tidy w₀ v.world) (hrow : InputRow i v)
    (refresh_changed_rows : Bool) (answers : Fin 5 → RowAnswers) :
    Touches false i v (v.read_input_state refresh_changed_rows answers i) ∧
      InputRow i (v.read_input_state refresh_changed_rows answers i) ∧
      ((row_config i).supports_input = true →
        Shown i (v.read_input_state refresh_changed_rows answers i)) := by
  unfold ExtIoView.read_input_state
  cases hgpio : (row_config i).gpio with
  | none =>
    have hinput : (row_config i).supports_input = false := by simp [row_input, hgpio]
    simp only [hinput, Bool.not_false, if_true]
    exact ⟨⟨.inl rfl, fun _ _ => rfl, fun _ _ => rfl⟩, hrow, fun hsupports => nomatch hsupports⟩
  | some gpio =>
    have hinput : (row_config i).supports_input = true := by simp [row_input, hgpio]
    obtain ⟨result, ready, w', hvalue, hacts, hreleased, hrequested, hread⟩ :=
      input_value_spec h hrow hgpio (answers i)
    simp only [hinput, Bool.not_true, Bool.false_eq_true, if_false, hvalue]
    -- The row after the access, before it is drawn.
    obtain ⟨u, hu⟩ : ∃ u, (ExtIoView.set_row { v with world := w' } i
        { v.rows i with input_ready := ready }).accessed i result false = u := ⟨_, rfl⟩
    have hworld : u.world = w' := by
      rw [← hu, accessed_world]
      rfl
    have hready : (u.rows i).input_ready = ready := by
      rw [← hu, accessed_input_ready]
      simp [ExtIoView.set_row]
    have htouches : Touches false i v u := by
      refine ⟨.inr ⟨_, gpio, .object, hgpio, ?_, ?_⟩, fun j hne => ?_, fun j hne => ?_⟩
      · rw [hworld]
        exact hacts
      · intro other hother hne
        cases hother with
        | object => exact absurd rfl hne
        | registered config hconfig => exact hrow.registered config hconfig
      · rw [← hu, accessed_rows _ hne]
        simp [ExtIoView.set_row, hne]
      · rw [← hu, accessed_lookup _ hne]
        rfl
    have hrow' : InputRow i u := by
      constructor
      · intro config hconfig
        rw [hworld, hacts.others _ (by simp)]
        exact hrow.registered config hconfig
      · intro line hnot hline
        rw [hready] at hnot
        rw [hworld] at hline ⊢
        exact hreleased line hnot hline
      · intro his
        rw [hready] at his
        rw [hworld]
        exact hrequested his
    have hshown : Shown i u := by
      rw [← hu]
      apply shown_accessed
      intro active hok config hconfig
      rw [hgpio] at hconfig
      rw [← Option.some.inj hconfig]
      exact hread active hok
    rw [hu]
    split_ifs
    · have hsame : Same u (u.apply_row_style_ i) := ⟨rfl, rfl, rfl, fun h => h.congr rfl⟩
      exact ⟨hsame.touches htouches, hsame.inputRow hrow', fun _ => hsame.shown hshown⟩
    · exact ⟨htouches, hrow', fun _ => hshown⟩

theorem Touches.accessed (h : Touches drives i v v') (result : Except String Bool) (failed : Bool) :
    Touches drives i v (v'.accessed i result failed) := by
  constructor
  · rw [accessed_world]
    exact h.world
  · intro j hne
    rw [accessed_rows v' hne]
    exact h.rows j hne
  · intro j hne
    rw [accessed_lookup v' hne]
    exact h.accesses j hne

theorem OutputRow.accessed (h : OutputRow i v) (result : Except String Bool) (failed : Bool) :
    OutputRow i (v.accessed i result failed) := by
  obtain ⟨hobject, hregistered, hready⟩ := h
  constructor
  · rw [accessed_world]
    exact hobject
  · rw [accessed_world]
    exact hregistered
  · rw [accessed_input_ready]
    exact hready

theorem gpio_of_path : ∀ i : Fin 5, (row_config i).brightness_path.isSome = true →
    (row_config i).gpio = none := by
  decide

theorem write_row_spec (h : Tidy w₀ v.world) (hrow : OutputRow i v) (next : Bool)
    (answers : ExtIoAnswers) :
    ∃ result u, v.write_row i next answers = (result, u) ∧ Touches true i v u ∧ OutputRow i u ∧
      ∀ active, (result.map fun _ => next) = .ok active → ∀ config,
        (row_config i).gpio = some config →
          last_read config u.world.log = some (OutputLine.level active) := by
  have hrefl : Touches true i v v := ⟨.inl rfl, fun _ _ => rfl, fun _ _ => rfl⟩
  unfold ExtIoView.write_row
  cases hpath : (row_config i).brightness_path with
  | some path =>
    refine ⟨_, v, rfl, hrefl, hrow, fun _ _ config hconfig => ?_⟩
    rw [gpio_of_path i (by simp [hpath])] at hconfig
    cases hconfig
  | none =>
    cases hgpio : (row_config i).gpio with
    | none =>
      exact ⟨_, v, rfl, hrefl, hrow, fun _ hok => nomatch hok⟩
    | some gpio =>
      have hown : ∀ line, v.world.lines (.registered (line_key gpio)) = some line →
          line.config = gpio := by
        intro line hline
        have hsame := h.config i _ line (.registered gpio hgpio) hline
        rw [hgpio] at hsame
        exact (Option.some.inj hsame).symm
      obtain ⟨result, line', log', hset, hacts, hline, hread⟩ :=
        set_output_value_acts h.agrees hown next answers.set
      obtain ⟨u, hu⟩ : ∃ u, ({ v.wait_for_gpio_slot_ i answers.overslept with
          world := v.world.put (.registered (line_key gpio)) (some line') log' } : ExtIoView) =
            u := ⟨_, rfl⟩
      have hworld : u.world = v.world.put (.registered (line_key gpio)) (some line') log' := by
        rw [← hu]
      have hrows : u.rows = v.rows := by
        rw [← hu]
        rfl
      have haccesses : u.accesses = v.accesses := by
        rw [← hu]
        rfl
      refine ⟨result, u, ?_, ⟨.inr ⟨_, gpio, .registered gpio hgpio, hgpio, ?_, ?_⟩,
        fun _ _ => by rw [hrows], fun _ _ => by rw [haccesses]⟩, ⟨?_, ?_, ?_⟩, ?_⟩
      · dsimp only
        rw [show (v.wait_for_gpio_slot_ i answers.overslept).world = v.world from rfl, hset]
        exact congrArg _ hu
      · rw [hworld]
        exact hacts
      · intro other hother hne
        cases hother with
        | object => exact hrow.object
        | registered config hconfig =>
          rw [hgpio] at hconfig
          exact absurd (congrArg (fun c => Holder.registered (line_key c))
            (Option.some.inj hconfig).symm) hne
      · rw [hworld, hacts.others _ (by simp)]
        exact hrow.object
      · intro config found hconfig hfound
        rw [hgpio] at hconfig
        obtain rfl := Option.some.inj hconfig
        rw [hworld] at hfound ⊢
        rw [World.put_lines_self] at hfound
        exact Option.some.inj hfound ▸ hline
      · rw [hrows]
        exact hrow.input_ready
      · intro active hok config hconfig
        obtain rfl := Option.some.inj hconfig
        cases result with
        | error error => cases hok
        | ok _ =>
          rw [hworld, ← Except.ok.inj hok]
          exact hread rfl

theorem toggle_row_spec (h : Tidy w₀ v.world) (hrow : OutputRow i v) (answers : ExtIoAnswers) :
    Touches true i v (v.toggle_row_ i answers) ∧ OutputRow i (v.toggle_row_ i answers) ∧
      (Shown i v → Shown i (v.toggle_row_ i answers)) := by
  unfold ExtIoView.toggle_row_
  split_ifs
  · exact ⟨⟨.inl rfl, fun _ _ => rfl, fun _ _ => rfl⟩, hrow, id⟩
  · obtain ⟨result, u, hwrite, htouches, hrow', hread⟩ :=
      write_row_spec h hrow (!(v.rows i).active) answers
    dsimp only
    rw [hwrite]
    dsimp only
    generalize hresult : (result.map fun _ => !(v.rows i).active) = outcome at hread ⊢
    have hsame : Same (u.accessed i outcome (v.rows i).active)
        ((u.accessed i outcome (v.rows i).active).apply_row_style_ i) :=
      ⟨rfl, rfl, rfl, fun h => h.congr rfl⟩
    exact ⟨hsame.touches (htouches.accessed _ _), hsame.outputRow (hrow'.accessed _ _),
      fun _ => hsame.shown (shown_accessed hread)⟩

end

/-! ## All rows -/

/-- A log that was gone on with, and nothing was driven. -/
def DrivesNothing (log log' : Log) : Prop :=
  ∃ later, log' = later ++ log ∧ ∀ event ∈ later, Undriven event

theorem DrivesNothing.refl (log : Log) : DrivesNothing log log :=
  ⟨[], rfl, fun _ h => absurd h List.not_mem_nil⟩

theorem DrivesNothing.trans {log log' log'' : Log} (h : DrivesNothing log log')
    (h' : DrivesNothing log' log'') : DrivesNothing log log'' := by
  obtain ⟨later, rfl, hlater⟩ := h
  obtain ⟨last, rfl, hlast⟩ := h'
  refine ⟨last ++ later, by simp, fun event hevent => ?_⟩
  rcases List.mem_append.1 hevent with hevent | hevent
  · exact hlast event hevent
  · exact hlater event hevent

section

variable {w₀ : World} {v v' : ExtIoView}

/-- The lines are in order, and nothing was driven since. -/
def Calm (w₀ : World) (log : Log) (v : ExtIoView) : Prop :=
  Tidy w₀ v.world ∧ DrivesNothing log v.world.log

theorem Touches.calm {i : Fin 5} {log : Log} (h : Touches false i v v') (hcalm : Calm w₀ log v) :
    Calm w₀ log v' := by
  refine ⟨h.tidy hcalm.1, ?_⟩
  rcases h.world with hworld | ⟨holder, config, -, -, hacts, -⟩
  · rw [hworld]
    exact hcalm.2
  · exact hcalm.2.trans hacts.quiet

theorem calm_self (h : Tidy w₀ v.world) : Calm w₀ v.world.log v := ⟨h, .refl _⟩

theorem release_output_lines_spec (h : Tidy w₀ v.world) (hrows : ∀ i, OutputRow i v) :
    Calm w₀ v.world.log v.release_output_lines_ ∧ ∀ i, Bare i v.release_output_lines_ := by
  obtain ⟨hcalm, hbare⟩ := sweep_all (Calm w₀ v.world.log) OutputRow Bare
    (fun v i h hrow => ⟨(release_output_line_spec h.1 i).1.calm h,
      release_output_line_bare h.1 hrow⟩)
    (fun v i j hne h _ => ⟨(release_output_line_spec h.1 i).1.outputRow hne,
      (release_output_line_spec h.1 i).1.bare hne⟩) (calm_self h) hrows
  exact ⟨hcalm, fun i => ⟨(hbare i).lines, (hbare i).input_ready⟩⟩

theorem release_input_lines_spec (h : Tidy w₀ v.world) (hrows : ∀ i, InputRow i v) :
    Calm w₀ v.world.log v.release_input_lines_ ∧ ∀ i, Bare i v.release_input_lines_ :=
  sweep_all (Calm w₀ v.world.log) InputRow Bare
    (fun _ i h hrow => ⟨(release_input_line_spec h.1 i).1.calm h,
      release_input_line_bare h.1 hrow⟩)
    (fun _ i _ hne h _ => ⟨(release_input_line_spec h.1 i).1.inputRow hne,
      (release_input_line_spec h.1 i).1.bare hne⟩) (calm_self h) hrows

theorem read_output_states_spec {log : Log} (h : Calm w₀ log v) (hrows : ∀ i, Bare i v)
    (answers : Fin 5 → RowAnswers) :
    Calm w₀ log (v.read_output_states_ answers) ∧
      ∀ i, Bare i (v.read_output_states_ answers) ∧ Shown i (v.read_output_states_ answers) := by
  apply sweep_all (Calm w₀ log) Bare (fun i v => Bare i v ∧ Shown i v) _ _ h hrows
  · intro v i h hbare
    obtain ⟨htouches, hafter⟩ := read_output_state_spec h.1 hbare answers
    exact ⟨htouches.calm h, hafter⟩
  · intro v i j hne h hbare
    have htouches := (read_output_state_spec h.1 hbare answers).1
    exact ⟨htouches.bare hne, fun hj => ⟨htouches.bare hne hj.1, htouches.shown h.1 hne hj.2⟩⟩

theorem read_input_states_spec {log : Log} (h : Calm w₀ log v) (hrows : ∀ i, InputRow i v)
    (refresh_changed_rows : Bool) (answers : Fin 5 → RowAnswers) :
    Calm w₀ log (v.read_input_states_ refresh_changed_rows answers) ∧
      ∀ i, InputRow i (v.read_input_states_ refresh_changed_rows answers) ∧
        ((row_config i).supports_input = true →
          Shown i (v.read_input_states_ refresh_changed_rows answers)) := by
  apply sweep_all (Calm w₀ log) InputRow
    (fun i v => InputRow i v ∧ ((row_config i).supports_input = true → Shown i v)) _ _ h hrows
  · intro v i h hrow
    obtain ⟨htouches, hafter⟩ := read_input_state_spec h.1 hrow refresh_changed_rows answers
    exact ⟨htouches.calm h, hafter⟩
  · intro v i j hne h hrow
    have htouches := (read_input_state_spec h.1 hrow refresh_changed_rows answers).1
    exact ⟨htouches.inputRow hne, fun hj => ⟨htouches.inputRow hne hj.1,
      fun hinput => htouches.shown h.1 hne (hj.2 hinput)⟩⟩

/-- However the page is left, it has no line. -/
theorem destroy_spec (h : Tidy w₀ v.world) :
    Calm w₀ v.world.log v.destroy ∧
      ∀ holder, Mine holder → v.destroy.world.lines holder = none := by
  have hoff : ∀ u i j, j ≠ i → Calm w₀ v.world.log u →
      (∀ config, (row_config j).gpio = some config →
        u.world.lines (.registered (line_key config)) = none) →
      ∀ config, (row_config j).gpio = some config →
        (u.release_output_line i).world.lines (.registered (line_key config)) = none := by
    intro u i j hne hcalm hnone config hconfig
    rw [((release_output_line_spec hcalm.1 i).1.lines hne (.registered config hconfig)).1]
    exact hnone config hconfig
  obtain ⟨hcalm, hregistered⟩ := sweep_all (Calm w₀ v.world.log) (fun _ _ => True)
    (fun i u => ∀ config, (row_config i).gpio = some config →
      u.world.lines (.registered (line_key config)) = none)
    (fun u i hcalm _ => ⟨(release_output_line_spec hcalm.1 i).1.calm hcalm,
      (release_output_line_spec hcalm.1 i).2.1⟩)
    (fun u i j hne hcalm _ => ⟨fun _ => trivial, hoff u i j hne hcalm⟩)
    (calm_self h) (fun _ => trivial)
  have hcalm' : Calm w₀ v.world.log v.release_output_lines_ := hcalm
  obtain ⟨hend, hnone⟩ := sweep_all (Calm w₀ v.world.log)
    (fun i u => ∀ config, (row_config i).gpio = some config →
      u.world.lines (.registered (line_key config)) = none)
    (fun i u => ∀ holder, RowHolder i holder → u.world.lines holder = none)
    (fun u i hcalm hregistered => by
      obtain ⟨htouches, hobject, hothers, -⟩ := release_input_line_spec hcalm.1 i
      refine ⟨htouches.calm hcalm, fun holder hholder => ?_⟩
      cases hholder with
      | object => exact hobject
      | registered config hconfig => exact (hothers _).trans (hregistered config hconfig))
    (fun u i j hne hcalm _ => by
      have htouches := (release_input_line_spec hcalm.1 i).1
      refine ⟨fun hj config hconfig => ?_, fun hj holder hholder => ?_⟩
      · rw [(htouches.lines hne (.registered config hconfig)).1]
        exact hj config hconfig
      · rw [(htouches.lines hne hholder).1]
        exact hj holder hholder)
    hcalm' hregistered
  refine ⟨hend, fun holder hmine => ?_⟩
  obtain ⟨i, hholder⟩ := hmine
  exact hnone i holder hholder

end

end FactoryTest.View
