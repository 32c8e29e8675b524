import FactoryTest.View.KeyboardPage
import Mathlib.Data.Fintype.Card

/-!
# Progress of the keyboard test

**What is counted** (`Counted`). What the page counts of a key and of a layer is what happened: how
often the key was triggered, up to three times, and how many keys of the layer were.

**What is shown** (`Displayed`). The title tells the progress of the layer that is shown, and every
button has the colour of its key.

**Theorem (`keyboard_exact`).** This holds in every run. That a key was seen is recorded once, with
the first key, and the page goes on to the next layer by itself only when all keys of the layer were
triggered. No tested key is hidden by another one: as long as there is the page, and no dialog, a
key that is typed by its name is triggered and no other one, so that every layer can be completed.
-/

namespace FactoryTest.View

open Input

variable {p q : KeyboardPage} {i j : KeyIndex} {layer : KeyLayer} {history : List KeyboardObs}

/-- The keys of a layer that are tested. -/
def layer_keys (layer : KeyLayer) : Finset KeyIndex :=
  Finset.univ.filter fun i => (key_spec i).layer = layer ∧ is_counted_key (key_spec i) = true

/-- The keys of a layer that were triggered. -/
def triggered_keys (layer : KeyLayer) (history : List KeyboardObs) : Finset KeyIndex :=
  Finset.univ.filter fun i => (key_spec i).layer = layer ∧ .triggered i ∈ history

/-- All keys of a layer that are tested were triggered. -/
def Complete (layer : KeyLayer) (history : List KeyboardObs) : Prop :=
  ∀ i ∈ layer_keys layer, .triggered i ∈ history

/-- The colour of a key that was triggered so often. -/
def colour_of (i : KeyIndex) (presses : ℕ) : KeyColour :=
  if presses = 0 then .text_muted
  else pressed_color_for_press_count (key_spec i).layer (min K_PRESS_COUNT_MAX presses)

/-- What is counted is what happened. -/
structure Counted (p : KeyboardPage) : Prop where
  enabled : ∀ i, .triggered i ∈ p.history → is_counted_key (key_spec i) = true
  states : ∀ i, p.key_states i = if .triggered i ∈ p.history then .PRESSED else .IDLE
  presses : ∀ i, p.key_press_counts i = min K_PRESS_COUNT_MAX (p.history.count (.triggered i))
  pressed : ∀ layer, p.layer_pressed_counts layer = (triggered_keys layer p.history).card
  total : ∀ layer, p.layer_total_counts layer = (layer_keys layer).card
  seen : (∃ i, .triggered i ∈ p.history) → p.history.count .key_input_seen = 1
  unseen : (∀ i, .triggered i ∉ p.history) → p.history.count .key_input_seen = 0

/-- The buttons that there are have the colours of their keys. -/
def Coloured (p : KeyboardPage) : Prop :=
  ∀ i, p.key_buttons i =
    if p.layer_built (key_spec i).layer then
      some (colour_of i (p.history.count (.triggered i)))
    else none

/-- What is shown is what is counted. -/
structure Displayed (p : KeyboardPage) : Prop where
  progress : p.progress =
    (p.active_layer, p.layer_pressed_counts p.active_layer, p.layer_total_counts p.active_layer)
  confirm : p.confirm_action = true → p.active_layer = .SYM_KEY
  offered : p.left = false → p.active_layer = .SYM_KEY → p.confirm_action = true
  built : p.layer_built p.active_layer = true
  buttons : Coloured p

/-- The page goes on only after a layer that is complete and is not the last one. -/
structure Scheduled (p : KeyboardPage) : Prop where
  timer : ∀ source, p.auto_advance_timer = some source →
    source ≠ .SYM_KEY ∧ Complete source p.history
  advanced : ∀ source earlier, .auto_advanced source :: earlier <:+ p.history →
    source ≠ .SYM_KEY ∧ Complete source earlier

/-- A key was triggered, and nothing else happened. -/
structure Triggers (i : KeyIndex) (p q : KeyboardPage) : Prop where
  history : q.history =
    if ∃ j, .triggered j ∈ p.history then .triggered i :: p.history
    else .key_input_seen :: .triggered i :: p.history
  states : ∀ j, q.key_states j = if j = i then .PRESSED else p.key_states j
  presses : ∀ j, q.key_press_counts j =
    if j = i then min K_PRESS_COUNT_MAX (p.key_press_counts j + 1) else p.key_press_counts j

/-- What is counted, shown and scheduled is as it should be. -/
structure KeyboardExact (p : KeyboardPage) : Prop where
  counted : Counted p
  displayed : Displayed p
  scheduled : Scheduled p

/-! ## Counting -/

theorem card_filter_get {α : Type*} (l : List α) (test : α → Bool) :
    (Finset.univ.filter fun i : Fin l.length => test (l.get i) = true).card = l.countP test := by
  conv_rhs => rw [← List.map_get_finRange l, List.countP_map]
  rw [Finset.card_def, Finset.filter_val, Fin.univ_def, List.countP_eq_length_filter]
  simp only [Multiset.filter_coe, Multiset.coe_card]
  congr 1
  apply List.filter_congr
  intro i _
  simp

theorem card_layer_keys (layer : KeyLayer) :
    (layer_keys layer).card =
      K_KEYS.countP fun spec => spec.layer = layer && is_counted_key spec := by
  rw [← card_filter_get]
  simp only [Bool.and_eq_true, decide_eq_true_eq]
  rfl

theorem total_counts_eq (layer : KeyLayer) :
    KeyboardPage.total_counts layer = (layer_keys layer).card := by
  have hfold : ∀ (keys : List KeySpec) (counts : KeyLayer → ℕ),
      keys.foldl (fun counts key =>
        if is_counted_key key then Function.update counts key.layer (counts key.layer + 1)
        else counts) counts layer =
      counts layer + keys.countP fun spec => spec.layer = layer && is_counted_key spec := by
    intro keys
    induction keys with
    | nil => exact fun _ => rfl
    | cons key keys ih =>
      intro counts
      rw [List.foldl_cons, ih, List.countP_cons]
      by_cases hcounted : is_counted_key key = true
      · by_cases hlayer : key.layer = layer
        · subst hlayer
          simp [hcounted]
          omega
        · simp [hcounted, hlayer, Function.update_of_ne (Ne.symm hlayer)]
      · simp [hcounted]
  rw [card_layer_keys, KeyboardPage.total_counts, hfold]
  exact Nat.zero_add _

/-- A key that matches is tested. -/
theorem matching_key_counted {k : Key} (h : matching_key k = some i) :
    is_counted_key (key_spec i) = true := by
  have hmatches := List.find?_some h
  unfold matches_key at hmatches
  unfold is_counted_key
  cases hdisabled : (key_spec i).disabled with
  | false => rfl
  | true => simp [hdisabled] at hmatches

/-- No tested key hides another one. -/
theorem keys_distinct :
    K_KEYS.Pairwise fun spec other => is_counted_key spec = true → is_counted_key other = true →
      spec.key_match ≠ other.key_match := by
  decide +kernel

/-- A name that is tested is not changed by `normalize_key_name`, and none is one of the other names
that `matches_key` takes for a key. -/
theorem keys_normalized : ∀ spec ∈ K_KEYS.filter is_counted_key,
    normalize_key_name ⟨0, some spec.key_match⟩ = spec.key_match ∧
      spec.key_match ≠ K_MATCH_NEXT ∧ spec.key_match ≠ "mute" := by
  decide +kernel

theorem matches_key_iff {spec : KeySpec} (hspec : is_counted_key spec = true) {name : String}
    (hnext : name ≠ K_MATCH_NEXT) (hmute : name ≠ "mute") :
    matches_key spec name 0 = true ↔ name = spec.key_match := by
  have hdisabled : spec.disabled = false := by simpa [is_counted_key] using hspec
  unfold matches_key
  rw [hdisabled, if_neg Bool.false_ne_true]
  have hzero : ((0 : UInt32) = LV_KEY_NEXT) = False ∧ ((0 : UInt32) = '\t'.val) = False ∧
      ((0 : UInt32) = ' '.val) = False := by decide
  split_ifs with htab hspace hvolume
  · simp [hnext, hzero, htab]
  · simp [hspace]
  · simp [hmute, hvolume]
  · simp

/-- Every key that is tested can be triggered, by its name. -/
theorem matching_key_name (h : is_counted_key (key_spec i) = true) :
    matching_key ⟨0, some (key_spec i).key_match⟩ = some i := by
  have hmem : key_spec i ∈ K_KEYS.filter is_counted_key :=
    List.mem_filter.2 ⟨List.get_mem K_KEYS i, h⟩
  obtain ⟨hname, hnext, hmute⟩ := keys_normalized _ hmem
  have hdistinct := List.pairwise_iff_get.1 keys_distinct
  have hself : matches_key (key_spec i) (key_spec i).key_match 0 = true :=
    (matches_key_iff h hnext hmute).2 rfl
  cases hfound : matching_key ⟨0, some (key_spec i).key_match⟩ with
  | none =>
    have hnone := List.find?_eq_none.1 hfound i (List.mem_finRange i)
    rw [hname] at hnone
    exact absurd hself hnone
  | some j =>
    have hj := matching_key_counted hfound
    have hmatches := List.find?_some hfound
    rw [hname] at hmatches
    have heq := (matches_key_iff hj hnext hmute).1 hmatches
    rcases lt_trichotomy i j with hlt | rfl | hlt
    · exact absurd heq (hdistinct i j hlt h hj)
    · rfl
    · exact absurd heq.symm (hdistinct j i hlt hj h)

theorem Counted.first_key_iff (h : Counted p) :
    p.first_key = true ↔ ∀ i, .triggered i ∉ p.history := by
  have hnone : p.first_key = true ↔ ∀ layer, triggered_keys layer p.history = ∅ := by
    simp only [KeyboardPage.first_key, List.all_cons, List.all_nil, Bool.and_true,
      Bool.and_eq_true, decide_eq_true_eq, h.pressed, Finset.card_eq_zero]
    constructor
    · rintro ⟨hstandard, hfn, hsym⟩ layer
      cases layer
      · exact hstandard
      · exact hfn
      · exact hsym
    · exact fun hall => ⟨hall _, hall _, hall _⟩
  rw [hnone]
  constructor
  · intro hall i hi
    have hmem : i ∈ triggered_keys (key_spec i).layer p.history := by simp [triggered_keys, hi]
    rw [hall] at hmem
    exact absurd hmem (Finset.notMem_empty i)
  · intro hall layer
    exact Finset.filter_eq_empty_iff.2 fun i _ hi => hall i hi.2

/-- What a page tells of its keys, for an observation that is no key. -/
theorem Counted.same {obs : KeyboardObs} (h : Counted p) (hkey : ∀ i, obs ≠ .triggered i)
    (hseen : obs ≠ .key_input_seen) : Counted { p with history := obs :: p.history } := by
  have hmem : ∀ i, .triggered i ∈ obs :: p.history ↔ .triggered i ∈ p.history := by
    intro i
    simp [(hkey i).symm]
  constructor
  · intro i hi
    exact h.enabled i ((hmem i).1 hi)
  · intro i
    simp only [hmem]
    exact h.states i
  · intro i
    rw [List.count_cons_of_ne (hkey i)]
    exact h.presses i
  · intro layer
    simp only [triggered_keys, hmem]
    exact h.pressed layer
  · exact h.total
  · rintro ⟨i, hi⟩
    rw [List.count_cons_of_ne hseen]
    exact h.seen ⟨i, (hmem i).1 hi⟩
  · intro hnone
    rw [List.count_cons_of_ne hseen]
    exact h.unseen fun i hi => hnone i ((hmem i).2 hi)

/-- What is counted, and what happened. -/
def tally (p : KeyboardPage) :=
  (p.history, p.key_states, p.key_press_counts, p.layer_pressed_counts, p.layer_total_counts)

theorem Counted.congr (h : Counted p) (heq : tally q = tally p) : Counted q := by
  simp only [tally, Prod.mk.injEq] at heq
  obtain ⟨hhistory, hstates, hpresses, hpressed, htotal⟩ := heq
  constructor
  · rw [hhistory]
    exact h.enabled
  · rw [hhistory, hstates]
    exact h.states
  · rw [hhistory, hpresses]
    exact h.presses
  · rw [hhistory, hpressed]
    exact h.pressed
  · rw [htotal]
    exact h.total
  · rw [hhistory]
    exact h.seen
  · rw [hhistory]
    exact h.unseen

theorem Counted.button_color (h : Counted p) (i : KeyIndex) :
    p.button_color i = colour_of i (p.history.count (.triggered i)) := by
  unfold KeyboardPage.button_color colour_of
  rw [h.states, h.presses]
  by_cases hi : .triggered i ∈ p.history
  · have hcount := List.count_pos_iff.2 hi
    rw [if_pos hi, if_neg hcount.ne']
  · rw [if_neg hi, if_pos (List.count_eq_zero.2 hi)]

/-! ## A key is triggered -/

/-- What `press_key` and `count_press` make of a page on which a key was triggered. -/
structure Pressed (i : KeyIndex) (p q : KeyboardPage) : Prop where
  counted : Counted q
  history : q.history = .triggered i :: p.history ∨
    q.history = .key_input_seen :: .triggered i :: p.history
  same : q.active_layer = p.active_layer ∧ q.auto_advance_timer = p.auto_advance_timer ∧
    q.layer_built = p.layer_built ∧ q.key_buttons = p.key_buttons ∧
    q.confirm_action = p.confirm_action ∧ q.left = p.left

theorem count_press_presses {c : KeyIndex → ℕ}
    (h : ∀ j, p.key_press_counts j = min K_PRESS_COUNT_MAX (c j)) (i : KeyIndex) :
    ∃ counts, p.count_press i = { p with key_press_counts := counts } ∧
      ∀ j, counts j = min K_PRESS_COUNT_MAX (if j = i then c j + 1 else c j) := by
  unfold KeyboardPage.count_press
  have hi := h i
  split_ifs with hless
  · refine ⟨_, rfl, fun j => ?_⟩
    by_cases hne : j = i
    · subst hne
      rw [Function.update_self, if_pos rfl]
      omega
    · rw [Function.update_of_ne hne, if_neg hne]
      exact h j
  · refine ⟨_, rfl, fun j => ?_⟩
    rw [h]
    split_ifs with hne
    · subst hne
      omega
    · rfl

/-- The key was triggered before. -/
theorem pressed_again (h : Counted p) (hi : .triggered i ∈ p.history) :
    Pressed i p ((KeyboardPage.press_key { p with
      history := .triggered i :: p.history } i).count_press i) := by
  have hmem : ∀ j, .triggered j ∈ KeyboardObs.triggered i :: p.history ↔
      .triggered j ∈ p.history := by
    intro j
    simp only [List.mem_cons, KeyboardObs.triggered.injEq, or_iff_right_iff_imp]
    rintro rfl
    exact hi
  have hstate : p.key_states i = .PRESSED := by rw [h.states, if_pos hi]
  unfold KeyboardPage.press_key
  rw [if_pos hstate]
  obtain ⟨counts, hcounts, hpresses⟩ := count_press_presses
    (p := { p with history := .triggered i :: p.history }) h.presses i
  rw [hcounts]
  refine ⟨⟨?_, ?_, ?_, ?_, h.total, ?_, ?_⟩, .inl rfl, rfl, rfl, rfl, rfl, rfl, rfl⟩
  · intro j hj
    exact h.enabled j ((hmem j).1 hj)
  · intro j
    simp only [hmem]
    exact h.states j
  · intro j
    refine (hpresses j).trans ?_
    rw [List.count_cons]
    by_cases hne : j = i
    · simp [hne]
    · simp [hne, Ne.symm hne]
  · intro layer
    simp only [triggered_keys, hmem]
    exact h.pressed layer
  · intro _
    rw [List.count_cons_of_ne (by simp)]
    exact h.seen ⟨i, hi⟩
  · intro hnone
    exact absurd List.mem_cons_self (hnone i)

/-- One more key of its layer is triggered. -/
theorem card_triggered_keys {before : List KeyboardObs} (hi : .triggered i ∉ before)
    (hmem : ∀ j, .triggered j ∈ history ↔ j = i ∨ .triggered j ∈ before) :
    (triggered_keys layer history).card =
      if layer = (key_spec i).layer then (triggered_keys layer before).card + 1
      else (triggered_keys layer before).card := by
  split_ifs with hlayer
  · have hinsert : triggered_keys layer history = insert i (triggered_keys layer before) := by
      ext j
      simp only [triggered_keys, Finset.mem_filter_univ, Finset.mem_insert, hmem]
      constructor
      · rintro ⟨hj, rfl | hmem⟩
        · exact .inl rfl
        · exact .inr ⟨hj, hmem⟩
      · rintro (rfl | ⟨hj, hmem⟩)
        · exact ⟨hlayer.symm, .inl rfl⟩
        · exact ⟨hj, .inr hmem⟩
    have hnotin : i ∉ triggered_keys layer before := by simp [triggered_keys, hi]
    rw [hinsert, Finset.card_insert_of_notMem hnotin]
  · have hsame : triggered_keys layer history = triggered_keys layer before := by
      ext j
      simp only [triggered_keys, Finset.mem_filter_univ, hmem]
      constructor
      · rintro ⟨hj, rfl | hmem⟩
        · exact absurd hj.symm hlayer
        · exact ⟨hj, hmem⟩
      · exact fun hj => ⟨hj.1, .inr hj.2⟩
    rw [hsame]

/-- A key that was not pressed is pressed and counts for its layer, and the first key of all is
recorded. -/
theorem press_key_first (h : Counted p) (hi : .triggered i ∉ p.history)
    (hcounted : is_counted_key (key_spec i) = true) :
    ∃ history,
      KeyboardPage.press_key { p with history := .triggered i :: p.history } i =
        { p with
          history
          key_states := Function.update p.key_states i .PRESSED
          layer_pressed_counts := Function.update p.layer_pressed_counts (key_spec i).layer
            (p.layer_pressed_counts (key_spec i).layer + 1) } ∧
      (history = .triggered i :: p.history ∨
        history = .key_input_seen :: .triggered i :: p.history) ∧
      history.count .key_input_seen = 1 := by
  have hstate : p.key_states i ≠ .PRESSED := by simp [h.states, hi]
  have hfirst := h.first_key_iff
  have hsame : KeyboardPage.first_key { p with history := .triggered i :: p.history } =
      p.first_key := rfl
  unfold KeyboardPage.press_key
  rw [if_neg hstate]
  dsimp only
  rw [if_pos hcounted, hsame]
  split_ifs with hnone
  · refine ⟨_, rfl, .inr rfl, ?_⟩
    rw [List.count_cons_self, List.count_cons_of_ne (by simp), h.unseen (hfirst.1 hnone)]
  · refine ⟨_, rfl, .inl rfl, ?_⟩
    rw [List.count_cons_of_ne (by simp)]
    apply h.seen
    by_contra hnot
    exact hnone (hfirst.2 fun j hj => hnot ⟨j, hj⟩)

/-- The key is triggered for the first time. -/
theorem pressed_first (h : Counted p) (hi : .triggered i ∉ p.history)
    (hcounted : is_counted_key (key_spec i) = true) :
    Pressed i p ((KeyboardPage.press_key { p with
      history := .triggered i :: p.history } i).count_press i) := by
  obtain ⟨history, hpress, hhistory, hseen⟩ := press_key_first h hi hcounted
  have hmem : ∀ j, .triggered j ∈ history ↔ j = i ∨ .triggered j ∈ p.history := by
    intro j
    rcases hhistory with rfl | rfl <;> simp
  have hcount : ∀ j, history.count (.triggered j) =
      if j = i then p.history.count (.triggered j) + 1 else p.history.count (.triggered j) := by
    intro j
    by_cases hne : j = i
    · rcases hhistory with rfl | rfl <;> simp [hne]
    · rcases hhistory with rfl | rfl <;> simp [hne, Ne.symm hne]
  rw [hpress]
  obtain ⟨counts, hcounts, hpresses⟩ := count_press_presses (p := { p with
      history
      key_states := Function.update p.key_states i .PRESSED
      layer_pressed_counts := Function.update p.layer_pressed_counts (key_spec i).layer
        (p.layer_pressed_counts (key_spec i).layer + 1) }) h.presses i
  rw [hcounts]
  refine ⟨⟨?_, ?_, ?_, ?_, h.total, fun _ => hseen, ?_⟩, hhistory, rfl, rfl, rfl, rfl, rfl, rfl⟩
  · intro j hj
    rcases (hmem j).1 hj with rfl | hj
    · exact hcounted
    · exact h.enabled j hj
  · intro j
    by_cases hne : j = i
    · simp [hmem, hne]
    · simp [hmem, hne, h.states]
  · intro j
    refine (hpresses j).trans ?_
    rw [hcount]
  · intro layer
    rw [card_triggered_keys hi hmem, ← h.pressed layer]
    split_ifs with hlayer
    · rw [hlayer]
      exact Function.update_self ..
    · exact Function.update_of_ne hlayer _ _
  · intro hnone
    exact absurd ((hmem i).2 (.inl rfl)) (hnone i)

/-- A layer with nothing left to count is complete. -/
theorem Counted.complete (h : Counted p)
    (hcounts : p.layer_total_counts layer ≤ p.layer_pressed_counts layer) :
    Complete layer p.history := by
  rw [h.total, h.pressed] at hcounts
  have hsubset : triggered_keys layer p.history ⊆ layer_keys layer := by
    intro i hi
    simp only [triggered_keys, layer_keys, Finset.mem_filter_univ] at hi ⊢
    exact ⟨hi.1, h.enabled i hi.2⟩
  intro i hi
  rw [← Finset.eq_of_subset_of_card_le hsubset hcounts] at hi
  simp only [triggered_keys, Finset.mem_filter_univ] at hi
  exact hi.2

theorem Complete.mono {history' : List KeyboardObs} (h : Complete layer history)
    (hsubset : history ⊆ history') : Complete layer history' :=
  fun i hi => hsubset (h i hi)

/-- What is observed besides is no advance. -/
theorem Scheduled.cons {obs : KeyboardObs} (h : Scheduled p)
    (hobs : ∀ source, obs ≠ .auto_advanced source) :
    Scheduled { p with history := obs :: p.history } := by
  constructor
  · intro source hsource
    obtain ⟨hne, hcomplete⟩ := h.timer source hsource
    exact ⟨hne, hcomplete.mono (List.subset_cons_self ..)⟩
  · intro source earlier hsuffix
    rcases List.suffix_cons_iff.1 hsuffix with heq | hsuffix
    · exact absurd (List.cons.inj heq).1.symm (hobs source)
    · exact h.advanced source earlier hsuffix

theorem Pressed.scheduled (h : Pressed i p q) (hscheduled : Scheduled p) : Scheduled q := by
  obtain ⟨-, htimer, -⟩ := h.same
  have hlater : ∀ history, q.history = history → Scheduled { p with history } → Scheduled q := by
    rintro history rfl ⟨htimer', hadvanced⟩
    exact ⟨fun source hsource => htimer' source (htimer ▸ hsource), hadvanced⟩
  rcases h.history with hhistory | hhistory
  · exact hlater _ hhistory (hscheduled.cons (by simp))
  · exact hlater _ hhistory ((hscheduled.cons (by simp)).cons (by simp))

theorem Pressed.count (h : Pressed i p q) (hne : j ≠ i) :
    q.history.count (.triggered j) = p.history.count (.triggered j) := by
  rcases h.history with hhistory | hhistory <;> rw [hhistory] <;> simp [Ne.symm hne]

/-- A key is triggered. -/
theorem KeyboardExact.trigger (h : KeyboardExact p)
    (hcounted : is_counted_key (key_spec i) = true) : KeyboardExact (p.trigger i) := by
  have hpressed : Pressed i p ((KeyboardPage.press_key { p with
      history := .triggered i :: p.history } i).count_press i) := by
    by_cases hi : .triggered i ∈ p.history
    · exact pressed_again h.counted hi
    · exact pressed_first h.counted hi hcounted
  unfold KeyboardPage.trigger
  dsimp only
  generalize (KeyboardPage.press_key { p with history := .triggered i :: p.history } i).count_press
    i = q at hpressed
  have hscheduled := hpressed.scheduled h.scheduled
  obtain ⟨hactive, -, hbuilt, hbuttons, hconfirm, hleft⟩ := hpressed.same
  obtain ⟨buttons, hupdate, hdrawn⟩ : ∃ buttons,
      q.update_button_state_ i = { q with key_buttons := buttons } ∧
        Coloured { q with key_buttons := buttons } := by
    have hothers : ∀ j ≠ i, q.key_buttons j =
        if q.layer_built (key_spec j).layer then
          some (colour_of j (q.history.count (.triggered j)))
        else none := by
      intro j hne
      rw [hbuttons, hbuilt, hpressed.count hne]
      exact h.displayed.buttons j
    have hi := h.displayed.buttons i
    rw [← hbuttons, ← hbuilt] at hi
    unfold KeyboardPage.update_button_state_
    cases hlayer : q.layer_built (key_spec i).layer with
    | false =>
      rw [hlayer, if_neg Bool.false_ne_true] at hi
      rw [if_pos (by simp [hi])]
      refine ⟨q.key_buttons, rfl, fun j => ?_⟩
      by_cases hne : j = i
      · subst hne
        rw [hlayer, if_neg Bool.false_ne_true, hi]
      · exact hothers j hne
    | true =>
      rw [hlayer, if_pos rfl] at hi
      rw [if_neg (by simp [hi])]
      refine ⟨_, rfl, fun j => ?_⟩
      dsimp only
      by_cases hne : j = i
      · subst hne
        rw [Function.update_self, hlayer, if_pos rfl, hpressed.counted.button_color]
      · rw [Function.update_of_ne hne]
        exact hothers j hne
  rw [hupdate]
  have hcounted' := hpressed.counted
  have hdisplayed :
      Displayed (KeyboardPage.update_progress_ { q with key_buttons := buttons }) := by
    refine ⟨rfl, fun hq => ?_, fun hq hsym => ?_, ?_, hdrawn⟩
    · exact hactive.trans (h.displayed.confirm (hconfirm.symm.trans hq))
    · exact hconfirm.trans (h.displayed.offered (hleft.symm.trans hq) (hactive.symm.trans hsym))
    · exact (congrFun hbuilt _).trans (hactive ▸ h.displayed.built)
  have hsame : Counted (KeyboardPage.update_progress_ { q with key_buttons := buttons }) :=
    hcounted'.congr rfl
  split_ifs with hcomplete
  · simp only [Bool.and_eq_true, decide_eq_true_eq] at hcomplete
    unfold KeyboardPage.schedule_auto_advance_
    split_ifs with hlast
    · exact ⟨hsame, hdisplayed, ⟨hscheduled.timer, hscheduled.advanced⟩⟩
    · simp only [Bool.or_eq_true, decide_eq_true_eq, not_or] at hlast
      refine ⟨hsame.congr rfl, ⟨rfl, hdisplayed.confirm, hdisplayed.offered, hdisplayed.built,
          hdisplayed.buttons⟩,
        ?_, hscheduled.advanced⟩
      rintro source ⟨⟩
      refine ⟨fun hsym => hlast.1 ?_, hcounted'.complete hcomplete.2⟩
      rw [hsym]
      rfl
  · exact ⟨hsame, hdisplayed, ⟨hscheduled.timer, hscheduled.advanced⟩⟩

/-! ## Layers -/

theorem build_layer_spec (h : Counted p) (hbuttons : Coloured p) (layer : KeyLayer) :
    ∃ buttons built,
      p.build_layer_ layer = { p with key_buttons := buttons, layer_built := built } ∧
      built layer = true ∧ Coloured { p with key_buttons := buttons, layer_built := built } := by
  unfold KeyboardPage.build_layer_
  split_ifs with hbuilt
  · exact ⟨_, _, rfl, hbuilt, hbuttons⟩
  · refine ⟨_, _, rfl, Function.update_self .., fun i => ?_⟩
    change (if (key_spec i).layer = layer then some (p.button_color i) else p.key_buttons i) =
      if Function.update p.layer_built layer true (key_spec i).layer = true then
        some (colour_of i (p.history.count (.triggered i))) else none
    by_cases hlayer : (key_spec i).layer = layer
    · rw [if_pos hlayer, hlayer, Function.update_self, if_pos rfl, h.button_color]
    · rw [if_neg hlayer, Function.update_of_ne hlayer]
      exact hbuttons i

/-- The page shows a layer. -/
theorem KeyboardExact.transition_to_ (h : Counted p) (hscheduled : Scheduled p)
    (hbuttons : Coloured p) (layer : KeyLayer) : KeyboardExact (p.transition_to_ layer) := by
  let u := KeyboardPage.update_nav_actions_ (KeyboardPage.update_progress_
    { p with auto_advance_timer := none, active_layer := layer })
  have hcounted : Counted u := h.congr rfl
  obtain ⟨buttons, built, hbuild, hlayer, hdrawn⟩ := build_layer_spec hcounted hbuttons layer
  unfold KeyboardPage.transition_to_
  rw [hbuild]
  refine ⟨h.congr rfl, ⟨rfl, of_decide_eq_true, fun _ => decide_eq_true, hlayer, hdrawn⟩, ?_,
    hscheduled.advanced⟩
  rintro source ⟨⟩

theorem KeyboardExact.sync_active_tile_ (h : KeyboardExact p) (layer : KeyLayer) :
    KeyboardExact (p.sync_active_tile_ layer) := by
  have hcounted : Counted { p with active_layer := layer } := h.counted.congr rfl
  obtain ⟨buttons, built, hbuild, hlayer, hdrawn⟩ :=
    build_layer_spec hcounted h.displayed.buttons layer
  unfold KeyboardPage.sync_active_tile_
  rw [hbuild]
  exact ⟨h.counted.congr rfl, ⟨rfl, of_decide_eq_true, fun _ => decide_eq_true, hlayer, hdrawn⟩,
    ⟨h.scheduled.timer, h.scheduled.advanced⟩⟩

theorem KeyboardExact.auto_advance_timer_cb (h : KeyboardExact p) :
    KeyboardExact p.auto_advance_timer_cb := by
  unfold KeyboardPage.auto_advance_timer_cb
  cases htimer : p.auto_advance_timer with
  | none => exact h
  | some source =>
    dsimp only
    split_ifs with hactive
    · refine ⟨h.counted.congr rfl, ⟨h.displayed.progress, h.displayed.confirm, h.displayed.offered,
        h.displayed.built, h.displayed.buttons⟩, ?_, h.scheduled.advanced⟩
      rintro source ⟨⟩
    · have hcounted : Counted { p with history := .auto_advanced source :: p.history } :=
        h.counted.same (by simp) (by simp)
      apply KeyboardExact.transition_to_
      · exact hcounted.congr rfl
      · refine ⟨fun source hsource => (nomatch hsource), fun source' earlier hsuffix => ?_⟩
        rcases List.suffix_cons_iff.1 hsuffix with heq | hsuffix
        · cases heq
          exact h.scheduled.timer source htimer
        · exact h.scheduled.advanced source' earlier hsuffix
      · intro i
        rw [List.count_cons_of_ne (by simp)]
        exact h.displayed.buttons i

/-! ## Runs -/

/-- The dialog is nothing to the keys. -/
theorem KeyboardExact.with_screen (h : KeyboardExact p) (screen : BaseScreen) :
    KeyboardExact { p with screen } :=
  ⟨h.counted.congr rfl, ⟨h.displayed.progress, h.displayed.confirm, h.displayed.offered,
    h.displayed.built, h.displayed.buttons⟩, ⟨h.scheduled.timer, h.scheduled.advanced⟩⟩

theorem KeyboardExact.leave (h : KeyboardExact p) : KeyboardExact p.leave :=
  ⟨h.counted.congr rfl, ⟨h.displayed.progress, fun hconfirm => (nomatch hconfirm),
    fun hleft => (nomatch hleft), h.displayed.built, h.displayed.buttons⟩,
    ⟨h.scheduled.timer, h.scheduled.advanced⟩⟩

theorem KeyboardExact.mark_key_pressed_ (h : KeyboardExact p) (k : Key) :
    KeyboardExact (p.mark_key_pressed_ k) := by
  unfold KeyboardPage.mark_key_pressed_
  cases hmatching : matching_key k with
  | none => exact h
  | some i => exact h.trigger (matching_key_counted hmatching)

theorem KeyboardExact.key_listener (h : KeyboardExact p) (k : Key) (answers : SessionAnswers) :
    KeyboardExact (p.key_listener k answers) := by
  unfold KeyboardPage.key_listener
  generalize p.screen.handle_test_result_dialog_key_ k answers = handled
  have hscreen := h.with_screen handled.1
  dsimp only
  by_cases hleaves : handled.2.2.any Call.leaves = true
  · rw [if_pos hleaves]
    split_ifs
    · exact hscreen.leave
    · exact hscreen.leave.mark_key_pressed_ k
  · rw [if_neg hleaves]
    split_ifs
    · exact hscreen
    · exact hscreen.mark_key_pressed_ k

theorem KeyboardExact.step (h : KeyboardExact p) (event : KeyboardEvent) :
    KeyboardExact (p.step event) := by
  unfold KeyboardPage.step
  by_cases hdestroyed : p.destroyed = true
  · rw [if_pos hdestroyed]
    exact h
  · rw [if_neg hdestroyed]
    cases event with
    | key k answers => exact h.key_listener k answers
    | long_key k =>
      dsimp only
      unfold KeyboardPage.long_key_listener
      split_ifs
      · exact .transition_to_ h.counted h.scheduled h.displayed.buttons _
      · exact h
    | confirm =>
      dsimp only
      split_ifs
      · exact h.with_screen _
      · exact h
    | back => exact (h.with_screen _).leave
    | tile_scroll_end layer => exact h.sync_active_tile_ layer
    | auto_advance_timer => exact h.auto_advance_timer_cb
    | destroyed =>
      exact ⟨h.counted.congr rfl, ⟨h.displayed.progress, h.displayed.confirm, h.displayed.offered,
        h.displayed.built, h.displayed.buttons⟩, ⟨h.scheduled.timer, h.scheduled.advanced⟩⟩

theorem build_content_exact (screen : BaseScreen) :
    KeyboardExact (KeyboardPage.build_content screen) := by
  let first : KeyboardPage := { screen, layer_total_counts := KeyboardPage.total_counts }
  have hnone : ∀ layer, triggered_keys layer [] = ∅ := by
    intro layer
    simp [triggered_keys]
  have hcounted : Counted first.update_progress_ := by
    refine ⟨fun _ hi => (nomatch hi), fun _ => rfl, fun _ => rfl, fun layer => ?_,
      total_counts_eq, fun ⟨_, hi⟩ => (nomatch hi), fun _ => rfl⟩
    exact (congrArg Finset.card (hnone layer)).symm
  obtain ⟨buttons, built, hbuild, -, hdrawn⟩ :=
    build_layer_spec hcounted (fun _ => rfl) .STANDARD_KEY
  unfold KeyboardPage.build_content
  dsimp only
  rw [hbuild]
  apply KeyboardExact.transition_to_
  · exact hcounted.congr rfl
  · refine ⟨fun source hsource => (nomatch hsource), fun source earlier hsuffix => ?_⟩
    exact absurd (List.eq_nil_of_suffix_nil hsuffix) (List.cons_ne_nil _ _)
  · exact hdrawn

/-- Only `press_key` adds to what is remembered of a key. -/
theorem history_trigger (p : KeyboardPage) (i : KeyIndex) : (p.trigger i).history =
    (KeyboardPage.press_key { p with history := .triggered i :: p.history } i).history := by
  have hcount : ∀ q : KeyboardPage, (q.count_press i).history = q.history := by
    intro q
    unfold KeyboardPage.count_press
    split_ifs <;> rfl
  have hbutton : ∀ q : KeyboardPage, (q.update_button_state_ i).history = q.history := by
    intro q
    unfold KeyboardPage.update_button_state_
    split_ifs <;> rfl
  have hschedule : ∀ (q : KeyboardPage) layer,
      (q.schedule_auto_advance_ layer).history = q.history := by
    intro q layer
    unfold KeyboardPage.schedule_auto_advance_
    split_ifs <;> rfl
  refine Eq.trans ?_ ((hbutton _).trans (hcount _))
  unfold KeyboardPage.trigger
  dsimp only
  split_ifs
  · exact hschedule _ _
  · rfl

theorem history_press_key (h : Counted p) (hcounted : is_counted_key (key_spec i) = true) :
    (KeyboardPage.press_key { p with history := .triggered i :: p.history } i).history =
      if ∃ j, .triggered j ∈ p.history then .triggered i :: p.history
      else .key_input_seen :: .triggered i :: p.history := by
  have hfirst : p.first_key = true ↔ ¬ ∃ j, .triggered j ∈ p.history := by
    rw [h.first_key_iff, not_exists]
  have hsame : KeyboardPage.first_key { p with history := .triggered i :: p.history } =
      p.first_key := rfl
  unfold KeyboardPage.press_key
  dsimp only
  rw [hsame]
  by_cases hi : .triggered i ∈ p.history
  · rw [if_pos (by rw [h.states, if_pos hi]), if_pos ⟨i, hi⟩]
  · rw [if_neg (by simp [h.states, hi]), if_pos hcounted]
    by_cases hany : ∃ j, .triggered j ∈ p.history
    · rw [if_pos hany, if_neg fun hnone => hfirst.1 hnone hany]
    · rw [if_neg hany, if_pos (hfirst.2 hany)]

/-- What is remembered tells what is counted. -/
theorem triggers_of_history {q : KeyboardPage} (hp : Counted p) (hq : Counted q)
    (h : q.history = if ∃ j, .triggered j ∈ p.history then .triggered i :: p.history
      else .key_input_seen :: .triggered i :: p.history) : Triggers i p q := by
  have hmem : ∀ j, .triggered j ∈ q.history ↔ j = i ∨ .triggered j ∈ p.history := by
    intro j
    rw [h]
    split_ifs <;> simp
  have hcount : ∀ j, q.history.count (.triggered j) =
      if j = i then p.history.count (.triggered j) + 1 else p.history.count (.triggered j) := by
    intro j
    rw [h]
    by_cases hne : j = i
    · split_ifs <;> simp [hne]
    · rw [if_neg hne]
      split_ifs <;> simp [Ne.symm hne]
  refine ⟨h, fun j => ?_, fun j => ?_⟩
  · rw [hq.states, hp.states]
    by_cases hne : j = i <;> simp [hmem, hne]
  · rw [hq.presses, hp.presses, hcount]
    split_ifs
    · omega
    · rfl

/-- A tested key that is typed by its name is triggered, unless a dialog is in the way. -/
theorem step_name (h : KeyboardExact p) (hpage : p.destroyed = false)
    (hdialog : p.screen.test_result_dialog = none)
    (hcounted : is_counted_key (key_spec i) = true) (answers : SessionAnswers) :
    Triggers i p (p.step (.key ⟨0, some (key_spec i).key_match⟩ answers)) := by
  refine triggers_of_history h.counted (h.step _).counted ?_
  have hstep : p.step (.key ⟨0, some (key_spec i).key_match⟩ answers) = p.trigger i := by
    unfold KeyboardPage.step
    rw [hpage, if_neg Bool.false_ne_true]
    dsimp only
    unfold KeyboardPage.key_listener BaseScreen.handle_test_result_dialog_key_
    rw [hdialog]
    dsimp only
    rw [if_neg Bool.false_ne_true, List.any_nil, if_neg Bool.false_ne_true]
    unfold KeyboardPage.mark_key_pressed_
    rw [matching_key_name hcounted]
  rw [hstep, history_trigger]
  exact history_press_key h.counted hcounted

/-- What the page counts and shows of its keys is what happened to them, and every key can be
triggered alone. -/
theorem keyboard_exact (screen : BaseScreen) (events : List KeyboardEvent) :
    let p := (KeyboardPage.build_content screen).run events
    KeyboardExact p ∧
      (p.destroyed = false → p.screen.test_result_dialog = none → ∀ i answers,
        is_counted_key (key_spec i) = true →
          Triggers i p (p.step (.key ⟨0, some (key_spec i).key_match⟩ answers))) := by
  have hrun : ∀ p, KeyboardExact p → KeyboardExact (KeyboardPage.run p events) := by
    induction events with
    | nil => exact fun _ h => h
    | cons event events ih => exact fun p h => ih (p.step event) (h.step event)
  have hexact := hrun _ (build_content_exact screen)
  exact ⟨hexact, fun hpage hdialog i answers hcounted =>
    step_name hexact hpage hdialog hcounted answers⟩

/-- The first key, on a page that was left before it is destroyed. -/
theorem keyboard_exact_left :
    let i : KeyIndex := ⟨0, List.length_pos_iff.2 (List.cons_ne_nil _ _)⟩
    let p := (KeyboardPage.build_content ⟨true, none, false, ⟨.CARDPUTER_ZERO, false, 0⟩⟩).run
      [.back]
    p.left = true ∧ Triggers i p (p.step (.key ⟨0, some (key_spec i).key_match⟩ ⟨true, true⟩)) :=
  ⟨rfl, (keyboard_exact ⟨true, none, false, ⟨.CARDPUTER_ZERO, false, 0⟩⟩ [.back]).2 rfl rfl _ _ rfl⟩

end FactoryTest.View
