import FactoryTest.Lib.ShellWords
import FactoryTest.Process.Output

/-!
# The command line of a benchmark

`quote_arg` and `command_to_string` of `src/platform/cpu_benchmark_service.cpp`: the command of a
test as it is shown. An argument is only quoted if it has one of some characters in it.

**Theorem (`command_to_string_words`).** A shell cuts the text into the executable and its
arguments, with nothing in them left to expand, if and only if none of them is left unquoted
(`Bare`) and has something in it that the list of characters misses: a `?`, or a `#` or `~` at its
beginning.
-/

namespace FactoryTest.Performance

open Process

/-- `TestCommand`, as far as it is shown. -/
structure TestCommand where
  executable : Text
  args : List Text
  deriving DecidableEq

/-- The characters that `quote_arg` looks for: `" \t\n\"'\\$`!&|;<>()[]\x7b\x7d*"`. -/
def K_QUOTED : Text :=
  [32, 9, 10, 34, 39, 92, 36, 96, 33, 38, 124, 59, 60, 62, 40, 41, 91, 93, 123, 125, 42]

/-- `quote_arg`. -/
def quote_arg (arg : Text) : Text :=
  if arg = [] then [39, 39]
  else if arg.find? (· ∈ K_QUOTED) = none then arg
  else [39] ++ arg.flatMap (fun ch => if ch = 39 then [39, 92, 39, 39] else [ch]) ++ [39]

/-- `command_to_string`. -/
def command_to_string (command : TestCommand) : Text :=
  quote_arg command.executable ++ command.args.flatMap fun arg => 32 :: quote_arg arg

/-- The words of a command. -/
def TestCommand.words (command : TestCommand) : List Text := command.executable :: command.args

/-- The argument is shown as it is. -/
def Bare (arg : Text) : Prop := arg ≠ [] ∧ ∀ ch ∈ arg, ch ∉ K_QUOTED

/-- The argument has something in it that is not looked for. -/
def Missed (arg : Text) : Prop :=
  63 ∈ arg ∨ ∃ ch ∈ arg.head?, ch = 35 ∨ ch = 126

/-- The argument is shown as something that stands for it. -/
def Legible (arg : Text) : Prop := Bare arg → ¬ Missed arg

theorem bare_iff {arg : Text} : Bare arg ↔ arg ≠ [] ∧ arg.find? (· ∈ K_QUOTED) = none := by
  rw [Bare, List.find?_eq_none]
  simp only [decide_eq_true_eq]

instance (arg : Text) : Decidable (Bare arg) := decidable_of_iff' _ bare_iff

instance (arg : Text) : Decidable (Missed arg) := by
  unfold Missed
  infer_instance

instance (arg : Text) : Decidable (Legible arg) := by
  unfold Legible
  infer_instance

variable {arg : Text}

/-- What a character means that is not looked for. -/
structure Meaning (ch : UInt8) : Prop where
  special : sh.role ch = .special ↔ ch = 63
  leading : sh.role ch = .leading ↔ ch = 35 ∨ ch = 126
  word : sh.role ch = .ordinary ∨ sh.role ch = .leading ∨ sh.role ch = .special

theorem meaning_of_not_quoted {ch : UInt8} (h : ch ∉ K_QUOTED) (hnul : ch ≠ 0) : Meaning ch := by
  have hquoted : ∀ c ∈ K_QUOTED, ch ≠ c := fun c hc heq => h (heq ▸ hc)
  simp only [K_QUOTED, List.forall_mem_cons] at hquoted
  obtain ⟨hspace, htab, hline, hdouble, hquote, hslash, hdollar, htick, -, hand, hpipe, hsemicolon,
    hless, hgreater, hopen, hclose, hsquare, -, -, -, hstar, -⟩ := hquoted
  by_cases hleading : ch = 35 ∨ ch = 126
  · rcases hleading with rfl | rfl <;> exact ⟨by decide, by decide, by decide⟩
  · by_cases hmark : ch = 63
    · subst hmark
      exact ⟨by decide, by decide, by decide⟩
    · have hrole : sh.role ch = .ordinary := by
        show shRole ch = .ordinary
        simp [shRole, *]
      exact ⟨by simp [hrole, hmark], by simp [hrole, hleading], .inl hrole⟩

theorem Bare.meaning (h : Bare arg) (hnul : 0 ∉ arg) : ∀ c ∈ arg, Meaning c :=
  fun c hc => meaning_of_not_quoted (h.2 c hc) fun heq => hnul (heq ▸ hc)

theorem plain_iff (h : Bare arg) (hnul : 0 ∉ arg) : sh.Plain arg ↔ ¬ Missed arg := by
  have hmeaning := h.meaning hnul
  obtain ⟨first, rest, rfl⟩ := List.exists_cons_of_ne_nil h.1
  have hfirst := hmeaning first List.mem_cons_self
  have hhead : Missed (first :: rest) ↔ (∃ c ∈ first :: rest, sh.role c = .special) ∨
      sh.role first = .leading := by
    refine or_congr ⟨fun hmark => ⟨63, hmark, by decide⟩, ?_⟩ (by simp [hfirst.leading])
    rintro ⟨c, hc, hspecial⟩
    rwa [← (hmeaning c hc).special.1 hspecial]
  rw [hhead, not_or]
  constructor
  · rintro ⟨⟨c, cs, heq, hc⟩, hall⟩
    obtain ⟨rfl, rfl⟩ := List.cons.inj heq
    refine ⟨?_, by simp [hc]⟩
    rintro ⟨c, hmem, hspecial⟩
    rcases hall c hmem with h' | h' <;> exact absurd (h'.symm.trans hspecial) (by decide)
  · rintro ⟨hnone, hleading⟩
    have hword : ∀ c ∈ first :: rest, sh.role c = .ordinary ∨ sh.role c = .leading := by
      intro c hmem
      rcases (hmeaning c hmem).word with h' | h' | h'
      · exact .inl h'
      · exact .inr h'
      · exact absurd ⟨c, hmem, h'⟩ hnone
    refine ⟨⟨first, rest, rfl, ?_⟩, hword⟩
    exact (hword first List.mem_cons_self).resolve_right hleading

/-- An argument that is quoted stands for itself. -/
theorem stands_quote_arg (h : Legible arg) (hnul : 0 ∉ arg) :
    sh.Stands (quote_arg arg) arg := by
  unfold quote_arg
  split_ifs with hnil hbare
  · subst hnil
    exact sh.stands_quoteText []
  · have hbare := bare_iff.2 ⟨hnil, hbare⟩
    exact ((plain_iff hbare hnul).2 (h hbare)).stands
  · exact sh.stands_quoteText arg

/-- Nothing is read of what is not legible. -/
theorem read_not_legible (h : ¬ Legible arg) (hnul : 0 ∉ arg) (rest : Text) :
    sh.read .between (quote_arg arg ++ rest) = none := by
  obtain ⟨hbare, hmissed⟩ := Classical.not_imp.1 h
  rw [quote_arg, if_neg hbare.1, if_pos (bare_iff.1 hbare).2]
  refine Shell.read_not_plain hbare.1 (fun hplain => ?_) fun c hc => ?_
  · exact hmissed ((plain_iff hbare hnul).1 hplain)
  · exact (hbare.meaning hnul c hc).word

/-- What is read of arguments behind a word that stands for itself. -/
theorem read_args (args : List Text) (hnul : ∀ arg ∈ args, 0 ∉ arg) {written text : Text}
    (h : sh.Stands written text) :
    sh.read .between (written ++ args.flatMap fun arg => 32 :: quote_arg arg) =
      if ∀ arg ∈ args, Legible arg then some ((text :: args).map ShellToken.word) else none := by
  induction args generalizing written text with
  | nil =>
    rw [List.flatMap_nil, List.append_nil, if_pos fun _ hmem => absurd hmem List.not_mem_nil]
    exact h.last
  | cons arg args ih =>
    rw [List.forall_mem_cons] at hnul
    rw [List.flatMap_cons, List.cons_append, h.blank rfl]
    by_cases harg : Legible arg
    · rw [ih hnul.2 (stands_quote_arg harg hnul.1)]
      simp only [List.forall_mem_cons, harg, true_and]
      split_ifs <;> rfl
    · rw [read_not_legible harg hnul.1, if_neg fun hall => harg (hall arg List.mem_cons_self)]
      rfl

/-- The text is cut into the words of the command if all of them are legible; otherwise something in
it is left to expand, or begins a comment. -/
theorem command_to_string_words (command : TestCommand)
    (hnul : ∀ word ∈ command.words, 0 ∉ word) :
    sh.read .between (command_to_string command) =
      if ∀ word ∈ command.words, Legible word then some (command.words.map ShellToken.word)
      else none := by
  unfold TestCommand.words at hnul ⊢
  rw [List.forall_mem_cons] at hnul
  unfold command_to_string
  by_cases hexecutable : Legible command.executable
  · rw [read_args command.args hnul.2 (stands_quote_arg hexecutable hnul.1)]
    simp only [List.forall_mem_cons, hexecutable, true_and]
  · rw [read_not_legible hexecutable hnul.1,
      if_neg fun hall => hexecutable (hall _ List.mem_cons_self)]

/-- `echo 'it'\''s' ''` is cut into its words, and `ls a?` has something to expand. -/
theorem command_to_string_words_echo :
    sh.read .between (command_to_string ⟨[101, 99, 104, 111], [[105, 116, 39, 115], []]⟩) =
        some [.word [101, 99, 104, 111], .word [105, 116, 39, 115], .word []] ∧
      sh.read .between (command_to_string ⟨[108, 115], [[97, 63]]⟩) = none := by
  constructor
  · rw [command_to_string_words _ (by decide)]
    decide
  · rw [command_to_string_words _ (by decide)]
    decide

end FactoryTest.Performance
