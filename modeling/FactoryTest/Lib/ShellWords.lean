import Mathlib.Data.List.Basic

/-!
# Words of a shell command

How a POSIX shell cuts a command into words and `&&`, for commands without expansions: what may
be expanded, redirected or run in another way is not read at all. What a word means where it stands,
as an assignment, a reserved word or an alias, comes after that and is left out. A command is a C
string, so there is no NUL in it.

**Quoting** (`quote`). Single quotes around a text, and `'\''` for every quote in it. Whatever the
text is, a quoted text is read back as that text and nothing else (`read_quote`).

**Plain texts** (`Plain`). A text that needs no quotes. What is neither plain nor quoted is not read
back, if it has nothing in it that ends a word (`read_not_plain`).
-/

namespace FactoryTest

/-- How a symbol is read that is not quoted. -/
inductive ShellRole
  | ordinary
  | blank
  | quote
  | backslash
  | ampersand
  /-- At the beginning of a word it is not read: a comment, or a home directory. -/
  | leading
  /-- It is not read outside of quotes. -/
  | special
  | newline
  deriving DecidableEq

/-- What the symbols of a shell are. -/
structure Shell (α : Type) where
  role : α → ShellRole
  quote : α
  backslash : α
  role_eq_quote : ∀ {c}, role c = .quote ↔ c = quote
  role_backslash : role backslash = .backslash

/-- What a command consists of. -/
inductive ShellToken (α : Type)
  | word (text : List α)
  | and_if
  deriving DecidableEq

/-- Where a reader is, with the beginning of the word that it is in. -/
inductive ShellState (α : Type)
  | between
  | word (text : List α)
  | quoted (text : List α)
  | escaped (text : List α)
  | ampersand
  deriving DecidableEq

namespace Shell

variable {α : Type} [DecidableEq α] (S : Shell α)

/-- The tokens that end with a symbol, and where the reader is then. -/
def next : ShellState α → α → Option (List (ShellToken α) × ShellState α)
  | .between, c =>
    match S.role c with
    | .ordinary => some ([], .word [c])
    | .blank => some ([], .between)
    | .quote => some ([], .quoted [])
    | .backslash => some ([], .escaped [])
    | .ampersand => some ([], .ampersand)
    | .leading | .special | .newline => none
  | .word text, c =>
    match S.role c with
    | .ordinary | .leading => some ([], .word (text ++ [c]))
    | .blank => some ([.word text], .between)
    | .quote => some ([], .quoted text)
    | .backslash => some ([], .escaped text)
    | .ampersand => some ([.word text], .ampersand)
    | .special | .newline => none
  | .quoted text, c => some ([], if c = S.quote then .word text else .quoted (text ++ [c]))
  | .escaped text, c => if S.role c = .newline then none else some ([], .word (text ++ [c]))
  | .ampersand, c => if S.role c = .ampersand then some ([.and_if], .between) else none

/-- The token that ends with the command. -/
def finish : ShellState α → Option (List (ShellToken α))
  | .between => some []
  | .word text => some [.word text]
  | .quoted _ | .escaped _ | .ampersand => none

/-- The rest of a command. -/
def read : ShellState α → List α → Option (List (ShellToken α))
  | s, [] => finish s
  | s, c :: cs => (S.next s c).bind fun (tokens, s') => (read s' cs).map (tokens ++ ·)

/-- A symbol between quotes; a quote itself stands outside of them. -/
def quoteSymbol (c : α) : List α :=
  if c = S.quote then [S.quote, S.backslash, S.quote, S.quote] else [c]

/-- A text in quotes. -/
def quoteText (text : List α) : List α := S.quote :: text.flatMap S.quoteSymbol ++ [S.quote]

/-- A text that is read as one word as it is. -/
def Plain (text : List α) : Prop :=
  (∃ c cs, text = c :: cs ∧ S.role c = .ordinary) ∧
    ∀ c ∈ text, S.role c = .ordinary ∨ S.role c = .leading

variable {S} {text rest : List α} {c : α} {s : ShellState α}

/-! ## Reading -/

theorem read_cons {tokens : List (ShellToken α)} {s' : ShellState α}
    (h : S.next s c = some (tokens, s')) :
    S.read s (c :: rest) = (S.read s' rest).map (tokens ++ ·) := by
  rw [read, h]
  rfl

theorem read_silent (s' : ShellState α) (h : S.next s c = some ([], s')) :
    S.read s (c :: rest) = S.read s' rest := by
  rw [read_cons h]
  exact Option.map_id'

theorem read_stuck (h : S.next s c = none) : S.read s (c :: rest) = none := by
  rw [read, h]
  rfl

/-- A word ends with a blank. -/
theorem read_word_blank (hc : S.role c = .blank) :
    S.read (.word text) (c :: rest) = (S.read .between rest).map ([.word text] ++ ·) :=
  read_cons (by simp [next, hc])

/-! ## Quotes -/

theorem next_quoted (hc : c ≠ S.quote) :
    S.next (.quoted text) c = some ([], .quoted (text ++ [c])) := by
  rw [next, if_neg hc]

omit [DecidableEq α] in
theorem role_quote : S.role S.quote = .quote := S.role_eq_quote.2 rfl

/-- What is written for one symbol stands for that symbol. -/
theorem read_quoteSymbol :
    S.read (.quoted text) (S.quoteSymbol c ++ rest) = S.read (.quoted (text ++ [c])) rest := by
  unfold quoteSymbol
  by_cases hc : c = S.quote
  · subst hc
    have hnewline : S.role S.quote ≠ .newline := by
      rw [role_quote]
      decide
    rw [if_pos rfl]
    show S.read _ (S.quote :: S.backslash :: S.quote :: S.quote :: rest) = _
    rw [read_silent (.word text) (by simp [next]),
      read_silent (.escaped text) (by simp [next, S.role_backslash]),
      read_silent (.word (text ++ [S.quote])) (by rw [next, if_neg hnewline]),
      read_silent (.quoted (text ++ [S.quote])) (by simp [next, role_quote])]
  · rw [if_neg hc]
    exact read_silent _ (next_quoted hc)

theorem read_quoted (later : List α) :
    S.read (.quoted text) (later.flatMap S.quoteSymbol ++ rest) =
      S.read (.quoted (text ++ later)) rest := by
  induction later generalizing text with
  | nil => rw [List.flatMap_nil, List.nil_append, List.append_nil]
  | cons c later ih =>
    rw [List.flatMap_cons, List.append_assoc, read_quoteSymbol, ih, List.append_assoc]
    rfl

/-- A text in quotes is read as the text. -/
theorem read_quote : S.read .between (S.quoteText text ++ rest) = S.read (.word text) rest := by
  have hopen : S.next .between S.quote = some ([], .quoted []) := by simp [next, role_quote]
  have hclose : S.next (.quoted text) S.quote = some ([], .word text) := by simp [next]
  rw [quoteText, List.append_assoc, List.cons_append, read_silent _ hopen, read_quoted]
  exact read_silent _ hclose

/-! ## Plain texts -/

theorem read_word_plain {later : List α}
    (hlater : ∀ c ∈ later, S.role c = .ordinary ∨ S.role c = .leading) :
    S.read (.word text) (later ++ rest) = S.read (.word (text ++ later)) rest := by
  induction later generalizing text with
  | nil => rw [List.nil_append, List.append_nil]
  | cons c later ih =>
    have hnext : S.next (.word text) c = some ([], .word (text ++ [c])) := by
      rcases hlater c (List.mem_cons_self ..) with h | h <;> simp [next, h]
    rw [List.cons_append, read_silent _ hnext, ih fun c hc => hlater c (List.mem_cons_of_mem _ hc),
      List.append_assoc]
    rfl

theorem read_plain (h : S.Plain text) :
    S.read .between (text ++ rest) = S.read (.word text) rest := by
  obtain ⟨⟨c, cs, rfl, hc⟩, hall⟩ := h
  rw [List.cons_append, read_silent (.word [c]) (by simp [next, hc])]
  exact read_word_plain fun c hc => hall c (List.mem_cons_of_mem _ hc)

/-- Inside of a word, something special is not read. -/
theorem read_word_special {later : List α} (hspecial : ∃ c ∈ later, S.role c = .special)
    (hlater : ∀ c ∈ later, S.role c = .ordinary ∨ S.role c = .leading ∨ S.role c = .special) :
    S.read (.word text) (later ++ rest) = none := by
  induction later generalizing text with
  | nil => exact absurd hspecial (by simp)
  | cons c later ih =>
    have hrest := fun c hc => hlater c (List.mem_cons_of_mem _ hc)
    rw [List.cons_append]
    by_cases hc : S.role c = .special
    · exact read_stuck (by simp [next, hc])
    · have hnext : S.next (.word text) c = some ([], .word (text ++ [c])) := by
        rcases hlater c (List.mem_cons_self ..) with h | h | h
        · simp [next, h]
        · simp [next, h]
        · exact absurd h hc
      obtain ⟨c', hmem, hc'⟩ := hspecial
      rcases List.mem_cons.1 hmem with rfl | hmem
      · exact absurd hc' hc
      · rw [read_silent _ hnext]
        exact ih ⟨c', hmem, hc'⟩ hrest

/-- A text that is not plain is not read, if nothing in it ends a word. -/
theorem read_not_plain (hne : text ≠ []) (h : ¬ S.Plain text)
    (hall : ∀ c ∈ text, S.role c = .ordinary ∨ S.role c = .leading ∨ S.role c = .special) :
    S.read .between (text ++ rest) = none := by
  obtain ⟨c, cs, rfl⟩ := List.exists_cons_of_ne_nil hne
  have hcs := fun c hc => hall c (List.mem_cons_of_mem _ hc)
  rw [List.cons_append]
  rcases hall c (List.mem_cons_self ..) with hc | hc | hc
  · rw [read_silent (.word [c]) (by simp [next, hc])]
    refine read_word_special ?_ hcs
    by_contra hnone
    refine h ⟨⟨c, cs, rfl, hc⟩, fun c' hmem => ?_⟩
    rcases List.mem_cons.1 hmem with rfl | hmem
    · exact .inl hc
    · rcases hcs c' hmem with h' | h' | h'
      · exact .inl h'
      · exact .inr h'
      · exact absurd ⟨c', hmem, h'⟩ hnone
  · exact read_stuck (by simp [next, hc])
  · exact read_stuck (by simp [next, hc])

/-! ## Words -/

/-- What is written for a word is read as the word, whatever follows it. -/
def Stands (S : Shell α) (written text : List α) : Prop :=
  ∀ rest, S.read .between (written ++ rest) = S.read (.word text) rest

theorem stands_quoteText (text : List α) : S.Stands (S.quoteText text) text := fun _ => read_quote

theorem Plain.stands (h : S.Plain text) : S.Stands text text := fun _ => read_plain h

theorem Stands.last {written : List α} (h : S.Stands written text) :
    S.read .between written = some [.word text] := by
  have hread := h []
  rwa [List.append_nil] at hread

theorem Stands.blank {written : List α} (h : S.Stands written text) (hc : S.role c = .blank) :
    S.read .between (written ++ c :: rest) = (S.read .between rest).map ([.word text] ++ ·) := by
  rw [h, read_word_blank hc]

/-- `&&` between blanks. -/
theorem read_and_if {a b : α} (ha : S.role a = .ampersand) (hb : S.role b = .blank) :
    S.read .between (a :: a :: b :: rest) = (S.read .between rest).map ([.and_if] ++ ·) := by
  have hfirst : S.next .between a = some ([], .ampersand) := by simp [next, ha]
  have hsecond : S.next .ampersand a = some ([.and_if], .between) := by simp [next, ha]
  have hblank : S.next .between b = some ([], .between) := by simp [next, hb]
  rw [read_silent _ hfirst, read_cons hsecond, read_silent _ hblank]

end Shell

/-! ## Bytes -/

/-- How `sh` reads a byte: the white space, the quotes, `&`, then `#` and `~`, then `"`, `$`, the
backtick, `|`, `;`, `<`, `>`, the parentheses, `*`, `?` and `[`. -/
def shRole (c : UInt8) : ShellRole :=
  if c = 32 ∨ c = 9 then .blank
  else if c = 10 then .newline
  else if c = 39 then .quote
  else if c = 92 then .backslash
  else if c = 38 then .ampersand
  else if c = 35 ∨ c = 126 then .leading
  else if c ∈ [0, 34, 36, 96, 124, 59, 60, 62, 40, 41, 42, 63, 91] then .special
  else .ordinary

/-- The shell `sh`, as far as words go. -/
def sh : Shell UInt8 where
  role := shRole
  quote := 39
  backslash := 92
  role_eq_quote := by
    intro c
    constructor
    · intro h
      unfold shRole at h
      split_ifs at h
      assumption
    · rintro rfl
      rfl
  role_backslash := rfl

end FactoryTest
