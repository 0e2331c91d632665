import CimSchema.Proofs.Text.Wrap
import Mathlib.Data.List.Chain

/-!
# Greedily filled lines

Filled lines are described without the way they are made: they have the words in their order, with
single spaces between, no line is too long unless it is a single word, and no line ends where the
next word would still fit. Only one list of lines is so.

## Main definitions

* `Text.IsLine` - a line of words that is not too long.
* `Text.Fills` - lines that are filled greedily with some words.

## Main results

* `Text.fills_fillLines` - lines are filled by putting one word after the other.
* `Text.Fills.eq_wrapWords` - no other lines are filled so.
* `Text.fills_iff_eq_wrap` - the lines of a text.
-/

namespace CimSchema.Text

variable {width : Nat} {line word : String} {ws lines : List String}

/-- A line of words with single spaces between, at most `width` bytes long unless it is a single
word. -/
structure IsLine (width : Nat) (line : String) : Prop where
  ne_empty : line ≠ ""
  spaced : " ".intercalate (words line) = line
  fits : line.utf8ByteSize ≤ width ∨ (words line).length = 1

/-- Lines that are filled greedily with the words `ws`. -/
structure Fills (width : Nat) (ws lines : List String) : Prop where
  /-- The lines have the words, in their order. -/
  words : lines.flatMap words = ws
  isLine : ∀ line ∈ lines, IsLine width line
  /-- The first word of a line would not have fitted on the line before. -/
  full : lines.IsChain fun line next =>
    ∃ word rest, Text.words next = word :: rest ∧ width < (line ++ " " ++ word).utf8ByteSize

/-! ### One more word -/

theorem words_empty : words "" = [] := rfl

theorem IsLine.words_ne_nil (h : IsLine width line) : words line ≠ [] := by
  intro hnil
  have hspaced := h.spaced
  rw [hnil] at hspaced
  exact h.ne_empty hspaced.symm

/-- A single word is a line, however long it is. -/
theorem isLine_of_word (h : words word = [word]) : IsLine width word where
  ne_empty := by
    rintro rfl
    rw [words_empty] at h
    cases h
  spaced := by rw [h, String.intercalate_singleton]
  fits := .inr (by rw [h, List.length_singleton])

theorem IsLine.append (h : IsLine width line) (hword : words word = [word])
    (hfits : (line ++ " " ++ word).utf8ByteSize ≤ width) : IsLine width (line ++ " " ++ word) where
  ne_empty := by
    intro hempty
    have hlength := congrArg String.utf8ByteSize hempty
    simp [String.utf8ByteSize_append] at hlength
  spaced := by
    rw [words_append_space, hword, String.intercalate_append_of_ne_nil h.words_ne_nil, h.spaced,
      String.intercalate_singleton]
    exact List.cons_ne_nil word []
  fits := .inl hfits

theorem utf8ByteSize_append_space (line word : String) :
    (line ++ " " ++ word).utf8ByteSize = line.utf8ByteSize + 1 + word.utf8ByteSize := by
  rw [String.utf8ByteSize_append, String.utf8ByteSize_append]
  rfl

/-- The words of the open line stand at the start of the first line. -/
theorem exists_fillLines_eq_cons (width : Nat) (line : String) (ws : List String)
    (h : ∀ word ∈ ws, words word = [word]) :
    ∃ first rest more,
      fillLines width line ws = first :: rest ∧ words first = words line ++ more := by
  induction ws generalizing line with
  | nil => exact ⟨line, [], [], rfl, (List.append_nil _).symm⟩
  | cons word ws ih =>
    obtain ⟨hword, hws⟩ := List.forall_mem_cons.1 h
    rw [fillLines]
    split
    · obtain ⟨first, rest, more, heq, hwords⟩ := ih (line ++ " " ++ word) hws
      rw [words_append_space, hword, List.append_assoc] at hwords
      exact ⟨first, rest, word :: more, heq, hwords⟩
    · exact ⟨line, _, [], rfl, (List.append_nil _).symm⟩

theorem fills_fillLines (hline : IsLine width line) (h : ∀ word ∈ ws, words word = [word]) :
    Fills width (words line ++ ws) (fillLines width line ws) where
  words := flatMap_words_fillLines width line h
  isLine := by
    induction ws generalizing line with
    | nil => simpa [fillLines] using hline
    | cons word ws ih =>
      obtain ⟨hword, hws⟩ := List.forall_mem_cons.1 h
      rw [fillLines]
      split
      · rename_i hfits
        rw [← utf8ByteSize_append_space] at hfits
        exact ih (hline.append hword hfits) hws
      · exact List.forall_mem_cons.2 ⟨hline, ih (isLine_of_word hword) hws⟩
  full := by
    clear hline
    induction ws generalizing line with
    | nil => exact .singleton line
    | cons word ws ih =>
      obtain ⟨hword, hws⟩ := List.forall_mem_cons.1 h
      rw [fillLines]
      split
      · exact ih hws
      · rename_i hfits
        have hrest : (fillLines width word ws).IsChain _ := ih hws
        obtain ⟨first, rest, more, heq, hwords⟩ := exists_fillLines_eq_cons width word ws hws
        rw [heq] at hrest ⊢
        rw [hword, List.singleton_append] at hwords
        refine List.isChain_cons_cons.2 ⟨⟨word, more, hwords, ?_⟩, hrest⟩
        rw [utf8ByteSize_append_space]
        omega

/-- Words are filled into lines greedily. -/
theorem fills_wrapWords (h : ∀ word ∈ ws, words word = [word]) :
    Fills width ws (wrapWords width ws) := by
  cases ws with
  | nil => exact ⟨rfl, nofun, .nil⟩
  | cons word ws =>
    obtain ⟨hword, hws⟩ := List.forall_mem_cons.1 h
    have hfills := fills_fillLines (isLine_of_word hword : IsLine width word) hws
    rwa [hword, List.singleton_append] at hfills

/-! ### No other lines -/

/-- The first two of some words may be put together beforehand. -/
theorem intercalate_append_space_cons (line word : String) (ws : List String) :
    " ".intercalate ((line ++ " " ++ word) :: ws) = " ".intercalate (line :: word :: ws) := by
  cases ws with
  | nil => simp [String.intercalate_cons_cons]
  | cons next ws => simp only [String.intercalate_cons_cons, String.append_assoc]

theorem utf8ByteSize_le_intercalate (line : String) (ws : List String) :
    line.utf8ByteSize ≤ (" ".intercalate (line :: ws)).utf8ByteSize := by
  cases ws with
  | nil => rw [String.intercalate_singleton]
  | cons word ws =>
    rw [String.intercalate_cons_cons, String.utf8ByteSize_append, String.utf8ByteSize_append]
    omega

/-- Words that fit together on a line are put on it. -/
theorem fillLines_append {more : List String}
    (h : (" ".intercalate (line :: more)).utf8ByteSize ≤ width ∨ more = []) (ws : List String) :
    fillLines width line (more ++ ws) = fillLines width (" ".intercalate (line :: more)) ws := by
  induction more generalizing line with
  | nil => rw [List.nil_append, String.intercalate_singleton]
  | cons word more ih =>
    rw [or_iff_left (List.cons_ne_nil word more), ← intercalate_append_space_cons] at h
    have hfits := (utf8ByteSize_le_intercalate _ more).trans h
    rw [utf8ByteSize_append_space] at hfits
    rw [List.cons_append, fillLines, if_pos hfits, ih (.inl h), intercalate_append_space_cons]

/-- Greedily filled lines are the ones that are made by putting one word after the other. -/
theorem Fills.eq_wrapWords (h : Fills width ws lines) : lines = wrapWords width ws := by
  induction lines generalizing ws with
  | nil =>
    rw [← h.words]
    rfl
  | cons line rest ih =>
    obtain ⟨hline, hlines⟩ := List.forall_mem_cons.1 h.isLine
    obtain ⟨word, more, hwords⟩ := List.exists_cons_of_ne_nil hline.words_ne_nil
    have hspaced : " ".intercalate (word :: more) = line := by rw [← hwords, hline.spaced]
    have hfits : (" ".intercalate (word :: more)).utf8ByteSize ≤ width ∨ more = [] := by
      rw [hspaced]
      refine hline.fits.imp_right fun hone => ?_
      rw [hwords] at hone
      exact List.eq_nil_of_length_eq_zero (Nat.succ.inj hone)
    have hrest := ih ⟨rfl, hlines, h.full.of_cons⟩
    rw [← h.words, List.flatMap_cons, hwords, List.cons_append, wrapWords, fillLines_append hfits,
      hspaced]
    cases rest with
    | nil => rfl
    | cons next rest =>
      -- The first word of the next line does not fit, and opens a line of its own.
      obtain ⟨⟨first, behind, hnext, hwide⟩, -⟩ := List.isChain_cons_cons.1 h.full
      rw [utf8ByteSize_append_space] at hwide
      rw [List.flatMap_cons, hnext, List.cons_append] at hrest ⊢
      rw [fillLines, if_neg (Nat.not_le.2 hwide), hrest, wrapWords]

/-- The lines of a text are its words, filled greedily into lines; and no other lines are so. -/
theorem fills_iff_eq_wrap (width : Nat) (text : String) (lines : List String) :
    Fills width (words text) lines ↔ lines = wrap width text := by
  constructor
  · exact Fills.eq_wrapWords
  · rintro rfl
    exact fills_wrapWords fun _ => words_of_mem_words

end CimSchema.Text
