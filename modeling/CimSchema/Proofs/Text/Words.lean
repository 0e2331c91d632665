import CimSchema.Proofs.Text.Blank
import Mathlib.Data.List.Infix

/-!
# Words

A text is cut at its blanks. So the words of a text are found part by part, and a text without
blanks stands in another if it stands in one of its words.

## Main definitions

* `Text.IsWord` - a text that is a single word.

## Main results

* `Text.wordsList_append_cons` - a blank parts the words in front of it from those behind it.
* `Text.wordsList_of_isWord` - a single word.
* `Text.isWord_of_mem_wordsList` - words have no blanks.
* `Text.infix_iff_exists_word` - what has no blank is found in a single word.
* `Text.Pads.words_eq` - blanks at the ends of a text are in none of its words.
-/

namespace CimSchema.Text

variable {c d : Char} {cs w before after : List Char} {ws : List (List Char)}

/-- A text that is a single word. -/
structure IsWord (w : List Char) : Prop where
  ne_nil : w ≠ []
  not_isBlank : ∀ c ∈ w, isBlank c = false

theorem IsWord.not_mem (h : IsWord w) (hc : isBlank c = true) : c ∉ w := by
  intro hmem
  rw [h.not_isBlank c hmem] at hc
  cases hc

/-! ### One character at a time -/

@[simp]
theorem wordsList_nil : wordsList [] = [] := rfl

theorem wordsList_cons_of_blank (h : isBlank c = true) (cs : List Char) :
    wordsList (c :: cs) = wordsList cs := by
  rw [wordsList.eq_def]
  exact if_pos h

theorem wordsList_singleton (h : isBlank c = false) : wordsList [c] = [[c]] := by
  rw [wordsList.eq_def]
  exact if_neg (Bool.eq_false_iff.1 h)

theorem wordsList_cons_cons_of_blank (hc : isBlank c = false) (hd : isBlank d = true) :
    wordsList (c :: d :: cs) = [c] :: wordsList (d :: cs) := by
  rw [wordsList.eq_def]
  simp only [hc, hd, Bool.false_eq_true, if_false, if_true]

/-- A character in front of a word becomes part of it. -/
theorem wordsList_cons_cons (hc : isBlank c = false) (hd : isBlank d = false)
    (h : wordsList (d :: cs) = w :: ws) : wordsList (c :: d :: cs) = (c :: w) :: ws := by
  rw [wordsList.eq_def]
  simp only [hc, hd, h, Bool.false_eq_true, if_false]

theorem exists_wordsList_cons (h : isBlank c = false) (cs : List Char) :
    ∃ w ws, wordsList (c :: cs) = w :: ws := by
  induction cs generalizing c with
  | nil => exact ⟨_, _, wordsList_singleton h⟩
  | cons d cs ih =>
    cases hd : isBlank d with
    | true => exact ⟨_, _, wordsList_cons_cons_of_blank h hd⟩
    | false =>
      obtain ⟨w, ws, hws⟩ := ih hd
      exact ⟨_, _, wordsList_cons_cons h hd hws⟩

/-! ### Part by part -/

/-- A blank parts the words in front of it from those behind it. -/
theorem wordsList_append_cons (hc : isBlank c = true) (before after : List Char) :
    wordsList (before ++ c :: after) = wordsList before ++ wordsList after := by
  induction before with
  | nil => exact wordsList_cons_of_blank hc after
  | cons b before ih =>
    cases hb : isBlank b with
    | true =>
      rw [List.cons_append, wordsList_cons_of_blank hb, wordsList_cons_of_blank hb, ih]
    | false =>
      cases before with
      | nil =>
        rw [List.singleton_append, wordsList_cons_cons_of_blank hb hc,
          wordsList_cons_of_blank hc, wordsList_singleton hb, List.singleton_append]
      | cons d before =>
        cases hd : isBlank d with
        | true =>
          rw [List.cons_append, List.cons_append, wordsList_cons_cons_of_blank hb hd,
            wordsList_cons_cons_of_blank hb hd, ← List.cons_append, ih, List.cons_append]
        | false =>
          obtain ⟨w, ws, hws⟩ := exists_wordsList_cons hd before
          rw [hws] at ih
          rw [wordsList_cons_cons hb hd hws]
          exact wordsList_cons_cons hb hd ih

theorem wordsList_of_blank (h : ∀ c ∈ cs, isBlank c = true) : wordsList cs = [] := by
  induction cs with
  | nil => rfl
  | cons c cs ih =>
    obtain ⟨hc, hcs⟩ := List.forall_mem_cons.1 h
    rw [wordsList_cons_of_blank hc, ih hcs]

/-- A text without blanks is a single word. -/
theorem wordsList_of_isWord (h : IsWord w) : wordsList w = [w] := by
  obtain ⟨hne, hblank⟩ := h
  induction w with
  | nil => exact absurd rfl hne
  | cons c w ih =>
    obtain ⟨hc, hw⟩ := List.forall_mem_cons.1 hblank
    cases w with
    | nil => exact wordsList_singleton hc
    | cons d w =>
      exact wordsList_cons_cons hc (hw d List.mem_cons_self) (ih (List.cons_ne_nil d w) hw)

/-- What holds of texts without blanks, and of two texts with a blank between if it holds of both,
holds of all texts. -/
theorem blank_induction {motive : List Char → Prop}
    (noBlank : ∀ cs, (∀ c ∈ cs, isBlank c = false) → motive cs)
    (blank : ∀ before c after, isBlank c = true → motive before → motive after →
      motive (before ++ c :: after)) (cs : List Char) : motive cs := by
  induction hn : cs.length using Nat.strong_induction_on generalizing cs with
  | _ n ih =>
    by_cases hblank : ∃ c ∈ cs, isBlank c = true
    · obtain ⟨c, hc, hcblank⟩ := hblank
      obtain ⟨before, after, rfl⟩ := List.append_of_mem hc
      rw [List.length_append, List.length_cons] at hn
      exact blank before c after hcblank (ih _ (by omega) before rfl) (ih _ (by omega) after rfl)
    · refine noBlank cs fun c hc => Bool.eq_false_iff.2 fun hcblank => hblank ⟨c, hc, hcblank⟩

/-- Words have no blanks. -/
theorem isWord_of_mem_wordsList (h : w ∈ wordsList cs) : IsWord w := by
  induction cs using blank_induction with
  | noBlank cs hcs =>
    cases cs with
    | nil => cases h
    | cons c cs =>
      have hword : IsWord (c :: cs) := ⟨List.cons_ne_nil c cs, hcs⟩
      rw [wordsList_of_isWord hword, List.mem_singleton] at h
      exact h ▸ hword
  | blank before c after hc hbefore hafter =>
    rw [wordsList_append_cons hc, List.mem_append] at h
    exact h.elim hbefore hafter

/-- What does not have a character stands on one side of it. -/
theorem infix_append_cons_iff {part : List Char} (hne : part ≠ []) (hc : c ∉ part) :
    part <:+: before ++ c :: after ↔ part <:+: before ∨ part <:+: after := by
  constructor
  · intro h
    rcases List.infix_append_iff.1 h with h | h | ⟨front, back, rfl, hfront, hback⟩
    · exact .inl h
    · rcases List.infix_cons_iff.1 h with h | h
      · -- A text at the separator would start with it.
        obtain ⟨d, part, rfl⟩ := List.exists_cons_of_ne_nil hne
        obtain ⟨rfl, -⟩ := List.cons_prefix_cons.1 h
        exact absurd List.mem_cons_self hc
      · exact .inr h
    · cases back with
      | nil => exact .inl (by simpa using hfront.isInfix)
      | cons d back =>
        obtain ⟨rfl, -⟩ := List.cons_prefix_cons.1 hback
        exact absurd (List.mem_append_right front List.mem_cons_self) hc
  · rintro (h | h)
    · exact h.trans (List.prefix_append _ _).isInfix
    · exact h.trans ((List.suffix_cons c after).trans (List.suffix_append _ _)).isInfix

/-- What has no blank is found in a single word. -/
theorem infix_iff_exists_word {part : List Char} (hpart : IsWord part) :
    part <:+: cs ↔ ∃ w ∈ wordsList cs, part <:+: w := by
  induction cs using blank_induction with
  | noBlank cs hcs =>
    cases cs with
    | nil => simp [hpart.ne_nil]
    | cons c cs => simp [wordsList_of_isWord ⟨List.cons_ne_nil c cs, hcs⟩]
  | blank before c after hc hbefore hafter =>
    rw [infix_append_cons_iff hpart.ne_nil (hpart.not_mem hc), hbefore, hafter,
      wordsList_append_cons hc]
    simp only [List.mem_append, or_and_right, exists_or]

theorem infix_iff_exists_mem_words {part : List Char} (hpart : IsWord part) {s : String} :
    part <:+: s.toList ↔ ∃ word ∈ words s, part <:+: word.toList := by
  rw [infix_iff_exists_word hpart, words]
  simp

theorem IsWord.not_infix_of_blank {part : List Char} (hpart : IsWord part)
    (h : ∀ c ∈ cs, isBlank c = true) : ¬ part <:+: cs := by
  intro hstands
  obtain ⟨c, part, rfl⟩ := List.exists_cons_of_ne_nil hpart.ne_nil
  exact hpart.not_mem (h c (hstands.subset List.mem_cons_self)) List.mem_cons_self

/-- What has no blank does not reach over the end of a text that ends with a blank. -/
theorem IsWord.infix_append_iff {part : List Char} (hpart : IsWord part)
    (h : ∀ c ∈ before.getLast?, isBlank c = true) (after : List Char) :
    part <:+: before ++ after ↔ part <:+: before ∨ part <:+: after := by
  rcases List.eq_nil_or_concat' before with rfl | ⟨front, c, rfl⟩
  · have hnil : ¬ part <:+: [] := hpart.not_infix_of_blank nofun
    rw [List.nil_append, or_iff_right hnil]
  · have hc : c ∉ part := hpart.not_mem (h c (by simp))
    have hnil : ¬ part <:+: [] := hpart.not_infix_of_blank nofun
    rw [List.append_assoc, List.singleton_append, infix_append_cons_iff hpart.ne_nil hc,
      infix_append_cons_iff hpart.ne_nil hc, or_iff_left hnil]

/-! ### Blanks at the ends -/

theorem wordsList_append_of_blank (h : ∀ c ∈ after, isBlank c = true) (before : List Char) :
    wordsList (before ++ after) = wordsList before := by
  cases after with
  | nil => rw [List.append_nil]
  | cons c after =>
    obtain ⟨hc, hafter⟩ := List.forall_mem_cons.1 h
    rw [wordsList_append_cons hc, wordsList_of_blank hafter, List.append_nil]

theorem wordsList_of_blank_append (h : ∀ c ∈ before, isBlank c = true) (after : List Char) :
    wordsList (before ++ after) = wordsList after := by
  induction before with
  | nil => rfl
  | cons c before ih =>
    obtain ⟨hc, hbefore⟩ := List.forall_mem_cons.1 h
    rw [List.cons_append, wordsList_cons_of_blank hc, ih hbefore]

/-- Blanks at the ends of a text are in none of its words. -/
theorem Pads.words_eq {s t : String} (h : Pads s t) : words t = words s := by
  obtain ⟨lead, trail, heq, hlead, htrail⟩ := h
  rw [words, heq, wordsList_append_of_blank htrail, wordsList_of_blank_append hlead, words]

theorem Pads.collapse_eq {s t : String} (h : Pads s t) : collapse t = collapse s := by
  rw [collapse, h.words_eq, collapse]

end CimSchema.Text
