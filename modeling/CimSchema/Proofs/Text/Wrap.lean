import CimSchema.Proofs.Text.Words
import CimSchema.Text.Wrap

/-!
# The words of filled lines

Filling lines moves words from one line to the next and changes none of them. So what has no blank
stands in a text exactly if it stands in one of its lines.

## Main results

* `Text.flatMap_words_wrap` - the lines of a text have its words, in their order.
* `Text.exists_mem_wrap_iff` - what has no blank stands in a line if it stands in the text.
-/

namespace CimSchema.Text

variable {text : String}

/-- A word is the only word of itself. -/
theorem words_of_mem_words {word : String} (h : word ∈ words text) : words word = [word] := by
  obtain ⟨w, hw, rfl⟩ := List.mem_map.1 h
  rw [words, String.toList_ofList, wordsList_of_isWord (isWord_of_mem_wordsList hw),
    List.map_singleton]

theorem words_append_space (s t : String) : words (s ++ " " ++ t) = words s ++ words t := by
  have hchars : (s ++ " " ++ t).toList = s.toList ++ ' ' :: t.toList := by simp
  rw [words, hchars, wordsList_append_cons (by decide), List.map_append, words, words]

/-- A word that is put on a line or opens the next one stays the word that it is. -/
theorem flatMap_words_fillLines (width : Nat) (line : String) {ws : List String}
    (h : ∀ word ∈ ws, words word = [word]) :
    (fillLines width line ws).flatMap words = words line ++ ws := by
  induction ws generalizing line with
  | nil => simp [fillLines]
  | cons word ws ih =>
    obtain ⟨hword, hws⟩ := List.forall_mem_cons.1 h
    rw [fillLines]
    split
    · rw [ih _ hws, words_append_space, hword, List.append_assoc, List.singleton_append]
    · rw [List.flatMap_cons, ih _ hws, hword, List.singleton_append]

/-- The lines of a text have its words, in their order. -/
theorem flatMap_words_wrap (width : Nat) (text : String) :
    (wrap width text).flatMap words = words text := by
  have hwords : ∀ word ∈ words text, words word = [word] := fun _ => words_of_mem_words
  rw [wrap]
  cases heq : words text with
  | nil => rfl
  | cons word ws =>
    rw [heq] at hwords
    obtain ⟨hword, hws⟩ := List.forall_mem_cons.1 hwords
    rw [wrapWords, flatMap_words_fillLines width word hws, hword, List.singleton_append]

/-- What has no blank stands in one of the lines of a text if it stands in the text. -/
theorem exists_mem_wrap_iff {part : List Char} (hpart : IsWord part) (width : Nat) (text : String) :
    (∃ line ∈ wrap width text, part <:+: line.toList) ↔ part <:+: text.toList := by
  rw [infix_iff_exists_mem_words hpart, ← flatMap_words_wrap width text]
  constructor
  · rintro ⟨line, hline, hstands⟩
    obtain ⟨word, hword, hpart⟩ := (infix_iff_exists_mem_words hpart).1 hstands
    exact ⟨word, List.mem_flatMap.2 ⟨line, hline, hword⟩, hpart⟩
  · rintro ⟨word, hword, hstands⟩
    obtain ⟨line, hline, hword⟩ := List.mem_flatMap.1 hword
    exact ⟨line, hline, (infix_iff_exists_mem_words hpart).2 ⟨word, hword, hstands⟩⟩

end CimSchema.Text
