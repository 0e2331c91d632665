import CimSchema.Text.StringLiteral
import Mathlib.Tactic.SplitIfs

/-!
# Reading back what stands between quotes

Both ways to write a text between the double quotes of a literal are read back. They differ in the
characters that end a line: one way writes them with a backslash, the other leaves them as they are.

## Main definitions

* `Text.OneLine` - no character ends a line.

## Main results

* `Text.unescapeList_escapeList`, `Text.unescapeList_flatMap_escapeQuoteChar` - what is written is
  read back.
* `Text.oneLine_escapeList` - a text with all five escapes lies on one line.
* `Text.oneLine_flatMap_escapeQuoteChar_iff` - a text with two escapes lies on one line if it did so
  before.
-/

namespace CimSchema.Text

variable {c : Char} {cs : List Char} {written : Char → List Char}

/-! ### Reading back -/

theorem unescapeList_cons (hslash : c ≠ '\\') (hquote : c ≠ '"') (cs : List Char) :
    unescapeList (c :: cs) = (unescapeList cs).map (c :: ·) := by
  rw [unescapeList] <;> simp [hslash, hquote]

theorem unescapeList_escapeChar (c : Char) (cs : List Char) :
    unescapeList (escapeChar c ++ cs) = (unescapeList cs).map (c :: ·) := by
  by_cases hslash : c = '\\'
  · subst hslash; rfl
  by_cases hquote : c = '"'
  · subst hquote; rfl
  by_cases hfeed : c = '\n'
  · subst hfeed; rfl
  by_cases hreturn : c = '\r'
  · subst hreturn; rfl
  by_cases htab : c = '\t'
  · subst htab; rfl
  rw [escapeChar, if_neg hslash, if_neg hquote, if_neg hfeed, if_neg hreturn, if_neg htab,
    List.singleton_append, unescapeList_cons hslash hquote]

theorem unescapeList_escapeQuoteChar (c : Char) (cs : List Char) :
    unescapeList (escapeQuoteChar c ++ cs) = (unescapeList cs).map (c :: ·) := by
  by_cases hslash : c = '\\'
  · subst hslash; rfl
  by_cases hquote : c = '"'
  · subst hquote; rfl
  rw [escapeQuoteChar, if_neg hslash, if_neg hquote, List.singleton_append,
    unescapeList_cons hslash hquote]

/-- A text is read back if each of its characters is. -/
theorem unescapeList_flatMap
    (h : ∀ c cs, unescapeList (written c ++ cs) = (unescapeList cs).map (c :: ·))
    (cs : List Char) : unescapeList (cs.flatMap written) = some cs := by
  induction cs with
  | nil => rfl
  | cons c cs ih => rw [List.flatMap_cons, h, ih, Option.map_some]

theorem unescapeList_escapeList (cs : List Char) : unescapeList (escapeList cs) = some cs :=
  unescapeList_flatMap unescapeList_escapeChar cs

theorem unescapeList_flatMap_escapeQuoteChar (cs : List Char) :
    unescapeList (cs.flatMap escapeQuoteChar) = some cs :=
  unescapeList_flatMap unescapeList_escapeQuoteChar cs

/-! ### Lines -/

/-- The characters that end a line of source code. -/
def isLineBreak (c : Char) : Bool :=
  c == '\n' || c == '\r'

/-- No character of `cs` ends a line. -/
def OneLine (cs : List Char) : Prop :=
  ∀ c ∈ cs, isLineBreak c = false

instance (cs : List Char) : Decidable (OneLine cs) :=
  List.decidableBAll (fun c => isLineBreak c = false) cs

/-- The quotes of a literal end no line. -/
theorem oneLine_quoted_iff (cs : List Char) : OneLine ('"' :: (cs ++ ['"'])) ↔ OneLine cs := by
  simp [OneLine, isLineBreak, or_imp, forall_and]

theorem oneLine_escapeChar (c : Char) : OneLine (escapeChar c) := by
  unfold escapeChar
  split_ifs with hslash hquote hfeed hreturn htab
  any_goals decide
  simp [OneLine, isLineBreak, hfeed, hreturn]

theorem oneLine_escapeQuoteChar_iff (c : Char) :
    OneLine (escapeQuoteChar c) ↔ isLineBreak c = false := by
  unfold escapeQuoteChar
  split_ifs with hslash hquote
  · subst hslash; decide
  · subst hquote; decide
  · simp [OneLine]

theorem oneLine_flatMap_iff (written : Char → List Char) (cs : List Char) :
    OneLine (cs.flatMap written) ↔ ∀ c ∈ cs, OneLine (written c) := by
  simp only [OneLine, List.mem_flatMap]
  constructor
  · intro h c hc d hd
    exact h d ⟨c, hc, hd⟩
  · rintro h d ⟨c, hc, hd⟩
    exact h c hc d hd

/-- A text with all five escapes lies on one line. -/
theorem oneLine_escapeList (cs : List Char) : OneLine (escapeList cs) :=
  (oneLine_flatMap_iff escapeChar cs).2 fun c _ => oneLine_escapeChar c

/-- A text with the escapes of the backslash and the quote alone lies on one line if it did so
before. -/
theorem oneLine_flatMap_escapeQuoteChar_iff (cs : List Char) :
    OneLine (cs.flatMap escapeQuoteChar) ↔ OneLine cs := by
  rw [oneLine_flatMap_iff]
  exact forall₂_congr fun c _ => oneLine_escapeQuoteChar_iff c

end CimSchema.Text
