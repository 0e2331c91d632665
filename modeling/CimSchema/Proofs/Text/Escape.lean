import CimSchema.Proofs.Text.Replace
import CimSchema.Proofs.Text.StringLiteral
import Mathlib.Data.List.DropRight

/-!
# What stands between the quotes of a literal

A written text may stand between double quotes if no quote in it and no backslash at its end closes
the literal at the wrong place. Whether a quote does so depends on the backslashes in front of it:
each pair of them is one backslash of the text, so that a quote behind an odd number is escaped.

## Main definitions

* `Text.slashes` - the number of backslashes at the end of a text.
* `Text.InQuotes` - a written text that may stand between quotes, and what it stands for.
* `Text.escapeInSteps` - the five escapes, put in one after the other.

## Main results

* `Text.inQuotes_escapeList` - an escaped text may stand between quotes, and stands for the text.
* `Text.escape_injective` - two texts are never written alike.
* `Text.escapeInSteps_eq` - no step writes again what an earlier one has written.
-/

namespace CimSchema.Text

variable {c d : Char} {cs : List Char}

/-! ### One replacement after the other -/

/-- What a single character becomes where each `c` is replaced. -/
def replaceChar (c : Char) (new : List Char) (d : Char) : List Char :=
  if d = c then new else [d]

/-- A place of one character never reaches over another place. -/
theorem replaceFrom_singleton (c : Char) (new cs : List Char) :
    replaceFrom [c] new 0 cs = cs.flatMap (replaceChar c new) := by
  induction cs with
  | nil => rfl
  | cons d cs ih =>
    rw [List.flatMap_cons, replaceChar, ← ih]
    split
    · rename_i heq
      subst heq
      exact replaceFrom_append_self (List.cons_ne_nil d []) new cs
    · rename_i hne
      exact replaceFrom_cons_of_not_starts (not_starts_of_ne rfl (Ne.symm hne))

/-- The five escapes of `escape`, put in one after the other: the backslash first, so that the
backslashes of the later steps stay as they are. -/
def escapeInSteps (s : String) : String :=
  replace "\t" "\\t" (replace "\r" "\\r" (replace "\n" "\\n"
    (replace "\"" "\\\"" (replace "\\" "\\\\" s))))

/-- The later steps find nothing to do in what an earlier one has written. -/
theorem flatMap_replaceChar (c : Char) :
    ((((replaceChar '\\' ['\\', '\\'] c).flatMap (replaceChar '"' ['\\', '"'])).flatMap
      (replaceChar '\n' ['\\', 'n'])).flatMap (replaceChar '\r' ['\\', 'r'])).flatMap
        (replaceChar '\t' ['\\', 't']) = escapeChar c := by
  unfold escapeChar
  split_ifs with hslash hquote hfeed hreturn htab
  · subst hslash; decide
  · subst hquote; decide
  · subst hfeed; decide
  · subst hreturn; decide
  · subst htab; decide
  · simp [replaceChar, hslash, hquote, hfeed, hreturn, htab]

/-- No step writes again what an earlier one has written: the five replacements are one pass over
the characters. -/
theorem escapeInSteps_eq (s : String) : escapeInSteps s = escape s := by
  have hstep (c : Char) (new s : String) :
      replace (String.singleton c) new s =
        String.ofList (s.toList.flatMap (replaceChar c new.toList)) := by
    rw [replace, String.toList_singleton, replaceFrom_singleton]
  change replace (String.singleton '\t') "\\t" (replace (String.singleton '\r') "\\r"
    (replace (String.singleton '\n') "\\n" (replace (String.singleton '"') "\\\""
      (replace (String.singleton '\\') "\\\\" s)))) = escape s
  simp only [hstep, String.toList_ofList, List.flatMap_assoc]
  rw [escape, escapeList]
  refine congrArg String.ofList (List.flatMap_congr fun c _ => ?_)
  rw [← flatMap_replaceChar]
  simp only [List.flatMap_assoc]
  rfl

/-! ### Quotes that close a literal -/

/-- The number of backslashes at the end of a text. -/
def slashes (cs : List Char) : Nat :=
  (cs.rtakeWhile (· == '\\')).length

theorem slashes_concat_slash (cs : List Char) : slashes (cs ++ ['\\']) = slashes cs + 1 := by
  simp [slashes]

theorem slashes_concat_of_ne (h : c ≠ '\\') (cs : List Char) : slashes (cs ++ [c]) = 0 := by
  simp [slashes, h]

/-- `written` may stand between double quotes and stands for `text`. -/
structure InQuotes (written text : List Char) : Prop where
  /-- No line ends in it. -/
  oneLine : OneLine written
  tab_not_mem : '\t' ∉ written
  /-- Each quote in it is escaped. -/
  quotes : ∀ before after, written = before ++ '"' :: after → slashes before % 2 = 1
  /-- It does not escape the quote behind it. -/
  ending : slashes written % 2 = 0
  /-- It is read back. -/
  reads : unescapeList written = some text

/-- A character is written behind a backslash, or as it is. -/
theorem escapeChar_cases (c : Char) :
    (∃ d ∈ ['\\', '"', 'n', 'r', 't'], escapeChar c = ['\\', d]) ∨
      escapeChar c = [c] ∧ c ∉ ['\\', '"', '\n', '\r', '\t'] := by
  unfold escapeChar
  split_ifs with hslash hquote hfeed hreturn htab
  · exact .inl ⟨'\\', by simp, rfl⟩
  · exact .inl ⟨'"', by simp, rfl⟩
  · exact .inl ⟨'n', by simp, rfl⟩
  · exact .inl ⟨'r', by simp, rfl⟩
  · exact .inl ⟨'t', by simp, rfl⟩
  · exact .inr ⟨rfl, by simp [hslash, hquote, hfeed, hreturn, htab]⟩

/-- No written character leaves a single backslash at the end. -/
theorem slashes_append_escapeChar (h : slashes cs % 2 = 0) (c : Char) :
    slashes (cs ++ escapeChar c) % 2 = 0 := by
  rcases escapeChar_cases c with ⟨d, -, heq⟩ | ⟨heq, hplain⟩
  · rw [heq, List.append_cons]
    by_cases hd : d = '\\'
    · rw [hd, slashes_concat_slash, slashes_concat_slash]
      omega
    · rw [slashes_concat_of_ne hd]
  · rw [heq, slashes_concat_of_ne]
    rintro rfl
    exact hplain List.mem_cons_self

theorem slashes_escapeList (cs : List Char) : slashes (escapeList cs) % 2 = 0 := by
  induction cs using List.reverseRecOn with
  | nil => rfl
  | append_singleton cs c ih =>
    rw [escapeList, List.flatMap_append, List.flatMap_singleton]
    exact slashes_append_escapeChar ih c

/-- A quote in a written character stands behind a backslash. -/
theorem eq_of_escapeChar_eq {before after : List Char} (h : escapeChar c = before ++ '"' :: after) :
    before = ['\\'] := by
  rcases escapeChar_cases c with ⟨d, -, heq⟩ | ⟨heq, hplain⟩
  · rw [heq, List.cons_eq_append_iff] at h
    rcases h with ⟨-, hquote⟩ | ⟨front, rfl, hd⟩
    · cases hquote
    · rw [List.cons_eq_append_iff] at hd
      rcases hd with ⟨rfl, -⟩ | ⟨rest, -, hnil⟩
      · rfl
      · cases (List.append_eq_nil_iff.1 hnil.symm).2
  · rw [heq, List.cons_eq_append_iff] at h
    rcases h with ⟨-, hquote⟩ | ⟨rest, -, hnil⟩
    · obtain ⟨rfl, -⟩ := List.cons.inj hquote
      simp at hplain
    · cases (List.append_eq_nil_iff.1 hnil.symm).2

/-- Each quote of an escaped text has an odd number of backslashes in front. -/
theorem slashes_of_escapeList_eq {before after : List Char}
    (h : escapeList cs = before ++ '"' :: after) : slashes before % 2 = 1 := by
  induction cs using List.reverseRecOn generalizing after with
  | nil => simp [escapeList] at h
  | append_singleton cs c ih =>
    rw [escapeList, List.flatMap_append, List.flatMap_singleton] at h
    rcases List.append_eq_append_iff.1 h with ⟨front, rfl, hc⟩ | ⟨rest, hcs, hafter⟩
    · -- The quote is in the last written character.
      obtain rfl := eq_of_escapeChar_eq hc
      have heven := slashes_escapeList cs
      rw [escapeList] at heven
      rw [slashes_concat_slash]
      omega
    · cases rest with
      | nil =>
        have hnil : [] = ['\\'] := eq_of_escapeChar_eq hafter.symm
        cases hnil
      | cons d rest =>
        obtain ⟨rfl, -⟩ := List.cons.inj hafter
        exact ih hcs

/-- An escaped text may stand between quotes, and stands for the text. -/
theorem inQuotes_escapeList (cs : List Char) : InQuotes (escapeList cs) cs where
  oneLine := oneLine_escapeList cs
  tab_not_mem hmem := by
    obtain ⟨c, -, hc⟩ := List.mem_flatMap.1 hmem
    rcases escapeChar_cases c with ⟨d, hd, heq⟩ | ⟨heq, hplain⟩
    · rw [heq] at hc
      -- The letter behind the backslash is no tab.
      rcases List.mem_cons.1 hc with hslash | htab
      · cases hslash
      · rw [← List.mem_singleton.1 htab] at hd
        simp at hd
    · rw [heq, List.mem_singleton] at hc
      subst hc
      simp at hplain
  quotes _ _ := slashes_of_escapeList_eq
  ending := slashes_escapeList cs
  reads := unescapeList_escapeList cs

theorem escape_injective : Function.Injective escape := by
  intro s t h
  have hlist : escapeList s.toList = escapeList t.toList := String.ofList_injective h
  have hread := unescapeList_escapeList s.toList
  rw [hlist, unescapeList_escapeList, Option.some_inj, String.toList_inj] at hread
  exact hread.symm

end CimSchema.Text
