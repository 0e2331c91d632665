import CimSchema.Text.Segment
import Mathlib.Data.List.Infix

/-!
# Texts that are cut

## Main results

* `Text.stripStart?_eq_some`, `Text.stripStart?_append` - a text that starts with another is put
  together again.
* `Text.splitLast?_eq_some`, `Text.afterLast_append` - a text is cut behind its last separator.
* `Text.cutAt?_eq_some_iff` - a text is cut at the first place of a character.
-/

namespace CimSchema.Text

theorem stripStart?_eq_some {start s rest : String} (h : stripStart? start s = some rest) :
    s = start ++ rest := by
  obtain ⟨chars, hchars, rfl⟩ := Option.map_eq_some_iff.1 h
  rw [← String.toList_inj]
  rw [List.isPrefixOf?_eq_some_iff_append_eq] at hchars
  simp [hchars]

/-- What was put in front of a text is taken off again. -/
theorem stripStart?_append (start rest : String) :
    stripStart? start (start ++ rest) = some rest := by
  have hchars : start.toList.isPrefixOf? (start ++ rest).toList = some rest.toList := by
    rw [List.isPrefixOf?_eq_some_iff_append_eq, String.toList_append]
  rw [stripStart?, hchars, Option.map_some, String.ofList_toList]

theorem splitLastList?_eq_none {sep cs : List Char} (h : ¬ sep <:+: cs) :
    splitLastList? sep cs = none := by
  induction cs with
  | nil => rfl
  | cons c cs ih =>
    obtain ⟨hstart, hstands⟩ := not_or.1 (mt List.infix_cons_iff.2 h)
    rw [splitLastList?, ih hstands]
    exact if_neg (mt List.isPrefixOf_iff_prefix.1 hstart)

/-- A list is cut at the last place of a separator, behind which it does not start again. -/
theorem splitLastList?_append {sep after : List Char} (hne : sep ≠ [])
    (h : ¬ sep <:+: sep.tail ++ after) (before : List Char) :
    splitLastList? sep (before ++ (sep ++ after)) = some (before, after) := by
  induction before with
  | nil =>
    obtain ⟨c, rest, rfl⟩ := List.exists_cons_of_ne_nil hne
    have hnone : splitLastList? (c :: rest) (rest ++ after) = none := splitLastList?_eq_none h
    have hstart : (c :: rest).isPrefixOf (c :: (rest ++ after)) = true :=
      List.isPrefixOf_iff_prefix.2 (List.prefix_append (c :: rest) after)
    rw [List.nil_append, List.cons_append, splitLastList?, hnone]
    dsimp only
    rw [if_pos hstart, ← List.cons_append, List.drop_left]
  | cons c before ih => rw [List.cons_append, splitLastList?, ih]

/-- What follows the last place of a separator. -/
theorem afterLast_append {sep after : String} (hne : sep.toList ≠ [])
    (h : ¬ sep.toList <:+: sep.toList.tail ++ after.toList) (before : String) :
    afterLast sep (before ++ sep ++ after) = after := by
  rw [afterLast, splitLast?, String.toList_append, String.toList_append, List.append_assoc,
    splitLastList?_append hne h, Option.map_some]
  exact String.ofList_toList

/-- Where there is no separator, the whole text follows it. -/
theorem afterLast_of_not_infix {sep s : String} (h : ¬ sep.toList <:+: s.toList) :
    afterLast sep s = s := by
  rw [afterLast, splitLast?, splitLastList?_eq_none h, Option.map_none]

/-- A text is cut behind the separator that no other follows. -/
theorem splitLast?_eq_some {sep : Char} (before : String) {after : String}
    (h : sep ∉ after.toList) :
    splitLast? (String.singleton sep) (before ++ String.singleton sep ++ after) =
      some (before, after) := by
  have hnone : ¬ [sep] <:+: [sep].tail ++ after.toList := mt (List.singleton_infix_iff sep _).1 h
  rw [splitLast?, String.toList_append, String.toList_append, String.toList_singleton,
    List.append_assoc, splitLastList?_append (List.cons_ne_nil sep []) hnone, Option.map_some]
  dsimp only
  rw [String.ofList_toList, String.ofList_toList]

/-- A text is cut at the place of a character that does not stand in front of it. -/
theorem cutAt?_eq_some_iff {sep : Char} {cs before after : List Char} :
    cutAt? sep cs = some (before, after) ↔ cs = before ++ sep :: after ∧ sep ∉ before := by
  induction cs generalizing before with
  | nil => simp [cutAt?]
  | cons c cs ih =>
    rw [cutAt?]
    by_cases hc : c = sep
    · subst hc
      cases before with
      | nil => simp [eq_comm]
      | cons d before =>
        rw [if_pos rfl]
        simp only [Option.some.injEq, Prod.mk.injEq, List.nil_eq, reduceCtorEq, false_and,
          List.cons_append, List.cons.injEq, List.mem_cons, not_or, false_iff]
        rintro ⟨⟨rfl, -⟩, hne, -⟩
        exact hne rfl
    · cases before with
      | nil => simp [hc]
      | cons d before =>
        simp only [if_neg hc, Option.map_eq_some_iff, Prod.exists, Prod.mk.injEq, List.cons.injEq,
          List.cons_append, List.mem_cons, not_or]
        constructor
        · rintro ⟨b, a, hcut, ⟨rfl, rfl⟩, rfl⟩
          obtain ⟨rfl, hnot⟩ := ih.1 hcut
          exact ⟨⟨rfl, rfl⟩, Ne.symm hc, hnot⟩
        · rintro ⟨⟨rfl, rfl⟩, -, hnot⟩
          exact ⟨before, after, ih.2 ⟨rfl, hnot⟩, ⟨rfl, rfl⟩, rfl⟩

end CimSchema.Text
