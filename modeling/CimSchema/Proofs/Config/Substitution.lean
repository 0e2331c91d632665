import CimSchema.Config.Text
import CimSchema.Proofs.Text.Segment
import Mathlib.Data.List.TakeWhile

/-!
# A configuration with values in place of its placeholders

The text of a configuration is looked through once, from the left. The first placeholder is replaced
by its value, and the search goes on behind it; so values are not looked through, and what looks
like the start of a placeholder but is none stays in the text.

## Main definitions

* `Placeholder.Written` - how a placeholder is written.
* `NoneStarts`, `HoldsNone` - no placeholder starts in the front part of a text, or in all of it.
* `Substitutes` - a text with the values in place of the placeholders.

## Main results

* `Placeholder.read?_eq_some_iff` - the placeholder that is read is the one that is written.
* `substituteList_append` - what no placeholder starts in is kept.
* `substitutes_iff` - the values are put in as the relation says, and in no other way.
* `ofConfigText_substitutes` - what a configuration is read from.
-/

namespace CimSchema

/-! ### How placeholders are written -/

namespace Placeholder

/-- A name of a variable: not empty, and without the two characters that may follow it. -/
structure IsName (name : List Char) : Prop where
  ne_nil : name ≠ []
  brace_not_mem : '\x7d' ∉ name
  colon_not_mem : ':' ∉ name

variable {name default cs rest text : List Char} {p : Placeholder}

/-- How a placeholder is written: with its name alone, with a colon and a default, or with a hyphen
between the two. A hyphen right behind the colon never belongs to the default. -/
inductive Written : Placeholder → List Char → Prop
  | bare {name : List Char} (hname : IsName name) :
      Written ⟨name, []⟩ ('$' :: '\x7b' :: (name ++ ['\x7d']))
  | colon {name default : List Char} (hname : IsName name) (hdefault : '\x7d' ∉ default)
      (hhyphen : default.head? ≠ some '-') :
      Written ⟨name, default⟩ ('$' :: '\x7b' :: (name ++ ':' :: (default ++ ['\x7d'])))
  | hyphen {name default : List Char} (hname : IsName name) (hdefault : '\x7d' ∉ default) :
      Written ⟨name, default⟩ ('$' :: '\x7b' :: (name ++ ':' :: '-' :: (default ++ ['\x7d'])))

theorem Written.ne_nil (h : p.Written text) : text ≠ [] := by
  cases h <;> exact List.cons_ne_nil _ _

theorem isNameChar_iff {c : Char} : isNameChar c = true ↔ c ≠ '\x7d' ∧ c ≠ ':' := by
  simp [isNameChar]

theorem IsName.isNameChar (h : IsName name) : ∀ c ∈ name, isNameChar c = true := by
  intro c hc
  rw [isNameChar_iff]
  constructor
  · rintro rfl
    exact h.brace_not_mem hc
  · rintro rfl
    exact h.colon_not_mem hc

/-- What is taken from the start of a text is a name if it is not empty. -/
theorem isName_takeWhile (h : cs.takeWhile Placeholder.isNameChar ≠ []) :
    IsName (cs.takeWhile Placeholder.isNameChar) where
  ne_nil := h
  brace_not_mem hmem := (isNameChar_iff.1 (List.mem_takeWhile_imp hmem)).1 rfl
  colon_not_mem hmem := (isNameChar_iff.1 (List.mem_takeWhile_imp hmem)).2 rfl

/-! ### Reading what is written -/

theorem withoutHyphen_of_head? (h : cs.head? ≠ some '-') : withoutHyphen cs = cs := by
  unfold withoutHyphen
  split
  · exact absurd rfl h
  · rfl

theorem readDefault?_eq_some_iff :
    readDefault? name cs = some (p, rest) ↔
      ∃ default, p = ⟨name, default⟩ ∧ '\x7d' ∉ default ∧
        withoutHyphen cs = default ++ '\x7d' :: rest := by
  rw [readDefault?, Option.map_eq_some_iff]
  constructor
  · rintro ⟨⟨default, after⟩, hcut, heq⟩
    obtain ⟨rfl, rfl⟩ := Prod.mk.inj heq
    obtain ⟨htext, hnot⟩ := Text.cutAt?_eq_some_iff.1 hcut
    exact ⟨default, rfl, hnot, htext⟩
  · rintro ⟨default, rfl, hnot, htext⟩
    exact ⟨(default, rest), Text.cutAt?_eq_some_iff.2 ⟨htext, hnot⟩, rfl⟩

/-- A text without its hyphen is what stands behind the colon, with or without a hyphen. -/
theorem written_of_withoutHyphen (hname : IsName name) (hdefault : '\x7d' ∉ default)
    (h : withoutHyphen cs = default ++ '\x7d' :: rest) :
    ∃ text, Written ⟨name, default⟩ text ∧ '$' :: '\x7b' :: (name ++ ':' :: cs) = text ++ rest := by
  unfold withoutHyphen at h
  split at h
  · subst h
    exact ⟨_, .hyphen hname hdefault, by simp⟩
  · rename_i hcs
    subst h
    refine ⟨_, .colon hname hdefault fun hhyphen => ?_, by simp⟩
    obtain ⟨default, rfl⟩ := List.head?_eq_some_iff.1 hhyphen
    exact hcs _ rfl

theorem read?_brace (hname : IsName name) (rest : List Char) :
    read? ('$' :: '\x7b' :: (name ++ '\x7d' :: rest)) = some (⟨name, []⟩, rest) := by
  simp only [Placeholder.read?]
  rw [List.takeWhile_append_of_pos hname.isNameChar, List.dropWhile_append_of_pos hname.isNameChar]
  simp [Placeholder.isNameChar, hname.ne_nil]

theorem read?_colon (hname : IsName name) (behind : List Char) :
    read? ('$' :: '\x7b' :: (name ++ ':' :: behind)) = readDefault? name behind := by
  simp only [Placeholder.read?]
  rw [List.takeWhile_append_of_pos hname.isNameChar, List.dropWhile_append_of_pos hname.isNameChar]
  simp [Placeholder.isNameChar, hname.ne_nil]

/-- Whatever is read has a name, and the name ends with the placeholder or with a colon. -/
theorem exists_isName_of_read? (h : read? cs = some (p, rest)) :
    ∃ name, IsName name ∧
      (cs = '$' :: '\x7b' :: (name ++ '\x7d' :: rest) ∧ p = ⟨name, []⟩ ∨
        ∃ behind, cs = '$' :: '\x7b' :: (name ++ ':' :: behind) ∧
          readDefault? name behind = some (p, rest)) := by
  unfold Placeholder.read? at h
  split at h
  · rename_i cs
    dsimp only at h
    split at h
    · cases h
    · rename_i hempty
      refine ⟨_, isName_takeWhile (mt List.isEmpty_iff.2 hempty), ?_⟩
      split at h
      · rename_i hdrop
        obtain ⟨rfl, rfl⟩ := Prod.mk.inj (Option.some.inj h)
        exact .inl ⟨by rw [← hdrop, List.takeWhile_append_dropWhile], rfl⟩
      · rename_i behind hdrop
        exact .inr ⟨behind, by rw [← hdrop, List.takeWhile_append_dropWhile], h⟩
      · cases h
  · cases h

/-- A placeholder is read from its start, whatever follows it. -/
theorem Written.read? (h : p.Written text) (rest : List Char) :
    read? (text ++ rest) = some (p, rest) := by
  cases h with
  | bare hname => simpa using read?_brace hname rest
  | @colon name default hname hdefault hhyphen =>
    have hread : readDefault? name (default ++ '\x7d' :: rest) = some (⟨name, default⟩, rest) := by
      refine readDefault?_eq_some_iff.2 ⟨default, rfl, hdefault, withoutHyphen_of_head? ?_⟩
      cases default with
      | nil => simp
      | cons c default => exact hhyphen
    simpa [read?_colon hname] using hread
  | @hyphen name default hname hdefault =>
    have hread : readDefault? name ('-' :: (default ++ '\x7d' :: rest)) =
        some (⟨name, default⟩, rest) :=
      readDefault?_eq_some_iff.2 ⟨default, rfl, hdefault, rfl⟩
    simpa [read?_colon hname] using hread

/-- The placeholder that is read at the start of a text is the one that is written there. -/
theorem read?_eq_some_iff :
    read? cs = some (p, rest) ↔ ∃ text, p.Written text ∧ cs = text ++ rest := by
  constructor
  · intro h
    obtain ⟨name, hname, ⟨rfl, rfl⟩ | ⟨behind, rfl, hread⟩⟩ := exists_isName_of_read? h
    · exact ⟨_, .bare hname, by simp⟩
    · obtain ⟨default, rfl, hdefault, hbehind⟩ := readDefault?_eq_some_iff.1 hread
      exact written_of_withoutHyphen hname hdefault hbehind
  · rintro ⟨text, htext, rfl⟩
    exact htext.read? rest

theorem read?_eq_none_iff :
    read? cs = none ↔ ∀ (p : Placeholder) (text : List Char), p.Written text → ¬ text <+: cs := by
  rw [Option.eq_none_iff_forall_ne_some]
  constructor
  · rintro h p text htext ⟨rest, rfl⟩
    exact h (p, rest) (htext.read? rest)
  · rintro h ⟨p, rest⟩ hread
    obtain ⟨text, htext, rfl⟩ := read?_eq_some_iff.1 hread
    exact h p text htext (List.prefix_append text rest)

end Placeholder

/-! ### Where the first placeholder stands -/

open Placeholder

variable {value? : String → Option String} {c : Char} {cs before text after rest result : List Char}
  {p : Placeholder}

/-- No placeholder starts in the front part `before` of the text `before ++ after`. -/
def NoneStarts (before after : List Char) : Prop :=
  ∀ front back, before = front ++ back → back ≠ [] →
    ∀ (p : Placeholder) (text : List Char), p.Written text → ¬ text <+: back ++ after

theorem noneStarts_nil (after : List Char) : NoneStarts [] after := by
  intro front back heq hne
  exact absurd (List.append_eq_nil_iff.1 heq.symm).2 hne

theorem noneStarts_cons_iff :
    NoneStarts (c :: before) after ↔
      read? (c :: (before ++ after)) = none ∧ NoneStarts before after := by
  constructor
  · intro h
    refine ⟨read?_eq_none_iff.2 (h [] (c :: before) rfl (List.cons_ne_nil c before)), ?_⟩
    rintro front back rfl
    exact h (c :: front) back rfl
  · rintro ⟨hread, h⟩ front back heq hne
    cases front with
    | nil =>
      obtain rfl : c :: before = back := heq
      exact read?_eq_none_iff.1 hread
    | cons d front =>
      obtain ⟨rfl, rfl⟩ := List.cons.inj heq
      exact h front back rfl hne

/-- No placeholder stands anywhere in a text. -/
def HoldsNone (cs : List Char) : Prop :=
  ∀ (p : Placeholder) (text : List Char), p.Written text → ¬ text <:+: cs

/-- A text holds no placeholder if none starts in its whole length. -/
theorem holdsNone_iff_noneStarts : HoldsNone cs ↔ NoneStarts cs [] := by
  constructor
  · rintro h front back rfl - p text htext hstart
    rw [List.append_nil] at hstart
    exact h p text htext (hstart.isInfix.trans (List.suffix_append front back).isInfix)
  · intro h p text htext
    rw [List.infix_iff_prefix_suffix]
    rintro ⟨back, hstart, front, rfl⟩
    refine h front back rfl ?_ p text htext (by rwa [List.append_nil])
    rintro rfl
    exact htext.ne_nil (List.prefix_nil.1 hstart)

/-- A text holds no placeholder, or it has a first one. -/
theorem holdsNone_or_exists_first (cs : List Char) :
    HoldsNone cs ∨ ∃ before p text after, cs = before ++ (text ++ after) ∧
      Placeholder.Written p text ∧ NoneStarts before (text ++ after) := by
  rw [holdsNone_iff_noneStarts]
  induction cs with
  | nil => exact .inl (noneStarts_nil [])
  | cons c cs ih =>
    cases hread : read? (c :: cs) with
    | some result =>
      obtain ⟨p, after⟩ := result
      obtain ⟨text, htext, heq⟩ := read?_eq_some_iff.1 hread
      exact .inr ⟨[], p, text, after, heq, htext, noneStarts_nil _⟩
    | none =>
      rcases ih with hnone | ⟨before, p, text, after, rfl, htext, hfirst⟩
      · exact .inl (noneStarts_cons_iff.2 ⟨by rwa [List.append_nil], hnone⟩)
      · exact .inr ⟨c :: before, p, text, after, rfl, htext, noneStarts_cons_iff.2 ⟨hread, hfirst⟩⟩

/-! ### Putting the values in -/

/-- `result` is `text` with the values of the variables in place of the placeholders. The first
placeholder is replaced, what stands in front of it is kept, and only what stands behind it is
looked through for more. -/
inductive Substitutes (value? : String → Option String) : List Char → List Char → Prop
  /-- A text without a placeholder is kept. -/
  | none {text : List Char} (hnone : HoldsNone text) : Substitutes value? text text
  | first {before written after result : List Char} {p : Placeholder} (hwritten : p.Written written)
      (hfirst : NoneStarts before (written ++ after)) (hafter : Substitutes value? after result) :
      Substitutes value? (before ++ (written ++ after)) (before ++ (p.value value? ++ result))

theorem substituteList_nil (value? : String → Option String) : substituteList value? [] = [] := by
  rw [substituteList]
  rfl

theorem substituteList_of_read? (h : read? cs = some (p, rest)) :
    substituteList value? cs = p.value value? ++ substituteList value? rest := by
  rw [substituteList]
  split
  · rename_i q after hread
    obtain ⟨rfl, rfl⟩ := Prod.mk.inj (Option.some.inj (hread.symm.trans h))
    rfl
  · rename_i hread
    cases hread.symm.trans h

theorem substituteList_cons (h : read? (c :: cs) = none) :
    substituteList value? (c :: cs) = c :: substituteList value? cs := by
  rw [substituteList]
  split
  · rename_i hread
    cases h.symm.trans hread
  · rfl

/-- What no placeholder starts in is kept. -/
theorem substituteList_append (h : NoneStarts before after) :
    substituteList value? (before ++ after) = before ++ substituteList value? after := by
  induction before with
  | nil => rfl
  | cons c before ih =>
    obtain ⟨hread, hbefore⟩ := noneStarts_cons_iff.1 h
    rw [List.cons_append, substituteList_cons hread, ih hbefore, List.cons_append]

/-- A text without a placeholder is kept. -/
theorem substituteList_of_holdsNone (h : HoldsNone cs) : substituteList value? cs = cs := by
  have hkept : substituteList value? (cs ++ []) = cs ++ substituteList value? [] :=
    substituteList_append (holdsNone_iff_noneStarts.1 h)
  rwa [List.append_nil, substituteList_nil, List.append_nil] at hkept

/-- The values are put in as the relation says, and in no other way. -/
theorem substitutes_iff : Substitutes value? cs result ↔ substituteList value? cs = result := by
  constructor
  · intro h
    induction h with
    | none hnone => exact substituteList_of_holdsNone hnone
    | first hwritten hfirst _ ih =>
      rw [substituteList_append hfirst, substituteList_of_read? (hwritten.read? _), ih]
  · rintro rfl
    -- The search goes on behind the first placeholder, where less text is left.
    induction hn : cs.length using Nat.strong_induction_on generalizing cs with
    | _ n ih =>
      rcases holdsNone_or_exists_first cs with hnone | ⟨before, p, text, after, rfl, htext, hfirst⟩
      · rw [substituteList_of_holdsNone hnone]
        exact .none hnone
      · have hlength : after.length < n := by
          have hpos := List.length_pos_of_ne_nil htext.ne_nil
          rw [List.length_append, List.length_append] at hn
          omega
        rw [substituteList_append hfirst, substituteList_of_read? (htext.read? after)]
        exact .first htext hfirst (ih _ hlength rfl)

/-- **Substitution.** A configuration is read from exactly one text, whatever is read from it: the
text that is given, looked through once from the left, with values in place of the placeholders. -/
theorem ofConfigText_substitutes {α : Type} (f : Yaml.Node → Option α)
    (value? : String → Option String) (s : String) :
    ∃ t : String, (∀ result, Substitutes value? s.toList result ↔ result = t.toList) ∧
      ofConfigText f value? s = (Yaml.decode? f t).elim (.error .unreadable) .ok := by
  refine ⟨substitute value? s, fun result => ?_, ?_⟩
  · rw [substitutes_iff, substitute, String.toList_ofList, eq_comm]
  · rw [ofConfigText]
    cases Yaml.decode? f (substitute value? s) <;> rfl

/-- A value that looks like a placeholder stays as it is, and so does the start of none. -/
example : substitute (fun name => if name = "A" then some "$\x7bB\x7d" else none)
    "$\x7bA\x7d $\x7bB:-x:-y\x7d $\x7b:$\x7bC" = "$\x7bB\x7d x:-y $\x7b:$\x7bC" := by
  cbv

end CimSchema
