import CimSchema.Proofs.Target.Names

/-!
# Spellings that are identifiers

Whatever a value of an enumeration or a field of a Python class is called, what is written of its
name is an identifier of the language. The underscore that a cleaned name may get in front settles
both of its faults at once: it is no digit, and no reserved word starts with it.

## Main definitions

* `Language.IsIdentifier` - a text that is an identifier of a language.

## Main results

* `Language.enumerator_of_isIdentifier` - an identifier is spelled as it is.
* `Language.isIdentifier_enumerator` - every name but the empty one is spelled as an identifier.
-/

namespace CimSchema

namespace Text

variable {reserved : List String} {s : String} {c : Char}

theorem isUpper_iff : c.isUpper = true ↔ 'A' ≤ c ∧ c ≤ 'Z' := by
  change decide ('A' ≤ c ∧ c ≤ 'Z') = true ↔ _
  exact decide_eq_true_iff

theorem isLower_iff : c.isLower = true ↔ 'a' ≤ c ∧ c ≤ 'z' := by
  change (decide ('a' ≤ c) && decide (c ≤ 'z')) = true ↔ _
  rw [Bool.and_eq_true, decide_eq_true_iff, decide_eq_true_iff]

theorem isDigit_iff : c.isDigit = true ↔ '0' ≤ c ∧ c ≤ '9' := by
  change (decide ('0' ≤ c) && decide (c ≤ '9')) = true ↔ _
  rw [Bool.and_eq_true, decide_eq_true_iff, decide_eq_true_iff]

theorem isIdentifierChar_iff : isIdentifierChar c = true ↔
    ('A' ≤ c ∧ c ≤ 'Z') ∨ ('a' ≤ c ∧ c ≤ 'z') ∨ ('0' ≤ c ∧ c ≤ '9') ∨ c = '_' := by
  change (c.isUpper || c.isLower || c.isDigit || decide (c = '_')) = true ↔ _
  rw [Bool.or_eq_true, Bool.or_eq_true, Bool.or_eq_true, isUpper_iff, isLower_iff, isDigit_iff,
    decide_eq_true_iff, or_assoc, or_assoc]

/-- A name of such characters only is clean. -/
theorem cleanName_of_forall (h : ∀ c ∈ s.toList, isIdentifierChar c = true) : cleanName s = s := by
  have hkept : ∀ c ∈ s.toList, (if c.isAlphanum then c else '_') = c := by
    intro c hc
    have hchar := h c hc
    rw [isIdentifierChar, Bool.or_eq_true, decide_eq_true_iff] at hchar
    rcases hchar with hchar | rfl
    · exact if_pos hchar
    · rfl
  rw [cleanName, List.map_congr_left hkept, List.map_id', String.ofList_toList]

theorem identifier_ne_empty (h : s ≠ "") : identifier reserved s ≠ "" := by
  have hclean : (cleanName s).toList ≠ [] := by
    rw [cleanName, String.toList_ofList]
    exact mt List.map_eq_nil_iff.1 (mt String.toList_eq_nil_iff.1 h)
  refine mt String.toList_eq_nil_iff.2 ?_
  rcases identifier_eq_or reserved s with heq | heq
  · rwa [heq]
  · rw [heq, String.toList_append]
    exact List.append_ne_nil_of_right_ne_nil _ hclean

/-- A name that needs an underscore needs no second one if no reserved word starts with one. -/
theorem not_needsUnderscore_underscored
    (hreserved : ∀ word ∈ reserved, word.toList.head? ≠ some '_') (cleaned : String) :
    ¬ NeedsUnderscore reserved (underscored reserved cleaned) := by
  rw [underscored]
  split
  · have hchars : ("_" ++ cleaned).toList = '_' :: cleaned.toList := String.toList_append
    rintro (hdigit | hmem)
    · rw [hchars] at hdigit
      cases hdigit
    · exact hreserved _ hmem (by rw [hchars, List.head?_cons])
  · assumption

end Text

namespace Language

variable {language : Language} {s name : String}

/-- A text that is an identifier of a language: it consists of ASCII letters, digits and
underscores, starts with no digit and is not reserved. -/
structure IsIdentifier (language : Language) (s : String) : Prop where
  ne_empty : s ≠ ""
  chars : ∀ c ∈ s.toList,
    ('A' ≤ c ∧ c ≤ 'Z') ∨ ('a' ≤ c ∧ c ≤ 'z') ∨ ('0' ≤ c ∧ c ≤ '9') ∨ c = '_'
  start : ∀ c ∈ s.toList.head?, ¬ ('0' ≤ c ∧ c ≤ '9')
  not_reserved : s ∉ language.reserved

theorem head?_ne_underscore_of_mem_reserved (language : Language) :
    ∀ word ∈ language.reserved, word.toList.head? ≠ some '_' := by
  cases language with
  | python | java | cpp => decide +kernel

/-- A text of characters of identifiers that needs no underscore is an identifier. -/
theorem isIdentifier_of_not_needsUnderscore (hne : s ≠ "")
    (hchars : ∀ c ∈ s.toList, Text.isIdentifierChar c = true)
    (h : ¬ Text.NeedsUnderscore language.reserved s) : language.IsIdentifier s := by
  obtain ⟨hdigit, hreserved⟩ := not_or.1 h
  refine ⟨hne, fun c hc => Text.isIdentifierChar_iff.1 (hchars c hc), fun c hc hrange => ?_,
    hreserved⟩
  rw [Option.mem_def.1 hc] at hdigit
  exact hdigit (Text.isDigit_iff.2 hrange)

theorem IsIdentifier.not_needsUnderscore (h : language.IsIdentifier s) :
    ¬ Text.NeedsUnderscore language.reserved s := by
  rintro (hdigit | hreserved)
  · obtain ⟨c, hc, hdigit⟩ := (Option.any_eq_true _ _).1 hdigit
    exact h.start c hc (Text.isDigit_iff.1 hdigit)
  · exact h.not_reserved hreserved

/-- An identifier is spelled as it is. -/
theorem enumerator_of_isIdentifier (h : language.IsIdentifier s) : language.enumerator s = s := by
  have hclean : Text.cleanName s = s :=
    Text.cleanName_of_forall fun c hc => Text.isIdentifierChar_iff.2 (h.chars c hc)
  rw [enumerator, Text.identifier_eq, hclean, Text.underscored, if_neg h.not_needsUnderscore]

/-- What is written of a name is an identifier. -/
theorem isIdentifier_enumerator (h : name ≠ "") :
    language.IsIdentifier (language.enumerator name) := by
  refine isIdentifier_of_not_needsUnderscore (Text.identifier_ne_empty h)
    (fun c hc => Text.isIdentifierChar_of_mem_identifier hc) ?_
  rw [enumerator, Text.identifier_eq]
  exact Text.not_needsUnderscore_underscored language.head?_ne_underscore_of_mem_reserved _

/-- **Identifiers.** What is written of the name of a value is an identifier, and is itself spelled
as it is, unless the name is empty. So it is with the name of a field in Python. -/
theorem spellsIdentifiers (language : Language) {name : String} (h : name ≠ "") :
    language.IsIdentifier (language.enumerator name) ∧
      language.enumerator (language.enumerator name) = language.enumerator name ∧
      python.IsIdentifier (Python.fieldName name) ∧
      Python.fieldName (Python.fieldName name) = Python.fieldName name := by
  have hspelled (language : Language) : language.IsIdentifier (language.enumerator name) :=
    isIdentifier_enumerator h
  exact ⟨hspelled language, enumerator_of_isIdentifier (hspelled language), hspelled python,
    enumerator_of_isIdentifier (hspelled python)⟩

/-- The name starts with a digit, and two of its characters are none of identifiers. -/
theorem spellsIdentifiers_microfarad :
    "3 µF" ≠ "" ∧ java.enumerator "3 µF" = "_3__F" ∧ java.IsIdentifier "_3__F" ∧
      java.enumerator "_3__F" = "_3__F" ∧ python.IsIdentifier (Python.fieldName "3 µF") := by
  have hne : "3 µF" ≠ "" := by decide
  have hname : java.enumerator "3 µF" = "_3__F" := by decide
  obtain ⟨hidentifier, hagain, hfield, -⟩ := java.spellsIdentifiers hne
  rw [hname] at hidentifier hagain
  exact ⟨hne, hname, hidentifier, hagain, hfield⟩

example : python.enumerator "in" = "_in" ∧ cpp.enumerator "in" = "in" := by decide

end Language

end CimSchema
