import CimSchema.Proofs.Target.Enumeration
import CimSchema.Proofs.Target.FixedText
import CimSchema.Proofs.Text.Escape
import CimSchema.Proofs.Text.Segment

/-!
# Escaped texts and the values of Python enumerators

Python enumerations derive from `str`, so that each enumerator is a text: the name of its value, as
the schema has it. The identifier in front of it may have lost characters of the name, and the
literal behind it keeps them all.

## Main definitions

* `Python.assigned?` - the text that a line assigns.

## Main results

* `Python.assigned?_enumeratorLine` - the line of an enumerator assigns the name of its value.
* `Text.inQuotes_escape` - escaped texts are read back, in general and in the files of enumerations.
-/

namespace CimSchema

namespace Indent

variable {indent : Indent} {n : Nat} {c : Char}

/-- Indentation is made of spaces or of tabs. -/
theorem eq_space_or_eq_tab_of_mem_level (h : c ∈ (indent.level n).toList) : c = ' ' ∨ c = '\t' := by
  cases indent with
  | spaces count =>
    rw [level, String.toList_ofList] at h
    exact .inl (List.eq_of_mem_replicate h)
  | tabs =>
    rw [level, String.toList_ofList] at h
    exact .inr (List.eq_of_mem_replicate h)

/-- No line ends inside an indentation. -/
theorem oneLine_level (indent : Indent) (n : Nat) : Text.OneLine (indent.level n).toList := by
  intro c hc
  rcases eq_space_or_eq_tab_of_mem_level hc with rfl | rfl <;> rfl

end Indent

/-- No line ends inside an identifier. -/
theorem Text.isLineBreak_of_isIdentifierChar {c : Char} (h : isIdentifierChar c = true) :
    isLineBreak c = false := by
  rw [isLineBreak, Bool.or_eq_false_iff, beq_eq_false_iff_ne, beq_eq_false_iff_ne]
  constructor
  · rintro rfl
    cases h
  · rintro rfl
    cases h

namespace Python

/-- The text that a line assigns: what stands behind its first equals sign, read as a literal. -/
def assigned? (line : String) : Option String :=
  (Text.cutAt? '=' line.toList).bind fun (_, value) =>
    Language.python.readLiteral (String.ofList (value.dropWhile Text.isBlank))

/-- What is assigned is read from the literal behind the first equals sign. -/
theorem assigned?_append {before : String} (h : '=' ∉ before.toList) (text : String) :
    assigned? (before ++ "= " ++ Text.quote text) = some text := by
  have hcut : Text.cutAt? '=' (before ++ "= " ++ Text.quote text).toList =
      some (before.toList, ' ' :: (Text.quote text).toList) := by
    rw [Text.cutAt?_eq_some_iff]
    exact ⟨by simp, h⟩
  have hblank : (' ' :: (Text.quote text).toList).dropWhile Text.isBlank =
      (Text.quote text).toList := by
    rw [Text.quote, String.toList_ofList]
    rfl
  rw [assigned?, hcut, Option.bind_some]
  dsimp only
  rw [hblank, String.ofList_toList]
  exact (Language.spells_quote .python text).reads

theorem equals_not_mem_level (o : Options) : '=' ∉ (o.indent.level 1).toList := by
  intro h
  exact absurd (Indent.isBlank_of_mem_level h) (by decide)

theorem equals_not_mem_enumerator (name : String) :
    '=' ∉ (Language.python.enumerator name).toList := by
  intro h
  exact absurd (Text.isIdentifierChar_of_mem_identifier h) (by decide)

/-- The line of an enumerator assigns the name of its value. -/
theorem assigned?_enumeratorLine (o : Options) (value : EnumValue) :
    assigned? (o.indent.level 1 ++ enumeratorLine value) = some value.name := by
  have hline : o.indent.level 1 ++ enumeratorLine value =
      o.indent.level 1 ++ Language.python.enumerator value.name ++ " " ++ "= "
        ++ Text.quote value.name := by
    simp [← String.toList_inj, enumeratorLine]
  rw [hline]
  apply assigned?_append
  simp [equals_not_mem_level, equals_not_mem_enumerator]

/-- No line ends inside the line of an enumerator. -/
theorem oneLine_enumeratorLine (o : Options) (value : EnumValue) :
    Text.OneLine (o.indent.level 1 ++ enumeratorLine value).toList := by
  intro c hc
  simp only [enumeratorLine, String.toList_append, List.mem_append] at hc
  rcases hc with hlevel | (hname | hequals) | hquote
  · exact Indent.oneLine_level o.indent 1 c hlevel
  · exact Text.isLineBreak_of_isIdentifierChar (Text.isIdentifierChar_of_mem_identifier hname)
  · have hplain : Text.OneLine " = ".toList := by decide
    exact hplain c hequals
  · exact (Language.spells_quote .python value.name).oneLine c hquote

end Python

/-- **Escapes.** An escaped text may stand between the quotes of a literal, and the text is read back
from it, so that no two texts are escaped alike. The five escapes may as well be put in one after
the other. In the file of a Python enumeration the line of each value assigns the name of that
value. -/
theorem Text.inQuotes_escape :
    (∀ s, InQuotes (escape s).toList s.toList) ∧ Function.Injective escape ∧
      (∀ s, escapeInSteps s = escape s) ∧
      ∀ (v : ClassView) (o : Options), v.shape = .enumeration →
        ∃ lines, Language.python.classFiles v o = [⟨v.className ++ ".py", linesText
            (Language.python.enumerationHead o v.className v.documentation ++ lines
              ++ Language.python.enumerationFoot o v.enumValues.isEmpty)⟩] ∧
          lines.map Python.assigned? = v.enumValues.map (fun value => some value.name) ∧
          ∀ line ∈ lines, OneLine line.toList := by
  refine ⟨fun s => ?_, escape_injective, escapeInSteps_eq, fun v o hshape => ?_⟩
  · rw [escape, String.toList_ofList]
    exact inQuotes_escapeList s.toList
  · refine ⟨v.enumValues.map fun value => o.indent.level 1 ++ Python.enumeratorLine value,
      ?_, ?_, ?_⟩
    · rw [Language.classFiles_of_enumeration _ hshape, Language.enumerationLines,
        Language.flatMap_valueEntries_python]
      rfl
    · rw [List.map_map]
      exact List.map_congr_left fun value _ => Python.assigned?_enumeratorLine o value
    · intro line hline
      obtain ⟨value, -, rfl⟩ := List.mem_map.1 hline
      exact Python.oneLine_enumeratorLine o value

/-- Ways to open a switch. The names hold what a literal has to escape. -/
def openKinds : ClassView where
  language := .python
  className := "OpenKind"
  base := none
  shape := .enumeration
  documentation := none
  attributes := []
  associations := []
  enumValues := [⟨"by \"hand\"", none⟩, ⟨"C:\\new\n", some "From a file."⟩]
  primitiveType := none
  unit := none
  multiplier := none

theorem Text.inQuotes_escape_openKinds :
    openKinds.shape = .enumeration ∧
      (∃ lines, Language.python.classFiles openKinds {} = [⟨"OpenKind.py", linesText
            (Language.python.enumerationHead {} "OpenKind" none ++ lines
              ++ Language.python.enumerationFoot {} false)⟩] ∧
          lines.map Python.assigned? = [some "by \"hand\"", some "C:\\new\n"] ∧
          ∀ line ∈ lines, OneLine line.toList) ∧
      escape "C:\\new\n" = "C:\\\\new\\n" :=
  ⟨rfl, inQuotes_escape.2.2.2 openKinds {} rfl, by decide⟩

end CimSchema
