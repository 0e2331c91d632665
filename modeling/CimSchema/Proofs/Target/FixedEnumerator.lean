import CimSchema.Proofs.Target.Enumeration
import CimSchema.Proofs.Text.Replace
import CimSchema.Proofs.Text.Segment

/-!
# Fixed values of enumerations

An attribute whose value is fixed to a value of an enumeration has an enumerator as its default. The
default and the file of the enumeration are written apart, one from a pattern and one line by line,
and both spell the same name, whatever the value is called.

## Main definitions

* `Language.qualified` - an enumerator behind its enumeration.
* `Language.CallsValue` - what the file of an enumeration calls one of its values.

## Main results

* `Language.fill_enumDefaultPattern` - the pattern of each language spells qualified names.
* `TypeTable.fixedValue_append`, `TypeTable.fixedValue_of_not_prefix` - the two forms of a fixed
  value.
* `Language.callsValue` - the file of an enumeration calls each value by its enumerator.
* `TypeTable.attributeDefault_of_fixed` - a fixed value names the enumerator of its line.
-/

namespace CimSchema

/-! ### Patterns -/

/-- A pattern with a place for a class and, behind a separator, one for a value. -/
theorem Text.replaceFrom_places {lead between name : List Char} {sep : Char}
    (hlead : '\x7b' ∉ lead) (hsep : sep ∉ valuePlace.toList) (hbetween : '\x7b' ∉ between)
    (hname : ¬ valuePlace.toList <:+: name) (value : List Char) :
    replaceFrom valuePlace.toList value 0 (replaceFrom namePlace.toList name 0
        (lead ++ (namePlace.toList ++ (sep :: between ++ valuePlace.toList)))) =
      lead ++ (name ++ (sep :: between ++ value)) := by
  have hbrace : '\x7b' ∉ sep :: between := by
    refine mt List.mem_cons.1 (not_or.2 ⟨?_, hbetween⟩)
    rintro rfl
    exact hsep (by decide)
  -- The name is put in first. Nothing else of the pattern looks like its place.
  have hfilled : replaceFrom namePlace.toList name 0
      (lead ++ (namePlace.toList ++ (sep :: between ++ valuePlace.toList))) =
        lead ++ (name ++ (sep :: between ++ valuePlace.toList)) := by
    rw [replaceFrom_append_of_not_mem rfl hlead, replaceFrom_append_self (by decide),
      replaceFrom_append_of_not_mem rfl hbrace]
    rfl
  -- The place of the value is found behind the name and the separator.
  rw [hfilled, replaceFrom_append_of_not_mem rfl hlead, List.cons_append,
    replaceFrom_append_cons hsep (by decide) hname, replaceFrom_append_of_not_mem rfl hbetween,
    replaceFrom_self (by decide), List.cons_append]

namespace Language

/-- An enumerator behind its enumeration. -/
def qualified (language : Language) (enumeration enumerator : String) : String :=
  match language with
  | python | java => enumeration ++ "." ++ enumerator
  | cpp => "CIMPP::" ++ enumeration ++ "::" ++ enumerator

/-- The pattern of each language spells qualified names. -/
theorem fill_enumDefaultPattern (language : Language) {name : String} (value : String)
    (h : Text.holds valuePlace name = false) :
    Text.replace valuePlace value (Text.replace namePlace name language.types.enumDefaultPattern) =
      language.qualified name value := by
  rw [Bool.eq_false_iff, Ne, Text.holds_iff] at h
  rw [← String.toList_inj]
  cases language with
  | python | java =>
    have hlead : '\x7b' ∉ "".toList := by decide
    have hbetween : '\x7b' ∉ "".toList := by decide
    have hsep : '.' ∉ valuePlace.toList := by decide
    simpa [Text.replace, qualified, types] using
      Text.replaceFrom_places hlead hsep hbetween h value.toList
  | cpp =>
    have hlead : '\x7b' ∉ "CIMPP::".toList := by decide
    have hbetween : '\x7b' ∉ ":".toList := by decide
    have hsep : ':' ∉ valuePlace.toList := by decide
    simpa [Text.replace, qualified, types] using
      Text.replaceFrom_places hlead hsep hbetween h value.toList

end Language

namespace TypeTable

variable {enumeration fixed : String}

/-- A fixed value may stand behind its enumeration. -/
theorem fixedValue_append (enumeration value : String) :
    fixedValue enumeration (enumeration ++ "." ++ value) = value := by
  rw [fixedValue, Text.stripStart?_append, Option.getD_some]

/-- A fixed value may stand alone, if it does not look as if it stood behind its enumeration. -/
theorem fixedValue_of_not_prefix {value : String} (h : ∀ rest, value ≠ enumeration ++ "." ++ rest) :
    fixedValue enumeration value = value := by
  have hnone : Text.stripStart? (enumeration ++ ".") value = none := by
    rw [Option.eq_none_iff_forall_ne_some]
    intro rest hrest
    exact h rest (Text.stripStart?_eq_some hrest)
  rw [fixedValue, hnone, Option.getD_none]

theorem attributeDefault_enumeration (t : TypeTable) {a : Attribute} {fixed : String}
    (htype : a.valueType = .enumeration enumeration) (hlist : a.multiplicity ≠ .list)
    (hdefault : a.default = some fixed) :
    t.attributeDefault a = some (Text.replace valuePlace
      (t.language.enumerator (fixedValue enumeration fixed))
      (Text.replace namePlace enumeration t.enumDefaultPattern)) := by
  have hone : a.multiplicity.isList = false := decide_eq_false hlist
  rw [attributeDefault, hone, if_neg Bool.false_ne_true, htype, hdefault]

end TypeTable

/-! ### Enumerators -/

namespace Language

variable {language : Language} {o : Options} {values : List EnumValue} {value : EnumValue} {i : Nat}

theorem getElem?_valueEntries (h : values[i]? = some value) :
    (language.valueEntries o values)[i]? = some
      { comment := language.valueComment o value.documentation
        line := language.valueIndent o ++ language.enumerator value.name
          ++ language.valueEnd value.name (decide (i + 1 = values.length)) } := by
  induction values generalizing i with
  | nil => cases h
  | cons first rest ih =>
    cases i with
    | zero =>
      obtain rfl : first = value := Option.some.inj h
      rw [valueEntries, List.getElem?_cons_zero]
      cases rest <;> simp
    | succ i =>
      rw [List.getElem?_cons_succ] at h
      rw [valueEntries, List.getElem?_cons_succ, ih h, List.length_cons]
      simp

/-- The file of the enumeration `c` calls its value at the place `i` by the name `enumerator`. -/
structure CallsValue (language : Language) (t : TypeTable) (o : Options) (c : ClassRecord) (i : Nat)
    (enumerator : String) : Prop where
  /-- The file has a head, an entry for each value in order, and a foot. -/
  file : ∀ v, ClassView.ofRecord t c = .ok v →
    language.classFiles v o = [⟨c.name ++ language.extension, linesText
      (language.enumerationHead o c.name c.documentation
        ++ (language.valueEntries o c.enumValues).flatMap ValueEntry.lines
        ++ language.enumerationFoot o c.enumValues.isEmpty)⟩]
  /-- The line of the value is its enumerator, with the indentation in front and what ends the line
  behind. -/
  line : ∃ value, c.enumValues[i]? = some value ∧
    ((language.valueEntries o c.enumValues)[i]?).map (·.line) = some
      (language.valueIndent o ++ enumerator
        ++ language.valueEnd value.name (decide (i + 1 = c.enumValues.length)))
  /-- The enumerator is read back from the line. -/
  leading : ((language.valueEntries o c.enumValues)[i]?).map
    (fun e => Text.leadingIdentifier e.line) = some enumerator

/-- The file of an enumeration calls each value by its enumerator. -/
theorem callsValue {c : ClassRecord} (hkind : c.kind = .enumeration)
    (hvalue : c.enumValues[i]? = some value) (t : TypeTable) :
    language.CallsValue t o c i (language.enumerator value.name) where
  file v hv := by
    obtain ⟨primitiveType, rfl⟩ := ClassView.exists_of_ofRecord hv
    have hshape : c.shape = .enumeration := by rw [ClassRecord.shape, hkind]
    exact language.classFiles_of_enumeration hshape o
  line := ⟨value, hvalue, by rw [getElem?_valueEntries hvalue, Option.map_some]⟩
  leading := by
    rw [getElem?_valueEntries hvalue, Option.map_some, leadingIdentifier_valueLine]

end Language

/-- **Fixed enumerators.** An attribute whose value is fixed to a value of an enumeration, with the
enumeration in front or without, has as its default what the file of the enumeration calls the
value. -/
theorem TypeTable.attributeDefault_of_fixed {language : Language} {c : ClassRecord} {a : Attribute}
    {value : EnumValue} {i : Nat} (hkind : c.kind = .enumeration)
    (hplace : Text.holds "\x7bvalue\x7d" c.name = false) (hvalue : c.enumValues[i]? = some value)
    (htype : a.valueType = .enumeration c.name) (hlist : a.multiplicity ≠ .list)
    (hfixed : a.default = some (c.name ++ "." ++ value.name) ∨
      a.default = some value.name ∧ ∀ rest, value.name ≠ c.name ++ "." ++ rest)
    (overrides : Overrides) (o : Options) :
    ∃ enumerator,
      language.CallsValue (language.types.override overrides) o c i enumerator ∧
      (language.types.override overrides).attributeDefault a =
        some (language.qualified c.name enumerator) := by
  refine ⟨language.enumerator value.name, Language.callsValue hkind hvalue _, ?_⟩
  -- Both forms of the fixed value mean the value.
  obtain ⟨fixed, hdefault, hmeans⟩ :
      ∃ fixed, a.default = some fixed ∧ fixedValue c.name fixed = value.name := by
    rcases hfixed with hdefault | ⟨hdefault, hprefix⟩
    · exact ⟨_, hdefault, fixedValue_append c.name value.name⟩
    · exact ⟨_, hdefault, fixedValue_of_not_prefix hprefix⟩
  have hlanguage : (language.types.override overrides).language = language := by
    cases language <;> rfl
  have hpattern : (language.types.override overrides).enumDefaultPattern =
      language.types.enumDefaultPattern := rfl
  rw [attributeDefault_enumeration _ htype hlist hdefault, hmeans, hlanguage, hpattern,
    language.fill_enumDefaultPattern _ hplace]

/-- Two kinds of switches. One name starts with a digit, the other is a word of Java. -/
def switchKind : ClassRecord where
  name := "SwitchKind"
  kind := .enumeration
  enumValues := [⟨"2-way", none⟩, ⟨"switch", some "Any other."⟩]

/-- The kind of a switch, which is fixed. -/
def fixedKind (fixed : String) : Attribute :=
  ⟨"kind", "Switch", .enumeration "SwitchKind", .optional, none, some fixed, []⟩

theorem attributeDefault_switchKind :
    (∃ enumerator,
      Language.java.CallsValue (Language.java.types.override {}) {} switchKind 0 enumerator ∧
      (Language.java.types.override {}).attributeDefault (fixedKind "SwitchKind.2-way") =
        some (Language.java.qualified "SwitchKind" enumerator)) ∧
    (∃ enumerator,
      Language.java.CallsValue (Language.java.types.override {}) {} switchKind 1 enumerator ∧
      (Language.java.types.override {}).attributeDefault (fixedKind "switch") =
        some (Language.java.qualified "SwitchKind" enumerator)) ∧
    (Language.java.types.override {}).attributeDefault (fixedKind "SwitchKind.2-way") =
      some "SwitchKind._2_way" ∧
    (Language.java.types.override {}).attributeDefault (fixedKind "switch") =
      some "SwitchKind._switch" := by
  have hplace : Text.holds "\x7bvalue\x7d" switchKind.name = false := by decide
  have halone (rest : String) : "switch" ≠ "SwitchKind" ++ "." ++ rest := by
    intro heq
    have hchars := congrArg (fun s : String => s.toList.head?) heq
    simp at hchars
  have hlist : Multiplicity.optional ≠ .list := by decide
  refine ⟨?_, ?_, by decide +kernel, by decide +kernel⟩
  · exact TypeTable.attributeDefault_of_fixed rfl hplace rfl rfl hlist (.inl rfl) {} {}
  · exact TypeTable.attributeDefault_of_fixed rfl hplace rfl rfl hlist (.inr ⟨rfl, halone⟩) {} {}

end CimSchema
