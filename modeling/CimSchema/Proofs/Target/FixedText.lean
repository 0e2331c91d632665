import CimSchema.Proofs.Target.Faults
import CimSchema.Proofs.Text.Blank
import CimSchema.Proofs.Text.StringLiteral

/-!
# Fixed texts

An attribute whose value is fixed to a text has a literal as its default. Each language reads the
text from the literal, without the blanks at its two ends. A line break inside the text stands in the
literal as it is, and then the literal does not lie on one line.

## Main definitions

* `Language.readLiteral` - the text that a language reads from a literal.
* `Language.Spells` - a literal on one line that stands for a text.

## Main results

* `Language.readLiteral_of_unescapeList` - the five escapes mean the same in all languages.
* `Language.spells_quote` - any text has a literal on one line.
* `Language.spells_quoteLine_iff` - with two escapes this is so for texts on one line.
* `TypeTable.attributeDefault_of_fixed_text` - a fixed text is read back from its literal.
-/

namespace CimSchema

/-! ### Literals -/

namespace Language

/-- What a backslash and one more character stand for. The escapes that give a character by its
number are left out. -/
def escaped? : Language → Char → Option Char
  | _, '\\' => some '\\'
  | _, '"' => some '"'
  | _, '\'' => some '\''
  | _, 'b' => some '\x08'
  | _, 't' => some '\t'
  | _, 'n' => some '\n'
  | _, 'f' => some '\x0c'
  | _, 'r' => some '\r'
  | .java, 's' => some ' '
  | .python, 'a' | .cpp, 'a' => some '\x07'
  | .python, 'v' | .cpp, 'v' => some '\x0b'
  | .cpp, '?' => some '?'
  | _, _ => none

/-- Reads a literal from behind its opening quote up to the quote that closes it. The second part of
the result stands behind that quote. -/
def readRest (language : Language) : List Char → Option (List Char × List Char)
  | [] => none
  | '"' :: after => some ([], after)
  | ['\\'] => none
  | '\\' :: c :: cs =>
    (language.escaped? c).bind fun d => (language.readRest cs).map (Prod.map (d :: ·) id)
  | c :: cs => (language.readRest cs).map (Prod.map (c :: ·) id)

/-- The text that a language reads from a literal, if there is nothing in front of the literal and
nothing behind it. -/
def readLiteral (language : Language) (literal : String) : Option String :=
  match literal.toList with
  | '"' :: cs =>
    match language.readRest cs with
    | some (text, []) => some (String.ofList text)
    | _ => none
  | _ => none

/-- The literal lies on one line, and the language reads the text from it. -/
structure Spells (language : Language) (literal text : String) : Prop where
  oneLine : Text.OneLine literal.toList
  reads : language.readLiteral literal = some text

variable {language : Language} {c d : Char} {cs text after : List Char}

/-! ### Reading literals -/

theorem readRest_escape (h : language.escaped? c = some d)
    (hrest : (language.readRest cs).map (Prod.map (d :: ·) id) = some (text, after)) :
    language.readRest ('\\' :: c :: cs) = some (text, after) := by
  rw [readRest, h, Option.bind_some, hrest]

theorem readRest_cons (hslash : c ≠ '\\') (hquote : c ≠ '"') (cs : List Char) :
    language.readRest (c :: cs) = (language.readRest cs).map (Prod.map (c :: ·) id) := by
  rw [readRest] <;> simp [hslash, hquote]

/-- The five escapes mean the same in all languages. -/
theorem readRest_of_unescapeList (h : Text.unescapeList cs = some text) (after : List Char) :
    language.readRest (cs ++ '"' :: after) = some (text, after) := by
  -- What follows the first character or the first escape is read alike.
  have hnext {d : Char} {cs text : List Char} (h : (Text.unescapeList cs).map (d :: ·) = some text)
      (ih : ∀ {text}, Text.unescapeList cs = some text →
        language.readRest (cs ++ '"' :: after) = some (text, after)) :
      (language.readRest (cs ++ '"' :: after)).map (Prod.map (d :: ·) id) = some (text, after) := by
    obtain ⟨rest, hrest, rfl⟩ := Option.map_eq_some_iff.1 h
    rw [ih hrest]
    rfl
  fun_induction Text.unescapeList cs generalizing text with
  | case1 =>
    obtain rfl : [] = text := Option.some.inj h
    rfl
  | case2 cs ih | case3 cs ih | case4 cs ih | case5 cs ih | case6 cs ih =>
    exact readRest_escape (by cases language <;> rfl) (hnext h ih)
  | case7 => cases h
  | case8 => cases h
  | case9 c cs _ _ _ _ _ hslash hquote ih =>
    rw [List.cons_append, readRest_cons hslash hquote, hnext h ih]

theorem readLiteral_of_unescapeList (h : Text.unescapeList cs = some text) :
    language.readLiteral (String.ofList ('"' :: (cs ++ ['"']))) = some (String.ofList text) := by
  rw [readLiteral, String.toList_ofList]
  simp only [readRest_of_unescapeList h []]

theorem readLiteral_quoteLine (language : Language) (s : String) :
    language.readLiteral (Text.quoteLine s) = some s := by
  rw [Text.quoteLine, readLiteral_of_unescapeList (Text.unescapeList_flatMap_escapeQuoteChar _),
    String.ofList_toList]

/-- Any text has a literal on one line. -/
theorem spells_quote (language : Language) (s : String) : language.Spells (Text.quote s) s where
  oneLine := by
    rw [Text.quote, String.toList_ofList, Text.oneLine_quoted_iff]
    exact Text.oneLine_escapeList s.toList
  reads := by
    rw [Text.quote, readLiteral_of_unescapeList (Text.unescapeList_escapeList _),
      String.ofList_toList]

/-- A text whose line breaks are left as they are has a literal on one line if it has none. -/
theorem spells_quoteLine_iff (language : Language) (s : String) :
    language.Spells (Text.quoteLine s) s ↔ Text.OneLine s.toList := by
  have hlines : Text.OneLine (Text.quoteLine s).toList ↔ Text.OneLine s.toList := by
    rw [Text.quoteLine, String.toList_ofList, Text.oneLine_quoted_iff,
      Text.oneLine_flatMap_escapeQuoteChar_iff]
  constructor
  · intro h
    exact hlines.1 h.oneLine
  · intro h
    exact ⟨hlines.2 h, language.readLiteral_quoteLine s⟩

end Language

/-! ### Defaults -/

namespace TypeTable

variable {a : Attribute} {name fixed : String}

theorem attributeDefault_primitive (t : TypeTable) (hlist : a.multiplicity ≠ .list)
    (hname : a.valueType.primitive? = some name) (hfixed : a.default = some fixed) :
    t.attributeDefault a = some (t.literal name fixed) := by
  have hone : a.multiplicity.isList = false := decide_eq_false hlist
  rw [attributeDefault, hone, if_neg Bool.false_ne_true, hfixed]
  cases htype : a.valueType with
  | primitive primitive =>
    rw [htype] at hname
    obtain rfl : primitive = name := Option.some.inj hname
    rfl
  | datatype measured =>
    rw [htype] at hname
    obtain rfl : measured.value = name := Option.some.inj hname
    rfl
  | enumeration enumeration => rw [htype] at hname; cases hname
  | compound compound => rw [htype] at hname; cases hname

theorem literal_of_not_mem (t : TypeTable)
    (h : name ∉ ["Integer", "Float", "Decimal", "Boolean"]) (fixed : String) :
    t.literal name fixed = Text.quoteLine (Text.trim fixed) := by
  simp only [List.mem_cons, List.not_mem_nil, or_false, not_or] at h
  obtain ⟨hinteger, hfloat, hdecimal, hboolean⟩ := h
  rw [literal] <;> assumption

/-- **Fixed texts.** An attribute of a primitive that is neither a number nor a truth value has, if
its value is fixed, a double-quoted literal as its default. The language reads the fixed text from
it, without the blanks at the two ends. The literal lies on one line if no line ends inside the
text. -/
theorem attributeDefault_of_fixed_text (t : TypeTable) (hlist : a.multiplicity ≠ .list)
    (hname : a.valueType.primitive? = some name)
    (htext : name ∉ ["Integer", "Float", "Decimal", "Boolean"]) (hfixed : a.default = some fixed) :
    ∃ literal text, t.attributeDefault a = some literal ∧ Text.Trims fixed text ∧
      t.language.readLiteral literal = some text ∧
      (t.language.Spells literal text ↔ Text.OneLine text.toList) := by
  refine ⟨Text.quoteLine (Text.trim fixed), Text.trim fixed, ?_, Text.trims_trim fixed,
    t.language.readLiteral_quoteLine _, t.language.spells_quoteLine_iff _⟩
  rw [attributeDefault_primitive t hlist hname hfixed, literal_of_not_mem t htext]

end TypeTable

/-- A note on a bay, which is fixed. -/
def fixedNote (fixed : String) : Attribute :=
  ⟨"note", "Bay", .primitive "String", .optional, none, some fixed, []⟩

theorem attributeDefault_fixedNote :
    (∃ literal text, Language.java.types.attributeDefault (fixedNote " the \"old\" bay\n") =
        some literal ∧ Text.Trims " the \"old\" bay\n" text ∧
      Language.java.readLiteral literal = some text ∧
      (Language.java.Spells literal text ↔ Text.OneLine text.toList)) ∧
    Language.java.types.attributeDefault (fixedNote " the \"old\" bay\n") =
      some "\"the \\\"old\\\" bay\"" :=
  ⟨TypeTable.attributeDefault_of_fixed_text Language.java.types (by decide) rfl (by decide) rfl,
    by decide +kernel⟩

/-- A line that ends inside a text ends inside its literal, too. -/
theorem not_spells_fixedNote :
    Language.python.types.attributeDefault (fixedNote "one\ntwo") = some "\"one\ntwo\"" ∧
    ¬ ∃ literal text, Language.python.types.attributeDefault (fixedNote "one\ntwo") = some literal ∧
      Text.Trims "one\ntwo" text ∧ Language.python.Spells literal text := by
  have hliteral : Language.python.types.attributeDefault (fixedNote "one\ntwo") =
      some "\"one\ntwo\"" := by decide +kernel
  refine ⟨hliteral, ?_⟩
  rintro ⟨literal, text, hdefault, -, hspells⟩
  obtain rfl : "\"one\ntwo\"" = literal := Option.some.inj (hliteral.symm.trans hdefault)
  exact absurd hspells.oneLine (by decide)

end CimSchema
