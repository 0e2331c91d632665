import CimSchema.Proofs.Target.Layout
import CimSchema.Proofs.Text.Replace
import CimSchema.Target.Source

/-!
# Documentation in comments

The documentation of a class or a value stands in a comment or a docstring. A reader of the source
text leaves it where it finds the closing mark for the first time. In docstrings the mark is escaped
where the documentation has it. In comments it is not, so that a text with the mark closes its
comment too early.

## Main definitions

* `Text.behind?`, `Text.behindQuotes?` - read to the first closing mark.
* `Language.behindComment?` - what stands behind the first comment or docstring of a text.
* `commentLines`, `docstringLines` - the lines of a comment and of a docstring.
* `Language.docBlock` - the documentation of a class or a value.
* `Language.blockEnd` - what is left of it behind its closing mark.

## Main results

* `Text.behind?_append_iff` - a mark is found first where none stands in front of it.
* `Text.behindQuotes?_escaped` - in an escaped line no closing mark is found.
* `Language.behindComment?_docBlock_iff` - which documentation is closed by its closing line only.
* `Language.behindComment?_docBlock_mark` - a comment that its text closes.
-/

namespace CimSchema

namespace Text

/-- What stands behind the first place of `mark` in a text. -/
def behind? (mark : List Char) : List Char → Option (List Char)
  | [] => none
  | c :: cs =>
    if mark.isPrefixOf (c :: cs) then some ((c :: cs).drop mark.length) else behind? mark cs

/-- What stands behind the first three double quotes in a row of a text. A character behind a
backslash is passed over. -/
def behindQuotes? : List Char → Option (List Char)
  | [] => none
  | '\\' :: _ :: cs => behindQuotes? cs
  | '"' :: '"' :: '"' :: cs => some cs
  | _ :: cs => behindQuotes? cs

variable {mark before after cs : List Char} {c : Char}

/-! ### A mark that is not escaped -/

theorem behind?_self (hne : mark ≠ []) (after : List Char) :
    behind? mark (mark ++ after) = some after := by
  cases mark with
  | nil => exact absurd rfl hne
  | cons c mark =>
    have hstart : (c :: mark).isPrefixOf (c :: mark ++ after) = true :=
      List.isPrefixOf_iff_prefix.2 (List.prefix_append _ _)
    rw [List.cons_append] at hstart ⊢
    rw [behind?, if_pos hstart, ← List.cons_append, List.drop_left]

/-- A mark is found first where none stands in front of it, also none that ends within it. -/
theorem behind?_append_iff (hne : mark ≠ []) :
    behind? mark (before ++ mark ++ after) = some after ↔ ¬ mark <:+: before ++ mark.dropLast := by
  have hlength := List.length_pos_of_ne_nil hne
  induction before with
  | nil =>
    rw [List.nil_append, List.nil_append]
    refine iff_of_true (behind?_self hne after) fun h => ?_
    have hle := h.length_le
    rw [List.length_dropLast] at hle
    omega
  | cons c before ih =>
    -- A place at `c` ends before the last character of the mark that follows.
    have hstart : mark <+: c :: (before ++ mark ++ after) ↔
        mark <+: c :: (before ++ mark.dropLast) := by
      have hshorter : c :: (before ++ mark.dropLast) <+: c :: (before ++ mark ++ after) := by
        rw [List.append_assoc, List.cons_prefix_cons, List.prefix_append_right_inj]
        exact ⟨rfl, (List.dropLast_prefix mark).trans (List.prefix_append _ _)⟩
      refine ⟨fun h => List.prefix_of_prefix_length_le h hshorter ?_, fun h => h.trans hshorter⟩
      rw [List.length_cons, List.length_append, List.length_dropLast]
      omega
    rw [List.cons_append, List.cons_append, List.cons_append, behind?, List.infix_cons_iff, not_or,
      ← hstart]
    by_cases h : mark <+: c :: (before ++ mark ++ after)
    · rw [if_pos (List.isPrefixOf_iff_prefix.2 h)]
      refine iff_of_false (fun heq => ?_) fun hnot => hnot.1 h
      have hdropped := congrArg List.length (Option.some.inj heq)
      rw [List.length_drop, List.length_cons, List.length_append, List.length_append] at hdropped
      omega
    · rw [if_neg (mt List.isPrefixOf_iff_prefix.1 h)]
      exact ih.trans (and_iff_right h).symm

/-- What does not have the first character of a mark is passed over. -/
theorem behind?_append_of_not_mem {first : Char} (hfirst : mark.head? = some first)
    (h : first ∉ before) : behind? mark (before ++ after) = behind? mark after := by
  induction before with
  | nil => rfl
  | cons c before ih =>
    obtain ⟨hc, hbefore⟩ := not_or.1 (mt List.mem_cons.2 h)
    have hstart : ¬ mark.isPrefixOf (c :: (before ++ after)) = true :=
      mt List.isPrefixOf_iff_prefix.1 (not_starts_of_ne hfirst hc)
    rw [List.cons_append, behind?, if_neg hstart, ih hbefore]

/-! ### A mark that is escaped -/

/-- Three double quotes. -/
def quotes : List Char := List.replicate 3 '"'

/-- Three double quotes, each with a backslash in front. -/
def escapedQuotes : List Char := ['\\', '"', '\\', '"', '\\', '"']

theorem behindQuotes?_cons (hc : c ≠ '\\') (h : ¬ quotes <+: c :: cs) :
    behindQuotes? (c :: cs) = behindQuotes? cs := by
  rw [behindQuotes?]
  · rintro d rest rfl
    exact absurd rfl hc
  · rintro rest rfl rfl
    exact absurd (List.prefix_append quotes rest) h

theorem behindQuotes?_escape (c : Char) (cs : List Char) :
    behindQuotes? ('\\' :: c :: cs) = behindQuotes? cs := by
  rw [behindQuotes?]

theorem behindQuotes?_of_blank (h : ∀ c ∈ before, isBlank c = true) (after : List Char) :
    behindQuotes? (before ++ after) = behindQuotes? after := by
  induction before with
  | nil => rfl
  | cons c before ih =>
    obtain ⟨hc, hbefore⟩ := List.forall_mem_cons.1 h
    rw [List.cons_append, behindQuotes?_cons, ih hbefore]
    · rintro rfl
      cases hc
    · refine not_starts_of_ne rfl ?_
      rintro rfl
      cases hc

theorem exists_replaceFrom_of_starts {old : List Char} (hne : old ≠ []) (new : List Char)
    (h : old <+: cs) : ∃ rest, cs = old ++ rest ∧
      replaceFrom old new 0 cs = new ++ replaceFrom old new 0 rest := by
  obtain ⟨rest, rfl⟩ := h
  exact ⟨rest, rfl, replaceFrom_append_self hne new rest⟩

/-- Double quotes that an escaped line starts with stand in the line itself. -/
theorem replicate_prefix_of_escaped {n : Nat} {rest : List Char}
    (h : List.replicate n '"' <+: replaceFrom quotes escapedQuotes 0 cs ++ '\n' :: rest) :
    List.replicate n '"' <+: cs := by
  induction n generalizing cs with
  | zero => exact List.nil_prefix
  | succ n ih =>
    rw [List.replicate_succ] at h ⊢
    cases cs with
    | nil => exact absurd (List.cons_prefix_cons.1 h).1 (by decide)
    | cons c cs =>
      by_cases hquotes : quotes <+: c :: cs
      · -- The quotes of a place have a backslash in front.
        obtain ⟨after, -, heq⟩ := exists_replaceFrom_of_starts (by decide) escapedQuotes hquotes
        rw [heq] at h
        exact absurd (List.cons_prefix_cons.1 h).1 (by decide)
      · rw [replaceFrom_cons_of_not_starts hquotes, List.cons_append, List.cons_prefix_cons] at h
        exact List.cons_prefix_cons.2 ⟨h.1, ih h.2⟩

theorem behindQuotes?_escapedQuotes (after : List Char) :
    behindQuotes? (escapedQuotes ++ after) = behindQuotes? after := by
  simp [escapedQuotes, behindQuotes?]

/-- A backslash in front of an escaped place frees the first of its quotes, but not the others. -/
theorem behindQuotes?_cons_escapedQuotes (after : List Char) :
    behindQuotes? ('\\' :: (escapedQuotes ++ after)) = behindQuotes? after := by
  simp [escapedQuotes, behindQuotes?]

/-- In an escaped line no closing mark is found, whatever stands in it. -/
theorem behindQuotes?_escaped (cs rest : List Char) :
    behindQuotes? (replaceFrom quotes escapedQuotes 0 cs ++ '\n' :: rest) = behindQuotes? rest := by
  induction hn : cs.length using Nat.strong_induction_on generalizing cs with
  | _ n ih =>
    subst hn
    by_cases hquotes : quotes <+: cs
    · obtain ⟨after, rfl, heq⟩ := exists_replaceFrom_of_starts (by decide) escapedQuotes hquotes
      rw [heq, List.append_assoc, behindQuotes?_escapedQuotes]
      exact ih _ (by simp [quotes]; omega) after rfl
    · cases cs with
      | nil => exact behindQuotes?_cons (by decide) (by simp [quotes])
      | cons c cs =>
        rw [replaceFrom_cons_of_not_starts hquotes]
        by_cases hc : c = '\\'
        · subst hc
          -- The character behind the backslash is passed over, be it the end of the line.
          by_cases hplace : quotes <+: cs
          · obtain ⟨after, rfl, heq⟩ :=
              exists_replaceFrom_of_starts (by decide) escapedQuotes hplace
            rw [heq, List.cons_append, List.append_assoc, behindQuotes?_cons_escapedQuotes]
            exact ih _ (by simp [quotes]; omega) after rfl
          · cases cs with
            | nil => exact behindQuotes?_escape _ _
            | cons d cs =>
              rw [replaceFrom_cons_of_not_starts hplace]
              have hshorter : cs.length < ('\\' :: d :: cs).length :=
                Nat.lt_succ_of_lt (Nat.lt_succ_self _)
              exact (behindQuotes?_escape _ _).trans (ih _ hshorter cs rfl)
        · have hnot :
              ¬ quotes <+: c :: (replaceFrom quotes escapedQuotes 0 cs ++ '\n' :: rest) := by
            intro h
            obtain ⟨rfl, hrest⟩ := List.cons_prefix_cons.1 h
            exact hquotes (List.cons_prefix_cons.2 ⟨rfl, replicate_prefix_of_escaped hrest⟩)
          rw [List.cons_append, behindQuotes?_cons hc hnot]
          exact ih _ (by simp) cs rfl

end Text

/-! ### Blocks of documentation -/

/-- What stands behind the first comment or docstring of a text. Marks are searched for literally:
lines that C++ would splice are not joined, and Unicode escapes of Java are not read. -/
def Language.behindComment? (language : Language) (cs : List Char) : Option (List Char) :=
  match language with
  | python => (Text.behind? Text.quotes cs).bind Text.behindQuotes?
  | java | cpp => (Text.behind? ['/', '*'] cs).bind (Text.behind? ['*', '/'])

/-- The documentation of a class or a value as it is written at a level. Docstrings always stand at
the first level. -/
def Language.docBlock (language : Language) (o : Options) (level : Nat) (text : Option String) :
    List String :=
  match language with
  | python => Python.docstring o text
  | java => Java.javadoc o level text.toList
  | cpp => Cpp.docBlock o level text

/-- What is left of a block behind the mark that closes it: the end of its line, and an empty line
behind a docstring. -/
def Language.blockEnd : Language → List Char
  | python => ['\n', '\n']
  | java | cpp => ['\n']

section Block

variable {pad : String} {docs : List String}

/-- A comment over some lines, with `star` behind its opening mark and `gap` in front of its closing
mark. -/
def commentLines (pad star gap : String) (docs : List String) : List String :=
  [pad ++ "/*" ++ star] ++ docs ++ [pad ++ gap ++ "*/"]

/-- A docstring of some lines, and the empty line behind it. -/
def docstringLines (pad : String) (docs : List String) : List String :=
  [pad ++ Python.tripleQuote] ++ docs.map Python.docstringLine ++ [pad ++ Python.tripleQuote, ""]

theorem isWord_commentMark : Text.IsWord ['*', '/'] :=
  ⟨List.cons_ne_nil _ _, List.forall_mem_cons.2 ⟨rfl, List.forall_mem_singleton.2 rfl⟩⟩

/-- A comment ends with its closing line exactly if none of its lines holds the closing mark. -/
theorem behind?_commentLines_iff (hpad : ∀ c ∈ pad.toList, Text.isBlank c = true)
    {star gap : String} (hstar : ¬ ['*', '/'] <:+: star.toList)
    (hgap : ∀ c ∈ gap.toList, Text.isBlank c = true) (after : List Char) :
    (Text.behind? ['/', '*'] ((linesText (commentLines pad star gap docs)).toList ++ after)).bind
        (Text.behind? ['*', '/']) = some (['\n'] ++ after) ↔
      ¬ ['*', '/'] <:+: (linesText docs).toList := by
  have hopen : '/' ∉ pad.toList := fun h => absurd (hpad _ h) (by decide)
  have hchars : (linesText (commentLines pad star gap docs)).toList ++ after =
      pad.toList ++ (['/', '*'] ++ ((star.toList ++ '\n' :: ((linesText docs).toList ++
        (pad.toList ++ gap.toList))) ++ ['*', '/'] ++ (['\n'] ++ after))) := by
    simp [commentLines, toList_linesText_append]
  rw [hchars, Text.behind?_append_of_not_mem rfl hopen, Text.behind?_self (by decide),
    Option.bind_some, Text.behind?_append_iff (by decide)]
  refine not_congr ?_
  -- The lines between start behind a line end, and end with one.
  have hends : ∀ c ∈ (linesText docs).toList.getLast?, Text.isBlank c = true :=
    fun _ => isBlank_of_mem_getLast?_linesText
  have hindent : ∀ c ∈ pad.toList ++ gap.toList, Text.isBlank c = true := fun c hc =>
    (List.mem_append.1 hc).elim (hpad c) (hgap c)
  -- What is left of the closing mark without its last character is no mark.
  have hclosing : ¬ ['*', '/'] <:+: pad.toList ++ gap.toList ++ ['*'] := by
    rw [isWord_commentMark.infix_append_iff fun c hc => hindent c (List.mem_of_mem_getLast? hc)]
    rintro (h | h)
    · exact isWord_commentMark.not_infix_of_blank hindent h
    · exact absurd h.length_le (by decide)
  rw [List.dropLast_cons_cons, List.dropLast_singleton, List.append_assoc, List.cons_append,
    Text.infix_append_cons_iff (by decide) (by decide), or_iff_right hstar, List.append_assoc,
    isWord_commentMark.infix_append_iff hends, or_iff_left hclosing]

theorem toList_docstringLine (line : String) :
    (Python.docstringLine line).toList =
      Text.replaceFrom Text.quotes Text.escapedQuotes 0 line.toList := by
  rw [Python.docstringLine, Text.replace, String.toList_ofList]
  rfl

/-- In the lines of a docstring no closing mark is found. -/
theorem behindQuotes?_map_docstringLine (docs : List String) (after : List Char) :
    Text.behindQuotes? ((linesText (docs.map Python.docstringLine)).toList ++ after) =
      Text.behindQuotes? after := by
  induction docs with
  | nil => rfl
  | cons line docs ih =>
    rw [List.map_cons, toList_linesText_cons, toList_docstringLine, List.append_assoc,
      List.cons_append, Text.behindQuotes?_escaped, ih]

/-- A docstring ends with its closing line, whatever its lines are. -/
theorem behindQuotes?_docstringLines (hpad : ∀ c ∈ pad.toList, Text.isBlank c = true)
    (after : List Char) :
    (Text.behind? Text.quotes ((linesText (docstringLines pad docs)).toList ++ after)).bind
        Text.behindQuotes? = some ('\n' :: '\n' :: after) := by
  have hopen : '"' ∉ pad.toList := fun h => absurd (hpad _ h) (by decide)
  have hquotes : Python.tripleQuote.toList = Text.quotes := rfl
  have hchars : (linesText (docstringLines pad docs)).toList ++ after =
      pad.toList ++ (Text.quotes ++ (['\n'] ++
        ((linesText (docs.map Python.docstringLine)).toList ++
          (pad.toList ++ (Text.quotes ++ '\n' :: '\n' :: after))))) := by
    simp [docstringLines, toList_linesText_append, hquotes]
  rw [hchars, Text.behind?_append_of_not_mem rfl hopen, Text.behind?_self (by decide),
    Option.bind_some, Text.behindQuotes?_of_blank (List.forall_mem_singleton.2 rfl),
    behindQuotes?_map_docstringLine, Text.behindQuotes?_of_blank hpad]
  rfl

end Block

section DocBlock

variable {o : Options} {level : Nat} {text : String}

theorem docBlock_python (h : Language.python.docBlock o level (some text) ≠ []) :
    Language.python.docBlock o level (some text) =
      docstringLines (o.indent.level 1) (documentation text "" o.indent 1 o.lineWidth) := by
  simp only [Language.docBlock, Python.docstring] at h ⊢
  split at h
  · exact if_pos ‹_›
  · exact absurd rfl h

theorem docBlock_java (h : Language.java.docBlock o level (some text) ≠ []) :
    Language.java.docBlock o level (some text) =
      commentLines (o.indent.level level) "*" " "
        (documentation text " * " o.indent level o.lineWidth) := by
  simp only [Language.docBlock, Java.javadoc] at h ⊢
  split at h
  · rw [if_pos ‹_›]
    simp [commentLines, String.append_assoc]
  · exact absurd rfl h

theorem docBlock_cpp (h : Language.cpp.docBlock o level (some text) ≠ []) :
    Language.cpp.docBlock o level (some text) =
      commentLines (o.indent.level level) "" ""
        (documentation text "" o.indent level o.lineWidth) := by
  simp only [Language.docBlock, Cpp.docBlock] at h ⊢
  split at h
  · rw [if_pos ‹_›, commentLines, String.append_empty, String.append_empty]
  · exact absurd rfl h

/-- **Closed comments.** The documentation of a class or a value is closed by its closing line, and
by nothing in front of it, exactly if it is a docstring or its text does not hold `*/`. -/
theorem Language.behindComment?_docBlock_iff (language : Language)
    (h : language.docBlock o level (some text) ≠ []) :
    (∀ after, language.behindComment?
        ((linesText (language.docBlock o level (some text))).toList ++ after) =
          some (language.blockEnd ++ after)) ↔
      language = .python ∨ ¬ Text.holds "*/" text := by
  have hpad (n : Nat) : ∀ c ∈ (o.indent.level n).toList, Text.isBlank c = true :=
    fun _ => Indent.isBlank_of_mem_level
  rw [Text.holds_iff]
  cases language with
  | python =>
    refine iff_of_true (fun after => ?_) (.inl rfl)
    rw [docBlock_python h, behindComment?, behindQuotes?_docstringLines (hpad 1)]
    rfl
  | java =>
    have hstar : ¬ ['*', '/'] <:+: "*".toList := by decide
    have hgap : ∀ c ∈ " ".toList, Text.isBlank c = true := by simp [Text.isBlank]
    have hlead : ∀ c ∈ " * ".toList.getLast?, Text.isBlank c = true := by simp [Text.isBlank]
    have hmark : ¬ ['*', '/'] <:+: " * ".toList := by decide
    rw [or_iff_right (by decide), docBlock_java h]
    simp only [behindComment?, blockEnd, forall_const,
      behind?_commentLines_iff (hpad level) hstar hgap]
    rw [infix_documentation_iff isWord_commentMark hlead hmark]
    rfl
  | cpp =>
    have hempty : ¬ ['*', '/'] <:+: "".toList := by decide
    have hgap : ∀ c ∈ "".toList, Text.isBlank c = true := by simp
    have hlead : ∀ c ∈ "".toList.getLast?, Text.isBlank c = true := by simp
    rw [or_iff_right (by decide), docBlock_cpp h]
    simp only [behindComment?, blockEnd, forall_const,
      behind?_commentLines_iff (hpad level) hempty hgap]
    rw [infix_documentation_iff isWord_commentMark hlead hempty]
    rfl

end DocBlock

theorem Language.behindComment?_docBlock_quotes :
    Language.python.docBlock {} 0 (some "an \"\"\"open\"\" bay \\") ≠ [] ∧
      Language.java.docBlock {} 0 (some "open * / shut") ≠ [] ∧
      (∀ after, Language.python.behindComment?
        ((linesText (Language.python.docBlock {} 0
          (some "an \"\"\"open\"\" bay \\"))).toList ++ after) = some ('\n' :: '\n' :: after)) ∧
      ∀ after, Language.java.behindComment?
        ((linesText (Language.java.docBlock {} 0 (some "open * / shut"))).toList ++ after) =
          some ('\n' :: after) := by
  have hpython : Language.python.docBlock {} 0 (some "an \"\"\"open\"\" bay \\") ≠ [] := by
    decide +kernel
  have hjava : Language.java.docBlock {} 0 (some "open * / shut") ≠ [] := by decide +kernel
  exact ⟨hpython, hjava, (python.behindComment?_docBlock_iff hpython).2 (.inl rfl),
    (java.behindComment?_docBlock_iff hjava).2 (.inr (by decide +kernel))⟩

/-- A closing mark in the text closes the comment, and what follows it stands outside. -/
theorem Language.behindComment?_docBlock_mark :
    Language.java.behindComment?
        (linesText (Language.java.docBlock {} 0 (some "open */ shut"))).toList =
          some " shut\n */\n".toList ∧
      Language.cpp.behindComment?
        (linesText (Language.cpp.docBlock {} 1 (some "open */ shut"))).toList =
          some " shut\n    */\n".toList := by decide +kernel

end CimSchema
