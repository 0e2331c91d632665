import CimSchema.Proofs.Target.Layout
import CimSchema.Proofs.Text.Fill

/-!
# The width of documentation lines

A documentation is filled into what the indentation and the text in front of each line leave of the
line width, but never into less than a least width. So its lines may be wider than the line width,
and by how much is known.

## Main definitions

* `columns` - the visible width of a text.
* `IsDocumentationLine` - a line of a documentation that is not too wide.

## Main results

* `Indent.columns_level` - the visible width of an indentation.
* `isDocumentationLine_append` - what fits into the rest of the line width is not too wide.
* `documentation_fills` - the lines of a documentation are greedily filled, and their width is
  bounded.
-/

namespace CimSchema

/-- The visible width of a character. A tab counts as four columns and any other character as the
bytes of its UTF-8 form, which are never fewer than its columns. -/
def charColumns (c : Char) : Nat :=
  if c = '\t' then 4 else c.utf8Size

/-- `columns` on the characters of the text. -/
def columnsList : List Char → Nat
  | [] => 0
  | c :: cs => charColumns c + columnsList cs

/-- The visible width of a text. -/
def columns (s : String) : Nat :=
  columnsList s.toList

theorem columnsList_append (cs ds : List Char) :
    columnsList (cs ++ ds) = columnsList cs + columnsList ds := by
  induction cs with
  | nil => rw [List.nil_append, columnsList, Nat.zero_add]
  | cons c cs ih => rw [List.cons_append, columnsList, ih, columnsList, Nat.add_assoc]

theorem columns_append (s t : String) : columns (s ++ t) = columns s + columns t := by
  rw [columns, String.toList_append, columnsList_append, columns, columns]

theorem columnsList_replicate (n : Nat) (c : Char) :
    columnsList (List.replicate n c) = n * charColumns c := by
  induction n with
  | zero => rw [List.replicate_zero, columnsList, Nat.zero_mul]
  | succ n ih => rw [List.replicate_succ, columnsList, ih, Nat.succ_mul, Nat.add_comm]

/-- Without tabs the visible width is the length that lines are filled by. -/
theorem columns_of_tab_not_mem {s : String} (h : '\t' ∉ s.toList) : columns s = s.utf8ByteSize := by
  have hbytes (cs : List Char) (hcs : '\t' ∉ cs) :
      columnsList cs = (String.ofList cs).utf8ByteSize := by
    induction cs with
    | nil => rfl
    | cons c cs ih =>
      obtain ⟨hc, hcs⟩ := not_or.1 (mt List.mem_cons.2 hcs)
      have hsplit : String.ofList (c :: cs) = String.singleton c ++ String.ofList cs := by
        simp
      rw [columnsList, ih hcs, charColumns, if_neg (Ne.symm hc), hsplit,
        String.utf8ByteSize_append, String.utf8ByteSize_singleton]
  rw [columns, hbytes s.toList h, String.ofList_toList]

namespace Indent

/-- The visible width of an indentation is the width that is reckoned with. -/
theorem columns_level (indent : Indent) (n : Nat) : columns (indent.level n) = indent.width n := by
  cases indent with
  | spaces count =>
    rw [level, columns, String.toList_ofList, columnsList_replicate]
    exact Nat.mul_one (count * n)
  | tabs =>
    rw [level, columns, String.toList_ofList, columnsList_replicate]
    exact Nat.mul_comm n 4

end Indent

namespace Text

variable {width : Nat} {line : String} {ws : List String} {c : Char}

/-- Between words with single spaces stands nothing else. -/
theorem mem_intercalate_space (h : c ∈ (" ".intercalate ws).toList) :
    c = ' ' ∨ ∃ word ∈ ws, c ∈ word.toList := by
  induction ws with
  | nil => cases h
  | cons word ws ih =>
    cases ws with
    | nil =>
      rw [String.intercalate_singleton] at h
      exact .inr ⟨word, List.mem_singleton_self word, h⟩
    | cons next ws =>
      rw [String.intercalate_cons_cons, String.toList_append, String.toList_append,
        List.mem_append, List.mem_append] at h
      rcases h with (hword | hspace) | hrest
      · exact .inr ⟨word, List.mem_cons_self, hword⟩
      · exact .inl (List.mem_singleton.1 hspace)
      · refine (ih hrest).imp_right ?_
        rintro ⟨other, hother, hc⟩
        exact ⟨other, List.mem_cons_of_mem word hother, hc⟩

/-- The only blank in a line is the space. -/
theorem IsLine.eq_space_of_isBlank (h : IsLine width line) (hc : c ∈ line.toList)
    (hblank : isBlank c = true) : c = ' ' := by
  rw [← h.spaced] at hc
  refine (mem_intercalate_space hc).resolve_right ?_
  rintro ⟨word, hword, hmem⟩
  obtain ⟨w, hw, rfl⟩ := List.mem_map.1 hword
  rw [String.toList_ofList] at hmem
  exact (isWord_of_mem_wordsList hw).not_mem hblank hmem

/-- The visible width of a line is the length that it is filled by. -/
theorem IsLine.columns_eq (h : IsLine width line) : columns line = line.utf8ByteSize := by
  apply columns_of_tab_not_mem
  intro htab
  cases h.eq_space_of_isBlank htab rfl

end Text

/-- `written` is the line of a documentation that holds `line`, and is not too wide. -/
structure IsDocumentationLine (lead : String) (indent : Indent) (level lineWidth : Nat)
    (line written : String) : Prop where
  eq : written = indent.level level ++ lead ++ line
  /-- The bound is the line width, or twenty columns more than what stands in front. -/
  columns_le : columns written ≤ max lineWidth (indent.width level + lead.utf8ByteSize + 20) ∨
    (Text.words line).length = 1

/-- A line that fits into what is left of the line width stays within the bound. -/
theorem isDocumentationLine_append {lead line : String} (hlead : '\t' ∉ lead.toList)
    {indent : Indent} {level lineWidth : Nat}
    (h : Text.IsLine (max (lineWidth - (indent.width level + lead.utf8ByteSize)) 20) line) :
    IsDocumentationLine lead indent level lineWidth line (indent.level level ++ lead ++ line) where
  eq := rfl
  columns_le := by
    refine h.fits.imp_left fun hfits => ?_
    rw [columns_append, columns_append, Indent.columns_level, columns_of_tab_not_mem hlead,
      h.columns_eq]
    -- Either the line width has room for twenty more columns, or these are the bound.
    omega

/-- **Documentation lines.** The lines of a text are its words in their order, filled greedily: no
line is empty or, with more than one word, too long, and no line ends where the next word would
still fit. The lines of a documentation are these lines, one by one, behind the indentation and the
text in front, and their visible width is bounded. -/
theorem documentation_fills (text : String) :
    (∀ width lines, Text.Fills width (Text.words text) lines ↔ lines = Text.wrap width text) ∧
      ∀ lead : String, '\t' ∉ lead.toList → ∀ (indent : Indent) (level lineWidth : Nat),
        List.Forall₂ (IsDocumentationLine lead indent level lineWidth)
          (Text.wrap (max (lineWidth - (indent.width level + lead.utf8ByteSize)) 20) text)
          (documentation text lead indent level lineWidth) := by
  refine ⟨fun width lines => Text.fills_iff_eq_wrap width text lines, ?_⟩
  intro lead hlead indent level lineWidth
  rw [documentation, leastWidth, List.forall₂_map_right_iff, List.forall₂_same]
  intro line hline
  apply isDocumentationLine_append hlead
  exact ((Text.fills_iff_eq_wrap _ text _).2 rfl).isLine line hline

theorem documentation_fills_resistance :
    '\t' ∉ "// ".toList ∧
      List.Forall₂ (IsDocumentationLine "// " (.spaces 4) 1 40)
        ["Positive sequence series", "resistance of the entire line", "section."]
        ["    // Positive sequence series", "    // resistance of the entire line",
          "    // section."] := by
  have hlead : '\t' ∉ "// ".toList := by decide
  exact ⟨hlead, (documentation_fills
    "Positive sequence series resistance of the entire line section.").2
      "// " hlead (.spaces 4) 1 40⟩

end CimSchema
