import CimSchema.Files.Tree

/-!
# Paths and their pieces

## Main results

* `Path.exists_mem_sortDistinct` - each path is among the distinct ones, in some spelling.
* `Path.pieces_join` - a name that is added to a path is one more piece.
-/

namespace CimSchema

/-! ### Distinct paths -/

/-- Each element has one that stands for it among those that are left without repetitions. -/
theorem exists_mem_eraseRepsBy_loop {α : Type} {same : α → α → Bool}
    (hrefl : ∀ x, same x x = true)
    (htrans : ∀ x y z, same x y = true → same y z = true → same x z = true)
    {x : α} {xs done : List α} {y : α} (hy : y ∈ done ∨ y ∈ x :: xs) :
    ∃ z ∈ List.eraseRepsBy.loop same x xs done, same z y = true := by
  induction xs generalizing x y done with
  | nil =>
    refine ⟨y, ?_, hrefl y⟩
    rw [List.eraseRepsBy.loop, List.mem_reverse, List.mem_cons]
    exact hy.symm.imp_left List.mem_singleton.1
  | cons x' xs ih =>
    rw [List.eraseRepsBy.loop]
    cases hsame : same x x' with
    | false =>
      refine ih ?_
      rcases hy with hy | _ | ⟨_, hy⟩
      · exact .inl (.tail _ hy)
      · exact .inl (.head _)
      · exact .inr hy
    | true =>
      rcases hy with hy | _ | ⟨_, _ | ⟨_, hy⟩⟩
      · exact ih (.inl hy)
      · exact ih (.inr (.head _))
      · -- What stands for the one before stands for this one, too.
        have hkept : ∃ z ∈ List.eraseRepsBy.loop same x xs done, same z x = true :=
          ih (.inr (.head xs))
        obtain ⟨z, hz, hzx⟩ := hkept
        exact ⟨z, hz, htrans z x x' hzx hsame⟩
      · exact ih (.inr (.tail _ hy))

/-- Each path is among the distinct ones, in some spelling. -/
theorem Path.exists_mem_sortDistinct {ps : List Path} {p : Path} (h : p ∈ ps) :
    ∃ q ∈ sortDistinct ps, q.same p = true := by
  have h : p ∈ ps.mergeSort le := List.mem_mergeSort.2 h
  rw [sortDistinct, sort]
  cases hsorted : ps.mergeSort le with
  | nil =>
    rw [hsorted] at h
    cases h
  | cons q qs =>
    rw [hsorted] at h
    rw [List.eraseRepsBy]
    refine exists_mem_eraseRepsBy_loop (fun p => ?_) (fun p q r hpq hqr => ?_) (.inr h)
    · exact decide_eq_true rfl
    · exact decide_eq_true ((of_decide_eq_true hpq).trans (of_decide_eq_true hqr))

/-! ### Pieces -/

namespace Text

variable {sep : Char} {cs ds : List Char}

theorem splitOn_ne_nil (sep : Char) (cs : List Char) : splitOn sep cs ≠ [] := by
  cases cs with
  | nil => exact List.cons_ne_nil _ _
  | cons c cs =>
    rw [splitOn]
    split
    · exact List.cons_ne_nil _ _
    · split <;> exact List.cons_ne_nil _ _

/-- A separator ends a part. -/
theorem splitOn_append_cons (sep : Char) (cs ds : List Char) :
    splitOn sep (cs ++ sep :: ds) = splitOn sep cs ++ splitOn sep ds := by
  induction cs with
  | nil => exact if_pos rfl
  | cons c cs ih =>
    rw [List.cons_append, splitOn, splitOn, ih]
    split
    · rfl
    · cases hcs : splitOn sep cs with
      | nil => exact absurd hcs (splitOn_ne_nil sep cs)
      | cons part parts => rfl

/-- A text without a separator is one part. -/
theorem splitOn_of_not_mem (h : sep ∉ cs) : splitOn sep cs = [cs] := by
  induction cs with
  | nil => rfl
  | cons c cs ih =>
    rw [List.mem_cons, not_or] at h
    rw [splitOn, if_neg (Ne.symm h.1), ih h.2]

end Text

namespace Path

variable {name : String}

theorem isAbsolute_append {s : String} (h : s.isEmpty = false) (t : String) :
    isAbsolute ⟨s ++ t⟩ = isAbsolute ⟨s⟩ := by
  rw [isAbsolute, isAbsolute, String.toList_append]
  cases hs : s.toList with
  | nil => simp_all
  | cons c cs => rfl

theorem isAbsolute_of_not_mem (h : '/' ∉ name.toList) : isAbsolute ⟨name⟩ = false := by
  rw [isAbsolute, decide_eq_false_iff_not]
  exact fun hhead => h (List.mem_of_mem_head? hhead)

theorem pieces_of_not_mem (h : '/' ∉ name.toList) (hname : name.isEmpty = false) :
    pieces ⟨name⟩ = [name] := by
  have hcs : name.toList ≠ [] := by simpa using hname
  rw [pieces, Text.splitOn_of_not_mem h]
  simp [hcs]

/-- The pieces before and after a slash. -/
theorem pieces_of_eq {p : Path} {cs ds : List Char} (h : p.text.toList = cs ++ '/' :: ds) :
    p.pieces = pieces ⟨String.ofList cs⟩ ++ pieces ⟨String.ofList ds⟩ := by
  rw [pieces, pieces, pieces, h, Text.splitOn_append_cons, String.toList_ofList,
    String.toList_ofList, List.filter_append, List.map_append]

/-- A name that is added to a path is one more piece. -/
theorem pieces_join (p : Path) (h : '/' ∉ name.toList) (hname : name.isEmpty = false) :
    (p.join ⟨name⟩).pieces = p.pieces ++ [name] := by
  have hlast : pieces ⟨String.ofList name.toList⟩ = [name] := by
    rw [String.ofList_toList, pieces_of_not_mem h hname]
  rw [join, isAbsolute_of_not_mem h, if_neg Bool.false_ne_true]
  cases hempty : p.text.isEmpty with
  | true =>
    rw [String.isEmpty_iff] at hempty
    rw [Bool.true_or, if_pos rfl, pieces, pieces, hempty, String.empty_append]
    exact pieces_of_not_mem h hname
  | false =>
    cases hslash : p.endsWithSlash with
    | true =>
      -- The slash at the end of the path is the one before the name.
      obtain ⟨cs, hcs⟩ := List.getLast?_eq_some_iff.1 (of_decide_eq_true hslash)
      have hjoin : (p.text ++ name).toList = cs ++ '/' :: name.toList := by simp [hcs]
      rw [Bool.or_true, if_pos rfl, pieces_of_eq hjoin, pieces_of_eq hcs, hlast]
      simp [pieces, Text.splitOn]
    | false =>
      have hjoin : (p.text ++ "/" ++ name).toList = p.text.toList ++ '/' :: name.toList := by simp
      rw [Bool.or_false, if_neg Bool.false_ne_true, pieces_of_eq hjoin, hlast, String.ofList_toList]

/-- A name that is added to a path does not change where the path starts. -/
theorem start_join (l : Location) (p : Path) (h : '/' ∉ name.toList) :
    FileTree.start l (p.join ⟨name⟩) = FileTree.start l p := by
  have habsolute : (p.join ⟨name⟩).isAbsolute = p.isAbsolute := by
    rw [join, isAbsolute_of_not_mem h, if_neg Bool.false_ne_true]
    cases hempty : p.text.isEmpty with
    | true =>
      rw [String.isEmpty_iff] at hempty
      rw [Bool.true_or, if_pos rfl, hempty, String.empty_append, isAbsolute_of_not_mem h,
        isAbsolute, hempty]
      rfl
    | false =>
      split
      · exact isAbsolute_append hempty name
      · rw [String.append_assoc]
        exact isAbsolute_append hempty ("/" ++ name)
  rw [FileTree.start, FileTree.start, habsolute]

end Path

end CimSchema
