import CimSchema.Files.Host
import Mathlib.Data.List.Basic

/-!
# Growing trees of files

Making directories and writing files never takes anything away: a directory stays a directory, and a
file stays a file, although its content may be another one. So a path that leads to a file goes on
doing so.

## Main definitions

* `FileTree.GrowsTo` - one tree has all that another has.

## Main results

* `FileTree.growsTo_makeDirectories`, `FileTree.growsTo_write?` - the changes let a tree grow.
* `FileTree.GrowsTo.foldlM_follow` - the pieces of a path go on leading where they lead.
* `FileTree.find_of_slot` - a path leads to the file that is at its slot.
-/

namespace CimSchema.FileTree

variable {t t' t'' : FileTree} {l k : Location} {p : Path}

/-- Each directory of `t` is a directory of `t'`, and each file of `t` is a file of `t'`. -/
structure GrowsTo (t t' : FileTree) : Prop where
  directory : ∀ l, t.get? l = some .directory → t'.get? l = some .directory
  file : ∀ l text, t.get? l = some (.file text) → ∃ text', t'.get? l = some (.file text')

theorem GrowsTo.refl (t : FileTree) : t.GrowsTo t where
  directory _ h := h
  file _ text h := ⟨text, h⟩

theorem GrowsTo.trans (h : t.GrowsTo t') (h' : t'.GrowsTo t'') : t.GrowsTo t'' where
  directory l hl := h'.directory l (h.directory l hl)
  file l text hl := by
    obtain ⟨text', hl'⟩ := h.file l text hl
    exact h'.file l text' hl'

theorem isDirectoryAt_iff : t.isDirectoryAt l = true ↔ t.get? l = some .directory := by
  rw [isDirectoryAt, decide_eq_true_iff]

/-! ### Changes -/

theorem ne_nil_of_get? {o : Option Entry} (h : t.get? l = o) (ho : o ≠ some .directory) :
    l ≠ [] := by
  rintro rfl
  exact ho (h ▸ if_pos rfl)

theorem growsTo_put_directory (h : t.get? l = none) : t.GrowsTo (t.put l .directory) := by
  have hl := ne_nil_of_get? h (by simp)
  constructor
  · intro k hk
    rw [get?_put _ _ _ _ hl]
    split
    · rfl
    · exact hk
  · intro k text hk
    have hkl : k ≠ l := fun e => by simp [e, h] at hk
    exact ⟨text, by rw [get?_put _ _ _ _ hl, if_neg hkl, hk]⟩

theorem growsTo_put_file (h : t.get? l ≠ some .directory) (text : Option String) :
    t.GrowsTo (t.put l (.file text)) := by
  have hl := ne_nil_of_get? rfl h
  constructor
  · intro k hk
    have hkl : k ≠ l := fun e => h (e ▸ hk)
    rw [get?_put _ _ _ _ hl, if_neg hkl, hk]
  · intro k old hk
    rw [get?_put _ _ _ _ hl]
    split
    · exact ⟨text, rfl⟩
    · exact ⟨old, hk⟩

theorem growsTo_makeDirectory? (h : t.makeDirectory? l p = some t') : t.GrowsTo t' := by
  rw [makeDirectory?] at h
  split at h
  · split at h
    · cases h
    · rename_i hk
      obtain rfl := Option.some.inj h
      exact growsTo_put_directory (Option.not_isSome_iff_eq_none.1 hk)
  · cases h

theorem growsTo_makeEach (t : FileTree) (l : Location) (ps : List Path) :
    t.GrowsTo (t.makeEach l ps).1 := by
  -- Where one directory cannot be made, those before it stay.
  induction ps generalizing t with
  | nil => exact .refl t
  | cons p ps ih =>
    rw [makeEach]
    split
    · exact (growsTo_makeDirectory? ‹_›).trans (ih _)
    · split
      · exact ih t
      · exact .refl t

theorem growsTo_makeDirectories (t : FileTree) (l : Location) (p : Path) :
    t.GrowsTo (t.makeDirectories l p).1 := by
  rw [makeDirectories]
  split
  · exact .refl t
  · exact growsTo_makeEach t l p.chain

/-- What it takes to write a file, and what comes of it. -/
theorem write?_eq_some_iff {text : String} :
    t.write? l p text = some t' ↔
      ∃ k, t.slot l p = .ok k ∧ p.endsWithSlash = false ∧ t.get? k ≠ some .directory ∧
        t' = t.put k (.file (some text)) := by
  rw [write?]
  cases t.slot l p with
  | error fault => simp
  | ok k =>
    simp only [Except.ok.injEq, exists_eq_left', Ne, ← isDirectoryAt_iff]
    cases p.endsWithSlash <;> cases t.isDirectoryAt k <;> simp [eq_comm]

theorem growsTo_write? {text : String} (h : t.write? l p text = some t') : t.GrowsTo t' := by
  obtain ⟨k, -, -, hk, rfl⟩ := write?_eq_some_iff.1 h
  exact growsTo_put_file hk _

/-! ### Paths -/

theorem GrowsTo.isSome (h : t.GrowsTo t') (hl : (t.get? l).isSome = true) :
    (t'.get? l).isSome = true := by
  obtain ⟨e, he⟩ := Option.isSome_iff_exists.1 hl
  cases e with
  | directory => rw [h.directory l he, Option.isSome_some]
  | file text =>
    obtain ⟨text', he'⟩ := h.file l text he
    rw [he', Option.isSome_some]

theorem GrowsTo.follow (h : t.GrowsTo t') {piece : String} (hk : t.follow l piece = .ok k) :
    t'.follow l piece = .ok k := by
  -- Each test that lets the step pass in the smaller tree has the same outcome in the larger one.
  rw [FileTree.follow] at hk ⊢
  split at hk
  · cases hk
  · rename_i hl
    have hl' : t'.isDirectoryAt l = true :=
      isDirectoryAt_iff.2 (h.directory l (isDirectoryAt_iff.1 (by simpa using hl)))
    rw [hl', Bool.not_true, if_neg Bool.false_ne_true]
    split at hk
    · rwa [if_pos ‹_›]
    · rw [if_neg ‹_›]
      split at hk
      · rwa [if_pos ‹_›]
      · rw [if_neg ‹_›]
        split at hk
        · cases hk
        · rw [if_neg ‹_›]
          split at hk
          · rwa [if_pos (h.isSome ‹_›)]
          · cases hk

theorem GrowsTo.foldlM_follow (h : t.GrowsTo t') {pieces : List String}
    (hk : pieces.foldlM t.follow l = .ok k) : pieces.foldlM t'.follow l = .ok k := by
  induction pieces generalizing l with
  | nil => exact hk
  | cons piece pieces ih =>
    rw [List.foldlM_cons] at hk ⊢
    cases hstep : t.follow l piece with
    | error fault =>
      rw [hstep] at hk
      cases hk
    | ok next =>
      rw [hstep] at hk
      rw [h.follow hstep]
      exact ih hk

/-- A path leads to a file if its pieces do, it is not spelled as that of a directory, and it is a
path at all. -/
theorem find_eq_file_iff {text : Option String} :
    t.find l p = .ok (k, .file text) ↔
      p.text.isEmpty = false ∧ isPath p = true ∧ p.pieces.foldlM t.follow (start l p) = .ok k ∧
        t.get? k = some (.file text) ∧ p.endsWithSlash = false := by
  rw [find]
  cases p.text.isEmpty with
  | true => simp
  | false =>
    cases isPath p with
    | false => simp
    | true =>
      cases hfold : p.pieces.foldlM t.follow (start l p) with
      | error fault => simp
      | ok k' =>
        by_cases heq : k' = k
        · subst heq
          cases hk : t.get? k' with
          | none => simp [hk]
          | some e => cases e <;> cases p.endsWithSlash <;> simp [hk]
        · cases hk : t.get? k' with
          | none => simp [hk, heq]
          | some e => cases e <;> cases p.endsWithSlash <;> simp [hk, heq]

/-- A path leads to where something new was put at its slot. -/
theorem foldlM_follow_of_slot (hslot : t.slot l p = .ok k) (h : t.GrowsTo t')
    (hk : (t'.get? k).isSome = true) :
    p.text.isEmpty = false ∧ isPath p = true ∧ p.pieces.foldlM t'.follow (start l p) = .ok k := by
  rw [slot] at hslot
  split at hslot
  · cases hslot
  · split at hslot
    · cases hslot
    · rename_i hempty hpath
      split at hslot
      · cases hslot
      · rename_i name hlast
        split at hslot
        · cases hslot
        · rename_i around hfold
          split at hslot
          · rename_i hname
            obtain rfl := Except.ok.inj hslot
            simp only [Bool.and_eq_true, decide_eq_true_iff] at hname
            obtain ⟨⟨⟨hdir, hhere⟩, hup⟩, hshort⟩ := hname
            have hdir' : t'.isDirectoryAt around = true :=
              isDirectoryAt_iff.2 (h.directory around (isDirectoryAt_iff.1 hdir))
            refine ⟨by simpa using hempty, by simpa using hpath, ?_⟩
            -- The last piece leads from the directory around to what was put there.
            obtain ⟨before, hpieces⟩ := List.getLast?_eq_some_iff.1 hlast
            rw [hpieces] at hfold ⊢
            rw [List.dropLast_concat] at hfold
            rw [List.foldlM_append, h.foldlM_follow hfold]
            simp [FileTree.follow, hdir', hhere, hup, hshort, hk, bind, Except.bind, pure,
              Except.pure]
          · cases hslot

/-- A path leads to the file that is at its slot. -/
theorem find_of_slot {text : Option String} (hslot : t.slot l p = .ok k)
    (hslash : p.endsWithSlash = false) (h : t.GrowsTo t')
    (hget : t'.get? k = some (.file text)) : t'.find l p = .ok (k, .file text) := by
  obtain ⟨hempty, hpath, hfold⟩ := foldlM_follow_of_slot hslot h (by rw [hget, Option.isSome_some])
  exact find_eq_file_iff.2 ⟨hempty, hpath, hfold, hget, hslash⟩

theorem get?_put_self (h : t.get? k ≠ some .directory) (text : Option String) :
    (t.put k (.file text)).get? k = some (.file text) := by
  rw [get?_put _ _ _ _ (ne_nil_of_get? rfl h), if_pos rfl]

end CimSchema.FileTree
