import CimSchema.Files.Host
import CimSchema.Proofs.Files.Growth

/-!
# Changes one after the other

Making directories and writing files changes a tree in few places: where a path leads to that was
written, there is the text that was written last, there may be new directories on the way to what
was asked for, and everything else is as it was.

## Main definitions

* `FileChange` - a directory that is made, or a file that is written.
* `FileTree.perform` - a tree after some changes, up to the first that does not work.
* `FileTree.failing?` - the first of some changes that does not work.
* `FileTree.lastText?` - the text that was written last at a location.
* `FileTree.Effect` - what some changes have done to a tree.

## Main results

* `FileTree.of_write?`, `FileTree.keptAt_makeDirectories` - what one change does.
* `FileTree.Effect.cons` - what a change and others after it have done.
* `FileTree.effect_perform` - what some changes do, whether or not all of them work.
* `FileTree.Effect.find` - a path that was written leads to a file.
-/

namespace CimSchema

/-- A change of the files that are there. -/
inductive FileChange where
  /-- Makes a directory and those that it is in, where they are missing. -/
  | directories (p : Path)
  | file (p : Path) (text : String)
  deriving DecidableEq

/-- What it takes to write a file: first the directories that it is in are made. -/
def FileChange.writing (p : Path) (text : String) : List FileChange :=
  (p.parent?.map directories).toList ++ [file p text]

/-- What is done to a path. -/
def FileChange.operation : FileChange → FileOperation
  | directories _ => .makeDirectories
  | file _ _ => .write

def FileChange.path : FileChange → Path
  | directories p => p
  | file p _ => p

/-- The paths of the directories that a change makes where they are missing. -/
def FileChange.made : FileChange → List Path
  | directories p => p.chain
  | file _ _ => []

namespace FileTree

variable {t t' t'' : FileTree} {l k : Location} {c : FileChange} {cs : List FileChange}

/-- A tree after a change, and whether the change worked. -/
def change (t : FileTree) (l : Location) : FileChange → FileTree × Bool
  | .directories p => t.makeDirectories l p
  | .file p text =>
    match t.write? l p text with
    | some t' => (t', true)
    | none => (t, false)

/-- A tree after some changes, and whether all of them worked. The first that does not is the
last. -/
def perform (t : FileTree) (l : Location) : List FileChange → FileTree × Bool
  | [] => (t, true)
  | c :: cs =>
    match t.change l c with
    | (t', true) => t'.perform l cs
    | (t', false) => (t', false)

theorem perform_append (t : FileTree) (l : Location) (cs ds : List FileChange) :
    t.perform l (cs ++ ds) =
      match t.perform l cs with
      | (t', true) => t'.perform l ds
      | (t', false) => (t', false) := by
  induction cs generalizing t with
  | nil => rfl
  | cons c cs ih =>
    rw [List.cons_append, perform, perform]
    rcases t.change l c with ⟨t', _ | _⟩
    · rfl
    · exact ih t'

/-- The first of some changes that does not work, if there is one. -/
def failing? (t : FileTree) (l : Location) : List FileChange → Option FileChange
  | [] => none
  | c :: cs =>
    match t.change l c with
    | (t', true) => t'.failing? l cs
    | (_, false) => some c

theorem failing?_append (t : FileTree) (l : Location) (cs ds : List FileChange) :
    t.failing? l (cs ++ ds) = (t.failing? l cs).or ((t.perform l cs).1.failing? l ds) := by
  induction cs generalizing t with
  | nil => rfl
  | cons c cs ih =>
    rw [List.cons_append, failing?, failing?, perform]
    rcases t.change l c with ⟨t', _ | _⟩
    · rfl
    · exact ih t'

theorem failing?_eq_none_iff : t.failing? l cs = none ↔ (t.perform l cs).2 = true := by
  induction cs generalizing t with
  | nil => simp [failing?, perform]
  | cons c cs ih =>
    rw [failing?, perform]
    rcases t.change l c with ⟨t', _ | _⟩
    · simp
    · exact ih

theorem growsTo_change (t : FileTree) (l : Location) (c : FileChange) :
    t.GrowsTo (t.change l c).1 := by
  cases c with
  | directories p => exact growsTo_makeDirectories t l p
  | file p text =>
    rw [change]
    split
    · exact growsTo_write? ‹_›
    · exact .refl t

theorem growsTo_perform (t : FileTree) (l : Location) (cs : List FileChange) :
    t.GrowsTo (t.perform l cs).1 := by
  induction cs generalizing t with
  | nil => exact .refl t
  | cons c cs ih =>
    have hc := growsTo_change t l c
    rw [perform]
    split
    · rename_i t' ht'
      rw [ht'] at hc
      exact hc.trans (ih t')
    · rename_i t' ht'
      rwa [ht'] at hc

/-! ### Where changes leave a trace -/

/-- The location that a path leads to, if it leads anywhere. -/
def locate? (t : FileTree) (l : Location) (p : Path) : Option Location :=
  match t.find l p with
  | .ok (k, _) => some k
  | .error _ => none

theorem locate?_eq_some_iff {p : Path} :
    t.locate? l p = some k ↔
      p.text.isEmpty = false ∧ isPath p = true ∧ p.pieces.foldlM t.follow (start l p) = .ok k ∧
        (t.get? k = some .directory ∨
          p.endsWithSlash = false ∧ ∃ text, t.get? k = some (.file text)) := by
  rw [locate?, find]
  cases p.text.isEmpty with
  | true => simp
  | false =>
    cases isPath p with
    | false => simp
    | true =>
      cases p.pieces.foldlM t.follow (start l p) with
      | error fault => simp
      | ok k' =>
        by_cases heq : k' = k
        · subst heq
          cases hk : t.get? k' with
          | none => simp [hk]
          | some e => cases e <;> cases p.endsWithSlash <;> simp [hk]
        · cases hk : t.get? k' with
          | none => simp [hk, heq]
          | some e => cases e <;> cases p.endsWithSlash <;> simp [hk, heq]

/-- A path goes on leading where it leads. -/
theorem GrowsTo.locate? {p : Path} (h : t.GrowsTo t') (hlocate : t.locate? l p = some k) :
    t'.locate? l p = some k := by
  obtain ⟨hempty, hpath, hfold, hentry⟩ := locate?_eq_some_iff.1 hlocate
  refine locate?_eq_some_iff.2 ⟨hempty, hpath, h.foldlM_follow hfold, ?_⟩
  exact hentry.imp (h.directory k) fun ⟨hslash, text, htext⟩ => ⟨hslash, h.file k text htext⟩

/-- A path leads to the directory that is at its slot. -/
theorem locate?_of_slot {p : Path} (hslot : t.slot l p = .ok k) (h : t.GrowsTo t')
    (hget : t'.get? k = some .directory) : t'.locate? l p = some k := by
  obtain ⟨hempty, hpath, hfold⟩ := foldlM_follow_of_slot hslot h (by rw [hget, Option.isSome_some])
  exact locate?_eq_some_iff.2 ⟨hempty, hpath, hfold, .inl hget⟩

/-- At `k` there is what was there before, or else a new directory that a path in `ps` leads to. -/
def KeptAt (t t' : FileTree) (l : Location) (ps : List Path) (k : Location) : Prop :=
  t'.get? k = t.get? k ∨
    t.get? k = none ∧ t'.get? k = some .directory ∧ ∃ p ∈ ps, t'.locate? l p = some k

theorem KeptAt.mono {ps qs : List Path} (h : t.KeptAt t' l ps k) (hsub : ps ⊆ qs) :
    t.KeptAt t' l qs k :=
  h.imp_right fun ⟨hnone, hdir, p, hp, hlocate⟩ => ⟨hnone, hdir, p, hsub hp, hlocate⟩

theorem KeptAt.trans {ps : List Path} (h : t.KeptAt t' l ps k) (h' : t'.KeptAt t'' l ps k)
    (hgrows : t'.GrowsTo t'') : t.KeptAt t'' l ps k := by
  rcases h with heq | ⟨hnone, hdir, p, hp, hlocate⟩
  · rcases h' with heq' | ⟨hnone', hdir', hp'⟩
    · exact .inl (heq'.trans heq)
    · exact .inr ⟨heq ▸ hnone', hdir', hp'⟩
  · -- A new directory stays.
    exact .inr ⟨hnone, hgrows.directory k hdir, p, hp, hgrows.locate? hlocate⟩

theorem keptAt_makeDirectory? {p : Path} (h : t.makeDirectory? l p = some t') (k : Location) :
    t.KeptAt t' l [p] k := by
  have hgrows := growsTo_makeDirectory? h
  rw [makeDirectory?] at h
  split at h
  · rename_i slot hslot
    split at h
    · cases h
    · rename_i hfree
      obtain rfl := Option.some.inj h
      have hnone := Option.not_isSome_iff_eq_none.1 hfree
      have hget (k : Location) := get?_put t slot k .directory (ne_nil_of_get? hnone (by simp))
      by_cases hk : k = slot
      · subst hk
        have hdir := (hget k).trans (if_pos rfl)
        exact .inr ⟨hnone, hdir, p, .head _, locate?_of_slot hslot hgrows hdir⟩
      · exact .inl ((hget k).trans (if_neg hk))
  · cases h

theorem keptAt_makeEach (t : FileTree) (l : Location) (ps : List Path) (k : Location) :
    t.KeptAt (t.makeEach l ps).1 l ps k := by
  induction ps generalizing t with
  | nil => exact .inl rfl
  | cons p ps ih =>
    rw [makeEach]
    split
    · rename_i t' ht'
      exact ((keptAt_makeDirectory? ht' k).mono (by simp)).trans ((ih t').mono (by simp))
        (growsTo_makeEach t' l ps)
    · split
      · exact (ih t).mono (by simp)
      · exact .inl rfl

theorem keptAt_makeDirectories (t : FileTree) (l : Location) (p : Path) (k : Location) :
    t.KeptAt (t.makeDirectories l p).1 l p.chain k := by
  rw [makeDirectories]
  split
  · exact .inl rfl
  · exact keptAt_makeEach t l p.chain k

/-- What writing a file does. -/
theorem of_write? {p : Path} {text : String} (h : t.write? l p text = some t') :
    ∃ k, t'.locate? l p = some k ∧ t'.get? k = some (.file (some text)) ∧
      ∀ k', k' ≠ k → t'.get? k' = t.get? k' := by
  have hgrows := growsTo_write? h
  obtain ⟨k, hslot, hslash, hk, rfl⟩ := write?_eq_some_iff.1 h
  have hget := get?_put_self hk (some text)
  refine ⟨k, ?_, hget, fun k' hk' => ?_⟩
  · rw [locate?, find_of_slot hslot hslash hgrows hget]
  · rw [get?_put _ _ _ _ (ne_nil_of_get? rfl hk), if_neg hk']

/-! ### What changes have done -/

/-- The text that the last change writes at a location, where paths lead as in the tree `t`. -/
def lastText? (t : FileTree) (l k : Location) : List FileChange → Option String
  | [] => none
  | .directories _ :: cs => t.lastText? l k cs
  | .file p text :: cs => (t.lastText? l k cs).or (if t.locate? l p = some k then some text else none)

theorem mem_writing_iff {p q : Path} {text content : String} :
    .file q content ∈ FileChange.writing p text ↔ q = p ∧ content = text := by
  rw [FileChange.writing]
  cases p.parent? <;> simp

theorem lastText?_append (t : FileTree) (l k : Location) (cs ds : List FileChange) :
    t.lastText? l k (cs ++ ds) = (t.lastText? l k ds).or (t.lastText? l k cs) := by
  induction cs with
  | nil => rw [List.nil_append, lastText?, Option.or_none]
  | cons c cs ih =>
    cases c with
    | directories p => exact ih
    | file p text => rw [List.cons_append, lastText?, lastText?, ih, Option.or_assoc]

theorem exists_of_lastText? {text : String} (h : t.lastText? l k cs = some text) :
    ∃ p, .file p text ∈ cs ∧ t.locate? l p = some k := by
  induction cs with
  | nil => cases h
  | cons c cs ih =>
    have hlater (h : t.lastText? l k cs = some text) :
        ∃ p, .file p text ∈ c :: cs ∧ t.locate? l p = some k := by
      obtain ⟨p, hp, hlocate⟩ := ih h
      exact ⟨p, .tail _ hp, hlocate⟩
    cases c with
    | directories p => exact hlater h
    | file p own =>
      rw [lastText?, Option.or_eq_some_iff] at h
      rcases h with h | ⟨-, h⟩
      · exact hlater h
      · split at h
        · obtain rfl := Option.some.inj h
          exact ⟨p, .head _, ‹_›⟩
        · cases h

theorem lastText?_ne_none {p : Path} {text : String} (hmem : .file p text ∈ cs)
    (hp : t.locate? l p = some k) : t.lastText? l k cs ≠ none := by
  obtain ⟨before, after, rfl⟩ := List.append_of_mem hmem
  rw [lastText?_append, lastText?, if_pos hp]
  simp

/-- Where all changes that write to a location write the same, this is what was written last. -/
theorem lastText?_eq_some {p : Path} {text : String} (hmem : .file p text ∈ cs)
    (hp : t.locate? l p = some k)
    (hsame : ∀ q content, .file q content ∈ cs → t.locate? l q = some k → content = text) :
    t.lastText? l k cs = some text := by
  obtain ⟨content, hcontent⟩ := Option.ne_none_iff_exists'.1 (lastText?_ne_none hmem hp)
  obtain ⟨q, hq, hlocate⟩ := exists_of_lastText? hcontent
  rw [hcontent, hsame q content hq hlocate]

/-- What the changes `cs` have done to a tree: the paths that were written lead to files, at each
location is the text that was written last, and where nothing was written there is at most a new
directory on the way to one that was asked for. -/
structure Effect (l : Location) (cs : List FileChange) (t t' : FileTree) : Prop where
  leads : ∀ p text, .file p text ∈ cs → ∃ k, t'.locate? l p = some k
  written : ∀ k text, t'.lastText? l k cs = some text → t'.get? k = some (.file (some text))
  kept : ∀ k, t'.lastText? l k cs = none → t.KeptAt t' l (cs.flatMap FileChange.made) k

theorem Effect.refl (l : Location) (t : FileTree) : Effect l [] t t where
  leads _ _ h := by cases h
  written _ _ h := by cases h
  kept _ _ := .inl rfl

/-- A change and then others have done what the others have done after it. -/
theorem Effect.cons (hc : t.change l c = (t', true)) (h : Effect l cs t' t'')
    (hgrows : t'.GrowsTo t'') : Effect l (c :: cs) t t'' := by
  cases c with
  | directories p =>
    have hkept := keptAt_makeDirectories t l p
    rw [show t.makeDirectories l p = (t', true) from hc] at hkept
    constructor
    · rintro q text (_ | ⟨_, hq⟩)
      exact h.leads q text hq
    · exact h.written
    · intro k hk
      rw [List.flatMap_cons]
      exact ((hkept k).mono (List.subset_append_left _ _)).trans
        ((h.kept k hk).mono (List.subset_append_right _ _)) hgrows
  | file p text =>
    rw [change] at hc
    split at hc
    · rename_i hwrite
      rw [(Prod.mk.inj hc).1] at hwrite
      obtain ⟨k₀, hlocate, hget, hother⟩ := of_write? hwrite
      have hleads := hgrows.locate? hlocate
      constructor
      · rintro q text' (_ | ⟨_, hq⟩)
        · exact ⟨k₀, hleads⟩
        · exact h.leads q text' hq
      · intro k text' htext
        rw [lastText?] at htext
        cases hlater : t''.lastText? l k cs with
        | some later =>
          rw [hlater, Option.some_or] at htext
          exact Option.some.inj htext ▸ h.written k later hlater
        | none =>
          rw [hlater, Option.none_or, hleads] at htext
          split at htext
          · rename_i hk
            obtain rfl := Option.some.inj hk
            obtain rfl := Option.some.inj htext
            -- No later change touches what is written here.
            rcases h.kept k₀ hlater with heq | ⟨hnone, -⟩
            · rw [heq, hget]
            · rw [hget] at hnone
              cases hnone
          · cases htext
      · intro k hk
        rw [lastText?, hleads, Option.or_eq_none_iff] at hk
        obtain ⟨hlater, hk⟩ := hk
        have hne : k ≠ k₀ := fun heq => by simp [heq] at hk
        have hsame : t.KeptAt t' l ((FileChange.file p text :: cs).flatMap FileChange.made) k :=
          .inl (hother k hne)
        exact hsame.trans (h.kept k hlater) hgrows
    · cases hc

/-- A path that was written leads to a file. -/
theorem Effect.find {p : Path} {text : String} (h : Effect l cs t t') (hmem : .file p text ∈ cs) :
    ∃ k content, t'.find l p = .ok (k, .file (some content)) := by
  obtain ⟨k, hk⟩ := h.leads p text hmem
  obtain ⟨content, hcontent⟩ := Option.ne_none_iff_exists'.1 (lastText?_ne_none hmem hk)
  have hget := h.written k content hcontent
  obtain ⟨hempty, hpath, hfold, hdir | ⟨hslash, -⟩⟩ := locate?_eq_some_iff.1 hk
  · rw [hget] at hdir
    cases hdir
  · exact ⟨k, content, find_eq_file_iff.2 ⟨hempty, hpath, hfold, hget, hslash⟩⟩

/-- What some changes do to a tree. If one of them does not work, those before it have their effect;
and if it is to make directories, some of them may be made. -/
theorem effect_perform (t : FileTree) (l : Location) (cs : List FileChange) :
    ∃ done, done <+: cs ∧ ((t.perform l cs).2 = true → done = cs) ∧
      Effect l done t (t.perform l cs).1 := by
  induction cs generalizing t with
  | nil => exact ⟨[], List.prefix_refl _, fun _ => rfl, .refl l t⟩
  | cons c cs ih =>
    rcases hc : t.change l c with ⟨t', _ | _⟩
    · have hperform : t.perform l (c :: cs) = (t', false) := by rw [perform, hc]
      rw [hperform]
      cases c with
      | directories p =>
        refine ⟨[.directories p], ⟨cs, rfl⟩, nofun, ⟨?_, nofun, fun k _ => ?_⟩⟩
        · rintro q text (_ | ⟨_, _ | _⟩)
        · have hkept := keptAt_makeDirectories t l p k
          rw [show t.makeDirectories l p = (t', false) from hc] at hkept
          exact hkept.mono (List.subset_append_left _ _)
      | file p text =>
        rw [change] at hc
        split at hc
        · cases hc
        · obtain ⟨rfl, -⟩ := Prod.mk.inj hc
          exact ⟨[], List.nil_prefix, nofun, .refl l _⟩
    · have hperform : t.perform l (c :: cs) = t'.perform l cs := by rw [perform, hc]
      rw [hperform]
      obtain ⟨done, hdone, hall, heffect⟩ := ih t'
      refine ⟨c :: done, (List.prefix_cons_inj c).2 hdone, fun hok => by rw [hall hok], ?_⟩
      exact .cons hc heffect (growsTo_perform t' l cs)

end FileTree

end CimSchema
