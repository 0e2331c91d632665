import CimSchema.Proofs.Files.Order
import CimSchema.Proofs.Generation.Refused

/-!
# Requests for the same files

A run sees its schema files in the order of their paths and each once, however the request lists
them. Merging lets the first declaration count, so that this order decides what a run does; but
nothing else of the list does.

## Main definitions

* `Workspace.runLoadFiles` - loading some files from a workspace.
* `Workspace.LoadsInOrder` - what comes of loading some files one after the other.

## Main results

* `Workspace.loadsInOrder_iff` - there is one thing that comes of it.
* `Config.generate_eq_of_sameFiles` - requests for the same files have the same outcome.
-/

namespace CimSchema

variable {ps qs : List Path}

/-- The outcome of loading files from a workspace, and the workspace after it. -/
def Workspace.runLoadFiles (w : Workspace) (ps : List Path) :
    Except LoadError (List Document) × Workspace :=
  ((loadFiles ps : ExceptT LoadError (StateM Workspace) (List Document)).run.run w).run

/-- What comes of loading the files of a workspace in an order: the documents of all of them, or the
error of the first that cannot be loaded. -/
inductive Workspace.LoadsInOrder (w : Workspace) (paths : List Path) :
    Except LoadError (List Document) → Prop
  /-- All can be loaded. -/
  | documents {documents : List Document}
    (hloads : List.Forall₂ (fun p d => w.load p = .ok d) paths documents) :
    LoadsInOrder w paths (.ok documents)
  /-- All files before `p` can be loaded, and `p` cannot, which the error names. -/
  | failure {before after : List Path} {p : Path} {fault : LoadError}
    (hpaths : paths = before ++ p :: after) (hbefore : ∀ q ∈ before, ∃ d, w.load q = .ok d)
    (hp : w.load p = .error fault) (hsource : fault.source = p.text) :
    LoadsInOrder w paths (.error fault)

theorem Workspace.loadsInOrder_iff {w : Workspace} {paths : List Path}
    {outcome : Except LoadError (List Document)} :
    w.LoadsInOrder paths outcome ↔ paths.mapM w.load = outcome := by
  constructor
  · rintro (hloads | ⟨hpaths, hbefore, hp, -⟩)
    · exact mapM_eq_ok_iff.2 hloads
    · exact mapM_eq_error_iff.2 ⟨_, _, _, hpaths, hbefore, hp⟩
  · rintro rfl
    cases hloads : paths.mapM w.load with
    | ok documents => exact .documents (mapM_eq_ok_iff.1 hloads)
    | error fault =>
      obtain ⟨before, p, after, hpaths, hbefore, hp⟩ := mapM_eq_error_iff.1 hloads
      exact .failure hpaths hbefore hp (source_of_load hp)

section Host

variable {m : Type → Type} [Monad m] [Host m]

/-- A run depends on the list of its schema files through the distinct paths alone, whatever it runs
on. -/
theorem Config.generate_congr (h : Path.sortDistinct ps = Path.sortDistinct qs) (c : Config)
    (profile : Profile) (language : Language) (dump : Option Path) :
    (c.generate ⟨ps, profile, language, dump⟩ : Step m Report) =
      c.generate ⟨qs, profile, language, dump⟩ := by
  have hload : (loadFiles ps : ExceptT LoadError m (List Document)) = loadFiles qs := by
    rw [loadFiles, loadFiles, h]
  have hmodel : (Request.model ⟨ps, profile, language, dump⟩ : Step m Model) =
      Request.model ⟨qs, profile, language, dump⟩ := by
    rw [Request.model, Request.model, hload]
  rw [generate, generate, hmodel]
  rfl

end Host

/-- **The schema files of a request are a set.** Let two lists have the same paths, in any order and
with any repetitions, and let no path be spelled in two ways. Then there is one list of these paths
in the order of their steps such that either list is loaded as it says, with the documents of all
files or the error of the first that cannot be loaded. A run that differs in these lists only leaves
the same files behind, and gives the same report or the same error. -/
theorem Config.generate_eq_of_sameFiles (h : Path.SameFiles ps qs) :
    (∃ paths : List Path, paths.Pairwise Path.Before ∧ (∀ p, p ∈ paths ↔ p ∈ ps) ∧
      ∀ w : Workspace, ∃ outcome, w.LoadsInOrder paths outcome ∧
        w.runLoadFiles ps = (outcome, w) ∧ w.runLoadFiles qs = (outcome, w)) ∧
    ∀ (c : Config) (profile : Profile) (language : Language) (dump : Option Path) (w : Workspace),
      (c.generate ⟨ps, profile, language, dump⟩ : Step (StateM Workspace) Report).on w =
        (c.generate ⟨qs, profile, language, dump⟩ : Step (StateM Workspace) Report).on w := by
  constructor
  · refine ⟨Path.sortDistinct ps, Path.pairwise_sortDistinct ps, fun p => h.mem_sortDistinct_iff,
      fun w => ⟨_, Workspace.loadsInOrder_iff.2 rfl, run_loadFiles w ps, ?_⟩⟩
    rw [h.sortDistinct_eq]
    exact run_loadFiles w qs
  · intro c profile language dump w
    rw [generate_congr h.sortDistinct_eq]

/-- The same three files twice: in the order of the letters of their paths, where a hyphen comes
before a slash, and with a file that is repeated. -/
def feederFiles : List Path × List Path :=
  ([⟨"grid-ext/feeder.rdf"⟩, ⟨"grid.rdf"⟩, ⟨"grid/feeder.rdf"⟩],
    [⟨"grid/feeder.rdf"⟩, ⟨"grid.rdf"⟩, ⟨"grid/feeder.rdf"⟩, ⟨"grid-ext/feeder.rdf"⟩])

/-- The files in the order of the steps of their paths. -/
def feederOrder : List Path :=
  [⟨"grid/feeder.rdf"⟩, ⟨"grid-ext/feeder.rdf"⟩, ⟨"grid.rdf"⟩]

/-- A place without files. -/
def bareWorkspace : Workspace where
  reason _ _ _ := "No such file or directory"

theorem generate_feederFiles :
    Path.SameFiles feederFiles.1 feederFiles.2 ∧
      (∀ w : Workspace, ∃ outcome, w.LoadsInOrder feederOrder outcome ∧
        w.runLoadFiles feederFiles.1 = (outcome, w) ∧
        w.runLoadFiles feederFiles.2 = (outcome, w)) ∧
      bareWorkspace.runLoadFiles feederFiles.2 =
        (.error (.io "grid/feeder.rdf" "No such file or directory"), bareWorkspace) ∧
      ∀ (c : Config) (w : Workspace),
        (c.generate ⟨feederFiles.1, .all, .cpp, none⟩ : Step (StateM Workspace) Report).on w =
          (c.generate ⟨feederFiles.2, .all, .cpp, none⟩ : Step (StateM Workspace) Report).on w := by
  have hsame : Path.SameFiles feederFiles.1 feederFiles.2 :=
    ⟨by decide +kernel, by decide +kernel, by decide +kernel⟩
  have horder : feederOrder.Pairwise Path.Before := by decide +kernel
  have hmem : feederOrder ⊆ feederFiles.1 ∧ feederFiles.1 ⊆ feederOrder := by decide +kernel
  obtain ⟨⟨paths, hpaths, hfiles, hload⟩, hgenerate⟩ := Config.generate_eq_of_sameFiles hsame
  have heq : paths = feederOrder :=
    hpaths.eq_of_mem_iff horder fun p => (hfiles p).trans ⟨fun hp => hmem.2 hp, fun hp => hmem.1 hp⟩
  rw [heq] at hload
  refine ⟨hsame, hload, ?_, fun c w => hgenerate c .all .cpp none w⟩
  -- Of the files that are missing the first in order is told.
  obtain ⟨outcome, hin, -, hrun⟩ := hload bareWorkspace
  have hfirst : bareWorkspace.load ⟨"grid/feeder.rdf"⟩ =
      .error (.io "grid/feeder.rdf" "No such file or directory") := by
    have hmissing : bareWorkspace.read? ⟨"grid/feeder.rdf"⟩ = none := by decide +kernel
    rw [Workspace.load, Workspace.read, hmissing]
    rfl
  have hfails : bareWorkspace.LoadsInOrder feederOrder
      (.error (.io "grid/feeder.rdf" "No such file or directory")) :=
    .failure (List.nil_append _).symm (fun _ h => absurd h List.not_mem_nil) hfirst rfl
  rw [hrun, ← Workspace.loadsInOrder_iff.1 hin, Workspace.loadsInOrder_iff.1 hfails]

end CimSchema
