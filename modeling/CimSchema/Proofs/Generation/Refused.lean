import CimSchema.Proofs.Files.Path
import CimSchema.Proofs.Generation.Steps
import CimSchema.Proofs.Load.Document
import CimSchema.Proofs.Resolve.Faults

/-!
# Requests that are refused

A request is refused if its profile cannot select anything, one of its files cannot be loaded, the
files have faults, or the profile selects none of their classes. Then nothing is written: up to this
point a run only reads.

## Main definitions

* `Workspace.load` - the document that a file of a workspace makes up.
* `Request.Reads` - the documents of a request.
* `Request.modelOn` - the model of a request as a function of the files.
* `Request.Refused`, `Request.RefusedWith` - what stops a request, and with which error.

## Main results

* `Request.on_model` - finding the model of a request changes no file.
* `Config.generate_of_refused` - a request that is refused leaves all files as they are.
-/

namespace CimSchema

variable {w : Workspace} {r : Request}

/-- The document that a file of a workspace makes up. -/
def Workspace.load (w : Workspace) (p : Path) : Except LoadError Document :=
  match w.read p with
  | .ok content => Document.ofText {} p.text content
  | .error reason => .error (.io p.text reason)

/-- The error of a file that cannot be loaded names it. -/
theorem Workspace.source_of_load {p : Path} {e : LoadError} (h : w.load p = .error e) :
    e.source = p.text := by
  rw [load] at h
  split at h
  · exact Document.source_of_ofText h
  · obtain rfl := Except.error.inj h
    rfl

/-- The documents of a request: those of its files in the order of their paths, each once. -/
def Request.Reads (r : Request) (w : Workspace) (documents : List Document) : Prop :=
  List.Forall₂ (fun p d => w.load p = .ok d) (Path.sortDistinct r.schemaFiles) documents

/-- The model of a request as a function of the files. -/
def Request.modelOn (r : Request) (w : Workspace) : Except Error Model :=
  match r.profile.check with
  | .error fault => .error fault.toError
  | .ok _ =>
    match (Path.sortDistinct r.schemaFiles).mapM w.load with
    | .error fault => .error fault.toError
    | .ok documents =>
      match Model.ofDocuments .inferring documents with
      | .error e => .error e
      | .ok m =>
        if (r.profile.prune m).isEmpty then
          .error (ProfileFault.selectsNothing r.profile.name).toError
        else .ok (r.profile.prune m)

/-! ### Reading changes nothing -/

theorem run_loadFile (w : Workspace) (p : Path) :
    ((loadFile p : ExceptT LoadError (StateM Workspace) Document).run.run w).run =
      (w.load p, w) := by
  rw [loadFile, run_bind, Workspace.load]
  have hread :
      ((Host.read p : ExceptT LoadError (StateM Workspace) (Except String String)).run.run w).run =
        (.ok (w.read p), w) := rfl
  rw [hread]
  dsimp only
  cases w.read p <;> rfl

theorem run_loadFiles (w : Workspace) (ps : List Path) :
    ((loadFiles ps : ExceptT LoadError (StateM Workspace) (List Document)).run.run w).run =
      ((Path.sortDistinct ps).mapM w.load, w) := by
  rw [loadFiles]
  induction Path.sortDistinct ps with
  | nil => rfl
  | cons p ps ih =>
    rw [List.mapM_cons, List.mapM_cons, run_bind, run_loadFile]
    cases w.load p with
    | error e => rfl
    | ok d =>
      dsimp only
      rw [run_bind, ih]
      cases ps.mapM w.load <;> rfl

/-- Finding the model of a request changes no file. -/
theorem Request.on_model (r : Request) (w : Workspace) :
    (r.model : Step (StateM Workspace) Model).on w = (r.modelOn w, w) := by
  have hload : Step.on ((loadFiles r.schemaFiles).adapt LoadError.toError) w =
      (((Path.sortDistinct r.schemaFiles).mapM w.load).mapError LoadError.toError, w) := by
    rw [Step.on_adapt, run_loadFiles]
  rw [model, modelOn, Step.on_bind]
  cases r.profile.check with
  | error fault => rfl
  | ok u =>
    dsimp only [Step.ofExcept]
    rw [Step.on_pure]
    dsimp only
    rw [Step.on_bind, hload]
    cases (Path.sortDistinct r.schemaFiles).mapM w.load with
    | error fault => rfl
    | ok documents =>
      dsimp only [Except.mapError]
      rw [Step.on_bind]
      cases Model.ofDocuments .inferring documents with
      | error e => rfl
      | ok m =>
        dsimp only [Step.ofExcept]
        rw [Step.on_pure]
        dsimp only
        split <;> rfl

/-! ### What stops a request -/

/-- A request is stopped before anything is written: its profile cannot select anything, one of its
files cannot be loaded under the spelling of its path that counts, the documents of its files make no
model, or the profile selects no class of their model. -/
def Request.Refused (r : Request) (w : Workspace) : Prop :=
  r.profile.check ≠ .ok () ∨
  (∃ p ∈ r.schemaFiles, ∀ q ∈ Path.sortDistinct r.schemaFiles, q.same p = true →
    ∀ d, w.load q ≠ .ok d) ∨
  (∃ documents, r.Reads w documents ∧ ∀ m, Model.ofDocuments .inferring documents ≠ .ok m) ∨
  ∃ documents m, r.Reads w documents ∧ Model.ofDocuments .inferring documents = .ok m ∧
    (r.profile.prune m).classes = []

/-- The error that a request is stopped with. What is wrong with the profile comes before the first
file that cannot be loaded, this before the faults of the files, and these before a profile that
selects no class. -/
inductive Request.RefusedWith (r : Request) (w : Workspace) : Error → Prop
  /-- The profile cannot select anything. -/
  | profile {fault : ProfileFault} (hcheck : r.profile.check = .error fault) :
    RefusedWith r w fault.toError
  /-- A file cannot be loaded, which the error names, and all before it can. -/
  | file {before after : List Path} {p : Path} {fault : LoadError}
    (hcheck : r.profile.check = .ok ())
    (hfiles : Path.sortDistinct r.schemaFiles = before ++ p :: after)
    (hbefore : ∀ q ∈ before, ∃ d, w.load q = .ok d) (hp : w.load p = .error fault)
    (hsource : fault.source = p.text) : RefusedWith r w fault.toError
  /-- The files have faults, and these are what the error lists. -/
  | faults {documents : List Document} {e : Error} (hcheck : r.profile.check = .ok ())
    (hreads : r.Reads w documents) (hmodel : Model.ofDocuments .inferring documents = .error e)
    (hleaves : e.leaves = foundFaults .inferring documents) : RefusedWith r w e
  /-- Nothing is left of the model. -/
  | nothing {documents : List Document} {m : Model} (hcheck : r.profile.check = .ok ())
    (hreads : r.Reads w documents) (hmodel : Model.ofDocuments .inferring documents = .ok m)
    (hnothing : (r.profile.prune m).classes = []) :
    RefusedWith r w (ProfileFault.selectsNothing r.profile.name).toError

theorem Model.isEmpty_iff {m : Model} : m.isEmpty = true ↔ m.classes = [] := by
  rw [isEmpty, List.isEmpty_iff]

/-- The model of a request is not found exactly if the request is refused, with the same error. -/
theorem Request.modelOn_eq_error_iff {e : Error} :
    r.modelOn w = .error e ↔ r.RefusedWith w e := by
  rw [modelOn]
  constructor
  · intro h
    split at h
    · rename_i hcheck
      obtain rfl := Except.error.inj h
      exact .profile hcheck
    rename_i hcheck
    split at h
    · rename_i hload
      obtain ⟨before, p, after, hfiles, hbefore, hp⟩ := mapM_eq_error_iff.1 hload
      obtain rfl := Except.error.inj h
      exact .file hcheck hfiles hbefore hp (Workspace.source_of_load hp)
    rename_i hload
    split at h
    · rename_i hmodel
      obtain rfl := Except.error.inj h
      exact .faults hcheck (mapM_eq_ok_iff.1 hload) hmodel (Model.foundFaults_of_eq_error hmodel).2
    rename_i hmodel
    split at h
    · obtain rfl := Except.error.inj h
      exact .nothing hcheck (mapM_eq_ok_iff.1 hload) hmodel (Model.isEmpty_iff.1 ‹_›)
    · cases h
  · intro h
    cases h with
    | profile hcheck => rw [hcheck]
    | file hcheck hfiles hbefore hp =>
      rw [hcheck, mapM_eq_error_iff.2 ⟨_, _, _, hfiles, hbefore, hp⟩]
    | faults hcheck hreads hmodel =>
      rw [hcheck, mapM_eq_ok_iff.2 hreads]
      dsimp only
      rw [hmodel]
    | nothing hcheck hreads hmodel hnothing =>
      rw [hcheck, mapM_eq_ok_iff.2 hreads]
      dsimp only
      rw [hmodel]
      exact if_pos (Model.isEmpty_iff.2 hnothing)

/-- What it takes to find the model of a request. -/
theorem Request.modelOn_eq_ok_iff {m : Model} :
    r.modelOn w = .ok m ↔
      r.profile.check = .ok () ∧ ∃ documents whole, r.Reads w documents ∧
        Model.ofDocuments .inferring documents = .ok whole ∧ r.profile.prune whole = m ∧
        m.classes ≠ [] := by
  rw [modelOn]
  constructor
  · intro h
    split at h
    · cases h
    rename_i hcheck
    split at h
    · cases h
    rename_i documents hload
    split at h
    · cases h
    rename_i whole hmodel
    split at h
    · cases h
    rename_i hsome
    obtain rfl := Except.ok.inj h
    exact ⟨hcheck, documents, whole, mapM_eq_ok_iff.1 hload, hmodel, rfl,
      mt Model.isEmpty_iff.2 hsome⟩
  · rintro ⟨hcheck, documents, whole, hreads, hmodel, rfl, hsome⟩
    rw [hcheck, mapM_eq_ok_iff.2 hreads]
    dsimp only
    rw [hmodel]
    exact if_neg (mt Model.isEmpty_iff.1 hsome)

/-- The files of a request have one list of documents. -/
theorem Request.Reads.eq {documents documents' : List Document} (h : r.Reads w documents)
    (h' : r.Reads w documents') : documents = documents' :=
  Except.ok.inj ((mapM_eq_ok_iff.2 h).symm.trans (mapM_eq_ok_iff.2 h'))

/-- A request whose model is found is not refused. -/
theorem Request.not_refused_of_modelOn {m : Model} (h : r.modelOn w = .ok m) : ¬ r.Refused w := by
  obtain ⟨hcheck, documents, whole, hreads, hmodel, rfl, hsome⟩ := modelOn_eq_ok_iff.1 h
  rintro (hno | ⟨p, hp, hno⟩ | ⟨ds, hds, hno⟩ | ⟨ds, m', hds, hm', hnothing⟩)
  · exact hno hcheck
  · have hloaded : List.Forall₂ (fun p d => (∃ d, w.load p = .ok d) ∧ w.load p = .ok d)
        (Path.sortDistinct r.schemaFiles) documents :=
      hreads.imp fun _ d hd => ⟨⟨d, hd⟩, hd⟩
    obtain ⟨q, hq, hsame⟩ := Path.exists_mem_sortDistinct hp
    obtain ⟨d, hd⟩ := ((List.forall₂_and_left _ _).1 hloaded).1 q hq
    exact hno q hq hsame d hd
  · obtain rfl := hreads.eq hds
    exact hno whole hmodel
  · obtain rfl := hreads.eq hds
    obtain rfl := Except.ok.inj (hmodel.symm.trans hm')
    exact hsome hnothing

/-- **Nothing is written before there is a model.** A request that is refused ends with the error
that comes first, and all files are as they were. -/
theorem Config.generate_of_refused (c : Config) (h : r.Refused w) :
    ∃ e, r.RefusedWith w e ∧
      (c.generate r : Step (StateM Workspace) Report).on w = (.error e, w) := by
  cases hmodel : r.modelOn w with
  | ok m => exact absurd h (Request.not_refused_of_modelOn hmodel)
  | error e =>
    refine ⟨e, Request.modelOn_eq_error_iff.1 hmodel, ?_⟩
    rw [generate, Step.on_bind, Request.on_model, hmodel]

/-- A place with one file, which is no schema. -/
def notesWorkspace : Workspace where
  files := ⟨[(["notes.txt"], .file (some "No schema here."))]⟩
  reason _ _ _ := "No such file or directory"

/-- A request for files of which the first and the last in order are missing and the one between is
no schema. -/
def notesRequest : Request where
  schemaFiles := [⟨"lines.rdf"⟩, ⟨"notes.txt"⟩, ⟨"units.rdf"⟩]
  profile := .all
  language := .java
  dump := some ⟨"model.json"⟩

theorem generate_notesRequest :
    notesRequest.Refused notesWorkspace ∧
      ∃ e, notesRequest.RefusedWith notesWorkspace e ∧
        (Config.generate {} notesRequest : Step (StateM Workspace) Report).on notesWorkspace =
          (.error e, notesWorkspace) ∧
        e = .io "lines.rdf: No such file or directory" := by
  have hdistinct : Path.sortDistinct notesRequest.schemaFiles = notesRequest.schemaFiles := by
    have hsorted : Path.sort notesRequest.schemaFiles = notesRequest.schemaFiles :=
      List.mergeSort_of_pairwise (by decide +kernel)
    rw [Path.sortDistinct, hsorted]
    decide +kernel
  have hload : notesWorkspace.load ⟨"lines.rdf"⟩ =
      .error (.io "lines.rdf" "No such file or directory") := by
    have hmissing : notesWorkspace.read? ⟨"lines.rdf"⟩ = none := by decide +kernel
    rw [Workspace.load, Workspace.read, hmissing]
    rfl
  have hrefused : notesRequest.Refused notesWorkspace := by
    refine .inr (.inl ⟨⟨"lines.rdf"⟩, .head _, fun q hq hsame d hd => ?_⟩)
    rw [hdistinct] at hq
    -- The other files have other paths.
    rcases hq with _ | ⟨_, _ | ⟨_, _ | ⟨_, _ | _⟩⟩⟩
    · rw [hload] at hd
      cases hd
    · revert hsame
      decide +kernel
    · revert hsame
      decide +kernel
  obtain ⟨e, he, hrun⟩ := Config.generate_of_refused {} hrefused
  refine ⟨hrefused, e, he, hrun, ?_⟩
  have hfirst : notesRequest.RefusedWith notesWorkspace
      (LoadError.io "lines.rdf" "No such file or directory").toError :=
    .file rfl (hdistinct.trans (List.nil_append _).symm) nofun hload rfl
  exact Except.error.inj
    ((Request.modelOn_eq_error_iff.2 he).symm.trans (Request.modelOn_eq_error_iff.2 hfirst))

end CimSchema
