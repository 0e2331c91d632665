import CimSchema.Proofs.Generation.Effect

/-!
# Where a run writes

The name of a class becomes the name of its files. If it has no slash, the files stand in the
directory of the language; and if it is not the one that the list of the classes takes, each file has
a place of its own.

## Main definitions

* `IsPlain` - names that lead one step down.
* `Language.Houses` - names of classes that have files of their own in the directory of a language.
* `Config.Touches` - what a run has touched.

## Main results

* `FileTree.walk_of_locate?_join` - a plain name leads one step down.
* `Config.nodup_filenames_sources` - no two files of a model have the same name.
* `Config.generate_touches` - a run writes into the directory of the language and nowhere else.
* `stem_outside` - a class whose name leads up is written elsewhere.
-/

namespace CimSchema

/-! ### Names of files -/

/-- A name that a file can have: one piece of a path that leads down. -/
structure IsPlain (name : String) : Prop where
  not_mem : '/' ∉ name.toList
  isEmpty_eq : name.isEmpty = false
  ne_here : name ≠ "."
  ne_up : name ≠ ".."

namespace FileTree

variable {t : FileTree} {l k : Location} {p : Path} {name : String}

/-- Where the pieces of a path lead, seen from the directory at `l`. -/
def walk (t : FileTree) (l : Location) (p : Path) : Except PathFault Location :=
  p.pieces.foldlM t.follow (start l p)

theorem follow_of_isPlain (hname : IsPlain name) (h : t.follow l name = .ok k) :
    k = l ++ [name] := by
  rw [follow, if_neg hname.ne_here, if_neg hname.ne_up] at h
  split at h
  · cases h
  split at h
  · cases h
  split at h
  · exact (Except.ok.inj h).symm
  · cases h

/-- A plain name that is added to a path leads one step down from where the path leads. -/
theorem walk_of_locate?_join (hname : IsPlain name) (h : t.locate? l (p.join ⟨name⟩) = some k) :
    ∃ d, t.walk l p = .ok d ∧ k = d ++ [name] := by
  obtain ⟨-, -, hfold, -⟩ := locate?_eq_some_iff.1 h
  rw [Path.pieces_join p hname.not_mem hname.isEmpty_eq, Path.start_join l p hname.not_mem,
    List.foldlM_append] at hfold
  rw [walk]
  cases hd : p.pieces.foldlM t.follow (start l p) with
  | error fault =>
    rw [hd] at hfold
    cases hfold
  | ok d =>
    rw [hd] at hfold
    change t.follow d name >>= pure = .ok k at hfold
    rw [bind_pure] at hfold
    exact ⟨d, rfl, follow_of_isPlain hname hfold⟩

end FileTree

namespace Language

variable {language : Language} {name other : String}

/-- What the names of the files of a class end in. -/
def extensions : Language → List String
  | python => [".py"]
  | java => [".java"]
  | cpp => [".hpp", ".cpp"]

/-- The class whose file would be the list of the classes. -/
def indexStem : Language → String
  | python => "__init__"
  | java => "CimClassMap"
  | cpp => "CIMClassList"

/-- A class of this name has files of its own in the directory of the language: its name leads
nowhere else, and is not that of the list of the classes. -/
structure Houses (language : Language) (name : String) : Prop where
  not_mem : '/' ∉ name.toList
  ne_stem : name ≠ language.indexStem

theorem indexName_eq (language : Language) :
    ∃ e ∈ language.extensions, language.indexName = language.indexStem ++ e := by
  cases language with
  | python | java | cpp => exact ⟨_, .head _, rfl⟩

theorem length_of_mem_extensions (language : Language) :
    ∀ e ∈ language.extensions, ∀ e' ∈ language.extensions, e.toList.length = e'.toList.length := by
  cases language <;> decide

theorem of_mem_extensions (language : Language) :
    ∀ e ∈ language.extensions, '/' ∉ e.toList ∧ 2 < e.toList.length := by
  cases language <;> decide

theorem append_extension_inj {e e' : String} (he : e ∈ language.extensions)
    (he' : e' ∈ language.extensions) (h : name ++ e = other ++ e') : name = other ∧ e = e' := by
  have hlists : name.toList ++ e.toList = other.toList ++ e'.toList := by
    rw [← String.toList_append, h, String.toList_append]
  obtain ⟨hname, hend⟩ :=
    List.append_inj' hlists (language.length_of_mem_extensions e he e' he')
  exact ⟨String.toList_inj.1 hname, String.toList_inj.1 hend⟩

theorem isPlain_append {e : String} (he : e ∈ language.extensions) (h : '/' ∉ name.toList) :
    IsPlain (name ++ e) := by
  obtain ⟨hslash, hlong⟩ := language.of_mem_extensions e he
  -- It is longer than the names that are not plain.
  have hne {s : String} (hs : s.toList.length ≤ 2) : name ++ e ≠ s := by
    rintro rfl
    rw [String.toList_append, List.length_append] at hs
    omega
  refine ⟨?_, ?_, hne (by decide), hne (by decide)⟩
  · rw [String.toList_append, List.mem_append, not_or]
    exact ⟨h, hslash⟩
  · rw [Bool.eq_false_iff, Ne, String.isEmpty_iff]
    exact hne (by decide)

/-- The files of a class have its name, and each its own ending. -/
theorem filenames_sublist (language : Language) (v : ClassView) (o : Options) :
    ((language.classFiles v o).map (·.filename)).Sublist
      (language.extensions.map (v.className ++ ·)) := by
  cases language with
  | python => exact .refl _
  | java =>
    rw [classFiles, Java.classFiles]
    split <;> simp [extensions]
  | cpp =>
    rw [classFiles, Cpp.classFiles]
    split <;> simp [extensions]

end Language

namespace Config

variable {c : Config} {language : Language} {m : Model} {d : ClassRecord} {f : SourceFile}

theorem filenames_filesOf_sublist (c : Config) (language : Language) (d : ClassRecord) :
    ((c.filesOf language d).map (·.filename)).Sublist
      (language.extensions.map (d.name ++ ·)) := by
  rw [filesOf]
  cases hv : ClassView.ofRecord (c.types language) d with
  | error e => exact List.nil_sublist _
  | ok v =>
    rw [← (ClassView.Shows.of_ofRecord hv).className]
    exact language.filenames_sublist v c.options

theorem filename_of_mem_filesOf (hf : f ∈ c.filesOf language d) :
    ∃ e ∈ language.extensions, f.filename = d.name ++ e := by
  have hmem := (filenames_filesOf_sublist c language d).subset (List.mem_map_of_mem hf)
  obtain ⟨e, he, heq⟩ := List.mem_map.1 hmem
  exact ⟨e, he, heq.symm⟩

/-- Where each class has files of its own, no two files of a model have the same name. -/
theorem nodup_filenames_sources (hm : m.names.Nodup)
    (hnames : ∀ name ∈ m.names, language.Houses name) :
    ((c.sources language m).map (·.filename)).Nodup := by
  have hname {d : ClassRecord} {x : String}
      (hx : x ∈ (c.filesOf language d).map (·.filename)) :
      ∃ e ∈ language.extensions, x = d.name ++ e := by
    obtain ⟨f, hf, rfl⟩ := List.mem_map.1 hx
    exact filename_of_mem_filesOf hf
  rw [sources, List.map_append, List.map_flatMap, List.nodup_append]
  refine ⟨List.nodup_flatMap.2 ⟨fun d _ => ?_, ?_⟩, List.nodup_singleton _, ?_⟩
  · refine (filenames_filesOf_sublist c language d).nodup (List.Nodup.map_on ?_ ?_)
    · exact fun e he e' he' h => (Language.append_extension_inj he he' h).2
    · cases language <;> decide
  · rw [Model.names, List.nodup_iff_pairwise_ne, List.pairwise_map] at hm
    refine hm.imp fun {d d'} hne x hx hx' => hne ?_
    obtain ⟨e, he, heq⟩ := hname hx
    obtain ⟨e', he', heq'⟩ := hname hx'
    exact (Language.append_extension_inj he he' (heq.symm.trans heq')).1
  · intro x hx y hy hxy
    obtain ⟨d, hd, hx⟩ := List.mem_flatMap.1 hx
    obtain ⟨e, he, heq⟩ := hname hx
    obtain rfl := List.mem_singleton.1 hy
    obtain ⟨e', he', hindex⟩ := language.indexName_eq
    -- Only the stem of the list of the classes could be the name of a class.
    have hstem := heq.symm.trans (hxy.trans hindex)
    exact (hnames d.name (List.mem_map_of_mem hd)).ne_stem
      (Language.append_extension_inj he he' hstem).1

/-- Each file of a model has a plain name. -/
theorem isPlain_of_mem_sources (hnames : ∀ name ∈ m.names, language.Houses name)
    (hf : f ∈ c.sources language m) : IsPlain f.filename := by
  rw [sources, List.mem_append, List.mem_flatMap] at hf
  rcases hf with ⟨d, hd, hf⟩ | hf
  · obtain ⟨e, he, heq⟩ := filename_of_mem_filesOf hf
    rw [heq]
    exact Language.isPlain_append he (hnames d.name (List.mem_map_of_mem hd)).not_mem
  · obtain rfl := List.mem_singleton.1 hf
    obtain ⟨e, he, heq⟩ := language.indexName_eq
    rw [Language.indexOf, heq]
    refine Language.isPlain_append he ?_
    cases language <;> decide

/-! ### Locations of files -/

variable {r : Request} {w w' : Workspace} {outcome : Except Error Report}

/-- A file is written for the dump, or for a file of the model. -/
theorem mem_changes {p : Path} {text : String} (h : .file p text ∈ c.changes r m) :
    r.dump = some p ∨
      ∃ f ∈ c.sources r.language m, p = c.sourcePath r.language f ∧ text = f.content := by
  rcases List.mem_append.1 h with h | h
  · obtain ⟨q, hq, h⟩ := List.mem_flatMap.1 h
    obtain ⟨rfl, -⟩ := FileTree.mem_writing_iff.1 h
    exact .inl (Option.mem_toList.1 hq)
  · exact .inr (mem_outputChanges_iff.1 h)

/-- What a run touches that has found the model `m`: where something has changed, there is a
directory on the way to one that was asked for, or the dump, or a file of the model within the
directory of the language. If all changes work, each file of the model is there, in a place of its
own. -/
structure Touches (c : Config) (r : Request) (m : Model) (w : Workspace) (files : FileTree) :
    Prop where
  touched : ∀ k, files.get? k ≠ w.files.get? k →
    (w.files.get? k = none ∧ files.get? k = some .directory ∧
      ∃ p, .directories p ∈ c.changes r m ∧ ∃ q ∈ p.chain, files.locate? w.place q = some k) ∨
    (∃ p, r.dump = some p ∧ files.locate? w.place p = some k) ∨
    ∃ f ∈ c.sources r.language m, ∃ d,
      files.walk w.place (c.languageDirectory r.language) = .ok d ∧ k = d ++ [f.filename]
  complete : (w.files.perform w.place (c.changes r m)).2 = true →
    ∃ d, files.walk w.place (c.languageDirectory r.language) = .ok d ∧
      ((c.sources r.language m).map fun f => d ++ [f.filename]).Nodup ∧
      ∀ f ∈ c.sources r.language m,
        files.get? (d ++ [f.filename]) = some (.file (some f.content))

/-- The files of a model lead to one directory. -/
theorem walk_of_sourcePath {t : FileTree} {l k : Location}
    (hnames : ∀ name ∈ m.names, language.Houses name) (hf : f ∈ c.sources language m)
    (h : t.locate? l (c.sourcePath language f) = some k) :
    ∃ d, t.walk l (c.languageDirectory language) = .ok d ∧ k = d ++ [f.filename] :=
  FileTree.walk_of_locate?_join (isPlain_of_mem_sources hnames hf) h

/-- What a model's files say is there after the changes, whatever else was written before. -/
theorem complete_of_effect {before : List FileChange} {t t' : FileTree} {l : Location}
    (hm : m.names.Nodup) (hnames : ∀ name ∈ m.names, language.Houses name)
    (h : FileTree.Effect l (before ++ c.outputChanges language m) t t') :
    ∃ d, t'.walk l (c.languageDirectory language) = .ok d ∧
      ((c.sources language m).map fun f => d ++ [f.filename]).Nodup ∧
      ∀ f ∈ c.sources language m, t'.get? (d ++ [f.filename]) = some (.file (some f.content)) := by
  have hnodup := nodup_filenames_sources (c := c) hm hnames
  have hplace {f : SourceFile} (hf : f ∈ c.sources language m) :
      ∃ d, t'.walk l (c.languageDirectory language) = .ok d ∧
        t'.locate? l (c.sourcePath language f) = some (d ++ [f.filename]) := by
    obtain ⟨k, hk⟩ := h.leads (c.sourcePath language f) f.content
      (List.mem_append_right _ (mem_outputChanges_iff.2 ⟨f, hf, rfl, rfl⟩))
    obtain ⟨d, hd, rfl⟩ := walk_of_sourcePath hnames hf hk
    exact ⟨d, hd, hk⟩
  -- There is at least the list of the classes.
  obtain ⟨d, hd, -⟩ := hplace (List.mem_append_right _ (List.mem_singleton_self _))
  refine ⟨d, hd, ?_, fun f hf => h.written _ _ ?_⟩
  · have hmap : ((c.sources language m).map fun f => d ++ [f.filename]) =
        ((c.sources language m).map (·.filename)).map fun name => d ++ [name] := by
      rw [List.map_map]
      rfl
    rw [hmap]
    exact hnodup.map fun x y hxy => by simpa using hxy
  · have hlocate {g : SourceFile} (hg : g ∈ c.sources language m) :
        t'.locate? l (c.sourcePath language g) = some (d ++ [g.filename]) := by
      obtain ⟨d', hd', hk⟩ := hplace hg
      obtain rfl := Except.ok.inj (hd.symm.trans hd')
      exact hk
    rw [FileTree.lastText?_append, FileTree.lastText?_eq_some
      (mem_outputChanges_iff.2 ⟨f, hf, rfl, rfl⟩) (hlocate hf), Option.some_or]
    intro q text hq hk
    obtain ⟨g, hg, rfl, rfl⟩ := mem_outputChanges_iff.1 hq
    -- No other file of the model has this name.
    rw [hlocate hg] at hk
    have hname : g.filename = f.filename := by simpa using hk
    rw [List.inj_on_of_nodup_map hnodup hg hf hname]

theorem touches_of_model (hm : m.names.Nodup)
    (hnames : ∀ name ∈ m.names, r.language.Houses name) :
    c.Touches r m w (w.files.perform w.place (c.changes r m)).1 := by
  obtain ⟨done, hdone, hall, heffect⟩ :=
    FileTree.effect_perform w.files w.place (c.changes r m)
  generalize hfiles : (w.files.perform w.place (c.changes r m)).1 = files at heffect
  constructor
  · intro k hk
    cases htext : files.lastText? w.place k done with
    | some text =>
      obtain ⟨p, hp, hlocate⟩ := FileTree.exists_of_lastText? htext
      rcases mem_changes (hdone.subset hp) with hdump | ⟨f, hf, rfl, -⟩
      · exact .inr (.inl ⟨p, hdump, hlocate⟩)
      · exact .inr (.inr ⟨f, hf, walk_of_sourcePath hnames hf hlocate⟩)
    | none =>
      rcases heffect.kept k htext with hsame | ⟨hnone, hdir, q, hq, hlocate⟩
      · exact absurd hsame hk
      · obtain ⟨change, hchange, hmade⟩ := List.mem_flatMap.1 hq
        cases change with
        | file p text => cases hmade
        | directories p =>
          exact .inl ⟨hnone, hdir, p, hdone.subset hchange, q, hmade, hlocate⟩
  · intro hok
    rw [hall hok] at heffect
    exact complete_of_effect hm hnames heffect

/-- **Places.** A run leaves all files as they were or has found a model. If each class of this has
files of its own, the run writes its files into the directory of the language and nowhere else, and
no two of them to one place. -/
theorem generate_touches (c : Config)
    (hnames : ∀ m, r.modelOn w = .ok m → ∀ name ∈ m.names, r.language.Houses name)
    (hrun : (c.generate r : Step (StateM Workspace) Report).on w = (outcome, w')) :
    w' = w ∨ ∃ m, r.modelOn w = .ok m ∧ w'.place = w.place ∧ c.Touches r m w w'.files := by
  cases hmodel : r.modelOn w with
  | error e =>
    rw [generate, Step.on_bind, Request.on_model, hmodel] at hrun
    exact .inl (Prod.mk.inj hrun).2.symm
  | ok m =>
    obtain ⟨-, _, whole, -, -, rfl, -⟩ := Request.modelOn_eq_ok_iff.1 hmodel
    rw [on_generate c hmodel] at hrun
    obtain ⟨-, rfl⟩ := Prod.mk.inj hrun
    exact .inr ⟨_, rfl, rfl,
      touches_of_model (Profile.nodup_names_prune r.profile whole) (hnames _ hmodel)⟩

end Config

theorem generate_touches_grid :
    (∀ m, gridRequest.modelOn gridWorkspace = .ok m →
      ∀ name ∈ m.names, Language.cpp.Houses name) ∧
    ∃ outcome w', (Config.generate {} gridRequest : Step (StateM Workspace) Report).on
        gridWorkspace = (outcome, w') ∧
      w'.kind? ⟨"model.json"⟩ = some .file ∧
      w'.kind? ⟨"output/cpp/Breaker.hpp"⟩ = some .file ∧
      w'.kind? ⟨"output/cpp/Gain.hpp"⟩ = none ∧
      (w' = gridWorkspace ∨ ∃ m, gridRequest.modelOn gridWorkspace = .ok m ∧
        w'.place = gridWorkspace.place ∧
        Config.Touches {} gridRequest m gridWorkspace w'.files) := by
  have hnames : ∀ m, gridRequest.modelOn gridWorkspace = .ok m →
      ∀ name ∈ m.names, Language.cpp.Houses name := by
    intro m hm
    obtain rfl := Except.ok.inj (modelOn_gridRequest.symm.trans hm)
    have hhouses : ∀ name ∈ gridModel.names, '/' ∉ name.toList ∧ name ≠ "CIMClassList" := by
      decide +kernel
    exact fun name hname => ⟨(hhouses name hname).1, (hhouses name hname).2⟩
  have hrun := Config.on_generate {} modelOn_gridRequest
  exact ⟨hnames, _, _, hrun, by decide +kernel, by decide +kernel, by decide +kernel,
    Config.generate_touches {} hnames hrun⟩

/-! ### Names that lead elsewhere -/

/-- A place with one file, which declares a class whose name leads up. -/
def stemWorkspace : Workspace where
  files := ⟨[(["stems.rdf"], .file (some
    "<rdf:RDF xmlns:rdf='http://www.w3.org/1999/02/22-rdf-syntax-ns#'
      xmlns:rdfs='http://www.w3.org/2000/01/rdf-schema#'>
    <rdfs:Class rdf:about='#../Stem'/></rdf:RDF>"))]⟩

/-- Stems in Python. -/
def stemRequest : Request where
  schemaFiles := [⟨"stems.rdf"⟩]
  profile := .all
  language := .python

/-- What the file says. -/
def stemDocument : Document where
  source := "stems.rdf"
  declarations := [.cls { id := "../Stem" }]

/-- The model of the file. -/
def stemModel : Model where
  classes := [{ name := "../Stem", kind := .regular, declared := true }]
  sorted := List.pairwise_singleton _ _

theorem modelOn_stemRequest :
    stemRequest.modelOn stemWorkspace = .ok (Profile.all.prune stemModel) := by
  have hreads : stemRequest.Reads stemWorkspace [stemDocument] :=
    Request.reads_of_load (p := ⟨"stems.rdf"⟩) (by decide +kernel) (by decide +kernel)
  have hbuilt : Model.ofDocuments .inferring [stemDocument] = .ok stemModel :=
    Model.ofDocuments_of_classes (by decide +kernel) (by decide +kernel)
  exact Request.modelOn_eq_ok_iff.2 ⟨rfl, _, _, hreads, hbuilt, rfl, by decide +kernel⟩

/-- A class whose name leads up is written outside of the directory of the language. -/
theorem stem_outside :
    ∃ report w', (Config.generate {} stemRequest : Step (StateM Workspace) Report).on
        stemWorkspace = (.ok report, w') ∧
      stemWorkspace.kind? ⟨"output/Stem.py"⟩ = none ∧
      w'.kind? ⟨"output/Stem.py"⟩ = some .file ∧
      w'.files.namesAt ["output", "python"] = ["__init__.py"] := by
  have hworks : (stemWorkspace.files.perform stemWorkspace.place
      (Config.changes {} stemRequest (Profile.all.prune stemModel))).2 = true := by
    decide +kernel
  have hok : (Config.outcome {} stemRequest (Profile.all.prune stemModel)).isOk = true := by
    decide +kernel
  obtain ⟨report, hreport⟩ := exists_of_isOk hok
  have hrun := Config.on_generate {} modelOn_stemRequest
  rw [Workspace.ending_of_performed hworks, hreport] at hrun
  exact ⟨report, _, hrun, by decide +kernel, by decide +kernel, by decide +kernel⟩

end CimSchema
