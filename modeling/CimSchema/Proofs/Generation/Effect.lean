import CimSchema.Proofs.Generation.Refused
import CimSchema.Proofs.Profile.Gather
import CimSchema.Proofs.Resolve.Records
import CimSchema.Proofs.Target.Faults
import CimSchema.Proofs.Target.Views

/-!
# What a run does to the files

Once there is a model, a run writes the dump, the files of each class and the list of the classes.
These changes are stated here as one list, made from the model class by class, and the outcome is
stated by the classes that cannot be written. A class that cannot be written has no part in the list
and no influence on the parts of the others.

## Main definitions

* `Config.filesOf`, `Config.sources` - the files of a class, and all files of a model.
* `Config.changes`, `Config.outcome` - what a run does once there is a model.
* `Config.Generated` - a run whose changes all worked.

## Main results

* `Language.indexFile_eq` - what the list of the classes says.
* `Config.on_generate` - a run makes its changes up to the first that does not work.
* `Config.outcome_eq_ok_iff`, `Config.leaves_of_outcome` - when a run works, and its errors if not.
* `Config.generate_effect` - what a run whose changes all work has done.
-/

namespace CimSchema

variable {w : Workspace}

/-! ### The files of a model -/

namespace Language

/-- How many files a class has that can be written. -/
def fileCount : Language → ClassKind → Nat
  | python, _ => 1
  | java, .primitive | java, .datatype => 0
  | java, _ => 1
  | cpp, .regular | cpp, .compound => 2
  | cpp, _ => 1

/-- The name of the file that lists the classes. -/
def indexName : Language → String
  | python => "__init__.py"
  | java => "CimClassMap.java"
  | cpp => "CIMClassList.hpp"

/-- The line of a class that is listed. -/
def indexLine (o : Options) : Language → String → String
  | python, name => "from ." ++ name ++ " import " ++ name
  | java, name => o.indent.level 2 ++ "CLASSES.put(\"" ++ name ++ "\", " ++ name ++ "::new);"
  | cpp, name => "#include \"" ++ name ++ ".hpp\""

/-- The lines before those of the classes. -/
def indexHead (o : Options) : Language → List String
  | python => []
  | java =>
    ["package " ++ Java.packageName o ++ ";", "", "import java.util.Map;",
      "import java.util.TreeMap;", "import java.util.function.Supplier;", "",
      "public final class CimClassMap \x7b",
      o.indent.level 1 ++
        "public static final Map<String, Supplier<Object>> CLASSES = new TreeMap<>();",
      "", o.indent.level 1 ++ "static \x7b"]
  | cpp => ["#ifndef CIMCLASSLIST_H", "#define CIMCLASSLIST_H", ""]

/-- The lines after those of the classes. -/
def indexTail (o : Options) : Language → List String
  | python => []
  | java =>
    [o.indent.level 1 ++ "\x7d", "", o.indent.level 1 ++ "private CimClassMap() \x7b",
      o.indent.level 1 ++ "\x7d", "\x7d"]
  | cpp => ["", "#endif"]

/-- The file that lists the classes `names`, a line for each. -/
def indexOf (language : Language) (o : Options) (names : List String) : SourceFile :=
  ⟨language.indexName, linesText
    (language.indexHead o ++ names.map (language.indexLine o) ++ language.indexTail o)⟩

/-- Whether classes of a shape are listed at all: an enumeration has no constructor, and the list of
Java is one of constructors. -/
def lists (language : Language) (shape : Shape) : Bool :=
  language ≠ .java || shape ≠ .enumeration

theorem indexFile_eq (language : Language) (classes : List (String × Shape)) (o : Options) :
    language.indexFile classes o =
      language.indexOf o ((classes.filter fun e => language.lists e.2).map Prod.fst) := by
  cases language with
  | python =>
    have hall : classes.filter (fun e => python.lists e.2) = classes :=
      List.filter_eq_self.2 fun _ _ => rfl
    rw [hall, indexOf, indexHead, indexTail, List.nil_append, List.append_nil]
    rfl
  | java =>
    rw [indexOf, List.map_map]
    rfl
  | cpp =>
    have hall : classes.filter (fun e => cpp.lists e.2) = classes :=
      List.filter_eq_self.2 fun _ _ => rfl
    rw [hall, indexOf]
    rfl

end Language

namespace Config

/-- The files of a class; one that cannot be written has none. -/
def filesOf (c : Config) (language : Language) (d : ClassRecord) : List SourceFile :=
  match ClassView.ofRecord (c.types language) d with
  | .ok v => language.classFiles v c.options
  | .error _ => []

/-- The single errors of a class that cannot be written. -/
def errorsOf (c : Config) (language : Language) (d : ClassRecord) : List Error :=
  match ClassView.ofRecord (c.types language) d with
  | .ok _ => []
  | .error e => e.toError.leaves

/-- Whether a class has a line in the list of classes. -/
def isListed (c : Config) (language : Language) (d : ClassRecord) : Bool :=
  !(c.filesOf language d).isEmpty && language.lists d.shape

/-- All files of a model: those of each class, and then the list of the classes. -/
def sources (c : Config) (language : Language) (m : Model) : List SourceFile :=
  m.classes.flatMap (c.filesOf language) ++
    [language.indexOf c.options ((m.classes.filter (c.isListed language)).map (·.name))]

/-- Where a file of source text is written. -/
def sourcePath (c : Config) (language : Language) (f : SourceFile) : Path :=
  (c.languageDirectory language).join ⟨f.filename⟩

/-- What a run changes for the files of a model: it makes the directory of the language and writes
them there. -/
def outputChanges (c : Config) (language : Language) (m : Model) : List FileChange :=
  .directories (c.languageDirectory language) ::
    (c.sources language m).flatMap fun f => FileChange.writing (c.sourcePath language f) f.content

/-- What a run changes once there is a model: it writes the dump if there is to be one, and then the
files of the model. -/
def changes (c : Config) (r : Request) (m : Model) : List FileChange :=
  r.dump.toList.flatMap (fun p => FileChange.writing p m.toJson.pretty) ++
    c.outputChanges r.language m

/-- What a run ends with if all its changes work. -/
def outcome (c : Config) (r : Request) (m : Model) : Except Error Report :=
  (Error.ofList (m.classes.flatMap (c.errorsOf r.language))).map fun _ =>
    { language := r.language
      profile := r.profile.name
      classCount := m.size
      files := Path.sort ((c.sources r.language m).map (c.sourcePath r.language)) }

variable {c : Config} {language : Language} {m : Model}

theorem classOutput_eq (c : Config) (language : Language) (d : ClassRecord) :
    (c.classOutput language d).toOption =
      (ClassView.ofRecord (c.types language) d).toOption.map fun _ =>
        ⟨d.name, d.shape, c.filesOf language d⟩ := by
  rw [classOutput, filesOf]
  cases hv : ClassView.ofRecord (c.types language) d with
  | error e => rfl
  | ok v => rw [← (ClassView.Shows.of_ofRecord hv).shape]; rfl

theorem flatMap_files_outputs (c : Config) (language : Language) (m : Model) :
    (c.outputs language m).flatMap (·.files) = m.classes.flatMap (c.filesOf language) := by
  rw [outputs, List.filterMap_eq_flatMap_toList, List.flatMap_assoc]
  refine List.flatMap_congr fun d _ => ?_
  rw [classOutput_eq, filesOf]
  cases ClassView.ofRecord (c.types language) d with
  | error e => rfl
  | ok v => exact List.flatMap_singleton _ _

theorem indexFile_outputs (c : Config) (language : Language) (m : Model) :
    c.indexFile language (c.outputs language m) =
      language.indexOf c.options ((m.classes.filter (c.isListed language)).map (·.name)) := by
  rw [indexFile, Language.indexFile_eq, outputs]
  congr 1
  rw [List.filter_map, List.map_map, List.filter_filter, List.filter_filterMap, List.map_filterMap,
    ← List.filterMap_eq_map, List.filterMap_filter]
  refine List.filterMap_congr fun d _ => ?_
  rw [classOutput_eq, isListed, filesOf]
  cases ClassView.ofRecord (c.types language) d with
  | error e => rfl
  | ok v =>
    dsimp only [Except.toOption, Option.map_some, Function.comp_apply]
    rw [Option.filter_some, Bool.and_comm]
    split <;> rfl

theorem outputErrors_eq (c : Config) (language : Language) (m : Model) :
    c.outputErrors language m = m.classes.flatMap (c.errorsOf language) := by
  refine List.flatMap_congr fun d _ => ?_
  rw [classOutput, errorsOf]
  cases ClassView.ofRecord (c.types language) d <;> rfl

end Config

open Config

theorem Step.Performs.writeOutputs (c : Config) (language : Language) (m : Model) :
    Performs (c.writeOutputs language (c.outputs language m)) (c.outputChanges language m)
      ((c.sources language m).map (c.sourcePath language)) := by
  rw [Config.writeOutputs, flatMap_files_outputs, indexFile_outputs]
  exact (makeDirectories _).bind (a := ()) (mapM (writeSource _) _)

namespace Config

variable {c : Config} {r : Request} {m : Model}

/-- A run that has found a model makes its changes, and stops at the first that does not work. -/
theorem on_generate (c : Config) (hmodel : r.modelOn w = .ok m) :
    (c.generate r : Step (StateM Workspace) Report).on w =
      (w.ending (c.changes r m) (c.outcome r m),
        { w with files := (w.files.perform w.place (c.changes r m)).1 }) := by
  have hwrites : Step.Performs
      (r.writeDump m >>= fun _ => c.writeOutputs r.language (c.outputs r.language m))
      (c.changes r m) ((c.sources r.language m).map (c.sourcePath r.language)) :=
    (Step.Performs.writeDump r m).bind (a := ()) (.writeOutputs c r.language m)
  rw [generate, Step.on_bind, Request.on_model, hmodel]
  dsimp only
  rw [← bind_assoc, Step.on_bind, hwrites, outputErrors_eq, outcome, Workspace.ending,
    Workspace.ending]
  cases w.files.failing? w.place (c.changes r m) with
  | some change => rfl
  | none =>
    -- All files are there; what is left is to tell the errors.
    dsimp only
    cases Error.ofList (m.classes.flatMap (c.errorsOf r.language)) <;> rfl

theorem mem_outputChanges_iff {language : Language} {p : Path} {text : String} :
    .file p text ∈ c.outputChanges language m ↔
      ∃ f ∈ c.sources language m, p = c.sourcePath language f ∧ text = f.content := by
  rw [outputChanges, List.mem_cons, List.mem_flatMap]
  simp only [reduceCtorEq, false_or, FileTree.mem_writing_iff]

/-! ### The outcome -/

variable {language : Language} {d : ClassRecord}

/-- A class that can be written has as many files as its language and its shape say. -/
theorem length_filesOf {v : ClassView} (hv : ClassView.ofRecord (c.types language) d = .ok v) :
    (c.filesOf language d).length = language.fileCount d.kind := by
  rw [filesOf, hv]
  have hshape := (ClassView.Shows.of_ofRecord hv).shape
  rw [ClassRecord.shape] at hshape
  -- Of the shape it matters only whether it is that of a class with fields.
  cases hkind : d.kind <;> rw [hkind] at hshape <;> dsimp only at hshape
  case regular | compound =>
    split at hshape <;> cases language <;>
      simp [Language.classFiles, Java.classFiles, Cpp.classFiles, hshape, Language.fileCount]
  case enumeration | primitive | datatype =>
    cases language <;>
      simp [Language.classFiles, Java.classFiles, Cpp.classFiles, hshape, Language.fileCount]

theorem errorsOf_eq_nil_iff :
    c.errorsOf language d = [] ↔ ∃ v, ClassView.ofRecord (c.types language) d = .ok v := by
  rw [errorsOf]
  cases hv : ClassView.ofRecord (c.types language) d with
  | error e => simp [ClassView.leaves_of_ofRecord hv]
  | ok v => simp

theorem flatMap_leaves_errorsOf (c : Config) (language : Language) (d : ClassRecord) :
    (c.errorsOf language d).flatMap Error.leaves = c.errorsOf language d := by
  rw [errorsOf]
  cases ClassView.ofRecord (c.types language) d with
  | error e => exact Error.flatMap_leaves_leaves e.toError
  | ok v => rfl

/-- A run that could make all its changes works exactly if each class can be written. -/
theorem outcome_eq_ok_iff :
    (∃ report, c.outcome r m = .ok report) ↔
      ∀ d ∈ m.classes, ∃ v, ClassView.ofRecord (c.types r.language) d = .ok v := by
  have hnil : m.classes.flatMap (c.errorsOf r.language) = [] ↔
      ∀ d ∈ m.classes, ∃ v, ClassView.ofRecord (c.types r.language) d = .ok v := by
    rw [List.flatMap_eq_nil_iff]
    simp only [errorsOf_eq_nil_iff]
  rw [← hnil, outcome]
  constructor
  · rintro ⟨report, h⟩
    obtain ⟨_, h, -⟩ := map_eq_ok_iff.1 h
    exact Error.eq_nil_of_ofList h
  · intro h
    rw [h]
    exact ⟨_, rfl⟩

/-- Otherwise it ends with the errors of all classes that cannot be written. -/
theorem leaves_of_outcome {e : Error} (h : c.outcome r m = .error e) :
    e.leaves = m.classes.flatMap (c.errorsOf r.language) := by
  have hleaves := Error.leaves_ofList (m.classes.flatMap (c.errorsOf r.language))
  rw [map_eq_error_iff.1 h] at hleaves
  rw [hleaves.2, List.flatMap_assoc]
  exact List.flatMap_congr fun d _ => flatMap_leaves_errorsOf c r.language d

/-- What a run has done that found the model `m` and whose changes all worked: it made its changes in
their order, and what it says of them is right. -/
structure Generated (c : Config) (r : Request) (m : Model) (w : Workspace)
    (outcome : Except Error Report) (files : FileTree) : Prop where
  performed : w.files.perform w.place (c.changes r m) = (files, true)
  effect : FileTree.Effect w.place (c.changes r m) w.files files
  /-- The classes come in the order of their names. -/
  increasing : m.names.Pairwise (· < ·)
  ok_iff : (∃ report, outcome = .ok report) ↔
    ∀ d ∈ m.classes, ∃ v, ClassView.ofRecord (c.types r.language) d = .ok v
  leaves_eq : ∀ e, outcome = .error e → e.leaves = m.classes.flatMap (c.errorsOf r.language)
  report_eq : ∀ report, outcome = .ok report → report =
    { language := r.language
      profile := r.profile.name
      classCount := m.size
      files := Path.sort ((c.sources r.language m).map (c.sourcePath r.language)) }
  /-- A class that can be written has as many files as its language and its shape say. -/
  length_eq : ∀ d ∈ m.classes, ∀ v, ClassView.ofRecord (c.types r.language) d = .ok v →
    (c.filesOf r.language d).length = r.language.fileCount d.kind

theorem increasing_prune (p : Profile) (m : Model) : (p.prune m).names.Pairwise (· < ·) := by
  have hsorted : (p.prune m).names.Pairwise (· ≤ ·) := by
    rw [Model.names, List.pairwise_map]
    exact (p.prune m).sorted
  refine (hsorted.and (Profile.nodup_names_prune p m)).imp fun {x y} h => ?_
  exact Std.lt_of_le_of_ne h.1 h.2

/-- **Effect.** A run whose request is not refused and whose changes all work writes the dump, the
files of each class that can be written, and the list of the classes that have files, in this order
and nothing else. It works exactly if each class can be written. -/
theorem generate_effect (c : Config) {r : Request} {w : Workspace} {documents : List Document}
    {whole : Model} (hcheck : r.profile.check = .ok ()) (hreads : r.Reads w documents)
    (hbuilt : Model.ofDocuments .inferring documents = .ok whole)
    (hsome : (r.profile.prune whole).classes ≠ [])
    (hworks : (w.files.perform w.place (c.changes r (r.profile.prune whole))).2 = true) :
    ∃ outcome files, (c.generate r : Step (StateM Workspace) Report).on w =
        (outcome, { w with files }) ∧
      c.Generated r (r.profile.prune whole) w outcome files := by
  have hmodel : r.modelOn w = .ok (r.profile.prune whole) :=
    Request.modelOn_eq_ok_iff.2 ⟨hcheck, documents, whole, hreads, hbuilt, rfl, hsome⟩
  have hrun := on_generate c hmodel
  rw [Workspace.ending_of_performed hworks] at hrun
  refine ⟨_, _, hrun, ?_⟩
  obtain ⟨done, -, hall, heffect⟩ :=
    FileTree.effect_perform w.files w.place (c.changes r (r.profile.prune whole))
  rw [hall hworks] at heffect
  refine ⟨Prod.ext rfl hworks, heffect, increasing_prune r.profile whole, outcome_eq_ok_iff,
    fun e => leaves_of_outcome, fun report hreport => ?_, fun d _ v => length_filesOf⟩
  obtain ⟨_, -, rfl⟩ := map_eq_ok_iff.1 hreport
  rfl

end Config

/-! ### Breakers and their bays -/

theorem Request.reads_of_load {r : Request} {p : Path} {document : Document}
    (hfiles : Path.sortDistinct r.schemaFiles = [p])
    (hload : (w.load p).toOption = some document) : r.Reads w [document] := by
  rw [Reads, hfiles]
  exact .cons (toOption_eq_some_iff.1 hload) .nil

/-- A schema of breakers with what they are, their bays and their phases, and of gains, which no
language has a type for. -/
def gridText : String :=
  "<rdf:RDF xmlns:rdf='http://www.w3.org/1999/02/22-rdf-syntax-ns#'
    xmlns='http://www.w3.org/2000/01/rdf-schema#'
    xmlns:cims='http://iec.ch/TC57/1999/rdf-schema-extensions-19990926#'>
  <Class rdf:ID='Bay'/>
  <Class rdf:ID='Breaker'><subClassOf rdf:resource='#Switch'/></Class>
  <Class rdf:ID='Gain'><cims:stereotype>Primitive</cims:stereotype></Class>
  <Class rdf:ID='Phase'><cims:stereotype>enumeration</cims:stereotype></Class>
  <Class rdf:ID='Switch'/>
  <rdf:Property rdf:ID='Breaker.Bay'>
    <domain rdf:resource='#Breaker'/><range rdf:resource='#Bay'/></rdf:Property>
  <rdf:Property rdf:ID='Breaker.phase'>
    <domain rdf:resource='#Breaker'/><range rdf:resource='#Phase'/></rdf:Property></rdf:RDF>"

/-- A place with one file, which has this text. -/
def gridWorkspace : Workspace where
  files := ⟨[(["grid.rdf"], .file (some gridText))]⟩

/-- All of it in C++, and as JSON. -/
def gridRequest : Request where
  schemaFiles := [⟨"grid.rdf"⟩]
  profile := .all
  language := .cpp
  dump := some ⟨"model.json"⟩

/-- The IRI of what the file calls `name`. -/
def gridNode (name : String) : Rdf.Node :=
  .iri ("http://iec.ch/TC57/CIM100#" ++ name)

open Rdf in
/-- What the file states. -/
def gridStatements : List Statement := [
  ⟨gridNode "Bay", rdf "type", .node (.iri (rdfs "Class"))⟩,
  ⟨gridNode "Breaker", rdf "type", .node (.iri (rdfs "Class"))⟩,
  ⟨gridNode "Breaker", rdfs "subClassOf", .node (gridNode "Switch")⟩,
  ⟨gridNode "Gain", rdf "type", .node (.iri (rdfs "Class"))⟩,
  ⟨gridNode "Gain", cims "stereotype", .literal "Primitive"⟩,
  ⟨gridNode "Phase", rdf "type", .node (.iri (rdfs "Class"))⟩,
  ⟨gridNode "Phase", cims "stereotype", .literal "enumeration"⟩,
  ⟨gridNode "Switch", rdf "type", .node (.iri (rdfs "Class"))⟩,
  ⟨gridNode "Breaker.Bay", rdf "type", .node (.iri (rdf "Property"))⟩,
  ⟨gridNode "Breaker.Bay", rdfs "domain", .node (gridNode "Breaker")⟩,
  ⟨gridNode "Breaker.Bay", rdfs "range", .node (gridNode "Bay")⟩,
  ⟨gridNode "Breaker.phase", rdf "type", .node (.iri (rdf "Property"))⟩,
  ⟨gridNode "Breaker.phase", rdfs "domain", .node (gridNode "Breaker")⟩,
  ⟨gridNode "Breaker.phase", rdfs "range", .node (gridNode "Phase")⟩]

/-- What the file declares. -/
def gridDocument : Document where
  source := "grid.rdf"
  declarations := [
    .cls { id := "Bay" },
    .cls { id := "Breaker", superClass := some "Switch" },
    .cls { id := "Gain", stereotypes := ["Primitive"] },
    .cls { id := "Phase", stereotypes := ["enumeration"] },
    .cls { id := "Switch" },
    .property { id := "Breaker.Bay", domain := "Breaker", range := some "Bay" },
    .property { id := "Breaker.phase", domain := "Breaker", range := some "Phase" }]

/-- The model of the file. -/
def gridModel : Model where
  classes := [
    { name := "Bay", kind := .regular, declared := true },
    { name := "Breaker", base := some "Switch", kind := .regular, declared := true
      attributes := [
        { name := "phase", declaringClass := "Breaker", valueType := .enumeration "Phase"
          multiplicity := .optional, documentation := none, default := none, origins := [] }]
      associations := [
        { name := "Bay", declaringClass := "Breaker", target := "Bay", multiplicity := .optional
          inverse := .none, used := true, documentation := none, origins := [] }] },
    { name := "Gain", kind := .primitive, declared := true },
    { name := "Phase", kind := .enumeration, declared := true },
    { name := "Switch", kind := .regular, declared := true }]
  sorted := by decide

set_option maxRecDepth 8000 in
theorem ofText_gridText : Document.ofText {} "grid.rdf" gridText = .ok gridDocument :=
  Document.ofText_of_statements gridStatements String.toList_ofList (by decide +kernel) rfl
    (by decide +kernel) (by decide +kernel)

theorem load_gridWorkspace : gridWorkspace.load ⟨"grid.rdf"⟩ = .ok gridDocument := by
  have hread : gridWorkspace.read? ⟨"grid.rdf"⟩ = some gridText := rfl
  rw [Workspace.load, Workspace.read, hread]
  exact ofText_gridText

theorem reads_gridRequest : gridRequest.Reads gridWorkspace [gridDocument] :=
  Request.reads_of_load (p := ⟨"grid.rdf"⟩) (by decide +kernel)
    (toOption_eq_some_iff.2 load_gridWorkspace)

theorem ofDocuments_gridDocument :
    Model.ofDocuments .inferring [gridDocument] = .ok gridModel :=
  Model.ofDocuments_of_classes (by decide +kernel) (by decide +kernel)

theorem prune_gridModel : gridRequest.profile.prune gridModel = gridModel :=
  Model.eq_of_classes_eq ((Profile.classes_prune _ _).trans (by decide +kernel))

theorem modelOn_gridRequest : gridRequest.modelOn gridWorkspace = .ok gridModel :=
  Request.modelOn_eq_ok_iff.2 ⟨rfl, _, _, reads_gridRequest, ofDocuments_gridDocument,
    prune_gridModel, List.cons_ne_nil _ _⟩

/-- Gains cannot be written, and the run ends with this error; everything else is there. -/
theorem generated_gridModel :
    ∃ outcome files, (Config.generate {} gridRequest : Step (StateM Workspace) Report).on
        gridWorkspace = (outcome, { gridWorkspace with files }) ∧
      Config.Generated {} gridRequest gridModel gridWorkspace outcome files ∧
      (∃ e, outcome = .error e ∧
        e.leaves.map (·.message) = ["No cpp mapping for type 'Gain' (used by 'Gain')"]) ∧
      files.namesAt [] = ["grid.rdf", "model.json", "output"] ∧
      files.namesAt ["output", "cpp"] =
        ["Bay.hpp", "Bay.cpp", "Breaker.hpp", "Breaker.cpp", "Phase.hpp", "Switch.hpp", "Switch.cpp",
          "CIMClassList.hpp"] := by
  have hworks : (gridWorkspace.files.perform gridWorkspace.place
      (Config.changes {} gridRequest (gridRequest.profile.prune gridModel))).2 = true := by
    rw [prune_gridModel]
    decide +kernel
  have hsome : (gridRequest.profile.prune gridModel).classes ≠ [] := by
    rw [prune_gridModel]
    exact List.cons_ne_nil _ _
  obtain ⟨outcome, files, hrun, hgenerated⟩ :=
    Config.generate_effect {} rfl reads_gridRequest ofDocuments_gridDocument hsome hworks
  rw [prune_gridModel] at hgenerated
  have hfiles : (gridWorkspace.files.perform gridWorkspace.place
      (Config.changes {} gridRequest gridModel)).1 = files := congrArg Prod.fst hgenerated.performed
  refine ⟨outcome, files, hrun, hgenerated, ?_, ?_, ?_⟩
  · cases houtcome : outcome with
    | ok report =>
      have hall : ∀ d ∈ gridModel.classes,
          (ClassView.ofRecord (Config.types {} .cpp) d).isOk = true := by
        intro d hd
        obtain ⟨v, hv⟩ := hgenerated.ok_iff.1 ⟨report, houtcome⟩ d hd
        exact congrArg Except.isOk hv
      exact absurd hall (by decide +kernel)
    | error e =>
      refine ⟨e, rfl, ?_⟩
      rw [hgenerated.leaves_eq e houtcome]
      decide +kernel
  · rw [← hfiles]
    decide +kernel
  · rw [← hfiles]
    decide +kernel

/-! ### Enumerations in Java -/

/-- A place with one file, which has a color. -/
def colorWorkspace : Workspace where
  files := ⟨[(["colors.rdf"], .file (some
    "<rdf:RDF xmlns:rdf='http://www.w3.org/1999/02/22-rdf-syntax-ns#' xmlns='x:#'>
    <Color rdf:ID='Color.red'/></rdf:RDF>"))]⟩

/-- Colors in Java. -/
def colorRequest : Request where
  schemaFiles := [⟨"colors.rdf"⟩]
  profile := .all
  language := .java

/-- What the file says. -/
def colorDocument : Document where
  source := "colors.rdf"
  declarations := [.value { id := "Color.red", enumeration := "Color" }]

/-- The model of the file. -/
def colorModel : Model where
  classes := [{ name := "Color", kind := .enumeration, enumValues := [⟨"red", none⟩] }]
  sorted := List.pairwise_singleton _ _

theorem reads_colorRequest : colorRequest.Reads colorWorkspace [colorDocument] :=
  Request.reads_of_load (p := ⟨"colors.rdf"⟩) (by decide +kernel) (by decide +kernel)

theorem ofDocuments_colorDocument :
    Model.ofDocuments .inferring [colorDocument] = .ok colorModel :=
  Model.ofDocuments_of_classes (by decide +kernel) (by decide +kernel)

theorem modelOn_colorRequest :
    colorRequest.modelOn colorWorkspace = .ok (Profile.all.prune colorModel) :=
  Request.modelOn_eq_ok_iff.2 ⟨rfl, _, _, reads_colorRequest, ofDocuments_colorDocument, rfl,
    by decide +kernel⟩

/-- The list of classes in Java does not name the enumeration, although this has a file. -/
theorem color_not_listed :
    ∃ report w', (Config.generate {} colorRequest : Step (StateM Workspace) Report).on
        colorWorkspace = (.ok report, w') ∧
      w'.kind? ⟨"output/java/Color.java"⟩ = some .file ∧
      w'.read? ⟨"output/java/CimClassMap.java"⟩ =
        some (Language.java.indexOf (Config.options {}) []).content ∧
      (Language.java.indexOf (Config.options {}) []).content ≠
        (Language.java.indexOf (Config.options {}) ["Color"]).content := by
  have hworks : (colorWorkspace.files.perform colorWorkspace.place
      (Config.changes {} colorRequest (Profile.all.prune colorModel))).2 = true := by
    decide +kernel
  have hok : (Config.outcome {} colorRequest (Profile.all.prune colorModel)).isOk = true := by
    decide +kernel
  obtain ⟨report, hreport⟩ := exists_of_isOk hok
  have hrun := Config.on_generate {} modelOn_colorRequest
  rw [Workspace.ending_of_performed hworks, hreport] at hrun
  refine ⟨report, _, hrun, ?_, ?_, ?_⟩
  · decide +kernel
  · decide +kernel
  · decide +kernel

end CimSchema
