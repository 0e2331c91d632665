import CimSchema.Generation.Run
import CimSchema.Proofs.Files.Changes

/-!
# Steps of a run on a workspace

A step of a run works on a workspace and may stop with an error. The steps that write make certain
changes of the files, one after the other, and stop at the first that does not work.

## Main definitions

* `Step.on` - the outcome of a step on a workspace.
* `Workspace.ending` - what a step ends with that makes certain changes of the files.
* `Step.Performs` - a step that makes certain changes and nothing else.

## Main results

* `Step.on_bind` - the outcome of two steps.
* `Step.Performs.bind`, `Step.Performs.mapM` - steps after each other make their changes in order.
-/

namespace CimSchema

/-- The outcome of a step on a workspace. -/
def Step.on {α : Type} (x : Step (StateM Workspace) α) (w : Workspace) :
    Except Error α × Workspace :=
  (x.run.run w).run

variable {α β : Type}

/-- What two steps do that stop at the first error, of whatever type. -/
theorem run_bind {ε : Type} (x : ExceptT ε (StateM Workspace) α)
    (f : α → ExceptT ε (StateM Workspace) β) (w : Workspace) :
    ((x >>= f).run.run w).run =
      match (x.run.run w).run with
      | (.ok a, w₁) => ((f a).run.run w₁).run
      | (.error e, w₁) => (.error e, w₁) := by
  rw [ExceptT.run_bind, StateT.run_bind]
  rcases x.run.run w with ⟨_ | a, w₁⟩ <;> rfl

namespace Step

theorem on_bind (x : Step (StateM Workspace) α) (f : α → Step (StateM Workspace) β)
    (w : Workspace) :
    (x >>= f).on w =
      match x.on w with
      | (.ok a, w₁) => (f a).on w₁
      | (.error e, w₁) => (.error e, w₁) := by
  rw [on, run_bind, on]
  rcases (x.run.run w).run with ⟨_ | a, w₁⟩ <;> rfl

@[simp]
theorem on_pure (a : α) (w : Workspace) : (pure a : Step (StateM Workspace) α).on w = (.ok a, w) :=
  rfl

theorem on_adapt {ε : Type} (toError : ε → Error) (x : ExceptT ε (StateM Workspace) α)
    (w : Workspace) :
    on (x.adapt toError) w =
      ((x.run.run w).run.1.mapError toError, (x.run.run w).run.2) :=
  rfl

theorem on_lift (operation : StateM Workspace α) (w : Workspace) :
    (liftM operation : Step (StateM Workspace) α).on w =
      (.ok (operation.run w).run.1, (operation.run w).run.2) :=
  rfl

end Step

/-! ### Steps that make changes -/

theorem run_makeDirectories (p : Path) (w : Workspace) :
    ((Host.makeDirectories p : StateM Workspace (Except String Unit)).run w).run =
      match w.files.makeDirectories w.place p with
      | (files, true) => (.ok (), { w with files })
      | (files, false) => (.error (w.reason .makeDirectories files p), { w with files }) :=
  rfl

theorem run_write (p : Path) (text : String) (w : Workspace) :
    ((Host.write p text : StateM Workspace (Except String Unit)).run w).run =
      match w.files.write? w.place p text with
      | some files => (.ok (), { w with files })
      | none => (.error (w.reason .write w.files p), w) :=
  rfl

/-- What a step ends with that makes some changes: if one of them does not work, the reason for the
first that does not, and else `outcome`. -/
def Workspace.ending (w : Workspace) (cs : List FileChange) (outcome : Except Error α) :
    Except Error α :=
  match w.files.failing? w.place cs with
  | some c => .error (.io (w.reason c.operation (w.files.perform w.place cs).1 c.path))
  | none => outcome

namespace Workspace

variable {w : Workspace} {cs : List FileChange} {outcome : Except Error α}

theorem ending_of_performed (h : (w.files.perform w.place cs).2 = true) :
    w.ending cs outcome = outcome := by
  rw [ending, FileTree.failing?_eq_none_iff.2 h]

end Workspace

/-- A step makes some changes, stops at the first that does not work, and else gives `a`. -/
def Step.Performs (x : Step (StateM Workspace) α) (cs : List FileChange) (a : α) : Prop :=
  ∀ w : Workspace, x.on w =
    (w.ending cs (.ok a), { w with files := (w.files.perform w.place cs).1 })

namespace Step.Performs

theorem pure (a : α) : Performs (pure a) [] a :=
  fun _ => rfl

theorem bind {x : Step (StateM Workspace) α} {f : α → Step (StateM Workspace) β}
    {cs ds : List FileChange} {a : α} {b : β} (hx : Performs x cs a) (hf : Performs (f a) ds b) :
    Performs (x >>= f) (cs ++ ds) b := by
  intro w
  rw [on_bind, hx, Workspace.ending, Workspace.ending, FileTree.failing?_append,
    FileTree.perform_append]
  have hworks := @FileTree.failing?_eq_none_iff w.files w.place cs
  rcases hperform : w.files.perform w.place cs with ⟨files, _ | _⟩
  · rw [hperform] at hworks
    obtain ⟨c, hc⟩ := Option.ne_none_iff_exists'.1 (mt hworks.1 Bool.false_ne_true)
    rw [hc]
    rfl
  · rw [hworks.2 (by rw [hperform])]
    exact hf { w with files }

theorem mapM {f : α → Step (StateM Workspace) β} {cs : α → List FileChange} {g : α → β}
    (h : ∀ x, Performs (f x) (cs x) (g x)) (xs : List α) :
    Performs (xs.mapM f) (xs.flatMap cs) (xs.map g) := by
  induction xs with
  | nil => exact pure []
  | cons x xs ih =>
    rw [List.mapM_cons, List.flatMap_cons]
    refine (h x).bind ?_
    have hrest := ih.bind (f := fun ys => Pure.pure (g x :: ys)) (pure _)
    rwa [List.append_nil] at hrest

theorem makeDirectories (p : Path) :
    Performs (requireFile (Host.makeDirectories p)) [.directories p] () := by
  intro w
  rw [requireFile, on_bind, on_lift, run_makeDirectories, Workspace.ending, FileTree.failing?,
    FileTree.perform, FileTree.change]
  rcases w.files.makeDirectories w.place p with ⟨files, _ | _⟩ <;> rfl

theorem write (p : Path) (text : String) :
    Performs (requireFile (Host.write p text)) [.file p text] () := by
  intro w
  rw [requireFile, on_bind, on_lift, run_write, Workspace.ending, FileTree.failing?,
    FileTree.perform, FileTree.change]
  rcases w.files.write? w.place p text with _ | files <;> rfl

theorem writeFile (p : Path) (text : String) :
    Performs (writeFile p text) (FileChange.writing p text) () := by
  rw [CimSchema.writeFile, FileChange.writing]
  refine bind (a := ()) ?_ (write p text)
  rw [makeAround]
  cases p.parent? with
  | none => exact pure ()
  | some around => exact makeDirectories around

theorem writeSource (directory : Path) (f : SourceFile) :
    Performs (writeSource directory f)
      (FileChange.writing (directory.join ⟨f.filename⟩) f.content)
      (directory.join ⟨f.filename⟩) := by
  have h := (writeFile (directory.join ⟨f.filename⟩) f.content).bind
    (f := fun _ => Pure.pure (directory.join ⟨f.filename⟩)) (pure _)
  rwa [List.append_nil] at h

theorem writeDump (r : Request) (m : Model) :
    Performs (r.writeDump m)
      (r.dump.toList.flatMap fun p => FileChange.writing p m.toJson.pretty) () := by
  rw [Request.writeDump]
  cases r.dump with
  | none => exact pure ()
  | some p =>
    rw [Option.toList_some, List.flatMap_singleton]
    exact writeFile p m.toJson.pretty

end Step.Performs

end CimSchema
