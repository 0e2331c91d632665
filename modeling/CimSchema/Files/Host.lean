import CimSchema.Error
import CimSchema.Files.Tree
import CimSchema.Name.Map

/-!
# What a run needs of its surroundings

A run reads and writes files and looks up variables. It does so through one interface, so that the
same definition works on the files of a machine and on a tree of files as a value.

## Main definitions

* `FileOperation` - what may not work, and `Host` - the interface.
* `Workspace` - a tree of files, a place in it and the values of variables, on which a run can work.
-/

namespace CimSchema

/-- What a path leads to. -/
inductive FileKind where
  | file
  | directory
  deriving DecidableEq, Repr

/-- An operation on a file or directory that may not work. -/
inductive FileOperation where
  | read
  | makeDirectories
  | write
  deriving DecidableEq, Repr

/-- Files and variables. Paths are seen from a working directory. An operation that does not work
gives the reason, in the words of the operating system. -/
class Host (m : Type → Type) where
  /-- What a path leads to, if it leads anywhere. -/
  kind? : Path → m (Option FileKind)
  /-- The names in a directory, in any order. -/
  names : Path → m (List String)
  /-- The content of a file that can be read and is text. -/
  read : Path → m (Except String String)
  /-- Makes a directory and those that it is in, where they are missing. -/
  makeDirectories : Path → m (Except String Unit)
  write : Path → String → m (Except String Unit)
  /-- The values of some variables, as far as they are set. -/
  valuesOf : List String → m (NameMap String)

/-- A tree of files, a place in it and the values of variables. -/
structure Workspace where
  files : FileTree := {}
  /-- Where relative paths start. -/
  place : Location := []
  values : NameMap String := .empty
  /-- What the operating system says of an operation that does not work on a path and leaves the
  files as they are given. -/
  reason : FileOperation → FileTree → Path → String := fun _ _ _ => ""

namespace Workspace

/-- What a path leads to, if it leads anywhere. -/
def kind? (w : Workspace) (p : Path) : Option FileKind :=
  match w.files.find w.place p with
  | .ok (_, .directory) => some .directory
  | .ok (_, .file _) => some .file
  | .error _ => none

/-- The names in a directory. -/
def names (w : Workspace) (p : Path) : List String :=
  match w.files.find w.place p with
  | .ok (l, .directory) => w.files.namesAt l
  | _ => []

/-- The content of a file, if it can be read and is text. -/
def read? (w : Workspace) (p : Path) : Option String :=
  match w.files.find w.place p with
  | .ok (_, .file text) => text
  | _ => none

/-- The content of a file, or why it cannot be read or is no text. -/
def read (w : Workspace) (p : Path) : Except String String :=
  match w.read? p with
  | some text => .ok text
  | none => .error (w.reason .read w.files p)

instance : Host (StateM Workspace) where
  kind? p := return (← get).kind? p
  names p := return (← get).names p
  read p := return (← get).read p
  makeDirectories p := modifyGet fun w =>
    match w.files.makeDirectories w.place p with
    | (files, true) => (.ok (), { w with files })
    | (files, false) => (.error (w.reason .makeDirectories files p), { w with files })
  write p text := modifyGet fun w =>
    match w.files.write? w.place p text with
    | some files => (.ok (), { w with files })
    | none => (.error (w.reason .write w.files p), w)
  valuesOf _ := return (← get).values

end Workspace

instance {ε : Type} {m : Type → Type} [Monad m] [Host m] : Host (ExceptT ε m) where
  kind? p := ExceptT.lift (Host.kind? p)
  names p := ExceptT.lift (Host.names p)
  read p := ExceptT.lift (Host.read p)
  makeDirectories p := ExceptT.lift (Host.makeDirectories p)
  write p text := ExceptT.lift (Host.write p text)
  valuesOf names := ExceptT.lift (Host.valuesOf names)

/-- A step of a run, which may stop with an error. -/
abbrev Step (m : Type → Type) := ExceptT Error m

namespace Step

variable {m : Type → Type} [Monad m]

/-- Stops with the error that `toError` makes of a failure. -/
def ofExcept {ε α : Type} (toError : ε → Error) : Except ε α → Step m α
  | .ok a => pure a
  | .error e => throw (toError e)

/-- Stops if a file operation does not work. -/
def requireFile (operation : m (Except String Unit)) : Step m Unit := do
  ofExcept .io (← operation)

end Step

end CimSchema
