import CimSchema.Files.Path

/-!
# Trees of files

## Main definitions

* `FileTree` - the files and directories that there are.
* `FileTree.find`, `FileTree.slot` - where a path leads, seen from a directory.
* `FileTree.makeDirectories`, `FileTree.write` - changes.

## Main results

* `FileTree.get?_put` - what is found after an entry is put into its place.
-/

namespace CimSchema

/-- Where a file or directory is: the names on the way to it from the outermost directory. -/
abbrev Location := List String

/-- What is at a location. -/
inductive Entry where
  | directory
  /-- A file, and its content if that is text. -/
  | file (text : Option String)
  deriving DecidableEq, Repr

/-- The files and directories that there are. The outermost directory is always there. -/
structure FileTree where
  entries : List (Location × Entry) := []
  deriving Repr, Inhabited

/-- Why a path does not lead anywhere. -/
inductive PathFault where
  /-- Nothing is there. -/
  | missing
  /-- Something is in the way, or the path makes no sense. -/
  | refused
  deriving DecidableEq, Repr

namespace FileTree

/-- What is at a location. -/
def get? (t : FileTree) (l : Location) : Option Entry :=
  if l = [] then some .directory else t.entries.lookup l

/-- Puts an entry into its place, in the place of one at the same location if there is one. -/
def putList (l : Location) (e : Entry) : List (Location × Entry) → List (Location × Entry)
  | [] => [(l, e)]
  | (k, d) :: rest => if l = k then (l, e) :: rest else (k, d) :: putList l e rest

/-- The tree with an entry at a location. -/
def put (t : FileTree) (l : Location) (e : Entry) : FileTree :=
  ⟨putList l e t.entries⟩

theorem lookup_putList (l k : Location) (e : Entry) (rest : List (Location × Entry)) :
    (putList l e rest).lookup k = if k = l then some e else rest.lookup k := by
  induction rest with
  | nil =>
    rw [putList, List.lookup_cons, List.lookup_nil]
    by_cases h : k = l
    · simp [h]
    · rw [beq_eq_false_iff_ne.2 h, if_neg h]
  | cons f rest ih =>
    obtain ⟨j, d⟩ := f
    rw [putList]
    grind

/-- An entry is found where it was put, and nothing else changes. -/
theorem get?_put (t : FileTree) (l k : Location) (e : Entry) (h : l ≠ []) :
    (t.put l e).get? k = if k = l then some e else t.get? k := by
  unfold get? put
  by_cases hk : k = []
  · rw [if_pos hk, if_pos hk, if_neg (fun heq : k = l => h (heq ▸ hk))]
  · rw [if_neg hk, if_neg hk, lookup_putList]

/-- Whether there is a directory at a location. -/
def isDirectoryAt (t : FileTree) (l : Location) : Bool :=
  t.get? l = some .directory

/-- The names in the directory at a location. -/
def namesAt (t : FileTree) (l : Location) : List String :=
  t.entries.filterMap fun (k, _) => if k.dropLast = l then k.getLast? else none

/-- The greatest number of bytes of a name. -/
def longestName : Nat := 255

/-- The greatest number of bytes of a path. -/
def longestPath : Nat := 4095

/-- Whether something can have a name. -/
def isName (name : String) : Bool :=
  name.utf8ByteSize ≤ longestName

/-- Whether a path can be followed at all. -/
def isPath (p : Path) : Bool :=
  p.text.utf8ByteSize ≤ longestPath && !p.text.toList.contains '\x00'

/-- Where a piece of a path leads from a directory. -/
def follow (t : FileTree) (l : Location) (piece : String) : Except PathFault Location :=
  if !t.isDirectoryAt l then .error .refused
  else if piece = "." then .ok l
  else if piece = ".." then .ok l.dropLast
  else if !isName piece then .error .refused
  else if (t.get? (l ++ [piece])).isSome then .ok (l ++ [piece])
  else .error .missing

/-- Where a path starts, seen from the directory at `l`. -/
def start (l : Location) (p : Path) : Location :=
  if p.isAbsolute then [] else l

/-- What a path leads to, seen from the directory at `l`. -/
def find (t : FileTree) (l : Location) (p : Path) : Except PathFault (Location × Entry) :=
  if p.text.isEmpty then .error .missing
  else if !isPath p then .error .refused
  else
    match p.pieces.foldlM t.follow (start l p) with
    | .error fault => .error fault
    | .ok k =>
      match t.get? k with
      | none => .error .missing
      | some .directory => .ok (k, .directory)
      | some (.file text) => if p.endsWithSlash then .error .refused else .ok (k, .file text)

/-- The location that a path names for something new, seen from the directory at `l`. The
directory around has to be there. -/
def slot (t : FileTree) (l : Location) (p : Path) : Except PathFault Location :=
  if p.text.isEmpty then .error .missing
  else if !isPath p then .error .refused
  else
    match p.pieces.getLast? with
    | none => .error .refused
    | some name =>
      match p.pieces.dropLast.foldlM t.follow (start l p) with
      | .error fault => .error fault
      | .ok k =>
        if t.isDirectoryAt k && name ≠ "." && name ≠ ".." && isName name then .ok (k ++ [name])
        else .error .refused

/-- Whether a path leads to a directory. -/
def isDirectory (t : FileTree) (l : Location) (p : Path) : Bool :=
  match t.find l p with
  | .ok (_, .directory) => true
  | _ => false

/-- The tree with one directory more, or nothing if there is something already or the directory
around is missing. -/
def makeDirectory? (t : FileTree) (l : Location) (p : Path) : Option FileTree :=
  match t.slot l p with
  | .ok k => if (t.get? k).isSome then none else some (t.put k .directory)
  | .error _ => none

/-- Makes the directories that are missing, one after the other, and tells whether all are there. -/
def makeEach (t : FileTree) (l : Location) : List Path → FileTree × Bool
  | [] => (t, true)
  | p :: ps =>
    match t.makeDirectory? l p with
    | some t' => t'.makeEach l ps
    | none => if t.isDirectory l p then t.makeEach l ps else (t, false)

/-- Makes a directory and those that it is in, where they are missing, and tells whether it is
there. -/
def makeDirectories (t : FileTree) (l : Location) (p : Path) : FileTree × Bool :=
  if p.text.isEmpty then (t, true) else t.makeEach l p.chain

/-- The tree with a file written, or nothing if it cannot be. -/
def write? (t : FileTree) (l : Location) (p : Path) (text : String) : Option FileTree :=
  match t.slot l p with
  | .ok k =>
    if p.endsWithSlash || t.isDirectoryAt k then none else some (t.put k (.file (some text)))
  | .error _ => none

end FileTree

end CimSchema
