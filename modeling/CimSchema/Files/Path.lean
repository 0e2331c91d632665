import CimSchema.Text.Segment

/-!
# Paths

A path keeps the way it is spelled. Two spellings are the same path if they have the same steps:
empty pieces and points after the first piece do not count.

## Main definitions

* `Path` - a path as it is spelled, and `Path.steps`, what it says.
* `Path.join`, `Path.parent?`, `Path.chain` - going down and up.
* `Path.le`, `Path.sort`, `Path.sortDistinct` - the order by steps.
-/

namespace CimSchema

/-- A path as it is spelled. -/
structure Path where
  text : String
  deriving DecidableEq, Repr, Inhabited

/-- A step of a path. -/
inductive PathStep where
  /-- To the outermost directory. -/
  | root
  /-- Nowhere; it counts only as the first step. -/
  | here
  /-- To the directory around. -/
  | up
  | named (name : String)
  deriving DecidableEq, Repr

namespace PathStep

/-- The place of the kinds of steps in their order. -/
def rank : PathStep → Nat
  | root => 0
  | here => 1
  | up => 2
  | named _ => 3

/-- Whether a step comes before another one: by kind, and by name. -/
def before : PathStep → PathStep → Bool
  | named a, named b => a < b
  | s, t => s.rank < t.rank

/-- The step that a piece of a path stands for. -/
def ofPiece (piece : String) : PathStep :=
  if piece = "." then here else if piece = ".." then up else named piece

/-- The spelling of a step. -/
def text : PathStep → String
  | root => ""
  | here => "."
  | up => ".."
  | named name => name

end PathStep

/-- Whether steps come before or are the same as other ones. -/
def stepsLe : List PathStep → List PathStep → Bool
  | [], _ => true
  | _ :: _, [] => false
  | s :: ss, t :: ts => s.before t || (s = t && stepsLe ss ts)

namespace Path

/-- Whether a path starts at the outermost directory. -/
def isAbsolute (p : Path) : Bool :=
  p.text.toList.head? = some '/'

/-- Whether a path ends with a slash, and so is that of a directory. -/
def endsWithSlash (p : Path) : Bool :=
  p.text.toList.getLast? = some '/'

/-- The pieces between slashes that are not empty. -/
def pieces (p : Path) : List String :=
  ((Text.splitOn '/' p.text.toList).filter (!·.isEmpty)).map String.ofList

/-- The steps of a path. -/
def steps (p : Path) : List PathStep :=
  if p.isAbsolute then .root :: (p.pieces.map .ofPiece).filter (· ≠ .here)
  else
    match p.pieces.map .ofPiece with
    | [] => []
    | s :: ss => s :: ss.filter (· ≠ .here)

/-- The plainest path with some steps. -/
def ofSteps (ss : List PathStep) : Path :=
  match ss with
  | [.root] => ⟨"/"⟩
  | _ => ⟨"/".intercalate (ss.map PathStep.text)⟩

/-- The path `q` as seen from the directory `p`. -/
def join (p q : Path) : Path :=
  if q.isAbsolute then q
  else if p.text.isEmpty || p.endsWithSlash then ⟨p.text ++ q.text⟩
  else ⟨p.text ++ "/" ++ q.text⟩

/-- The path without its last step, if it has one to leave out. -/
def parent? (p : Path) : Option Path :=
  if p.steps = [] || p.steps = [.root] then none else some (ofSteps p.steps.dropLast)

/-- The directories that a path leads through, from the outermost on, and the path itself. -/
def chain (p : Path) : List Path :=
  (List.range p.steps.length).tail.map (fun n => ofSteps (p.steps.take n)) ++ [p]

/-- The name at the end of a path, if the path ends with one. -/
def fileName? (p : Path) : Option String :=
  match p.steps.getLast? with
  | some (.named name) => some name
  | _ => none

/-- Whether two spellings are the same path. -/
def same (p q : Path) : Bool :=
  p.steps = q.steps

/-- Whether a path comes before or is the same as another one. -/
def le (p q : Path) : Bool :=
  stepsLe p.steps q.steps

/-- The paths in order; spellings of one path keep their order. -/
def sort (ps : List Path) : List Path :=
  ps.mergeSort le

/-- The paths in order, each once, as it is spelled first. -/
def sortDistinct (ps : List Path) : List Path :=
  (sort ps).eraseRepsBy same

end Path

end CimSchema
