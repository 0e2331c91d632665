import CimSchema.Config.Basic
import CimSchema.Files.Host
import CimSchema.Files.Pattern

/-!
# Searching files by patterns

A pattern is matched step by step from the working directory or the outermost one. A part without
special characters names one file or directory, which is only looked up; other parts are matched with
the names in a directory.

## Main definitions

* `PathPattern.search` - the paths that a pattern matches.
* `schemaFiles` - the files that some patterns match.
-/

namespace CimSchema

variable {m : Type → Type} [Monad m] [Host m]

/-- Whether a path leads to a directory. -/
def isDirectory (p : Path) : m Bool :=
  return (← Host.kind? p) = some .directory

/-- Whether a path leads to a file. -/
def isFile (p : Path) : m Bool :=
  return (← Host.kind? p) = some .file

namespace Path

/-- The working directory. -/
def here : Path := ⟨"."⟩

/-- A name as seen from a directory; the working directory is left out. -/
def child (p : Path) (name : String) : Path :=
  if p.same here then ⟨name⟩ else p.join ⟨name⟩

end Path

namespace PathPattern

/-- Whether something is there that a name leads to from a directory. A point and two points do so
from every directory. -/
def leadsOn (p : Path) (name : String) : m Bool := do
  if name = "." || name = ".." then isDirectory p
  else return (← Host.kind? (p.child name)).isSome

/-- Whether a pattern may stand for the directory itself or the one around it: it starts with a
point. -/
def startsWithPoint : PathPart → Bool
  | .name (.one c :: _) => c = '.'
  | _ => false

/-- Whether a part is a pattern that matches a name. -/
def PathPart.matchesName (name : String) : PathPart → Bool
  | .name pattern => pattern.matchesName name
  | .directories => false

/-- The parts without those at the start that stand for any number of directories. -/
def skipDirectories (parts : List PathPart) : List PathPart :=
  parts.dropWhile (· = .directories)

mutual

/-- The paths that parts of a pattern match from a directory on. The number bounds the steps. -/
def below (parts : List PathPart) (p : Path) : Nat → m (List Path)
  | 0 => return []
  | fuel + 1 => do
    match parts with
    | [] => return []
    | part :: rest =>
      let goOn (q : Path) : m (List Path) :=
        if rest.isEmpty then return [q] else below rest q fuel
      let literal? := match part with
        | .name pattern => pattern.literal?
        | .directories => none
      match literal? with
      | some name => if ← leadsOn p name then goOn (p.child name) else return []
      | none =>
        if !(← isDirectory p) then return []
        else
          let points := if startsWithPoint part then
              [".", ".."].filter (PathPart.matchesName · part)
            else []
          let found ← points.mapM fun name => goOn (p.join ⟨name⟩)
          let names ← Host.names p
          let deeper ← names.mapM fun name => startingAt parts (p.child name) name fuel
          return found.flatten ++ deeper.flatten

/-- The paths that parts of a pattern match, where the first one has to match the path `p` with the
name `name`. -/
def startingAt (parts : List PathPart) (p : Path) (name : String) : Nat → m (List Path)
  | 0 => return []
  | fuel + 1 => do
    let rest := skipDirectories parts
    let isDeep := rest.length < parts.length
    let isDirectory ← isDirectory p
    let deeper ← if isDeep && isDirectory then below (.directories :: rest) p fuel else pure []
    match rest with
    | [] => return if isDirectory then p :: deeper else deeper
    | part :: rest =>
      if !PathPart.matchesName name part then return deeper
      else if rest.isEmpty then return p :: deeper
      else return (← below rest p fuel) ++ deeper

end

/-- The greatest number of steps of a search. A longer path cannot be followed. -/
def longestSearch (pattern : PathPattern) : Nat :=
  2 * (FileTree.longestPath + pattern.parts.length)

/-- The paths that a pattern matches. -/
def search (pattern : PathPattern) : m (List Path) := do
  let start := if pattern.isAbsolute then ⟨"/"⟩ else Path.here
  let found ← below pattern.parts start pattern.longestSearch
  if pattern.onlyDirectories then found.filterM isDirectory else return found

end PathPattern

/-- The files that a pattern matches. -/
def matchingFiles (text : String) : Step m (List Path) := do
  let some pattern := PathPattern.ofText? text | throw (ConfigFault.invalidPattern text).toError
  (← pattern.search).filterM fun p => isFile p

/-- The files that some patterns match, in order and each once. There has to be one. -/
def schemaFiles (patterns : List String) : Step m (List Path) := do
  let found := Path.sortDistinct (← patterns.mapM matchingFiles).flatten
  if found.isEmpty then throw (ConfigFault.noMatch patterns).toError else return found

end CimSchema
