import CimSchema.Config.Text
import CimSchema.Files.Host

/-!
# Configurations and profiles in files

## Main definitions

* `Config.load` - the configuration in a file.
* `Profile.ofIdentifier` - the profile that a user means.
-/

namespace CimSchema

variable {m : Type → Type} [Monad m] [Host m]

/-- The value that a file says, where `ofText` makes values of text. -/
def loadText {α : Type} (ofText : (String → Option String) → String → Except ConfigFault α)
    (p : Path) : Step m α := do
  let text ← Step.ofExcept .io (← Host.read p)
  let values ← Host.valuesOf (variableNames text)
  Step.ofExcept (·.inFile p) (ofText values.get? text)

/-- The configuration in a file, whose settings have to be in range. -/
def Config.load (p : Path) : Step m Config := do
  let c ← loadText Config.ofText p
  Step.ofExcept ConfigFault.toError c.check
  return c

namespace Profile

/-- The profile in a file, which has to select something. -/
def load (p : Path) : Step m Profile := do
  let profile ← loadText Profile.ofText p
  Step.ofExcept ProfileFault.toError profile.check
  return profile

/-- The profile that a word names if it names no file: one of the configuration, the whole schema, or
what the files with that keyword declare. -/
def ofWord (c : Config) (word : String) : Except ProfileFault Profile :=
  match c.profiles.get? word with
  | some p => .ok p
  | none =>
    if Text.sameAscii word "all" then .ok all
    else if Text.isBlankText word then .error .emptyIdentifier
    else .ok { ofOrigins word [word] with version := c.version }

/-- The profile that a user means: the one in a file of that name, or else what the word names. -/
def ofIdentifier (c : Config) (identifier : String) : Step m Profile := do
  if (← Host.kind? (m := m) ⟨identifier⟩) = some .file then load ⟨identifier⟩
  else Step.ofExcept ProfileFault.toError (ofWord c identifier)

end Profile

end CimSchema
