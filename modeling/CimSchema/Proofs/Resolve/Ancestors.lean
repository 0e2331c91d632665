import CimSchema.Proofs.Resolve.Records

/-!
# Ancestors

The ancestors of a name are what is reached by following bases from it, in whatever model: one whose
bases run in a cycle, one that lacks some of them, or one in which names come twice. As there is one
way on from each name, a chain that stops before a name that came already has left out nothing. So
"is the same or an ancestor" is a preorder on names, and in a built model, which has no cycles, a
partial order.

## Main definitions

* `Model.ListsAncestors` - a list of the names that a name reaches, nearest first.
* `Model.OrdersNames` - the ancestors of all names, and the order that they make.

## Main results

* `Model.mem_ancestors_iff` - the ancestors of a name are the other names that it reaches.
* `Model.length_ancestors_le` - a name has no more ancestors than the model has classes.
* `Model.isSameOrAncestor_iff_reaches` - one name is another or its ancestor if it is reached from
  it.
* `Model.ordersNames` - ancestors in all models, and in those that are built.
-/

namespace CimSchema

/-- All names of a chain but the last have a base. -/
theorem exists_next_of_mem_dropLast {next : String → Option String} {chain : List String}
    {x : String} (h : chain.IsChain fun name base => next name = some base)
    (hx : x ∈ chain.dropLast) : ∃ base, next x = some base := by
  induction chain with
  | nil => exact absurd hx List.not_mem_nil
  | cons first rest ih =>
    cases rest with
    | nil => exact absurd hx List.not_mem_nil
    | cons base rest =>
      obtain ⟨hbase, hrest⟩ := List.isChain_cons_cons.1 h
      rw [List.dropLast_cons_cons] at hx
      rcases List.mem_cons.1 hx with rfl | hx
      · exact ⟨base, hbase⟩
      · exact ih hrest hx

namespace Model

variable {m : Model} {name ancestor x y : String}

/-! ### What is listed -/

theorem mem_cons_ancestors_iff : x ∈ name :: m.ancestors name ↔ Reaches m.base? name x := by
  rw [cons_ancestors, Bases.mem_trail_iff, get?_bases]

/-- The ancestors of a name are the other names that it reaches. -/
theorem mem_ancestors_iff : x ∈ m.ancestors name ↔ x ≠ name ∧ StrictlyReaches m.base? name x := by
  have hself : name ∉ m.ancestors name := (List.nodup_cons.1 (m.nodup_cons_ancestors name)).1
  have hreach : x ∈ name :: m.ancestors name ↔ x = name ∨ StrictlyReaches m.base? name x :=
    mem_cons_ancestors_iff.trans Relation.reflTransGen_iff_eq_or_transGen
  rw [List.mem_cons] at hreach
  constructor
  · intro hx
    have hne : x ≠ name := fun heq => hself (heq ▸ hx)
    exact ⟨hne, (hreach.1 (.inr hx)).resolve_left hne⟩
  · rintro ⟨hne, hx⟩
    exact (hreach.2 (.inr hx)).resolve_left hne

/-- A name without base is the last one of a chain. -/
theorem getLast?_cons_ancestors (hx : x ∈ name :: m.ancestors name) (hbase : m.base? x = none) :
    (name :: m.ancestors name).getLast? = some x := by
  have hchain := m.isChain_ancestors name
  generalize name :: m.ancestors name = chain at hx hchain ⊢
  have hne : chain ≠ [] := List.ne_nil_of_mem hx
  rw [List.getLast?_eq_some_getLast hne]
  rw [← List.dropLast_concat_getLast hne] at hx
  rcases List.mem_append.1 hx with hx | hx
  · obtain ⟨base, hsome⟩ := exists_next_of_mem_dropLast hchain hx
    rw [hbase] at hsome
    cases hsome
  · rw [List.mem_singleton.1 hx]

/-- A base that the model lacks ends the chain. -/
theorem getLast?_ancestors_of_missing (hx : x ∈ m.ancestors name) (hmissing : x ∉ m.names) :
    (m.ancestors name).getLast? = some x := by
  have hbase : m.base? x = none := by
    rw [base?, get?_eq_none_iff.2 hmissing, Option.bind_none]
  have hlast := getLast?_cons_ancestors (List.mem_cons_of_mem name hx) hbase
  rwa [List.getLast?_cons_of_ne_nil (List.ne_nil_of_mem hx)] at hlast

/-- A name has no more ancestors than the model has classes. -/
theorem length_ancestors_le (m : Model) (name : String) :
    (m.ancestors name).length ≤ m.size := by
  -- All names of the chain but the last have a base, and therefore a record.
  have hnodup := (m.nodup_cons_ancestors name).sublist (List.dropLast_sublist _)
  have hsubset : (name :: m.ancestors name).dropLast ⊆ m.names := by
    intro x hx
    obtain ⟨base, hbase⟩ := exists_next_of_mem_dropLast (m.isChain_ancestors name) hx
    obtain ⟨c, hc, -⟩ := Option.bind_eq_some_iff.1 hbase
    exact mem_names_of_get? hc
  have hlength := (List.subperm_of_subset hnodup hsubset).length_le
  rwa [List.length_dropLast, List.length_cons, Nat.add_sub_cancel, names, List.length_map]
    at hlength

/-- `ancestors` lists the names that `name` reaches by one or more steps to a base, each once and
the nearest first, without `name` itself. -/
structure ListsAncestors (m : Model) (name : String) (ancestors : List String) : Prop where
  nodup : ancestors.Nodup
  not_mem : name ∉ ancestors
  /-- Each name is followed by its base. -/
  follows : (name :: ancestors).IsChain fun name base => m.base? name = some base
  mem_iff : ∀ x, x ∈ ancestors ↔ x ≠ name ∧ StrictlyReaches m.base? name x
  /-- A base that the model lacks ends the chain. -/
  missing_last : ∀ x ∈ ancestors, x ∉ m.names → ancestors.getLast? = some x
  length_le : ancestors.length ≤ m.size

theorem listsAncestors (m : Model) (name : String) :
    m.ListsAncestors name (m.ancestors name) where
  nodup := (List.nodup_cons.1 (m.nodup_cons_ancestors name)).2
  not_mem := (List.nodup_cons.1 (m.nodup_cons_ancestors name)).1
  follows := m.isChain_ancestors name
  mem_iff _ := mem_ancestors_iff
  missing_last _ := getLast?_ancestors_of_missing
  length_le := m.length_ancestors_le name

/-- Of a chain that runs into a cycle, of one on the cycle, and of one with a missing base. -/
example :
    let m := ofList [
      { name := "A", base := some "B", kind := .regular },
      { name := "B", base := some "C", kind := .regular },
      { name := "C", base := some "B", kind := .regular },
      { name := "D", base := some "Missing", kind := .regular }]
    m.ancestors "A" = ["B", "C"] ∧ m.ancestors "C" = ["B"] ∧ m.ancestors "D" = ["Missing"] := by
  cbv

/-! ### The order of names -/

/-- One name is another or its ancestor if it is reached from it. -/
theorem isSameOrAncestor_iff_reaches :
    m.isSameOrAncestor ancestor name = true ↔ Reaches m.base? name ancestor := by
  rw [isSameOrAncestor, Bases.leadsTo_iff, get?_bases]

/-- The ancestors of all names, and the order that they make. -/
structure OrdersNames (m : Model) : Prop where
  lists : ∀ name, m.ListsAncestors name (m.ancestors name)
  isSameOrAncestor_iff : ∀ ancestor name,
    m.isSameOrAncestor ancestor name = true ↔ ancestor = name ∨ ancestor ∈ m.ancestors name
  refl : ∀ x, m.isSameOrAncestor x x = true
  trans : ∀ x y z, m.isSameOrAncestor x y = true → m.isSameOrAncestor y z = true →
    m.isSameOrAncestor x z = true
  /-- In a model that was built. -/
  antisymm : ∀ strictness documents, ofDocuments strictness documents = .ok m →
    ∀ x y, m.isSameOrAncestor x y = true → m.isSameOrAncestor y x = true → x = y

/-- **Ancestors.** The ancestors of a name are the other names that it reaches, nearest first. Names
are preordered by them, and those of a built model are partially ordered. -/
theorem ordersNames (m : Model) : m.OrdersNames where
  lists := m.listsAncestors
  isSameOrAncestor_iff ancestor name := by
    rw [isSameOrAncestor_iff_reaches, ← mem_cons_ancestors_iff, List.mem_cons]
  refl x := isSameOrAncestor_iff_reaches.2 (.refl m.base? x)
  trans x y z hxy hyz := by
    rw [isSameOrAncestor_iff_reaches] at *
    exact Relation.ReflTransGen.trans hyz hxy
  antisymm strictness documents h x y hxy hyx := by
    rw [isSameOrAncestor_iff_reaches] at hxy hyx
    exact Reaches.antisymm (forest_of_ofDocuments h).acyclic hyx hxy

end Model

theorem ordersNames_breakerDocuments :
    ∃ m, Model.ofDocuments .inferring breakerDocuments = .ok m ∧ m.OrdersNames ∧
      "Switch" ∈ m.ancestors "Breaker" ∧ m.isSameOrAncestor "Breaker" "Switch" = false := by
  have hok : (Model.ofDocuments .inferring breakerDocuments).isOk = true := by decide +kernel
  obtain ⟨m, h⟩ := exists_of_isOk hok
  have horder : m.OrdersNames := m.ordersNames
  have hbase : m.base? "Breaker" = some "Switch" := by
    rw [Model.base?_of_ofDocuments h]
    decide
  have hswitch : "Switch" ∈ m.ancestors "Breaker" :=
    ((horder.lists "Breaker").mem_iff "Switch").2 ⟨by decide, .single hbase⟩
  refine ⟨m, h, horder, hswitch, ?_⟩
  rw [Bool.eq_false_iff]
  intro hback
  have habove : m.isSameOrAncestor "Switch" "Breaker" = true :=
    (horder.isSameOrAncestor_iff "Switch" "Breaker").2 (.inr hswitch)
  have heq := horder.antisymm .inferring breakerDocuments h "Switch" "Breaker" habove hback
  exact absurd heq (by decide)

end CimSchema
