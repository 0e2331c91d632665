import CimSchema.Proofs.Resolve.Inverse

/-!
# The two ends of an association

Two associations may name each other as inverse ends. Each end is checked by itself: whether the
other is declared for its target or above, and leads back to its class or above. That both checks
succeed means more, because inheritance has no cycles: each end must lead exactly to the class of the
other.

## Main definitions

* `DeclaresEnd` - what is said of an end by the only property of its `id`.
* `InverseLink.IsResolved` - a link that leads to a member.
* `Model.EndsAgree` - when two ends are both resolved, and what their links are then.

## Main results

* `byId?_of_declaresEnd` - such an end is found by its `id`.
* `Model.inverse_of_declaresEnd` - whether one end is resolved.
* `Model.endsAgree_of_ofDocuments` - both ends are resolved exactly if each leads to the other.
-/

namespace CimSchema

/-- The declarations of the member `key` make the property `p`, which has no data type and whose `id`
no other member has. -/
structure DeclaresEnd (documents : List Document) (key : MemberKey) (p : PropertyDeclaration) :
    Prop where
  merged : (mergedProperty? documents key).map (·.declaration) = some p
  dataType_eq : p.dataType = none
  id_unique : ∀ d ∈ documents, ∀ other ∈ d.properties, other.id = p.id → other.key = key

instance (documents : List Document) (key : MemberKey) (p : PropertyDeclaration) :
    Decidable (DeclaresEnd documents key p) :=
  decidable_of_iff ((mergedProperty? documents key).map (·.declaration) = some p ∧
      p.dataType = none ∧
      ∀ d ∈ documents, ∀ other ∈ d.properties, other.id = p.id → other.key = key)
    ⟨fun ⟨hmerged, hdataType, hid⟩ => ⟨hmerged, hdataType, hid⟩,
      fun h => ⟨h.merged, h.dataType_eq, h.id_unique⟩⟩

/-- Whether a link leads to a member. -/
def InverseLink.IsResolved (link : InverseLink) : Prop :=
  ∃ owner name multiplicity, link = resolved owner name multiplicity

/-- Whether one of two names is strictly below the other where `next` leads up. -/
def StrictlyApart (next : String → Option String) (x y : String) : Prop :=
  StrictlyReaches next x y ∨ StrictlyReaches next y x

/-- When the association `a` of `c` and the association `b` of `d` are both resolved, where `p` and
`q` are their properties: each must lead to the class of the other, and then their links do. If one
leads elsewhere in the inheritance of this class, an end is flagged. -/
structure Model.EndsAgree (m : Model) (c d : ClassRecord) (a b : Association)
    (p q : PropertyDeclaration) : Prop where
  resolved_iff : a.inverse.IsResolved ∧ b.inverse.IsResolved ↔
    a.target = d.name ∧ b.target = c.name
  links_eq : a.inverse.IsResolved ∧ b.inverse.IsResolved →
    a.inverse = .resolved d.name b.name b.multiplicity ∧
      b.inverse = .resolved c.name a.name a.multiplicity
  inconsistent : StrictlyApart m.base? a.target d.name ∨ StrictlyApart m.base? b.target c.name →
    a.inverse = .inconsistent q.id ∨ b.inverse = .inconsistent p.id

theorem InverseLink.not_isResolved_inconsistent (name : String) :
    ¬ (inconsistent name).IsResolved := by
  rintro ⟨_, _, _, h⟩
  cases h

/-- Where nothing is on a cycle, a name is not strictly below or above itself. -/
theorem StrictlyApart.ne {next : String → Option String} {x y : String}
    (hacyclic : ∀ name, ¬ OnCycle next name) (h : StrictlyApart next x y) : x ≠ y := by
  rintro rfl
  rcases h with h | h
  · exact hacyclic x h
  · exact hacyclic x h

variable {strictness : Strictness} {documents : List Document} {m : Model} {c d : ClassRecord}
  {a b : Association} {p q : PropertyDeclaration}

theorem exists_of_mergedProperty? {key : MemberKey} {p : MergedProperty}
    (h : mergedProperty? documents key = some p) :
    ∃ d ∈ documents, ∃ first ∈ d.properties, first.id = p.declaration.id := by
  rw [mergedProperty?_eq] at h
  obtain ⟨e, he, rfl⟩ := Option.map_eq_some_iff.1 h
  obtain ⟨d, hd, first, hfirst, rfl⟩ :=
    mem_signedProperties_iff.1 (List.mem_filter.1 (List.mem_of_head? he)).1
  exact ⟨d, hd, first, hfirst, rfl⟩

/-- A member whose `id` no other has is found by this `id`. -/
theorem byId?_of_declaresEnd {key : MemberKey} (h : DeclaresEnd documents key p) :
    ∃ merged, (PropertyTable.ofDocuments documents).byId? p.id = some merged ∧
      mergedProperty? documents key = some merged ∧ merged.declaration = p := by
  obtain ⟨merged, hmerged, rfl⟩ := Option.map_eq_some_iff.1 h.merged
  refine ⟨merged, ?_, hmerged, rfl⟩
  rw [PropertyTable.byId?_ofDocuments]
  cases hhead : ((signedProperties documents).filter (·.2.id = merged.declaration.id)).head? with
  | none =>
    -- The first declaration of the member has the `id`.
    obtain ⟨d, hd, first, hfirst, hid⟩ := exists_of_mergedProperty? hmerged
    have hmem : (d.keyword, first) ∈
        (signedProperties documents).filter (·.2.id = merged.declaration.id) :=
      List.mem_filter.2 ⟨mem_signedProperties_iff.2 ⟨d, hd, first, hfirst, rfl⟩,
        decide_eq_true hid⟩
    rw [List.head?_eq_none_iff.1 hhead] at hmem
    exact absurd hmem List.not_mem_nil
  | some e =>
    obtain ⟨he, hid⟩ := List.mem_filter.1 (List.mem_of_head? hhead)
    obtain ⟨d, hd, other, hother, rfl⟩ := mem_signedProperties_iff.1 he
    have hkey := h.id_unique d hd other hother (of_decide_eq_true hid)
    rw [Option.bind_some, hkey, hmerged]

namespace Model

/-- An association leads to the range of its property where this has no data type. -/
theorem range_of_declaresEnd (h : ofDocuments strictness documents = .ok m) (hd : d ∈ m.classes)
    (hb : b ∈ d.associations) (hq : DeclaresEnd documents (d.name, b.name) q) :
    q.range = some b.target ∧ .ofToken q.multiplicity = b.multiplicity ∧
      q.domain = d.name ∧ q.name = b.name := by
  obtain ⟨own, hown, -, htype, hmultiplicity⟩ := exists_property_of_association h hd hb
  have hkey := key_of_mergedProperty? hown
  have hmerged := hq.merged
  rw [hown, Option.map_some, Option.some_inj] at hmerged
  rw [hmerged] at htype hmultiplicity hkey
  rw [PropertyDeclaration.valueType, hq.dataType_eq] at htype
  exact ⟨htype, hmultiplicity, congrArg Prod.fst hkey, congrArg Prod.snd hkey⟩

/-- One end is resolved if the other is declared for its target or above, and leads to its class or
above. -/
theorem inverse_of_declaresEnd (h : ofDocuments strictness documents = .ok m)
    (hc : c ∈ m.classes) (ha : a ∈ c.associations) (hd : d ∈ m.classes) (hb : b ∈ d.associations)
    (hp : DeclaresEnd documents (c.name, a.name) p) (hq : DeclaresEnd documents (d.name, b.name) q)
    (hpq : p.inverseRole = some q.id) (hqp : q.inverseRole = some p.id) :
    (Reaches m.base? a.target d.name ∧ Reaches m.base? c.name b.target) ∧
      a.inverse = .resolved d.name b.name b.multiplicity ∨
    ¬ (Reaches m.base? a.target d.name ∧ Reaches m.base? c.name b.target) ∧
      a.inverse = .inconsistent q.id := by
  obtain ⟨own, -, hown, rfl⟩ := byId?_of_declaresEnd hp
  obtain ⟨other, hother, -, rfl⟩ := byId?_of_declaresEnd hq
  obtain ⟨hrange, hmultiplicity, hdomain, hname⟩ := range_of_declaresEnd h hd hb hq
  obtain ⟨-, -, hclass, -⟩ := exists_property_of_association h hc ha
  have hget : (PropertyTable.ofDocuments documents).get? a.declaringClass a.name = some own := by
    rw [hclass, PropertyTable.get?_ofDocuments, hown]
  have hled : a.LedBackBy m.base? own.declaration other.declaration ↔
      Reaches m.base? a.target d.name ∧ Reaches m.base? c.name b.target := by
    constructor
    · rintro ⟨htarget, ⟨range, hrange', hback⟩, -⟩
      obtain rfl := Option.some.inj (hrange.symm.trans hrange')
      rw [hdomain] at htarget
      rw [hclass] at hback
      exact ⟨htarget, hback⟩
    · rintro ⟨htarget, hback⟩
      refine ⟨hdomain.symm ▸ htarget, ⟨b.target, hrange, hclass.symm ▸ hback⟩, fun role hrole => ?_⟩
      exact Option.some.inj (hrole.symm.trans hqp)
  rw [← hled, ← hname, ← hmultiplicity, ← hdomain, inverse_of_mem_associations h hc ha,
    ← get?_bases_unlinked h]
  exact inverseOf_of_byId? _ hget hpq hother

/-- Two ends that lead to the class of each other, with links that do. -/
theorem EndsAgree.of_resolved (hacyclic : ∀ name, ¬ OnCycle m.base? name)
    (hatarget : a.target = d.name) (hbtarget : b.target = c.name)
    (ha : a.inverse = .resolved d.name b.name b.multiplicity)
    (hb : b.inverse = .resolved c.name a.name a.multiplicity) : m.EndsAgree c d a b p q where
  resolved_iff := by
    constructor
    · intro _
      exact ⟨hatarget, hbtarget⟩
    · intro _
      exact ⟨⟨_, _, _, ha⟩, ⟨_, _, _, hb⟩⟩
  links_eq _ := ⟨ha, hb⟩
  inconsistent happart := by
    -- Neither end leads below or above the class that it leads to.
    rcases happart with happart | happart
    · exact absurd hatarget (happart.ne hacyclic)
    · exact absurd hbtarget (happart.ne hacyclic)

/-- Two ends of which one leads elsewhere, and of which one is flagged. -/
theorem EndsAgree.of_inconsistent (htargets : ¬ (a.target = d.name ∧ b.target = c.name))
    (h : a.inverse = .inconsistent q.id ∨ b.inverse = .inconsistent p.id) :
    m.EndsAgree c d a b p q := by
  have hnot : ¬ (a.inverse.IsResolved ∧ b.inverse.IsResolved) := by
    rintro ⟨ha, hb⟩
    rcases h with h | h
    · rw [h] at ha
      exact InverseLink.not_isResolved_inconsistent _ ha
    · rw [h] at hb
      exact InverseLink.not_isResolved_inconsistent _ hb
  exact
    { resolved_iff := iff_of_false hnot htargets
      links_eq := fun hboth => absurd hboth hnot
      inconsistent := fun _ => h }

/-- **Agreement of ends.** Two associations that name each other are both resolved exactly if each
leads to the class of the other. -/
theorem endsAgree_of_ofDocuments (h : ofDocuments strictness documents = .ok m)
    (hc : c ∈ m.classes) (ha : a ∈ c.associations) (hd : d ∈ m.classes) (hb : b ∈ d.associations)
    (hp : DeclaresEnd documents (c.name, a.name) p) (hq : DeclaresEnd documents (d.name, b.name) q)
    (hpq : p.inverseRole = some q.id) (hqp : q.inverseRole = some p.id) :
    m.EndsAgree c d a b p q := by
  have hacyclic : ∀ name, ¬ OnCycle m.base? name := (forest_of_ofDocuments h).acyclic
  -- Each check goes up from one class; both together go up and down, and stay where they are.
  have hboth : (Reaches m.base? a.target d.name ∧ Reaches m.base? c.name b.target) ∧
      (Reaches m.base? b.target c.name ∧ Reaches m.base? d.name a.target) ↔
        a.target = d.name ∧ b.target = c.name := by
    constructor
    · rintro ⟨⟨had, hcb⟩, hbc, hda⟩
      exact ⟨had.antisymm hacyclic hda, hbc.antisymm hacyclic hcb⟩
    · rintro ⟨had, hbc⟩
      rw [had, hbc]
      exact ⟨⟨.refl _ _, .refl _ _⟩, .refl _ _, .refl _ _⟩
  rcases inverse_of_declaresEnd h hc ha hd hb hp hq hpq hqp with ⟨hup, hlink⟩ | ⟨hup, hlink⟩
  · rcases inverse_of_declaresEnd h hd hb hc ha hq hp hqp hpq with ⟨hdown, hlink'⟩ | ⟨hdown, hlink'⟩
    · obtain ⟨hatarget, hbtarget⟩ := hboth.1 ⟨hup, hdown⟩
      exact .of_resolved hacyclic hatarget hbtarget hlink hlink'
    · exact .of_inconsistent (fun htargets => hdown (hboth.2 htargets).2) (.inr hlink')
  · exact .of_inconsistent (fun htargets => hup (hboth.2 htargets).1) (.inl hlink)

end Model

/-- The terminals of a breaker, though a terminal may belong to any equipment. -/
def breakerTerminals : PropertyDeclaration :=
  { id := "Breaker.Terminals", domain := "Breaker", range := some "Terminal"
    inverseRole := some "Terminal.Equipment" }

/-- The equipment that a terminal belongs to. -/
def terminalEquipment : PropertyDeclaration :=
  { id := "Terminal.Equipment", domain := "Terminal", range := some "Equipment"
    multiplicity := some "M:1", inverseRole := some "Breaker.Terminals" }

/-- The terminals of a node. -/
def nodeTerminals : PropertyDeclaration :=
  { id := "Node.Terminals", domain := "Node", range := some "Terminal"
    multiplicity := some "M:0..n", inverseRole := some "Terminal.Node" }

/-- The node that a terminal is connected to. -/
def terminalNode : PropertyDeclaration :=
  { id := "Terminal.Node", domain := "Terminal", range := some "Node"
    inverseRole := some "Node.Terminals" }

/-- A file about terminals, at breakers and at nodes. -/
def terminalDocument : Document where
  source := "terminals.rdf"
  declarations := [
    .cls { id := "Equipment" },
    .cls { id := "Breaker", superClass := some "Equipment" },
    .cls { id := "Terminal" },
    .cls { id := "Node" },
    .property breakerTerminals,
    .property terminalEquipment,
    .property nodeTerminals,
    .property terminalNode]

/-- An end of an association in this file. -/
def terminalEnd (owner name target : String) (multiplicity : Multiplicity) (inverse : InverseLink) :
    Association where
  name := name
  declaringClass := owner
  target := target
  multiplicity := multiplicity
  inverse := inverse
  used := true
  documentation := none
  origins := []

/-- The ends at a node agree. Of those at a breaker only one is resolved, because a terminal may
belong to any equipment. -/
theorem endsAgree_terminalDocument :
    ∃ m breaker terminal node a b x y,
      Model.ofDocuments .inferring [terminalDocument] = .ok m ∧
      m.get? "Breaker" = some breaker ∧ m.get? "Terminal" = some terminal ∧
      m.get? "Node" = some node ∧
      breaker.associations = [a] ∧ terminal.associations = [b, x] ∧ node.associations = [y] ∧
      a.inverse = .resolved "Terminal" "Equipment" .single ∧
      b.inverse = .inconsistent "Breaker.Terminals" ∧
      x.inverse = .resolved "Node" "Terminals" .list ∧
      y.inverse = .resolved "Terminal" "Node" .optional ∧
      DeclaresEnd [terminalDocument] ("Breaker", "Terminals") breakerTerminals ∧
      DeclaresEnd [terminalDocument] ("Terminal", "Equipment") terminalEquipment ∧
      DeclaresEnd [terminalDocument] ("Terminal", "Node") terminalNode ∧
      DeclaresEnd [terminalDocument] ("Node", "Terminals") nodeTerminals ∧
      m.EndsAgree breaker terminal a b breakerTerminals terminalEquipment ∧
      m.EndsAgree terminal node x y terminalNode nodeTerminals := by
  have hok : (Model.ofDocuments .inferring [terminalDocument]).isOk = true := by decide +kernel
  obtain ⟨m, h⟩ := exists_of_isOk hok
  have hbreaker : (builtRecord .inferring [terminalDocument] "Breaker").associations =
      [terminalEnd "Breaker" "Terminals" "Terminal" .optional
        (.resolved "Terminal" "Equipment" .single)] := by
    rw [builtRecord, Model.bases_unlinked]
    decide +kernel
  have hterminal : (builtRecord .inferring [terminalDocument] "Terminal").associations =
      [terminalEnd "Terminal" "Equipment" "Equipment" .single (.inconsistent "Breaker.Terminals"),
        terminalEnd "Terminal" "Node" "Node" .optional (.resolved "Node" "Terminals" .list)] := by
    rw [builtRecord, Model.bases_unlinked]
    decide +kernel
  have hnode : (builtRecord .inferring [terminalDocument] "Node").associations =
      [terminalEnd "Node" "Terminals" "Terminal" .list
        (.resolved "Terminal" "Node" .optional)] := by
    rw [builtRecord, Model.bases_unlinked]
    decide +kernel
  have hget (name : String) (hname : name ∈ knownClasses true [terminalDocument]) :
      m.get? name = some (builtRecord .inferring [terminalDocument] name) :=
    Model.get?_of_ofDocuments h hname
  have hc := hget "Breaker" (by decide)
  have hd := hget "Terminal" (by decide)
  have he := hget "Node" (by decide)
  have hp : DeclaresEnd [terminalDocument] ("Breaker", "Terminals") breakerTerminals := by decide
  have hq : DeclaresEnd [terminalDocument] ("Terminal", "Equipment") terminalEquipment := by decide
  have hx : DeclaresEnd [terminalDocument] ("Terminal", "Node") terminalNode := by decide
  have hy : DeclaresEnd [terminalDocument] ("Node", "Terminals") nodeTerminals := by decide
  refine ⟨m, _, _, _, _, _, _, _, h, hc, hd, he, hbreaker, hterminal, hnode, rfl, rfl, rfl, rfl,
    hp, hq, hx, hy, ?_, ?_⟩
  · exact Model.endsAgree_of_ofDocuments h (Model.mem_classes_of_get? hc) (by simp [hbreaker])
      (Model.mem_classes_of_get? hd) (by simp [hterminal]) hp hq rfl rfl
  · exact Model.endsAgree_of_ofDocuments h (Model.mem_classes_of_get? hd) (by simp [hterminal])
      (Model.mem_classes_of_get? he) (by simp [hnode]) hx hy rfl rfl

end CimSchema
