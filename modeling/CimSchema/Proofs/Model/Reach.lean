import CimSchema.Proofs.Model.Cycles
import Mathlib.Logic.Relation

/-!
# Where bases lead

Following the bases from a name leads along its trail, and nowhere else. As no name has two bases,
there is one way on from each name: what a name on a cycle leads to leads back to it.

## Main definitions

* `Reaches`, `StrictlyReaches` - following a partial function leads from one name to another.
* `OnCycle` - it leads from a name back to it.

## Main results

* `Bases.mem_trail_iff` - the trail of a name holds what the name leads to.
* `OnCycle.reaches_back` - what a name on a cycle leads to leads back to it.
* `CanonicalCycle.mem_iff_reaches` - a cycle holds what one of its names leads to.
* `CanonicalCycle.unique` - a name is on one cycle only.
-/

namespace CimSchema

/-- Following `next`, in any number of steps, leads from one name to another. -/
def Reaches (next : String → Option String) : String → String → Prop :=
  Relation.ReflTransGen fun name base => next name = some base

/-- Following `next`, in at least one step, leads from one name to another. -/
def StrictlyReaches (next : String → Option String) : String → String → Prop :=
  Relation.TransGen fun name base => next name = some base

/-- Following `next`, in at least one step, leads from `name` back to it. -/
def OnCycle (next : String → Option String) (name : String) : Prop :=
  StrictlyReaches next name name

variable {next : String → Option String} {name x y base : String}

theorem Reaches.refl (next : String → Option String) (name : String) : Reaches next name name :=
  Relation.ReflTransGen.refl

theorem Reaches.step (h : Reaches next x y) (hy : next y = some base) : Reaches next x base :=
  Relation.ReflTransGen.tail h hy

/-- A way that leads on starts with the one step that there is. -/
theorem Reaches.eq_or_of_next (h : Reaches next x y) (hx : next x = some base) :
    x = y ∨ Reaches next base y := by
  rcases Relation.ReflTransGen.cases_head h with heq | ⟨other, hother, h⟩
  · exact .inl heq
  · obtain rfl : base = other := Option.some.inj (hx.symm.trans hother)
    exact .inr h

theorem onCycle_iff : OnCycle next name ↔ ∃ base, next name = some base ∧ Reaches next base name :=
  Relation.TransGen.head'_iff

/-- What a name on a cycle leads to leads back to it. -/
theorem OnCycle.reaches_back (h : OnCycle next x) (hxy : Reaches next x y) : Reaches next y x := by
  -- On the way to `y`: one step on, the way back is shorter by this step, or starts at `x` anew.
  induction hxy with
  | refl => exact .refl next x
  | tail _ hstep ih =>
    rcases ih.eq_or_of_next hstep with rfl | hback
    · obtain ⟨base, hbase, hback⟩ := onCycle_iff.1 h
      obtain rfl := Option.some.inj (hstep.symm.trans hbase)
      exact hback
    · exact hback

/-- What a name on a cycle leads to is on a cycle. -/
theorem OnCycle.of_reaches (h : OnCycle next x) (hxy : Reaches next x y) : OnCycle next y := by
  obtain ⟨base, hbase, hback⟩ := onCycle_iff.1 h
  -- From `y` back to `x`, and from there along the cycle to `y`.
  rcases Relation.ReflTransGen.cases_head (h.reaches_back hxy) with rfl | ⟨other, hother, hyx⟩
  · exact h
  · exact onCycle_iff.2 ⟨other, hother, Relation.ReflTransGen.trans hyx hxy⟩

/-- Where nothing is on a cycle, two names that lead to each other are the same. -/
theorem Reaches.antisymm (hacyclic : ∀ name, ¬ OnCycle next name) (hxy : Reaches next x y)
    (hyx : Reaches next y x) : x = y := by
  rcases Relation.ReflTransGen.cases_head hxy with heq | ⟨base, hbase, hxy⟩
  · exact heq
  · exact absurd (onCycle_iff.2 ⟨base, hbase, Relation.ReflTransGen.trans hxy hyx⟩) (hacyclic x)

/-! ### Chains and cycles -/

theorem reaches_of_isChain {chain : List String}
    (h : (name :: chain).IsChain fun name base => next name = some base)
    (hx : x ∈ name :: chain) : Reaches next name x := by
  rcases List.mem_cons.1 hx with rfl | hx
  · exact .refl next x
  · exact h.cons_induction (Reaches next name) chain (fun _ _ hstep h => h.step hstep)
      (.refl next name) x hx

/-- A name on a chain leads to the last one. -/
theorem reaches_getLast {chain : List String} {last : String}
    (h : chain.IsChain fun name base => next name = some base)
    (hlast : chain.getLast? = some last) (hx : x ∈ chain) : Reaches next x last := by
  obtain ⟨before, after, rfl⟩ := List.append_of_mem hx
  rw [List.getLast?_append_of_ne_nil _ (List.cons_ne_nil x after)] at hlast
  exact reaches_of_isChain h.right_of_append (List.mem_of_getLast? hlast)

/-- There is one way on to a name that does not come on the way. -/
theorem eq_of_isChain {rest rest' : List String}
    (h : (x :: rest ++ [y]).IsChain fun name base => next name = some base)
    (h' : (x :: rest' ++ [y]).IsChain fun name base => next name = some base)
    (hy : y ∉ rest) (hy' : y ∉ rest') : rest = rest' := by
  induction rest generalizing x rest' with
  | nil =>
    cases rest' with
    | nil => rfl
    | cons base' rest' =>
      obtain ⟨hstep, -⟩ := List.isChain_cons_cons.1 h
      obtain ⟨hstep', -⟩ := List.isChain_cons_cons.1 h'
      obtain rfl := Option.some.inj (hstep.symm.trans hstep')
      exact absurd List.mem_cons_self hy'
  | cons base rest ih =>
    obtain ⟨hstep, hrest⟩ := List.isChain_cons_cons.1 h
    cases rest' with
    | nil =>
      obtain ⟨hstep', -⟩ := List.isChain_cons_cons.1 h'
      obtain rfl := Option.some.inj (hstep'.symm.trans hstep)
      exact absurd List.mem_cons_self hy
    | cons base' rest' =>
      obtain ⟨hstep', hrest'⟩ := List.isChain_cons_cons.1 h'
      obtain rfl := Option.some.inj (hstep.symm.trans hstep')
      exact congrArg (base :: ·) (ih hrest hrest' (List.not_mem_of_not_mem_cons hy)
        (List.not_mem_of_not_mem_cons hy'))

namespace CanonicalCycle

variable {cycle cycle' : List String}

/-- A name of a cycle has a base, and this is on the cycle. -/
theorem exists_next (h : CanonicalCycle next cycle) (hx : x ∈ cycle) :
    ∃ base ∈ cycle, next x = some base := by
  obtain ⟨first, rest, rfl, -, hchain, -⟩ := h
  -- The name that stands at the end stands at the start, too.
  have hx : x ∈ first :: rest := by
    rcases List.mem_append.1 hx with hx | hx
    · exact hx
    · rw [List.mem_singleton.1 hx]
      exact List.mem_cons_self
  obtain ⟨before, after, hsplit⟩ := List.append_of_mem hx
  obtain ⟨base, hbase⟩ : ∃ base, (after ++ [first]).head? = some base := by
    cases after <;> simp
  rw [hsplit, List.append_assoc] at hchain ⊢
  refine ⟨base, ?_, (List.isChain_append.1 hchain).2.1.rel_head? hbase⟩
  exact List.mem_append_right before (List.mem_cons_of_mem x (List.mem_of_head? hbase))

/-- A cycle holds what one of its names leads to. -/
theorem mem_iff_reaches (h : CanonicalCycle next cycle) (hx : x ∈ cycle) :
    y ∈ cycle ↔ Reaches next x y := by
  constructor
  · obtain ⟨first, rest, rfl, -, hchain, -⟩ := h
    intro hy
    -- From `x` to the end of the cycle, which is its first name, and from there to `y`.
    have hback : Reaches next x first := reaches_getLast hchain List.getLast?_concat hx
    exact Relation.ReflTransGen.trans hback (reaches_of_isChain hchain hy)
  · intro hreach
    induction hreach with
    | refl => exact hx
    | tail _ hstep ih =>
      obtain ⟨base, hmem, hbase⟩ := h.exists_next ih
      obtain rfl := Option.some.inj (hbase.symm.trans hstep)
      exact hmem

theorem onCycle (h : CanonicalCycle next cycle) (hx : x ∈ cycle) : OnCycle next x := by
  obtain ⟨base, hmem, hbase⟩ := h.exists_next hx
  exact onCycle_iff.2 ⟨base, hbase, (h.mem_iff_reaches hmem).1 hx⟩

/-- A name is on one cycle only. -/
theorem unique (h : CanonicalCycle next cycle) (h' : CanonicalCycle next cycle') (hx : x ∈ cycle)
    (hx' : x ∈ cycle') : cycle = cycle' := by
  have hmem (y : String) : y ∈ cycle ↔ y ∈ cycle' := by
    rw [h.mem_iff_reaches hx, h'.mem_iff_reaches hx']
  obtain ⟨first, rest, rfl, hnodup, hchain, hleast⟩ := h
  obtain ⟨first', rest', rfl, hnodup', hchain', hleast'⟩ := h'
  -- Both start at the smallest of the same names.
  have hle {first y : String} {rest : List String} (hleast : ∀ name ∈ rest, first ≤ name)
      (hy : y ∈ first :: rest ++ [first]) : first ≤ y := by
    rcases List.mem_append.1 hy with hy | hy
    · rcases List.mem_cons.1 hy with rfl | hy
      · exact Std.le_refl y
      · exact hleast y hy
    · obtain rfl := List.mem_singleton.1 hy
      exact Std.le_refl _
  obtain rfl : first = first' :=
    Std.le_antisymm (hle hleast ((hmem first').2 List.mem_cons_self))
      (hle hleast' ((hmem first).1 List.mem_cons_self))
  rw [eq_of_isChain hchain hchain' (List.nodup_cons.1 hnodup).1 (List.nodup_cons.1 hnodup').1]

end CanonicalCycle

/-! ### Trails -/

namespace Bases

variable {bases : Bases} {left : List String}

theorem mem_trailFrom_self (h : name ∉ left) : name ∈ bases.trailFrom left name := by
  rw [trailFrom, if_neg h]
  split <;> simp

/-- A base of a name on a trail was left, or is on the trail. -/
theorem mem_of_mem_trailFrom (hx : x ∈ bases.trailFrom left name)
    (hbase : bases.get? x = some base) : base ∈ left ∨ base ∈ bases.trailFrom left name := by
  fun_induction trailFrom bases left name with
  | case1 => exact absurd hx List.not_mem_nil
  | case2 left name _ hnone =>
    obtain rfl := List.mem_singleton.1 hx
    rw [hnone] at hbase
    cases hbase
  | case3 left name _ next hnext ih =>
    -- The trail goes on with the base of its first name, unless it stops because that was left.
    have hmem (h : base ∈ name :: left ∨ base ∈ bases.trailFrom (name :: left) next) :
        base ∈ left ∨ base ∈ name :: bases.trailFrom (name :: left) next := by
      rcases h with h | h
      · rcases List.mem_cons.1 h with rfl | h
        · exact .inr List.mem_cons_self
        · exact .inl h
      · exact .inr (List.mem_cons_of_mem name h)
    apply hmem
    rcases List.mem_cons.1 hx with rfl | hx
    · obtain rfl : next = base := Option.some.inj (hnext.symm.trans hbase)
      by_cases hleft : next ∈ x :: left
      · exact .inl hleft
      · exact .inr (mem_trailFrom_self hleft)
    · exact ih hx

theorem mem_trail_of_mem_trail (hx : x ∈ bases.trail name) (hbase : bases.get? x = some base) :
    base ∈ bases.trail name := by
  rcases mem_of_mem_trailFrom hx hbase with hleft | hmem
  · exact absurd hleft List.not_mem_nil
  · exact hmem

/-- The trail of a name holds what the name leads to. -/
theorem mem_trail_iff : x ∈ bases.trail name ↔ Reaches bases.get? name x := by
  constructor
  · intro hx
    obtain ⟨rest, hrest⟩ := bases.exists_trail_eq_cons name
    have hchain := bases.isChain_trail name
    rw [hrest] at hx hchain
    exact reaches_of_isChain hchain hx
  · intro hreach
    induction hreach with
    | refl => exact mem_trailFrom_self List.not_mem_nil
    | tail _ hstep ih => exact mem_trail_of_mem_trail ih hstep

theorem leadsTo_iff {ancestor : String} :
    bases.leadsTo name ancestor = true ↔ Reaches bases.get? name ancestor := by
  rw [leadsTo, List.contains_iff_mem, mem_trail_iff]

end Bases

end CimSchema
