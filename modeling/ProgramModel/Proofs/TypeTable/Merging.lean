import ProgramModel.Proofs.TypeTable.Ancestry

/-!
Tables that grow. When a table is merged with one that defines none of its names, all of its
definitions stay, so each chain of supertypes stays, and types that had no definition may
add further ones. Main statement: no subtype and no inherited field is lost, and a field is
found at no greater distance than before (`merge_monotone`).
-/

namespace ProgramModel.TypeTable

open Traversal

variable {t u : TypeTable} {a b name : TypeName} {field : String}

/-- No name is defined in both tables. -/
def Apart (t u : TypeTable) : Prop := ∀ name, t.contains name = true → u.contains name = false

/-- That two tables have no name in common can be checked on the entries of one of them. -/
theorem apart_iff : t.Apart u ↔ ∀ e ∈ t.toList, u.contains e.1 = false := by
  constructor
  · rintro apart ⟨name, d⟩ mem
    apply apart
    rw [contains_eq, mem_toList_iff.1 mem, Option.isSome_some]
  · intro apart name defined
    rw [contains_eq, Option.isSome_iff_exists] at defined
    obtain ⟨d, defined⟩ := defined
    exact apart (name, d) (mem_toList_iff.2 defined)

instance : Decidable (t.Apart u) := decidable_of_iff _ apart_iff.symm

namespace Apart

/-! ### What stays -/

/-- A definition stays when the other table has none for its name. -/
theorem get?_merge (apart : t.Apart u) {d : StructDef} (defined : t.get? a = some d) :
    (t.merge u).get? a = some d := by
  have absent : u.get? a = none := by
    have other : u.contains a = false := by
      apply apart
      rw [contains_eq, defined, Option.isSome_some]
    rwa [contains_eq, Option.isSome_eq_false_iff, Option.isNone_iff_eq_none] at other
  rw [TypeTable.get?_merge, absent, Option.none_or, defined]

/-- Direct supertypes stay. -/
theorem extends_merge (apart : t.Apart u) (direct : t.Extends a b) : (t.merge u).Extends a b := by
  obtain ⟨d, defined, super⟩ := direct
  exact ⟨d, apart.get?_merge defined, super⟩

theorem supers_subset (apart : t.Apart u) (a : TypeName) : t.supers a ⊆ (t.merge u).supers a :=
  fun _ mem => mem_supers_iff.2 (apart.extends_merge (mem_supers_iff.1 mem))

/-- Subtypes stay. -/
theorem isSubtype_merge (apart : t.Apart u) (sub : t.isSubtype a b = true) :
    (t.merge u).isSubtype a b = true := by
  have more : t.Extends ≤ (t.merge u).Extends := fun _ _ => apart.extends_merge
  exact isSubtype_iff.2 (Relation.ReflTransGen.mono more a b (isSubtype_iff.1 sub))

/-- A field stays declared where it was, at the same number of steps. -/
theorem declaredAt_merge (apart : t.Apart u) {steps : Nat} {d : StructDef}
    (declared : t.DeclaredAt name field steps d) : (t.merge u).DeclaredAt name field steps d := by
  obtain ⟨a, walk, defined, declares⟩ := declared
  exact ⟨a, walk.mono apart.supers_subset, apart.get?_merge defined, declares⟩

/-! ### Inherited fields -/

/-- The field may now come from a definition that is nearer, but not from one that is farther
away. -/
theorem exists_resolveField?_merge (apart : t.Apart u) {steps : Nat} {d : StructDef}
    (declared : t.DeclaredAt name field steps d) :
    ∃ x steps' d', (t.merge u).resolveField? name field = some x ∧ d'.field? field = some x ∧
      (t.merge u).DeclaredAt name field steps' d' ∧ steps' ≤ steps := by
  have kept := apart.declaredAt_merge declared
  cases found : (t.merge u).resolveField? name field with
  | none => exact absurd kept (resolveField?_eq_none_iff.1 found steps d)
  | some x =>
    obtain ⟨steps', d', nearest, own, least⟩ := nearest_of_resolveField? found
    exact ⟨x, steps', d', rfl, own, nearest, least steps d kept⟩

/-- A field that was found is found, though it may be a nearer one. -/
theorem isSome_resolveField?_merge (apart : t.Apart u)
    (found : (t.resolveField? name field).isSome) :
    ((t.merge u).resolveField? name field).isSome := by
  obtain ⟨x, found⟩ := Option.isSome_iff_exists.1 found
  obtain ⟨steps, d, declared, _, _⟩ := nearest_of_resolveField? found
  obtain ⟨y, _, _, found', _⟩ := apart.exists_resolveField?_merge declared
  rw [found', Option.isSome_some]

end Apart

/-- When definitions of new names come in, subtypes stay subtypes and fields that were found
are still found. Where a type declares a field, so many steps up, the field is taken from a
type that many steps up or fewer. -/
theorem merge_monotone (apart : t.Apart u) :
    (∀ a b, t.isSubtype a b = true → (t.merge u).isSubtype a b = true) ∧
    (∀ name field, (t.resolveField? name field).isSome →
      ((t.merge u).resolveField? name field).isSome) ∧
    ∀ name field steps d, t.DeclaredAt name field steps d →
      ∃ x steps' d', (t.merge u).resolveField? name field = some x ∧ d'.field? field = some x ∧
        (t.merge u).DeclaredAt name field steps' d' ∧ steps' ≤ steps :=
  ⟨fun _ _ => apart.isSubtype_merge, fun _ _ => apart.isSome_resolveField?_merge,
    fun _ _ _ _ => apart.exists_resolveField?_merge⟩

/-! ### A supertype that is defined later -/

namespace Sample

/-- `D` leads to `A` over `B`, and `A` leads back to `D`. There is no definition of `C`. -/
def early : TypeTable :=
  ofList [derived "D" ["B", "C"] [], derived "B" ["A"] [], derived "A" ["D"] ["f"]]

/-- The definition of `C`, which declares the field too. -/
def late : TypeTable := ofList [derived "C" ["Object"] ["f"]]

end Sample

/-- The field of `A`, two steps up, gives way to that of `C`, one step up. -/
theorem merge_monotone_late : ∃ x y steps d,
    Sample.early.Apart Sample.late ∧
    (Sample.early.merge Sample.late).isSubtype ⟨"", "D"⟩ ⟨"", "A"⟩ = true ∧
    Sample.early.resolveField? ⟨"", "D"⟩ "f" = some x ∧ x.name.owner = ⟨"", "A"⟩ ∧
    (Sample.early.merge Sample.late).resolveField? ⟨"", "D"⟩ "f" = some y ∧
    y.name.owner = ⟨"", "C"⟩ ∧
    (Sample.early.merge Sample.late).DeclaredAt ⟨"", "D"⟩ "f" steps d ∧ steps ≤ 2 := by
  have apart : Sample.early.Apart Sample.late := by decide +kernel
  have sub : Sample.early.isSubtype ⟨"", "D"⟩ ⟨"", "A"⟩ = true := by decide +kernel
  have before : (Sample.early.resolveField? ⟨"", "D"⟩ "f").map (·.name.owner) =
      some ⟨"", "A"⟩ := by
    decide +kernel
  have after : ((Sample.early.merge Sample.late).resolveField? ⟨"", "D"⟩ "f").map
      (·.name.owner) = some ⟨"", "C"⟩ := by
    decide +kernel
  obtain ⟨x, found, owner⟩ := Option.map_eq_some_iff.1 before
  obtain ⟨subtypes, _, nearer⟩ := merge_monotone apart
  have declared : Sample.early.DeclaredAt ⟨"", "D"⟩ "f" 2 (Sample.derived "A" ["D"] ["f"]).2 := by
    have first : (⟨"", "B"⟩ : TypeName) ∈ Sample.early.supers ⟨"", "D"⟩ := by decide +kernel
    have second : (⟨"", "A"⟩ : TypeName) ∈ Sample.early.supers ⟨"", "B"⟩ := by decide +kernel
    exact ⟨_, (Walk.start.onward first).onward second, by decide +kernel, by
      simp [StructDef.Declares, Sample.derived]⟩
  obtain ⟨y, steps, d, found', _, declared', le⟩ := nearer _ _ _ _ declared
  rw [found'] at after
  exact ⟨x, y, steps, d, apart, subtypes _ _ sub, found, owner, found',
    Option.some.inj after, declared', le⟩

end ProgramModel.TypeTable
