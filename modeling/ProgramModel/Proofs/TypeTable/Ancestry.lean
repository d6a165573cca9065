import ProgramModel.Proofs.Traversal.BreadthFirst
import ProgramModel.TypeTable.Ancestry

/-!
Supertypes in tables of all kinds, also with cyclic hierarchies and with supertypes that are
not defined. The bound of rounds is enough for every search (`explores_ancestors`). Main
statements: one type is a subtype of another one when a chain of supertypes leads there
(`isSubtype_iff_extends`), and a field is taken from a type as near as any that declares it
(`resolveField?_nearest`).
-/

namespace ProgramModel

open Traversal

namespace StructDef

/-- One of the definition's own fields, instance or static, has the name. -/
def Declares (d : StructDef) (field : String) : Prop :=
  ∃ x ∈ d.fields ++ d.statics, x.name.name = field

/-- The lookup of an own field succeeds for those that are declared. -/
theorem isSome_field?_iff {d : StructDef} {field : String} :
    (d.field? field).isSome ↔ d.Declares field := by
  simp [field?, Declares, or_and_right, exists_or]

end StructDef

namespace TypeTable

variable {t : TypeTable} {a b name : TypeName} {field : String}

/-- A definition names a direct supertype. -/
def Extends (t : TypeTable) (a b : TypeName) : Prop :=
  ∃ d, t.get? a = some d ∧ b ∈ d.supers

/-- The direct supertypes of a name are those in its definition. A name without definition has
none. -/
theorem mem_supers_iff : b ∈ t.supers a ↔ t.Extends a b := by
  unfold supers Extends
  cases t.get? a with
  | none => simp
  | some d => simp

/-! ### The search for supertypes -/

/-- One round for each mention of a supertype, and one for the type itself. -/
theorem rounds_eq (t : TypeTable) (name : TypeName) :
    t.rounds = (name :: t.toList.flatMap (·.2.supers)).length := by
  unfold rounds
  induction t.toList with
  | nil => rfl
  | cons e rest ih =>
    rw [List.flatMap_cons, List.foldr_cons]
    simp only [List.length_cons, List.length_append] at ih ⊢
    omega

/-- The search comes to an end within its rounds. -/
theorem explores_ancestors (t : TypeTable) (name : TypeName) :
    Explores t.supers 0 [name] (t.ancestors name) := by
  have edges (a : TypeName) : t.supers a ⊆ name :: t.toList.flatMap (·.2.supers) := by
    intro b mem
    obtain ⟨d, defined, super⟩ := mem_supers_iff.1 mem
    exact List.mem_cons_of_mem _ (List.mem_flatMap.2 ⟨(a, d), mem_toList_iff.2 defined, super⟩)
  exact explores_breadthFirst edges List.mem_cons_self (Nat.le_of_eq (t.rounds_eq name).symm)

/-- The ancestors of a name are what its supertypes lead to, itself included. -/
theorem mem_ancestors_iff : b ∈ t.ancestors a ↔ Relation.ReflTransGen t.Extends a b := by
  have edges : (fun a b => b ∈ t.supers a) = t.Extends := by
    funext a b
    exact propext mem_supers_iff
  rw [(t.explores_ancestors a).mem_iff_exists_walk, exists_walk_iff, edges]

theorem isSubtype_iff : t.isSubtype a b = true ↔ Relation.ReflTransGen t.Extends a b :=
  decide_eq_true_iff.trans mem_ancestors_iff

/-- The search, without a bound on its rounds, ends with the ancestors, and a type is a
subtype of another one exactly when a chain of direct supertypes leads from it to the other
one. So each type is a subtype of itself, and a subtype of what its supertypes are subtypes
of. -/
theorem isSubtype_iff_extends (t : TypeTable) (a b : TypeName) :
    (∀ order, Explores t.supers 0 [a] order ↔ order = t.ancestors a) ∧
    (t.isSubtype a b = true ↔ Relation.ReflTransGen t.Extends a b) ∧
    t.isSubtype a a = true ∧
    ∀ c, t.isSubtype a b = true → t.isSubtype b c = true → t.isSubtype a c = true := by
  refine ⟨fun order => ⟨(t.explores_ancestors a).unique, ?_⟩, isSubtype_iff,
    isSubtype_iff.2 .refl, ?_⟩
  · rintro rfl
    exact t.explores_ancestors a
  · intro c first second
    exact isSubtype_iff.2 ((isSubtype_iff.1 first).trans (isSubtype_iff.1 second))

/-! ### A hierarchy with a diamond and a cycle -/

namespace Sample

/-- A class with supertypes by their names, which declares the given instance fields. -/
def derived (name : String) (supers fields : List String) : TypeName × StructDef :=
  (⟨"", name⟩,
    { fields := fields.map fun f => ⟨⟨⟨"", name⟩, f⟩, .void, []⟩
      statics := []
      supers := supers.map fun s => ⟨"", s⟩
      methods := []
      annotations := [] })

/-- `D` leads to `A` over `B` and over `C`, and `A` leads back to `D`. There is no definition
of `Object`. Both `A` and `C` declare a field `f`. -/
def diamond : TypeTable :=
  ofList [derived "D" ["B", "C", "B"] [], derived "B" ["A"] [], derived "C" ["A", "Object"] ["f"],
    derived "A" ["D"] ["f"]]

end Sample

/-- The chain goes through the cycle and ends at a type without a definition. -/
theorem isSubtype_through_cycle :
    Sample.diamond.isSubtype ⟨"", "A"⟩ ⟨"", "D"⟩ = true ∧
    Sample.diamond.isSubtype ⟨"", "D"⟩ ⟨"", "Object"⟩ = true ∧
    Sample.diamond.isSubtype ⟨"", "A"⟩ ⟨"", "Object"⟩ = true := by
  have first : Sample.diamond.isSubtype ⟨"", "A"⟩ ⟨"", "D"⟩ = true := by decide +kernel
  have second : Sample.diamond.isSubtype ⟨"", "D"⟩ ⟨"", "Object"⟩ = true := by decide +kernel
  obtain ⟨_, _, _, transitive⟩ := isSubtype_iff_extends Sample.diamond ⟨"", "A"⟩ ⟨"", "D"⟩
  exact ⟨first, second, transitive ⟨"", "Object"⟩ first second⟩

/-! ### Inherited fields -/

/-- So many steps up there is a type with a definition that declares the field. -/
def DeclaredAt (t : TypeTable) (name : TypeName) (field : String) (steps : Nat)
    (d : StructDef) : Prop :=
  ∃ a, Walk t.supers name steps a ∧ t.get? a = some d ∧ d.Declares field

theorem DeclaredAt.of_field? {steps : Nat} {d : StructDef} {x : StructField}
    (walk : Walk t.supers name steps a) (defined : t.get? a = some d)
    (own : d.field? field = some x) : t.DeclaredAt name field steps d :=
  ⟨a, walk, defined, StructDef.isSome_field?_iff.1 (own ▸ rfl)⟩

/-- No field is found exactly when no ancestor declares it. -/
theorem resolveField?_eq_none_iff :
    t.resolveField? name field = none ↔ ∀ steps d, ¬ t.DeclaredAt name field steps d := by
  rw [resolveField?, List.findSome?_eq_none_iff]
  constructor
  · rintro none steps d ⟨a, walk, defined, declares⟩
    have absent := none a ((t.explores_ancestors name).mem_iff_exists_walk.2 ⟨steps, walk⟩)
    rw [defined, Option.bind_some] at absent
    have found := StructDef.isSome_field?_iff.2 declares
    rw [absent] at found
    cases found
  · intro none a mem
    obtain ⟨steps, walk⟩ := (t.explores_ancestors name).mem_iff_exists_walk.1 mem
    by_contra found
    obtain ⟨x, own⟩ := Option.ne_none_iff_exists'.1 found
    obtain ⟨d, defined, own⟩ := Option.bind_eq_some_iff.1 own
    exact none steps d (.of_field? walk defined own)

/-- The field comes from a definition that no other one with such a field is nearer than. -/
theorem nearest_of_resolveField? {x : StructField} (found : t.resolveField? name field = some x) :
    ∃ steps d, t.DeclaredAt name field steps d ∧ d.field? field = some x ∧
      ∀ steps' d', t.DeclaredAt name field steps' d' → steps ≤ steps' := by
  obtain ⟨steps, a, walk, own, least⟩ := (t.explores_ancestors name).nearest_of_findSome? found
  obtain ⟨d, defined, own⟩ := Option.bind_eq_some_iff.1 own
  refine ⟨steps, d, .of_field? walk defined own, own, ?_⟩
  rintro steps' d' ⟨b, walk', defined', declares⟩
  apply least steps' b walk'
  rw [defined', Option.bind_some]
  exact StructDef.isSome_field?_iff.2 declares

/-- A field is found exactly when the type or one that it extends, in any number of steps,
declares it. It is taken from a definition as few steps away as any that declares it, from
the type's own if that does, and from the instance fields of a definition before the static
ones. -/
theorem resolveField?_nearest (t : TypeTable) (name : TypeName) (field : String) :
    (t.resolveField? name field = none ↔ ∀ steps d, ¬ t.DeclaredAt name field steps d) ∧
    (∀ x, t.resolveField? name field = some x →
      ∃ steps d, t.DeclaredAt name field steps d ∧ d.field? field = some x ∧
        ∀ steps' d', t.DeclaredAt name field steps' d' → steps ≤ steps') ∧
    (∀ d, t.get? name = some d → d.Declares field →
      t.resolveField? name field = d.field? field) ∧
    ∀ d : StructDef, d.field? field =
      (d.fields.find? (·.name.name = field)).or (d.statics.find? (·.name.name = field)) := by
  refine ⟨resolveField?_eq_none_iff, fun x => nearest_of_resolveField?, ?_, ?_⟩
  · intro d defined declares
    have here : t.DeclaredAt name field 0 d := ⟨name, .start, defined, declares⟩
    cases found : t.resolveField? name field with
    | none => exact absurd here (resolveField?_eq_none_iff.1 found 0 d)
    | some x =>
      obtain ⟨steps, d', ⟨a, walk, defined', _⟩, own, least⟩ := nearest_of_resolveField? found
      -- The type is no step away from itself, so nothing is nearer.
      obtain rfl : steps = 0 := Nat.le_zero.1 (least 0 d here)
      cases walk
      cases defined.symm.trans defined'
      exact own.symm
  · intro d
    exact List.find?_append

/-- The field of `C` is one step away, that of `A` two, although `B` is looked at before `C`
and leads to `A`. -/
theorem resolveField?_diamond : ∃ steps d x,
    Sample.diamond.resolveField? ⟨"", "D"⟩ "f" = some x ∧ x.name.owner = ⟨"", "C"⟩ ∧
    Sample.diamond.DeclaredAt ⟨"", "D"⟩ "f" steps d ∧ d.field? "f" = some x ∧
    ∀ steps' d', Sample.diamond.DeclaredAt ⟨"", "D"⟩ "f" steps' d' → steps ≤ steps' := by
  have computed : (Sample.diamond.resolveField? ⟨"", "D"⟩ "f").map (·.name.owner) =
      some ⟨"", "C"⟩ := by
    decide +kernel
  obtain ⟨x, found, owner⟩ := Option.map_eq_some_iff.1 computed
  obtain ⟨_, nearest, _⟩ := resolveField?_nearest Sample.diamond ⟨"", "D"⟩ "f"
  obtain ⟨steps, d, declared, own, least⟩ := nearest x found
  exact ⟨steps, d, x, found, owner, declared, own, least⟩

end TypeTable
end ProgramModel
