import ProgramModel.Proofs.TypeTable.Ancestry

/-!
The order of the ancestors. They come level by level: behind the type itself the supertypes that
its definition names, behind these the ones that their definitions name, and so on. Within a
level the order is that of the first mention. Main statement: `ancestors_eq_levels`.
-/

namespace ProgramModel.TypeTable

open Traversal

variable {t : TypeTable} {name : TypeName}

/-- Types without a definition have no say in what their level leads to. -/
theorem flatMap_supers (t : TypeTable) (names : List TypeName) :
    names.flatMap t.supers = (names.filterMap t.get?).flatMap (·.supers) := by
  induction names with
  | nil => rfl
  | cons a rest ih =>
    rw [List.flatMap_cons, ih, supers, List.filterMap_cons]
    cases t.get? a with
    | none => rfl
    | some d => rw [List.flatMap_cons]

/-- The supertypes that the definitions of a level name, in this order, without those that a
level so far has. -/
theorem level_succ_eq (t : TypeTable) (name : TypeName) (k : Nat) :
    level t.supers name (k + 1) =
      ((((level t.supers name k).filterMap t.get?).flatMap (·.supers)).filter
        (· ∉ (List.range (k + 1)).flatMap (level t.supers name))).eraseDups := by
  rw [level, flatMap_supers, ← before_succ, before_eq_flatMap]

/-- The ancestors of a type are its levels, one after another. The first level is the type
alone. Each other one has what the definitions of the level before name as supertypes, in the
order of the first mention and without the types of all levels before. From some level on they
are all empty. A level has the types to which a chain of so many steps leads, and no shorter
one. -/
theorem ancestors_eq_levels (t : TypeTable) (name : TypeName) :
    ∃ levels : Nat → List TypeName, levels 0 = [name] ∧
      (∀ k, levels (k + 1) =
        ((((levels k).filterMap t.get?).flatMap (·.supers)).filter
          (· ∉ (List.range (k + 1)).flatMap levels)).eraseDups) ∧
      (∃ last, (∀ k, levels k = [] ↔ last ≤ k) ∧
        ∀ k, last ≤ k → t.ancestors name = (List.range k).flatMap levels) ∧
      ∀ k a, a ∈ levels k ↔ Walk t.supers name k a ∧ ∀ j < k, ¬ Walk t.supers name j a := by
  refine ⟨level t.supers name, by rw [level], t.level_succ_eq name, ?_, fun k a => mem_level_iff⟩
  obtain ⟨last, empty_iff, ends⟩ := (t.explores_ancestors name).exists_forall_eq_before
  refine ⟨last, empty_iff, fun k le => ?_⟩
  rw [ends k le, before_eq_flatMap]

/-- `D` names `B` twice. Both `B` and `C` name `A`, which comes behind the two. -/
example : Sample.diamond.ancestors ⟨"", "D"⟩ =
    [⟨"", "D"⟩, ⟨"", "B"⟩, ⟨"", "C"⟩, ⟨"", "A"⟩, ⟨"", "Object"⟩] := by
  decide +kernel

end ProgramModel.TypeTable
