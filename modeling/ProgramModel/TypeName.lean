import ProgramModel.Wire.Access

/-!
Qualified names of types: a namespace, which may be empty, and a simple name. A text
is split at its last separator, and `join` puts the parts together again. Main
statements: `splitLast` finds a separator exactly when there is one, and then the
second part holds none.
-/

namespace ProgramModel

/-! ### The last occurrence of a character -/

/-- The parts before and behind the last occurrence of a character. -/
def splitLast (c : Char) : List Char → Option (List Char × List Char)
  | [] => none
  | x :: xs =>
    match splitLast c xs with
    | some (before, behind) => some (x :: before, behind)
    | none => if x = c then some ([], xs) else none

theorem splitLast_eq_none_iff {c : Char} {xs : List Char} :
    splitLast c xs = none ↔ c ∉ xs := by
  induction xs with
  | nil => simp [splitLast]
  | cons x xs ih =>
    rw [splitLast]
    cases h : splitLast c xs with
    | some p => simp_all
    | none =>
      by_cases hx : x = c
      · simp [hx]
      · simp [hx, Ne.symm hx, ih.1 h]

theorem splitLast_eq_some_iff {c : Char} {xs before behind : List Char} :
    splitLast c xs = some (before, behind) ↔ xs = before ++ c :: behind ∧ c ∉ behind := by
  induction xs generalizing before behind with
  | nil => simp [splitLast]
  | cons x xs ih =>
    rw [splitLast]
    cases h : splitLast c xs with
    | some p =>
      obtain ⟨b, r⟩ := p
      obtain ⟨rfl, absent⟩ := ih.1 h
      constructor
      · intro e
        cases e
        exact ⟨rfl, absent⟩
      · rintro ⟨e, absent'⟩
        cases before with
        | nil =>
          simp only [List.nil_append, List.cons.injEq] at e
          exact absurd (by simp [← e.2]) absent'
        | cons y before =>
          simp only [List.cons_append, List.cons.injEq] at e
          obtain ⟨rfl, e⟩ := e
          have : splitLast c (b ++ c :: r) = some (before, behind) := ih.2 ⟨e, absent'⟩
          rw [h] at this
          cases this
          rfl
    | none =>
      have absent := splitLast_eq_none_iff.1 h
      constructor
      · intro e
        simp only at e
        split at e
        · next hx => cases e; exact ⟨by simp [hx], absent⟩
        · cases e
      · rintro ⟨e, absent'⟩
        cases before with
        | nil =>
          simp only [List.nil_append, List.cons.injEq] at e
          obtain ⟨rfl, rfl⟩ := e
          simp
        | cons y before =>
          simp only [List.cons_append, List.cons.injEq] at e
          exact absurd (by simp [e.2]) absent

/-! ### Type names -/

structure TypeName where
  scope : String
  name : String
  deriving DecidableEq, Repr

namespace TypeName

/-- The parts of a qualified name. Without a separator the namespace is empty. -/
def ofQualified (separator : Char) (full : String) : TypeName :=
  match splitLast separator full.toList with
  | some (scope, name) => ⟨String.ofList scope, String.ofList name⟩
  | none => ⟨"", full⟩

/-- The qualified name. An empty namespace leaves no separator behind. -/
def join (separator : Char) (n : TypeName) : String :=
  if n.scope.isEmpty then n.name
  else String.ofList (n.scope.toList ++ separator :: n.name.toList)

/-- The name as it is shown, always with a point between its parts. -/
def text (n : TypeName) : String := n.join '.'

/-- By namespace first, both parts by their characters. -/
def order : TypeName → TypeName → Ordering := compareLex (compareOn scope) (compareOn name)

instance : Ord TypeName := ⟨order⟩

instance : Std.TransCmp order := inferInstanceAs (Std.TransCmp (compareLex _ _))

instance : Std.LawfulEqCmp order where
  eq_of_compare {a b} h := by
    simp only [order, compareLex_eq_eq, compareOn, Std.LawfulEqCmp.compare_eq_iff_eq] at h
    cases a; cases b; simp_all

/-! ### Wire form -/

/-- The one kind of descriptor that names a type. -/
def classDescriptor : String := "Class"

end TypeName

namespace Reading

/-- A type name is a string or the descriptor of a class. -/
def typeName (v : Json) : Reading TypeName := do
  let full ← match v with
    | .str s => pure s
    | .obj members => do
      let kind ← stringField (.obj members) "csu_kind" "type name"
      if kind ≠ TypeName.classDescriptor then
        throw (.unsupported "struct descriptor kind" kind)
      stringField (.obj members) "name" "type name"
    | other => mismatch .typeName "type name" other
  return .ofQualified (← read).separator full

end Reading

/-- The written form of a type name is a string. -/
def TypeName.toWire (o : Options) (n : TypeName) : Json := .str (n.join o.separator)

end ProgramModel
