import Mathlib.Data.List.Forall2
import ProgramModel.Proofs.Wire.Members
import ProgramModel.Proofs.Wire.Readers
import ProgramModel.Proofs.Wire.WideInt

/-!
Readings that yield a known value. How many levels of nesting that takes is left open
here, as long as some number is enough: for a graded reading it is the depth of the value
(`Yields.answer_eq`), so that no law below counts levels.
-/

namespace ProgramModel.Reading

variable {α β : Type} {m : Reading α} {f : α → Reading β} {o : Options} {a : α} {b : β}

/-- The reading gives the value where enough levels are left, and leaves as many open as it
found. -/
structure Yields (m : Reading α) (o : Options) (a : α) : Prop where
  enough : ∃ levels, ∀ (limit : Nat) (g : Gauge), levels ≤ limit - g.depth →
    (m.outcome (o.withLimit limit) g).1 = .ok a ∧
      (m.outcome (o.withLimit limit) g).2.depth = g.depth

namespace Yields

theorem pure : Yields (pure a : Reading α) o a where
  enough := ⟨0, fun _ _ _ => ⟨rfl, rfl⟩⟩

/-- A reading may ask for the options as long as it does not look at the limit. -/
theorem options {f : Options → Reading β} (blind : ∀ limit, f (o.withLimit limit) = f o)
    (rest : Yields (f o) o b) : Yields (read >>= f) o b where
  enough := by
    obtain ⟨levels, given⟩ := rest.enough
    refine ⟨levels, ?_⟩
    intro limit g left
    have same : (read >>= f : Reading β).outcome (o.withLimit limit) g =
        (f o).outcome (o.withLimit limit) g := by
      rw [← blind limit]
      rfl
    rw [same]
    exact given limit g left

/-- Both parts of a sequence have enough levels where the one that needs more has. -/
theorem bind (first : Yields m o a) (rest : Yields (f a) o b) : Yields (m >>= f) o b where
  enough := by
    obtain ⟨levels, given⟩ := first.enough
    obtain ⟨levels', given'⟩ := rest.enough
    refine ⟨max levels levels', ?_⟩
    intro limit g left
    obtain ⟨here, kept⟩ := given limit g (by omega)
    obtain ⟨there, kept'⟩ := given' limit (m.outcome (o.withLimit limit) g).2 (by omega)
    rw [outcome_bind_of_ok here]
    exact ⟨there, kept'.trans kept⟩

/-- A nested reading needs one level more. -/
theorem nested (context : String) (inner : Yields m o a) : Yields (nested context m) o a where
  enough := by
    obtain ⟨levels, given⟩ := inner.enough
    refine ⟨levels + 1, ?_⟩
    intro limit g left
    have within : g.depth + 1 ≤ limit := by omega
    obtain ⟨here, kept⟩ := given limit g.enter (by rw [Gauge.depth_enter]; omega)
    rw [outcome_nested, Options.maxDepth_withLimit, if_pos within]
    simp only [Gauge.leave, kept, Gauge.depth_enter]
    exact ⟨here, trivial⟩

theorem mapM {items : List α} {results : List β}
    (each : List.Forall₂ (fun a b => Yields (f a) o b) items results) :
    Yields (items.mapM f) o results := by
  induction each with
  | nil => exact .pure
  | cons first _ ih =>
    rw [List.mapM_cons]
    exact .bind first (.bind ih .pure)

/-- The depth of the value is enough when the reading is graded by it. -/
theorem answer_eq {depth : α → Nat} (yields : Yields m o a) (graded : Graded 0 m depth)
    (within : depth a ≤ o.maxDepth) : m.answer o = .ok a := by
  obtain ⟨levels, result, settles, exact⟩ := graded.settles o
  obtain ⟨levels', given⟩ := yields.enough
  have same : result = .ok a := by
    have left : levels ≤ max levels levels' - Gauge.start.depth := Nat.le_max_left ..
    have left' : levels' ≤ max levels levels' - Gauge.start.depth := Nat.le_max_right ..
    rw [← settles.enough left, (given _ _ left').1]
  have needed : levels ≤ o.maxDepth - Gauge.start.depth := by
    have used := exact a same
    rw [Nat.zero_max] at used
    rw [used]
    exact within
  rw [← same]
  exact settles.enough needed

end Yields

/-! ### Members -/

variable {v w : Json} {key context : String}

/-- A field that is there is read by what comes next. -/
theorem Yields.of_field {f : Member v → Reading β} (found : v.member? key = some w)
    (rest : ∀ child, Yields (f ⟨w, child⟩) o b) : Yields (field v key context >>= f) o b := by
  rw [field_eq_pure found]
  exact .bind .pure (rest _)

theorem Yields.of_optional {f : Option (Member v) → Reading β} (found : v.member? key = some w)
    (present : w ≠ .null) (rest : ∀ child, Yields (f (some ⟨w, child⟩)) o b) :
    Yields (optional v key context >>= f) o b := by
  rw [optional_eq_some found present]
  exact .bind .pure (rest _)

/-- What is not there is read as none. -/
theorem Yields.of_absent {members : List (String × Json)}
    {f : Option (Member (.obj members)) → Reading β}
    (absent : (Json.obj members).member? key = none) (rest : Yields (f none) o b) :
    Yields (optional (.obj members) key context >>= f) o b := by
  rw [optional_eq_none absent]
  exact .bind .pure rest

/-! ### Fields of one shape -/

theorem yields_stringField {s : String} (found : v.member? key = some (.str s)) :
    Yields (stringField v key context) o s :=
  .of_field found fun _ => .pure

theorem yields_booleanField {b : Bool} (found : v.member? key = some (.bool b)) :
    Yields (booleanField v key context) o b :=
  .of_field found fun _ => .pure

theorem yields_wireId (i : WireId) : Yields (wireId (.ofInt i.val) context) o i := by
  simp only [wireId, Json.ofInt, Json.Numeral.integer?_ofInt, Option.bind_some,
    Bounded.ofInt?_val]
  exact .pure

theorem yields_wireIdField {i : WireId} (found : v.member? key = some (.ofInt i.val)) :
    Yields (wireIdField v key context) o i :=
  .of_field found fun _ => yields_wireId i

theorem yields_coordinate (i : Coordinate) : Yields (coordinate (.ofInt i.val) context) o i := by
  simp only [coordinate, Json.ofInt, Json.Numeral.integer?_ofInt, Option.bind_some,
    Bounded.ofInt?_val]
  exact .pure

theorem yields_wideInt (i : WideInt) : Yields (wideInt (.ofInt i.val) context) o i := by
  simp only [wideInt, Json.ofInt, wideInt?_num, Json.Numeral.signed?_text,
    Json.Numeral.integer?_ofInt, Option.bind_some, Bounded.ofInt?_val]
  exact .pure

theorem yields_extent (i : Extent) : Yields (extent (.ofInt i.val) context) o i := by
  simp only [extent, Json.ofInt, Json.Numeral.natural?_ofInt i.low_le, Option.bind_some,
    Int.toNat_of_nonneg i.low_le, Bounded.ofInt?_val]
  exact .pure

/-- A list of items is read item by item. -/
theorem yields_listField {readItem : Json → Reading β} {items : List Json} {results : List β}
    (found : v.member? key = some (.arr items))
    (each : List.Forall₂ (fun w b => Yields (readItem w) o b) items results) :
    Yields (listField v key context readItem) o results :=
  .of_field found fun _ => .bind .pure (.mapM each)

section Tags

variable [Tagged α]

theorem yields_ofTag (a : α) : Yields (ofTag α (Tagged.tag a)) o a := by
  rw [ofTag, Tagged.ofTag?_tag]
  exact .pure

theorem yields_taggedField {a : α} (found : v.member? key = some (Json.ofTagged a)) :
    Yields (taggedField α v key context) o a :=
  .of_field found fun _ => .bind .pure (yields_ofTag a)

/-- A form that is written by its tag is read as this form. -/
theorem yields_formField {a : α} (found : v.member? key = some (Json.ofTagged a)) :
    Yields (formField α v key context) o a :=
  .bind (yields_stringField found) (yields_ofTag a)

end Tags

end ProgramModel.Reading
