import ProgramModel.Depth
import ProgramModel.Proofs.Wire.Regular

/-!
Graded readings. A regular reading is graded when the limit of nesting has a say in it
only where it goes further in, and each level it goes in is one of the depth of the value
it gives. Main statement: such a reading needs some number of levels; with these it gives
a result that does not depend on the limit, with fewer it is refused for them, and for a
value the levels are its depth (`Graded.settles`).
-/

namespace ProgramModel

variable {α β : Type}

/-- The same conventions with another limit of nesting. -/
def Options.withLimit (o : Options) (limit : Nat) : Options := { o with maxDepth := limit }

@[simp]
theorem Options.maxDepth_withLimit (o : Options) (limit : Nat) :
    (o.withLimit limit).maxDepth = limit := rfl

/-! ### The greatest of some depths -/

@[simp]
theorem deepest_nil : deepest [] = 0 := rfl

@[simp]
theorem deepest_cons (n : Nat) (depths : List Nat) :
    deepest (n :: depths) = max n (deepest depths) := rfl

@[simp]
theorem deepest_append (depths rest : List Nat) :
    deepest (depths ++ rest) = max (deepest depths) (deepest rest) := by
  induction depths with
  | nil => simp
  | cons n depths ih => simp [ih, Nat.max_assoc]

/-- The order of depths has no say. -/
theorem deepest_of_perm {depths depths' : List Nat} (same : depths.Perm depths') :
    deepest depths = deepest depths' := by
  induction same with
  | nil => rfl
  | cons n _ ih => simp [ih]
  | swap n m depths => simp [Nat.max_left_comm]
  | trans _ _ first second => exact first.trans second

theorem deepest_map_zero (items : List α) : deepest (items.map fun _ => 0) = 0 := by
  induction items with
  | nil => rfl
  | cons _ _ ih => rw [List.map_cons, deepest_cons, ih, Nat.max_self]

namespace Reading

/-! ### Graded readings -/

/-- Made like a regular reading, with a record of levels: `before` levels were needed by
what came first, and all in all a value needs as many levels as it is deep. -/
inductive Graded : {α : Type} → Nat → Reading α → (α → Nat) → Prop where
  | pure {α : Type} {before : Nat} {depth : α → Nat} (a : α) (exact : before = depth a) :
      Graded before (pure a : Reading α) depth
  | throw {α : Type} {before : Nat} {depth : α → Nat} (fault : Fault)
      (other : fault.isDepth = false := by rfl) : Graded before (throw fault : Reading α) depth
  | options {α : Type} {before : Nat} {f : Options → Reading α} {depth : α → Nat}
      (blind : ∀ o limit, f (o.withLimit limit) = f o) :
      (∀ o, Graded before (f o) depth) → Graded before (read >>= f) depth
  | bind {α β : Type} {before : Nat} {m : Reading α} {f : α → Reading β} {inner : α → Nat}
      {depth : β → Nat} : Graded 0 m inner →
      (∀ a, Graded (max before (inner a)) (f a) depth) → Graded before (m >>= f) depth
  | nested {α : Type} {m : Reading α} {inner depth : α → Nat} (context : String)
      (deeper : ∀ a, depth a = inner a + 1) :
      Graded 0 m inner → Graded 0 (nested context m) depth

/-- A graded reading that goes no further in. -/
abbrev Flat (m : Reading α) : Prop := Graded 0 m fun _ => 0

namespace Graded

variable {before : Nat} {m : Reading α} {f : α → Reading β} {depth : α → Nat} {depth' : β → Nat}

/-- Graded readings are regular, so each of them is balanced and has its answers. -/
theorem regular (graded : Graded before m depth) : Regular m := by
  induction graded with
  | pure a => exact .pure a
  | throw fault => exact .throw fault
  | options _ _ rest => exact .bind .options rest
  | bind _ _ first rest => exact .bind first rest
  | nested context _ _ inner => exact .nested context inner

/-- Equal depths can be put for each other. -/
theorem of_eq {other : α → Nat} (graded : Graded before m depth)
    (same : ∀ a, depth a = other a) : Graded before m other :=
  funext same ▸ graded

/-- What goes no further in leaves the record of levels as it is. -/
theorem flat_bind (first : Flat m) (rest : ∀ a, Graded before (f a) depth') :
    Graded before (m >>= f) depth' := by
  apply Graded.bind first
  intro a
  rw [Nat.max_zero]
  exact rest a

/-- One level further in, for values that all have a level of their own. -/
theorem level (context : String) (positive : ∀ a, 0 < depth a)
    (graded : Graded 0 m fun a => depth a - 1) :
    Graded 0 (Reading.nested context m) depth :=
  .nested context (fun a => (Nat.sub_add_cancel (positive a)).symm) graded

/-- What is done with a value at the end takes no level, if the result is as deep as the value. -/
theorem map {result : α → β} (graded : Graded 0 m depth)
    (same : ∀ a, depth a = depth' (result a)) : Graded 0 (result <$> m) depth' := by
  rw [← bind_pure_comp]
  apply Graded.bind graded
  intro a
  exact .pure _ (by rw [Nat.zero_max, same])

/-- Items that are read one after another need as many levels as the deepest of them. -/
theorem mapM {f : α → Reading β} (graded : ∀ a, Graded 0 (f a) depth') (items : List α) :
    Graded 0 (items.mapM f) fun results => deepest (results.map depth') := by
  induction items with
  | nil => exact .pure [] rfl
  | cons a rest ih =>
    rw [List.mapM_cons]
    refine .bind (graded a) fun b => .bind ih fun results => .pure _ ?_
    simp

end Graded

/-! ### What a reading needs -/

/-- A result that is no fault of depth. -/
structure Final (result : Except Fault α) : Prop where
  isDepth : ∀ fault, result = .error fault → fault.isDepth = false

theorem final_ok (a : α) : Final (.ok a : Except Fault α) where
  isDepth := by rintro _ ⟨⟩

theorem final_error {fault : Fault} (other : fault.isDepth = false) :
    Final (.error fault : Except Fault α) where
  isDepth := by
    rintro _ ⟨⟩
    exact other

/-- Final results after final results are final. -/
theorem Final.bind {result : Except Fault α} {f : α → Except Fault β} (first : Final result)
    (rest : ∀ a, Final (f a)) : Final (result >>= f) := by
  cases result with
  | error fault => exact final_error (first.isDepth fault rfl)
  | ok a => exact rest a

theorem Final.mapM {f : α → Except Fault β} {items : List α} (each : ∀ a, Final (f a)) :
    Final (items.mapM f) := by
  induction items with
  | nil => exact final_ok []
  | cons a rest ih =>
    rw [List.mapM_cons]
    exact (each a).bind fun _ => ih.bind fun _ => final_ok _

/-- A reading needs some levels to come to a result, however high the limit is. The levels
that are left are those between the depth of the gauge and the limit. -/
structure Settles (m : Reading α) (o : Options) (levels : Nat) (result : Except Fault α) :
    Prop where
  final : Final result
  enough {limit : Nat} {g : Gauge} (left : levels ≤ limit - g.depth) :
    (m.outcome (o.withLimit limit) g).1 = result
  short {limit : Nat} {g : Gauge} (left : limit - g.depth < levels) :
    ∃ context, (m.outcome (o.withLimit limit) g).1 = .error (.depthExceeded limit context)

namespace Settles

variable {m : Reading α} {f : α → Reading β} {o : Options} {levels levels' : Nat}

/-- A reading that comes to its result without regard to the limit and the gauge. -/
theorem of_steady {result : Except Fault α} (final : Final result)
    (steady : ∀ limit g, (m.outcome (o.withLimit limit) g).1 = result) : Settles m o 0 result where
  final := final
  enough _ := steady _ _
  short left := absurd left (Nat.not_lt_zero _)

/-- A fault settles all that would have come after it. -/
theorem bind_error {fault : Fault} (first : Settles m o levels (.error fault)) :
    Settles (m >>= f) o levels (.error fault) where
  final := final_error (first.final.isDepth fault rfl)
  enough left := by
    rw [outcome_bind_of_error (first.enough left)]
  short left := by
    obtain ⟨context, given⟩ := first.short left
    exact ⟨context, by rw [outcome_bind_of_error given]⟩

/-- Two readings in sequence settle at the higher one of their levels, since the first one leaves
no level open. -/
theorem bind_ok {a : α} {result : Except Fault β} (balanced : Balanced m)
    (first : Settles m o levels (.ok a)) (rest : Settles (f a) o levels' result) :
    Settles (m >>= f) o (max levels levels') result where
  final := rest.final
  enough {limit g} left := by
    have given : (m.outcome (o.withLimit limit) g).1 = .ok a := first.enough (by omega)
    have kept := balanced.depth (o.withLimit limit) g
    rw [outcome_bind_of_ok given]
    exact rest.enough (by omega)
  short {limit g} left := by
    by_cases few : limit - g.depth < levels
    · obtain ⟨context, given⟩ := first.short few
      exact ⟨context, by rw [outcome_bind_of_error given]⟩
    · have given : (m.outcome (o.withLimit limit) g).1 = .ok a := first.enough (by omega)
      have kept := balanced.depth (o.withLimit limit) g
      rw [outcome_bind_of_ok given]
      exact rest.short (by omega)

/-- A nested reading settles one level higher. -/
theorem nested {result : Except Fault α} (context : String) (inner : Settles m o levels result) :
    Settles (nested context m) o (levels + 1) result where
  final := inner.final
  enough {limit g} left := by
    have within : g.depth + 1 ≤ limit := by omega
    rw [outcome_nested, Options.maxDepth_withLimit, if_pos within]
    apply inner.enough
    rw [Gauge.depth_enter]
    omega
  short {limit g} left := by
    rw [outcome_nested, Options.maxDepth_withLimit]
    by_cases within : g.depth + 1 ≤ limit
    · rw [if_pos within]
      apply inner.short
      rw [Gauge.depth_enter]
      omega
    · rw [if_neg within]
      exact ⟨context, rfl⟩

end Settles

/-- A graded reading needs as many levels as the value it gives is deep, counted together
with those that were needed before. -/
theorem Graded.settles {before : Nat} {m : Reading α} {depth : α → Nat}
    (graded : Graded before m depth) (o : Options) :
    ∃ levels result, Settles m o levels result ∧
      ∀ a, result = .ok a → max before levels = depth a := by
  induction graded with
  | @pure _ before _ a exact =>
    refine ⟨0, .ok a, .of_steady (final_ok a) fun _ _ => rfl, ?_⟩
    rintro _ ⟨⟩
    rw [Nat.max_zero, exact]
  | throw fault other =>
    exact ⟨0, .error fault, .of_steady (final_error other) fun _ _ => rfl, by simp⟩
  | @options _ _ f _ blind _ rest =>
    obtain ⟨levels, result, settles, exact⟩ := rest o
    -- The options that are read differ in the limit alone.
    have same : ∀ limit g, (read >>= f : Reading _).outcome (o.withLimit limit) g =
        (f o).outcome (o.withLimit limit) g := by
      intro limit g
      rw [← blind o limit]
      rfl
    refine ⟨levels, result, ⟨settles.final, ?_, ?_⟩, exact⟩
    · intro limit g left
      rw [same]
      exact settles.enough left
    · intro limit g left
      rw [same]
      exact settles.short left
  | @bind _ _ before m f inner _ first _ firstSettles restSettles =>
    obtain ⟨levels, result, settles, exact⟩ := firstSettles
    cases result with
    | error fault => exact ⟨levels, .error fault, settles.bind_error, by simp⟩
    | ok a =>
      obtain ⟨levels', result', settles', exact'⟩ := restSettles a
      refine ⟨max levels levels', result', settles.bind_ok first.regular.balanced settles', ?_⟩
      intro b given
      have used := exact a rfl
      rw [← exact' b given, ← used]
      omega
  | nested context deeper _ inner =>
    obtain ⟨levels, result, settles, exact⟩ := inner
    refine ⟨levels + 1, result, settles.nested context, ?_⟩
    intro a given
    have used := exact a given
    rw [deeper, ← used]
    omega

end Reading
end ProgramModel
