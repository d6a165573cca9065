import ProgramModel.Wire.Tagged

/-!
Regular readings: those that are made of values, faults, the options, one reading after
another, and a reading one level further in. Main statements: a regular reading leaves
as many levels open as it found, whether it gives a value or a fault, and closes none
that is not open (`Regular.balanced`). So what a regular reading gives after others is
what it gives on its own (`answer_bind`, `answer_mapM`).
-/

namespace ProgramModel

variable {α β : Type}

/-! ### Results that may be faults -/

/-- A sequence has a value when both parts have. -/
theorem bind_eq_ok_iff {x : Except Fault α} {f : α → Except Fault β} {b : β} :
    x >>= f = .ok b ↔ ∃ a, x = .ok a ∧ f a = .ok b := by
  cases x with
  | error fault => simp [bind, Except.bind]
  | ok a => simp [bind, Except.bind]

/-- A result of which something is known is no fault. -/
theorem exists_ok_of_map_toOption {x : Except Fault α} (f : α → β) (b : β)
    (known : x.toOption.map f = some b) : ∃ a, x = .ok a ∧ f a = b := by
  cases x with
  | error fault => cases known
  | ok a => exact ⟨a, rfl, Option.some.inj known⟩

/-- A result with a known fault, whatever it were without. -/
theorem eq_error_of_map {x : Except Fault α} (f : α → β) {fault : Fault}
    (known : x.map f = .error fault) : x = .error fault := by
  cases x with
  | error other => cases known; rfl
  | ok a => cases known

/-- All items succeed when each of them is accepted, and then they give known results. -/
theorem mapM_eq_ok_iff {f : α → Except Fault β} {accepted : α → Prop} {given : α → β}
    (each : ∀ a b, f a = .ok b ↔ accepted a ∧ b = given a) {items : List α} {results : List β} :
    items.mapM f = .ok results ↔ (∀ a ∈ items, accepted a) ∧ results = items.map given := by
  induction items generalizing results with
  | nil => simp [pure, Except.pure, eq_comm]
  | cons a rest ih =>
    simp only [List.mapM_cons, bind_eq_ok_iff, each, ih, List.forall_mem_cons, List.map_cons]
    constructor
    · rintro ⟨_, ⟨first, rfl⟩, _, ⟨others, rfl⟩, same⟩
      cases same
      exact ⟨⟨first, others⟩, rfl⟩
    · rintro ⟨⟨first, others⟩, rfl⟩
      exact ⟨_, ⟨first, rfl⟩, _, ⟨others, rfl⟩, rfl⟩

namespace Reading

/-! ### Outcomes -/

theorem outcome_bind (m : Reading α) (f : α → Reading β) (o : Options) (g : Gauge) :
    (m >>= f).outcome o g =
      match m.outcome o g with
      | (.ok a, g') => (f a).outcome o g'
      | (.error fault, g') => (.error fault, g') := by
  simp only [outcome, bind, ReaderT.bind, ExceptT.bind, ExceptT.mk, ExceptT.bindCont, StateT.bind]
  rcases m o g with ⟨_ | a, g'⟩ <;> rfl

theorem outcome_bind_of_ok {m : Reading α} {f : α → Reading β} {o : Options} {g : Gauge} {a : α}
    (given : (m.outcome o g).1 = .ok a) :
    (m >>= f).outcome o g = (f a).outcome o (m.outcome o g).2 := by
  rw [outcome_bind]
  generalize m.outcome o g = outcome at given
  obtain ⟨_, g'⟩ := outcome
  cases given
  rfl

/-- After a fault nothing more is read, and the gauge stays where the fault left it. -/
theorem outcome_bind_of_error {m : Reading α} {f : α → Reading β} {o : Options} {g : Gauge}
    {fault : Fault} (given : (m.outcome o g).1 = .error fault) :
    (m >>= f).outcome o g = (.error fault, (m.outcome o g).2) := by
  rw [outcome_bind]
  generalize m.outcome o g = outcome at given
  obtain ⟨_, g'⟩ := outcome
  cases given
  rfl

/-- A nested reading goes one level deeper if the limit allows it, and comes back also after a
fault. -/
theorem outcome_nested (context : String) (m : Reading α) (o : Options) (g : Gauge) :
    (nested context m).outcome o g =
      if g.depth + 1 ≤ o.maxDepth then
        ((m.outcome o g.enter).1, (m.outcome o g.enter).2.leave)
      else (.error (.depthExceeded o.maxDepth context), g) := rfl

/-! ### Regular and balanced readings -/

/-- Made of values, faults, the options, sequence and nesting. -/
inductive Regular : {α : Type} → Reading α → Prop where
  | pure {α : Type} (a : α) : Regular (pure a : Reading α)
  | throw {α : Type} (fault : Fault) : Regular (throw fault : Reading α)
  | options : Regular (read : Reading Options)
  | bind {α β : Type} {m : Reading α} {f : α → Reading β} :
      Regular m → (∀ a, Regular (f a)) → Regular (m >>= f)
  | nested {α : Type} {m : Reading α} (context : String) :
      Regular m → Regular (nested context m)

/-- A reading that leaves as many levels open as it found, opens no more than the options
allow, closes none that is not open, and looks at nothing of the gauge but the depth. -/
structure Balanced (m : Reading α) : Prop where
  depth (o : Options) (g : Gauge) : (m.outcome o g).2.depth = g.depth
  peak {o : Options} {g : Gauge} (within : g.depth ≤ o.maxDepth) :
    (m.outcome o g).2.peak ≤ max g.peak o.maxDepth
  spurious (o : Options) (g : Gauge) : (m.outcome o g).2.spurious = g.spurious
  result (o : Options) {g h : Gauge} (same : g.depth = h.depth) :
    (m.outcome o g).1 = (m.outcome o h).1

/-- A reading that leaves the gauge alone. -/
theorem Balanced.ofSteady {m : Reading α} (given : Options → Except Fault α)
    (steady : ∀ o g, m.outcome o g = (given o, g)) : Balanced m where
  depth o g := by rw [steady]
  peak within := by rw [steady]; exact Nat.le_max_left _ _
  spurious o g := by rw [steady]
  result o g h _ := by rw [steady, steady]

/-- Balanced readings in sequence are balanced. The second one starts from the depth that the
first one started from, and from a peak that may be higher. -/
theorem Balanced.bind {m : Reading α} {f : α → Reading β} (first : Balanced m)
    (rest : ∀ a, Balanced (f a)) : Balanced (m >>= f) where
  depth o g := by
    have kept := first.depth o g
    cases given : (m.outcome o g).1 with
    | error fault =>
      rw [outcome_bind_of_error given]
      exact kept
    | ok a =>
      rw [outcome_bind_of_ok given]
      exact ((rest a).depth o _).trans kept
  peak {o g} within := by
    have kept := first.depth o g
    have bound := first.peak within
    cases given : (m.outcome o g).1 with
    | error fault =>
      rw [outcome_bind_of_error given]
      exact bound
    | ok a =>
      rw [outcome_bind_of_ok given]
      have later := (rest a).peak (kept.symm ▸ within)
      omega
  spurious o g := by
    have kept := first.spurious o g
    cases given : (m.outcome o g).1 with
    | error fault =>
      rw [outcome_bind_of_error given]
      exact kept
    | ok a =>
      rw [outcome_bind_of_ok given]
      exact ((rest a).spurious o _).trans kept
  result o {g h} same := by
    -- The gauges may differ in what they have counted, but both parts only look at the depth.
    have agreed : (m.outcome o h).1 = (m.outcome o g).1 := (first.result o same).symm
    have kept : (m.outcome o g).2.depth = (m.outcome o h).2.depth := by
      rw [first.depth, first.depth, same]
    cases given : (m.outcome o g).1 with
    | error fault =>
      rw [outcome_bind_of_error given, outcome_bind_of_error (agreed.trans given)]
    | ok a =>
      rw [outcome_bind_of_ok given, outcome_bind_of_ok (agreed.trans given)]
      exact (rest a).result o kept

/-- A nested reading closes the level that it has opened. -/
theorem Balanced.nested {m : Reading α} (context : String) (inner : Balanced m) :
    Balanced (nested context m) where
  depth o g := by
    have kept := inner.depth o g.enter
    rw [outcome_nested]
    split
    · simp only [Gauge.leave, kept, Gauge.depth_enter]
    · rfl
  peak {o g} _ := by
    rw [outcome_nested]
    split
    · next within =>
      have bound := inner.peak (o := o) (g := g.enter) within
      have kept := inner.depth o g.enter
      simp only [Gauge.leave, kept, Gauge.depth_enter]
      simp only [Gauge.enter] at bound ⊢
      omega
    · exact Nat.le_max_left _ _
  spurious o g := by
    have kept := inner.depth o g.enter
    rw [outcome_nested]
    split
    · simp only [Gauge.leave, kept, Gauge.depth_enter]
      exact inner.spurious o g.enter
    · rfl
  result o {g h} same := by
    have given := inner.result o (g := g.enter) (h := h.enter) (by simp [same])
    rw [outcome_nested, outcome_nested, same]
    split
    · exact given
    · rfl

/-- Regular readings are balanced, by the way that they are made. -/
theorem Regular.balanced {m : Reading α} (regular : Regular m) : Balanced m := by
  induction regular with
  | pure a => exact .ofSteady (fun o => .ok a) fun _ _ => rfl
  | throw fault => exact .ofSteady (fun _ => .error fault) fun _ _ => rfl
  | options => exact .ofSteady (fun o => .ok o) fun _ _ => rfl
  | bind _ _ first rest => exact first.bind rest
  | nested context _ inner => exact inner.nested context

/-! ### Closure -/

attribute [grind ←] Regular.pure Regular.throw Regular.options Regular.bind Regular.nested

/-- What is done with a value at the end keeps a reading regular. -/
@[grind ←]
theorem Regular.map {m : Reading α} (f : α → β) (regular : Regular m) : Regular (f <$> m) := by
  rw [← bind_pure_comp]
  exact regular.bind fun a => .pure (f a)

/-- Regular readings of items, one after another, are regular. -/
@[grind ←]
theorem Regular.mapM {f : α → Reading β} (regular : ∀ a, Regular (f a)) (items : List α) :
    Regular (items.mapM f) := by
  induction items with
  | nil => exact .pure []
  | cons a rest ih =>
    rw [List.mapM_cons]
    exact (regular a).bind fun _ => ih.bind fun _ => .pure _

/-! ### Answers -/

theorem answer_pure (a : α) (o : Options) : (pure a : Reading α).answer o = .ok a := rfl

theorem answer_throw (fault : Fault) (o : Options) :
    (throw fault : Reading α).answer o = .error fault := rfl

/-- What comes second finds the levels as what came first did. -/
theorem answer_bind {m : Reading α} {f : α → Reading β} (first : Regular m)
    (rest : ∀ a, Regular (f a)) (o : Options) :
    (m >>= f).answer o = m.answer o >>= fun a => (f a).answer o := by
  unfold answer
  cases given : (m.outcome o .start).1 with
  | error fault =>
    rw [outcome_bind_of_error given]
    rfl
  | ok a =>
    rw [outcome_bind_of_ok given]
    exact (rest a).balanced.result o (first.balanced.depth o .start)

/-- A sequence answers with a value when both parts do. -/
theorem answer_bind_eq_ok_iff {m : Reading α} {f : α → Reading β} (first : Regular m)
    (rest : ∀ a, Regular (f a)) {o : Options} {b : β} :
    (m >>= f).answer o = .ok b ↔ ∃ a, m.answer o = .ok a ∧ (f a).answer o = .ok b := by
  rw [answer_bind first rest, bind_eq_ok_iff]

/-- A sequence answers with the fault of its first part, or that of its second part after a value.
-/
theorem answer_bind_eq_error_iff {m : Reading α} {f : α → Reading β} (first : Regular m)
    (rest : ∀ a, Regular (f a)) {o : Options} {fault : Fault} :
    (m >>= f).answer o = .error fault ↔
      m.answer o = .error fault ∨ ∃ a, m.answer o = .ok a ∧ (f a).answer o = .error fault := by
  rw [answer_bind first rest]
  cases m.answer o with
  | error other => simp [bind, Except.bind]
  | ok a => simp [bind, Except.bind]

theorem answer_bind_of_ok {m : Reading α} {f : α → Reading β} (first : Regular m)
    (rest : ∀ a, Regular (f a)) {o : Options} {a : α} (given : m.answer o = .ok a) :
    (m >>= f).answer o = (f a).answer o := by
  rw [answer_bind first rest, given]
  rfl

/-- What comes after a reading only matters for the value that it gives. -/
theorem answer_bind_congr {m : Reading α} {f f' : α → Reading β} (first : Regular m)
    (rest : ∀ a, Regular (f a)) (rest' : ∀ a, Regular (f' a)) {o : Options}
    (same : ∀ a, m.answer o = .ok a → (f a).answer o = (f' a).answer o) :
    (m >>= f).answer o = (m >>= f').answer o := by
  rw [answer_bind first rest, answer_bind first rest']
  cases given : m.answer o with
  | error fault => rfl
  | ok a => exact same a given

theorem answer_map (f : α → β) {m : Reading α} (regular : Regular m) (o : Options) :
    (f <$> m).answer o = (m.answer o).map f := by
  rw [← bind_pure_comp, answer_bind regular fun a => .pure (f a)]
  cases m.answer o <;> rfl

/-- Items are answered one by one. -/
theorem answer_mapM {f : α → Reading β} (regular : ∀ a, Regular (f a)) (items : List α)
    (o : Options) : (items.mapM f).answer o = items.mapM fun a => (f a).answer o := by
  induction items with
  | nil => rfl
  | cons a rest ih =>
    rw [List.mapM_cons, List.mapM_cons,
      answer_bind (regular a) fun _ => (Regular.mapM regular rest).bind fun _ => .pure _]
    congr 1
    funext b
    rw [answer_bind (Regular.mapM regular rest) fun _ => .pure _, ih]
    rfl

end Reading
end ProgramModel
