import ProgramModel.Proofs.FlowGraph.Registration

/-!
Lists that do not register. Items go into a roster one by one, and the first that is no record,
or whose id is taken, ends the list with its fault. Main statements: a list registers exactly when
its items are records with distinct ids (`answer_register_empty_eq_ok_iff`), and otherwise has the
fault of the first item in its way (`answer_register_empty_eq_error_iff`).
-/

namespace ProgramModel

/-! ### Items of a list -/

section Items

variable {α : Type}

/-- The items are these records, and no id comes twice. -/
structure RegisterAs (isRecord : Json → WireId × α → Prop) (items : List Json)
    (records : List (WireId × α)) : Prop where
  read : List.Forall₂ isRecord items records
  distinct : (records.map (·.1)).Nodup

/-- The first item that does not register is a record by itself, and its id is that of an
earlier one. -/
inductive RepeatsFirst (isRecord : Json → WireId × α → Prop) (items : List Json) : WireId → Prop
  | repeated {before after : List Json} {w : Json} {records : List (WireId × α)} {e : WireId × α}
      (split : items = before ++ w :: after) (earlier : RegisterAs isRecord before records)
      (read : isRecord w e) (taken : e.1 ∈ records.map (·.1)) : RepeatsFirst isRecord items e.1

/-- The fault of the first item that does not register: that of the item itself, or a repeated
id. -/
inductive RefusedFirst (entity : Entity) (isRecord : Json → WireId × α → Prop)
    (unread : Json → Fault → Prop) (items : List Json) : Fault → Prop
  | unread {before after : List Json} {w : Json} {records : List (WireId × α)} {fault : Fault}
      (split : items = before ++ w :: after) (earlier : RegisterAs isRecord before records)
      (fails : unread w fault) : RefusedFirst entity isRecord unread items fault
  | repeated {id : WireId} (repeats : RepeatsFirst isRecord items id) :
      RefusedFirst entity isRecord unread items (.duplicateId entity id)

end Items

namespace Reading

section Register

variable {α : Type} {o : Options} {entity : Entity} {readRecord : Json → Reading (WireId × α)}
  {roster filled : Roster α} {w : Json} {items rest : List Json} {fault : Fault}

/-- What a roster has against an item. -/
inductive RefusedBy (o : Options) (entity : Entity) (readRecord : Json → Reading (WireId × α))
    (roster : Roster α) (w : Json) : Fault → Prop
  | unread {fault : Fault} (fails : (readRecord w).answer o = .error fault) :
      RefusedBy o entity readRecord roster w fault
  | repeated {e : WireId × α} (read : (readRecord w).answer o = .ok e) (taken : e.1 ∈ roster.ids) :
      RefusedBy o entity readRecord roster w (.duplicateId entity e.1)

/-! ### One item -/

/-- A list registers when its first item is a record with a new id and the rest registers after
it. -/
theorem answer_register_cons_eq_ok_iff (regular : ∀ w, Regular (readRecord w)) :
    (register entity readRecord roster (w :: rest)).answer o = .ok filled ↔
      ∃ e grown, (readRecord w).answer o = .ok e ∧ roster.insert? e.1 e.2 = some grown ∧
        (register entity readRecord grown rest).answer o = .ok filled := by
  rw [register, answer_bind_eq_ok_iff (regular w) (by grind)]
  constructor
  · rintro ⟨⟨id, record⟩, read, others⟩
    cases inserted : roster.insert? id record with
    | none => simp [inserted, answer_throw] at others
    | some grown => exact ⟨_, grown, read, inserted, by simpa only [inserted] using others⟩
  · rintro ⟨⟨id, record⟩, grown, read, inserted, others⟩
    exact ⟨_, read, by simpa only [inserted] using others⟩

/-- A list fails for its first item, or this item is a record with a new id and the rest fails
after it. -/
theorem answer_register_cons_eq_error_iff (regular : ∀ w, Regular (readRecord w)) :
    (register entity readRecord roster (w :: rest)).answer o = .error fault ↔
      RefusedBy o entity readRecord roster w fault ∨
        ∃ e grown, (readRecord w).answer o = .ok e ∧ roster.insert? e.1 e.2 = some grown ∧
          (register entity readRecord grown rest).answer o = .error fault := by
  rw [register, answer_bind_eq_error_iff (regular w) (by grind)]
  constructor
  · rintro (fails | ⟨⟨id, record⟩, read, others⟩)
    · exact .inl (.unread fails)
    · cases inserted : roster.insert? id record with
      | none =>
        simp only [inserted, answer_throw, Except.error.injEq] at others
        exact .inl (others ▸ .repeated read (Roster.insert?_eq_none_iff.1 inserted))
      | some grown => exact .inr ⟨_, grown, read, inserted, by simpa only [inserted] using others⟩
  · rintro (refused | ⟨⟨id, record⟩, grown, read, inserted, others⟩)
    · cases refused with
      | unread fails => exact .inl fails
      | @repeated e read taken =>
        refine .inr ⟨e, read, ?_⟩
        simp [Roster.insert?_eq_none_iff.2 taken, answer_throw]
    · exact .inr ⟨_, read, by simpa only [inserted] using others⟩

/-! ### All items -/

/-- The fault is that of the first item that the roster of those before it refuses. -/
theorem answer_register_eq_error_iff (regular : ∀ w, Regular (readRecord w)) :
    (register entity readRecord roster items).answer o = .error fault ↔
      ∃ before w after grown, items = before ++ w :: after ∧
        (register entity readRecord roster before).answer o = .ok grown ∧
        RefusedBy o entity readRecord grown w fault := by
  -- On the list, for all rosters: each item that goes in leaves a larger one to the rest.
  induction items generalizing roster with
  | nil =>
    constructor
    · intro fails
      cases fails
    · rintro ⟨before, _, _, _, split, _⟩
      cases before <;> cases split
  | cons w rest ih =>
    rw [answer_register_cons_eq_error_iff regular]
    constructor
    · rintro (refused | ⟨e, grown, read, inserted, others⟩)
      · exact ⟨[], w, rest, roster, rfl, rfl, refused⟩
      · obtain ⟨before, w', after, filled, rfl, accepted, refused⟩ := ih.1 others
        exact ⟨w :: before, w', after, filled, rfl,
          (answer_register_cons_eq_ok_iff regular).2 ⟨e, grown, read, inserted, accepted⟩, refused⟩
    · rintro ⟨before, w', after, filled, split, accepted, refused⟩
      cases before with
      | nil =>
        cases split
        cases accepted
        exact .inl refused
      | cons head before =>
        cases split
        obtain ⟨e, grown, read, inserted, others⟩ :=
          (answer_register_cons_eq_ok_iff regular).1 accepted
        exact .inr ⟨e, grown, read, inserted,
          ih.2 ⟨before, w', after, filled, rfl, others, refused⟩⟩

variable {isRecord : Json → WireId × α → Prop} {unread : Json → Fault → Prop}

/-- Lists register as the records of their items, when these have distinct ids. -/
theorem answer_register_empty_eq_ok_iff (regular : ∀ w, Regular (readRecord w))
    (each : ∀ w e, (readRecord w).answer o = .ok e ↔ isRecord w e) :
    (register entity readRecord .empty items).answer o = .ok filled ↔
      ∃ records, RegisterAs isRecord items records ∧ filled.entries.Perm records := by
  rw [answer_register_eq_ok_iff regular each]
  constructor
  · rintro ⟨records, read, same⟩
    replace same : filled.entries.Perm records := same.trans (.of_eq (List.append_nil records))
    exact ⟨records, ⟨read, (same.map _).nodup_iff.1 filled.nodup_ids⟩, same⟩
  · rintro ⟨records, registered, same⟩
    exact ⟨records, registered.read, same.trans (.of_eq (List.append_nil records).symm)⟩

/-- A list of records with distinct ids does register. -/
theorem exists_answer_register (entity : Entity) (regular : ∀ w, Regular (readRecord w))
    (each : ∀ w e, (readRecord w).answer o = .ok e ↔ isRecord w e)
    {records : List (WireId × α)} (registered : RegisterAs isRecord items records) :
    ∃ filled, (register entity readRecord .empty items).answer o = .ok filled ∧
      filled.entries.Perm records := by
  obtain ⟨filled, same⟩ := Roster.exists_perm registered.distinct
  exact ⟨filled, (answer_register_empty_eq_ok_iff regular each).2 ⟨_, registered, same⟩, same⟩

/-- A list fails for the first item that is no record or has the id of an earlier record, and with
the fault of this item. -/
theorem answer_register_empty_eq_error_iff (regular : ∀ w, Regular (readRecord w))
    (each : ∀ w e, (readRecord w).answer o = .ok e ↔ isRecord w e)
    (fails : ∀ w fault, (readRecord w).answer o = .error fault ↔ unread w fault) :
    (register entity readRecord .empty items).answer o = .error fault ↔
      RefusedFirst entity isRecord unread items fault := by
  rw [answer_register_eq_error_iff regular]
  constructor
  · rintro ⟨before, w, after, grown, split, accepted, refused⟩
    obtain ⟨records, earlier, same⟩ := (answer_register_empty_eq_ok_iff regular each).1 accepted
    cases refused with
    | unread refuses => exact .unread split earlier ((fails w fault).1 refuses)
    | repeated read taken =>
      exact .repeated (.repeated split earlier ((each w _).1 read) ((same.map _).mem_iff.1 taken))
  · rintro (⟨split, earlier, refuses⟩ | ⟨⟨split, earlier, read, taken⟩⟩)
    · obtain ⟨grown, accepted, _⟩ := exists_answer_register entity regular each earlier
      exact ⟨_, _, _, grown, split, accepted, .unread ((fails _ _).2 refuses)⟩
    · obtain ⟨grown, accepted, same⟩ := exists_answer_register entity regular each earlier
      exact ⟨_, _, _, grown, split, accepted,
        .repeated ((each _ _).2 read) ((same.map _).mem_iff.2 taken)⟩

end Register

end Reading
end ProgramModel
