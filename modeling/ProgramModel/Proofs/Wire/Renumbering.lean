import ProgramModel.FlowGraph.Record
import ProgramModel.Proofs.Wire.Members
import ProgramModel.Proofs.Wire.Readers

/-!
Documents whose ids are given other numbers. Procedures and nodes are numbered apart, so one
change is made where ids of procedures stand, and another one where those of nodes stand. Main
statements: where a change is made the changed ids are read (`idAt?_mapMembers`,
`idList?_mapMembers`), and the body of a node is read as before (`nodeBody_renumber`).
-/

namespace ProgramModel

namespace Json

/-! ### Ids in a document -/

/-- The id that a value gives. -/
def wireId? : Json → Option WireId
  | num n => n.integer?.bind (Bounded.ofInt? _ _)
  | _ => none

/-- The id under a key. -/
def idAt? (v : Json) (key : String) : Option WireId := (v.member? key).bind wireId?

/-- The items of an array under a key; none for anything else. -/
def itemsAt (v : Json) (key : String) : List Json :=
  match v.member? key with
  | some (arr items) => items
  | _ => []

/-- The ids in an array under a key, when all its items are ids. -/
def idList? (v : Json) (key : String) : Option (List WireId) :=
  match v.member? key with
  | some (arr items) => items.mapM wireId?
  | _ => none

/-- The ids in an array under a key. -/
def idsAt (v : Json) (key : String) : List WireId := (v.itemsAt key).filterMap wireId?

/-- All ids of procedures in a document, of those that it lists and of those that own nodes. -/
def procedureIds (v : Json) : List WireId :=
  (v.itemsAt "procs").filterMap (·.idAt? "pd_id") ++
    (v.itemsAt "nodes").filterMap (·.idAt? "nd_proc_id")

/-- The ids of nodes in the record of a procedure. -/
def endIds (v : Json) : List WireId :=
  (v.idAt? "pd_start_node").toList ++ (v.idAt? "pd_exit_node").toList

/-- The ids of other nodes in the record of a node. -/
def edgeIds (v : Json) : List WireId :=
  v.idsAt "nd_succ_ids" ++ v.idsAt "nd_pred_ids" ++ v.idsAt "nd_exn_ids"

/-- All ids of nodes in a document, of those that it lists and of those that are referred to. -/
def nodeIds (v : Json) : List WireId :=
  (v.itemsAt "procs").flatMap endIds ++ (v.itemsAt "nodes").filterMap (·.idAt? "nd_id") ++
    (v.itemsAt "nodes").flatMap edgeIds

/-! ### Other numbers for ids -/

/-- The value with its members changed, each as its key says. -/
def mapMembers (change : String → Json → Json) : Json → Json
  | obj members => obj (members.map fun m => (m.1, change m.1 m.2))
  | v => v

def mapItems (change : Json → Json) : Json → Json
  | arr items => arr (items.map change)
  | v => v

/-- Another number for an id. What is no id stays as it is. -/
def renumberId (f : WireId → WireId) (v : Json) : Json :=
  match v.wireId? with
  | some i => ofInt (f i).val
  | none => v

def renumberProcedure (f g : WireId → WireId) : Json → Json :=
  mapMembers fun
    | "pd_id" => renumberId f
    | "pd_start_node" | "pd_exit_node" => renumberId g
    | _ => id

def renumberNode (f g : WireId → WireId) : Json → Json :=
  mapMembers fun
    | "nd_proc_id" => renumberId f
    | "nd_id" => renumberId g
    | "nd_succ_ids" | "nd_pred_ids" | "nd_exn_ids" => mapItems (renumberId g)
    | _ => id

/-- The document with `f` on all ids of procedures and `g` on all ids of nodes. -/
def renumber (f g : WireId → WireId) : Json → Json :=
  mapMembers fun
    | "procs" => mapItems (renumberProcedure f g)
    | "nodes" => mapItems (renumberNode f g)
    | _ => id

variable {v w : Json} {key : String} {change : String → Json → Json} {f g : WireId → WireId}

/-- A member of a changed object is the changed member. -/
theorem member?_mapMembers (change : String → Json → Json) (v : Json) (key : String) :
    (v.mapMembers change).member? key = (v.member? key).map (change key) := by
  cases v with
  | obj members =>
    induction members with
    | nil => rfl
    | cons m rest ih =>
      simp only [mapMembers, member?, List.map_cons, List.find?_cons] at ih ⊢
      cases here : m.1 == key with
      | true => simp [beq_iff_eq.1 here]
      | false => exact ih
  | _ => rfl

theorem member?_mapMembers_of_eq_id (here : change key = id) (v : Json) :
    (v.mapMembers change).member? key = v.member? key := by
  rw [member?_mapMembers, here, Option.map_id]
  rfl

/-- A changed id is read as the change of the id, and what is no id stays none. -/
@[simp]
theorem wireId?_renumberId (f : WireId → WireId) (v : Json) :
    (v.renumberId f).wireId? = v.wireId?.map f := by
  unfold renumberId
  cases given : v.wireId? with
  | none => exact given
  | some i => simp [ofInt, wireId?, Numeral.integer?_ofInt, Bounded.ofInt?_val]

/-- A list of ids is read as a whole, before and after the change. -/
theorem mapM_wireId?_renumberId (f : WireId → WireId) (items : List Json) :
    (items.map (renumberId f)).mapM wireId? = (items.mapM wireId?).map (List.map f) := by
  induction items with
  | nil => rfl
  | cons w rest ih =>
    rw [List.map_cons, List.mapM_cons, List.mapM_cons, ih, wireId?_renumberId]
    cases w.wireId? with
    | none => rfl
    | some i => cases rest.mapM wireId? <;> rfl

/-- Under a key that the change is for, the id is the changed one. -/
theorem idAt?_mapMembers (here : change key = renumberId f) (v : Json) :
    (v.mapMembers change).idAt? key = (v.idAt? key).map f := by
  rw [idAt?, idAt?, member?_mapMembers, here]
  cases v.member? key <;> simp

/-- A list of ids under a key that is changed is read as the changed ids. -/
theorem idList?_mapMembers (here : change key = mapItems (renumberId f)) (v : Json) :
    (v.mapMembers change).idList? key = (v.idList? key).map (List.map f) := by
  rw [idList?, idList?, member?_mapMembers, here]
  cases v.member? key with
  | none => rfl
  | some w =>
    cases w with
    | arr items => exact mapM_wireId?_renumberId f items
    | _ => rfl

/-- A changed list is the change of a list, item by item. -/
theorem member?_mapMembers_arr_iff {each : Json → Json} (here : change key = mapItems each)
    {items : List Json} :
    (v.mapMembers change).member? key = some (.arr items) ↔
      ∃ before, v.member? key = some (.arr before) ∧ items = before.map each := by
  rw [member?_mapMembers, here, Option.map_eq_some_iff]
  constructor
  · rintro ⟨w, found, changed⟩
    cases w with
    | arr before => exact ⟨before, found, (Json.arr.inj changed).symm⟩
    | _ => cases changed
  · rintro ⟨before, found, rfl⟩
    exact ⟨_, found, rfl⟩

/-! ### Ids that are read -/

theorem itemsAt_of_member? {items : List Json} (found : v.member? key = some (.arr items)) :
    v.itemsAt key = items := by
  rw [itemsAt, found]

theorem filterMap_of_mapM {items : List Json} {ids : List WireId}
    (read : items.mapM wireId? = some ids) : items.filterMap wireId? = ids := by
  induction items generalizing ids with
  | nil => exact Option.some.inj read
  | cons w rest ih =>
    simp only [List.mapM_cons, Option.bind_eq_bind, Option.bind_eq_some_iff, Option.pure_def,
      Option.some.injEq] at read
    obtain ⟨i, first, more, others, rfl⟩ := read
    rw [List.filterMap_cons_some first, ih others]

/-- If all items of a list are ids, these are the ids in it. -/
theorem idsAt_of_idList? {ids : List WireId} (read : v.idList? key = some ids) :
    v.idsAt key = ids := by
  unfold idList? at read
  rw [idsAt, itemsAt]
  split at read
  · exact filterMap_of_mapM read
  · cases read

end Json

namespace Reading

variable {α β : Type} {o : Options} {v : Json} {key context : String}
  {change : String → Json → Json}

/-- The reader of ids is exact. -/
theorem answer_wireId_eq_ok_iff {i : WireId} :
    (wireId v context).answer o = .ok i ↔ v.wireId? = some i := by
  cases v with
  | num n =>
    rw [wireId, Json.wireId?]
    cases n.integer?.bind (Bounded.ofInt? _ _) with
    | some i => simp [answer_pure]
    | none => simp [mismatch, answer_throw]
  | _ => simp [wireId, Json.wireId?, mismatch, answer_throw]

/-- The reader of an id in a field is exact. -/
theorem answer_wireIdField_eq_ok_iff {i : WireId} :
    (wireIdField v key context).answer o = .ok i ↔ v.idAt? key = some i := by
  unfold wireIdField
  simp (disch := grind) only [answer_bind_eq_ok_iff, answer_field_eq_ok_iff,
    answer_wireId_eq_ok_iff]
  rw [Json.idAt?, Option.bind_eq_some_iff]
  constructor
  · rintro ⟨w, found, read⟩
    exact ⟨w.1, found, read⟩
  · rintro ⟨w, found, read⟩
    exact ⟨⟨w, Json.child_of_member? found⟩, found, read⟩

/-- The reader of a list of ids is exact. -/
theorem answer_nodeIds_eq_ok_iff {ids : List WireId} :
    (nodeIds v key).answer o = .ok ids ↔ v.idList? key = some ids := by
  have each (items : List Json) (ids : List WireId) :
      (items.mapM fun w => (wireId w "node id").answer o) = .ok ids ↔
        items.mapM Json.wireId? = some ids := by
    induction items generalizing ids with
    | nil => simp [pure, Except.pure]
    | cons w rest ih =>
      simp only [List.mapM_cons, bind_eq_ok_iff, answer_wireId_eq_ok_iff, ih,
        Option.bind_eq_bind, Option.bind_eq_some_iff, Option.pure_def, Option.some.injEq]
      simp [pure, Except.pure]
  unfold nodeIds listField list
  simp (disch := grind) only [answer_bind_eq_ok_iff, answer_field_eq_ok_iff,
    answer_items_eq_ok_iff, answer_mapM, each]
  rw [Json.idList?]
  constructor
  · rintro ⟨w, found, items, array, read⟩
    rw [found, array]
    exact read
  · intro read
    split at read
    · next items found => exact ⟨⟨_, Json.child_of_member? found⟩, found, items, rfl, read⟩
    · cases read

/-! ### Members that stay -/

/-- A field that is not changed is read as before. -/
theorem field_mapMembers {f' : Member (v.mapMembers change) → Reading β} {f : Member v → Reading β}
    (here : change key = id) (rest : ∀ w child' child, f' ⟨w, child'⟩ = f ⟨w, child⟩) :
    field (v.mapMembers change) key context >>= f' = field v key context >>= f := by
  have kept := Json.member?_mapMembers_of_eq_id here v
  cases found : v.member? key with
  | some w =>
    rw [found] at kept
    rw [field_eq_pure found, field_eq_pure kept, pure_bind, pure_bind]
    exact rest _ _ _
  | none =>
    rw [found] at kept
    cases v with
    | obj members =>
      have missing : field ((Json.obj members).mapMembers change) key context =
          throw (.missingField key context) :=
        field_eq_throw kept
      rw [missing, field_eq_throw found, throw_bind, throw_bind]
    | _ => rfl

theorem listField_mapMembers (here : change key = id) (readItem : Json → Reading α) :
    listField (v.mapMembers change) key context readItem = listField v key context readItem :=
  field_mapMembers here fun _ _ _ => rfl

/-- The body of a node has no ids in it, so it is read as before. -/
theorem nodeBody_renumber (f g : WireId → WireId) (v : Json) :
    nodeBody (v.renumberNode f g) = nodeBody v :=
  bind_eq_bind (listField_mapMembers rfl _) fun _ =>
    field_mapMembers rfl fun _ _ _ => bind_eq_bind rfl fun _ =>
    bind_eq_bind (field_mapMembers rfl fun _ _ _ => rfl) fun _ =>
    bind_eq_bind (listField_mapMembers rfl _) fun _ =>
    bind_eq_bind (listField_mapMembers rfl _) fun _ =>
    bind_eq_bind (listField_mapMembers rfl _) fun _ => rfl

end Reading
end ProgramModel
