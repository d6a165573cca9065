import Mathlib.Data.List.Forall2
import ProgramModel.FlowGraph.Walk
import ProgramModel.Proofs.FlowGraph.Linking
import ProgramModel.Proofs.Wire.Members
import ProgramModel.Proofs.Wire.Readers

/-!
Documents and their records. `Records.ReadFrom` says of a document, without any notion
of order or of linking, which records it lists. Main statements: registration succeeds
exactly when all items can be read by themselves and no id comes twice, and the roster
then holds the records that were read (`answer_register_eq_ok_iff`); a document is a
graph exactly when it lists closed records with distinct ids, and the graph is that of
the rosters of these records (`answer_flowGraph_eq_ok_iff`).
-/

namespace ProgramModel

/-! ### Records by themselves -/

/-- What the record of a procedure says. -/
structure IsProcRecord (o : Options) (w : Json) (e : WireId × ProcRecord) : Prop where
  id : (Reading.wireIdField w "pd_id" "procedure record").answer o = .ok e.1
  attributes : ∃ a, w.member? "pd_attributes" = some a ∧
    (Reading.attributes a).answer o = .ok e.2.attributes
  start : (Reading.wireIdField w "pd_start_node" "procedure record").answer o = .ok e.2.start
  exit : (Reading.wireIdField w "pd_exit_node" "procedure record").answer o = .ok e.2.exit

/-- What the record of a node says, whether or not its owner has a record. -/
structure IsNodeRecord (o : Options) (w : Json) (e : WireId × NodeRecord) : Prop where
  id : (Reading.wireIdField w "nd_id" "node record").answer o = .ok e.1
  owner : (Reading.wireIdField w "nd_proc_id" "node record").answer o = .ok e.2.owner
  body : (Reading.nodeBody w).answer o = .ok e.2.body
  succs : (Reading.nodeIds w "nd_succ_ids").answer o = .ok e.2.succs
  preds : (Reading.nodeIds w "nd_pred_ids").answer o = .ok e.2.preds
  exceptional : (Reading.nodeIds w "nd_exn_ids").answer o = .ok e.2.exceptional

/-- The document is an object with an array of procedures and one of nodes, and the items
of these are the records. -/
structure Records.ReadFrom (o : Options) (v : Json) (r : Records) : Prop where
  procedures : ∃ items, v.member? "procs" = some (.arr items) ∧
    List.Forall₂ (IsProcRecord o) items r.procedures
  nodes : ∃ items, v.member? "nodes" = some (.arr items) ∧
    List.Forall₂ (IsNodeRecord o) items r.nodes

/-- No two procedures have the same id, and no two nodes. -/
structure Records.Distinct (r : Records) : Prop where
  procedures : r.procedureIds.Nodup
  nodes : r.nodeIds.Nodup

namespace Reading

variable {α : Type} {o : Options}

/-! ### Single records -/

/-- A procedure is read as a record when each of its four keys is read as the entry of this
record. The order of the keys in the document has no say. -/
theorem answer_procRecord_eq_ok_iff {w : Json} {e : WireId × ProcRecord} :
    (procRecord w).answer o = .ok e ↔ IsProcRecord o w e := by
  unfold procRecord
  simp (disch := grind) only [answer_bind_eq_ok_iff, answer_field_eq_ok_iff]
  constructor
  · rintro ⟨id, idRead, a, member, attributes, attributesRead, start, startRead, exit, exitRead,
      same⟩
    cases same
    exact ⟨idRead, ⟨a.1, member, attributesRead⟩, startRead, exitRead⟩
  · rintro ⟨id, ⟨a, member, attributes⟩, start, exit⟩
    exact ⟨_, id, ⟨a, Json.child_of_member? member⟩, member, _, attributes, _, start, _, exit, rfl⟩

/-- A node is read as a record when its keys are, and the owner in it is known. -/
theorem answer_nodeRecord_eq_ok_iff {known : WireId → Bool} {w : Json} {e : WireId × NodeRecord} :
    (nodeRecord known w).answer o = .ok e ↔ IsNodeRecord o w e ∧ known e.2.owner = true := by
  unfold nodeRecord
  simp (disch := grind) only [answer_bind_eq_ok_iff]
  constructor
  · rintro ⟨id, idRead, owner, ownerRead, rest⟩
    cases owned : known owner with
    | false =>
      simp (disch := grind) only [owned, Bool.not_false, if_true, answer_bind_eq_ok_iff,
        answer_throw] at rest
      obtain ⟨_, fault, _⟩ := rest
      cases fault
    | true =>
      simp (disch := grind) only [owned, Bool.not_true, Bool.false_eq_true, if_false,
        answer_bind_eq_ok_iff] at rest
      obtain ⟨body, bodyRead, succs, succsRead, preds, predsRead, exceptional, exceptionalRead,
        same⟩ := rest
      cases same
      exact ⟨⟨idRead, ownerRead, bodyRead, succsRead, predsRead, exceptionalRead⟩, owned⟩
  · rintro ⟨⟨id, owner, body, succs, preds, exceptional⟩, owned⟩
    refine ⟨_, id, _, owner, ?_⟩
    simp (disch := grind) only [owned, Bool.not_true, Bool.false_eq_true, if_false,
      answer_bind_eq_ok_iff]
    exact ⟨_, body, _, succs, _, preds, _, exceptional, rfl⟩

/-! ### Registration -/

/-- All items are records by themselves, and the roster has these besides what it had. That
no id comes twice is in the roster already. -/
theorem answer_register_eq_ok_iff {entity : Entity} {readRecord : Json → Reading (WireId × α)}
    {isRecord : Json → WireId × α → Prop} (regular : ∀ w, Regular (readRecord w))
    (each : ∀ w e, (readRecord w).answer o = .ok e ↔ isRecord w e) {roster filled : Roster α}
    {items : List Json} :
    (register entity readRecord roster items).answer o = .ok filled ↔
      ∃ records, List.Forall₂ isRecord items records ∧
        filled.entries.Perm (records ++ roster.entries) := by
  induction items generalizing roster with
  | nil =>
    simp only [register, answer_pure, Except.ok.injEq, List.forall₂_nil_left_iff, exists_eq_left,
      List.nil_append]
    exact ⟨fun same => same ▸ .refl _, fun same => (Roster.eq_of_perm same).symm⟩
  | cons w rest ih =>
    rw [register, answer_bind_eq_ok_iff (regular w) (by grind)]
    constructor
    · rintro ⟨⟨id, record⟩, read, others⟩
      dsimp only at others
      cases inserted : roster.insert? id record with
      | none =>
        rw [inserted] at others
        cases others
      | some grown =>
        rw [inserted] at others
        obtain ⟨records, reads, same⟩ := ih.1 others
        refine ⟨(id, record) :: records, .cons ((each w _).1 read) reads, same.trans ?_⟩
        exact ((Roster.perm_insert? inserted).append_left records).trans List.perm_middle
    · rintro ⟨_, reads, same⟩
      cases reads with
      | @cons _ e _ records first reads =>
      refine ⟨e, (each w e).2 first, ?_⟩
      dsimp only
      cases inserted : roster.insert? e.1 e.2 with
      | none =>
        -- The id would be twice in the roster that is to be reached.
        have taken : e.1 ∈ (records ++ roster.entries).map (·.1) :=
          List.map_append ▸ List.mem_append_right _ (Roster.insert?_eq_none_iff.1 inserted)
        have distinct : ((e :: records ++ roster.entries).map (·.1)).Nodup :=
          (same.map _).nodup_iff.1 filled.nodup_ids
        exact absurd taken (List.nodup_cons.1 distinct).1
      | some grown =>
        refine ih.2 ⟨records, reads, same.trans ?_⟩
        exact (((Roster.perm_insert? inserted).append_left records).trans List.perm_middle).symm

/-- A condition on the results alone can be taken out of a list of pairs. -/
theorem forall₂_and_right {α β : Type} {R : α → β → Prop} {p : β → Prop} {items : List α}
    {results : List β} :
    List.Forall₂ (fun a b => R a b ∧ p b) items results ↔
      List.Forall₂ R items results ∧ ∀ b ∈ results, p b := by
  induction items generalizing results with
  | nil => simp +contextual [List.forall₂_nil_left_iff]
  | cons a rest ih => cases results <;> simp [ih, and_assoc, and_left_comm]

/-- A document is accepted when its items are closed records with distinct ids, and its graph is
the one that is linked from these by ascending ids. -/
theorem answer_flowGraph_eq_ok_iff {v : Json} {g : FlowGraph} :
    (flowGraph v).answer o = .ok g ↔
      ∃ r procedures nodes, Records.ReadFrom o v r ∧ (Records.ofRosters procedures nodes).Perm r ∧
        (Records.ofRosters procedures nodes).Closed ∧ g = FlowGraph.linked procedures nodes := by
  unfold flowGraph
  simp (disch := grind) only [answer_bind_eq_ok_iff, answer_field_eq_ok_iff,
    answer_items_eq_ok_iff,
    answer_register_eq_ok_iff regular_procRecord fun _ _ => answer_procRecord_eq_ok_iff,
    answer_register_eq_ok_iff (regular_nodeRecord _) fun _ _ => answer_nodeRecord_eq_ok_iff,
    forall₂_and_right]
  constructor
  · rintro ⟨⟨_, _⟩, procs, procItems, rfl, ⟨_, _⟩, nodes, nodeItems, rfl, P,
      ⟨ps, procReads, procPerm⟩, N, ⟨ns, ⟨nodeReads, _⟩, nodePerm⟩, linking⟩
    obtain ⟨closed, rfl⟩ := FlowGraph.ofRosters_eq_ok_iff.1 linking
    -- Both registrations begin with an empty roster.
    refine ⟨⟨ps, ns⟩, P, N, ⟨⟨_, procs, procReads⟩, ⟨_, nodes, nodeReads⟩⟩, ?_, closed, rfl⟩
    exact ⟨procPerm.trans (.of_eq (List.append_nil ps)),
      nodePerm.trans (.of_eq (List.append_nil ns))⟩
  · rintro ⟨r, P, N, ⟨⟨procItems, procs, procReads⟩, ⟨nodeItems, nodes, nodeReads⟩⟩, same, closed,
      rfl⟩
    have procPerm : P.entries.Perm (r.procedures ++ Roster.empty.entries) :=
      same.procedures.trans (.of_eq (List.append_nil _).symm)
    have nodePerm : N.entries.Perm (r.nodes ++ Roster.empty.entries) :=
      same.nodes.trans (.of_eq (List.append_nil _).symm)
    have owned : ∀ e ∈ r.nodes, P.contains e.2.owner = true := fun e mem =>
      Roster.contains_iff.2 (closed.owner e (same.nodes.mem_iff.2 mem))
    exact ⟨⟨_, Json.child_of_member? procs⟩, procs, procItems, rfl,
      ⟨_, Json.child_of_member? nodes⟩, nodes, nodeItems, rfl,
      P, ⟨_, procReads, procPerm⟩, N, ⟨_, ⟨nodeReads, owned⟩, nodePerm⟩,
      FlowGraph.ofRosters_eq_ok_iff.2 ⟨closed, rfl⟩⟩

end Reading

/-! ### A small document -/

namespace Sample

def location : Json := .obj [("line", .ofInt 1), ("col", .ofInt 2)]

def void : Json := .obj [("type_kind", .str "Tvoid")]

def procName : Json := .obj [("method_name", .str "f"), ("class_name", .str "A"),
  ("parameters", .arr []), ("return_type", void), ("is_static", .bool true)]

def attributes : Json := .obj [("access", .str "Public"), ("captured", .arr []),
  ("exceptions", .arr []), ("formals", .arr []), ("locals", .arr []),
  ("is_abstract", .bool false), ("is_bridge_method", .bool false), ("is_defined", .bool true),
  ("is_synthetic_method", .bool false), ("loc", location),
  ("method_annotations", .obj [("return", .arr []), ("params", .arr [])]),
  ("proc_name", procName), ("ret_type", void)]

def procedure (id start exit : Int) : Json := .obj [("pd_id", .ofInt id),
  ("pd_attributes", attributes), ("pd_start_node", .ofInt start), ("pd_exit_node", .ofInt exit)]

def node (id owner : Int) (succs preds exceptional : List Int) : Json :=
  .obj [("nd_id", .ofInt id), ("nd_proc_id", .ofInt owner), ("nd_temps", .arr []),
    ("nd_kind", .obj [("kind", .str "JoinNode")]), ("nd_loc", location), ("nd_instrs", .arr []),
    ("nd_dead_pvars_before", .arr []), ("nd_dead_pvars_after", .arr []),
    ("nd_succ_ids", .arr (succs.map .ofInt)), ("nd_pred_ids", .arr (preds.map .ofInt)),
    ("nd_exn_ids", .arr (exceptional.map .ofInt))]

def procedures : List Json := [procedure 7 (-3) 4, procedure (-1) 9 9]

/-- Two loops, an edge that is there twice, and one into another procedure. -/
def nodes : List Json :=
  [node 9 (-1) [9] [9] [], node 4 7 [] [-3] [], node (-3) 7 [4, -3, 4] [-3] [9]]

def document : Json := .obj [("procs", .arr procedures), ("nodes", .arr nodes)]

/-- The order in which procedure 7 of the document is walked, by the ids of the nodes. -/
def order (g : FlowGraph) : Option (List Int) := do
  let order ← g.reversePostorder? ⟨1⟩
  return (← g.nodesAt? order).map (·.id.val)

/-- The sample is accepted, and the walk of procedure 7 meets the target that is there twice once. -/
theorem exists_flowGraph :
    ∃ g, (Reading.flowGraph document).answer .default = .ok g ∧ order g = some [-3, 9, 4] := by
  have computed : ((Reading.flowGraph document).answer .default).toOption.bind order =
      some [-3, 9, 4] := by
    decide +kernel
  cases read : (Reading.flowGraph document).answer .default with
  | error fault =>
    rw [read] at computed
    cases computed
  | ok g =>
    rw [read] at computed
    exact ⟨g, rfl, computed⟩

end Sample
end ProgramModel
