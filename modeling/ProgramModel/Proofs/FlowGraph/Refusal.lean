import Mathlib.Data.List.Perm.Basic
import ProgramModel.Proofs.FlowGraph.Dangling
import ProgramModel.Proofs.FlowGraph.FirstRefusal
import ProgramModel.Proofs.Wire.ValueFaults

/-!
Documents that are no graphs. Their records are registered first, in the order in which the
document lists them, and linked then, in the order of their ids. Main statements: registration
gives rosters of all records, or the fault of the first item that does not register
(`answer_registration_eq_ok_iff`, `answer_registration_eq_error_iff`); which fault a document has,
when it repeats an id, and that the order of its items has no say once all of them register
(`flowGraph_fault`).
-/

namespace ProgramModel

/-! ### Items of a graph -/

/-- The record of a node that names one of the owners. -/
def IsOwnedNode (o : Options) (owners : List WireId) (w : Json) (e : WireId × NodeRecord) : Prop :=
  IsNodeRecord o w e ∧ e.2.owner ∈ owners

/-- The item has the id of a node, and that of an owner which is none of these. -/
structure Stray (o : Options) (owners : List WireId) (w : Json) (id owner : WireId) : Prop where
  idRead : (Reading.wireIdField w "nd_id" "node record").answer o = .ok id
  ownerRead : (Reading.wireIdField w "nd_proc_id" "node record").answer o = .ok owner
  unknown : owner ∉ owners

/-- Why an item is not the record of a node with one of the owners. Nothing more is read of an
item that names another owner. -/
inductive NodeFault (o : Options) (owners : List WireId) (w : Json) : Fault → Prop
  | stray {id owner : WireId} (stray : Stray o owners w id owner) :
      NodeFault o owners w (.unresolvedReference .procedure owner (.ownerOf id))
  | unread {fault : Fault} (owned : ∀ id owner, ¬ Stray o owners w id owner)
      (fails : (Reading.nodeRecord (fun _ => true) w).answer o = .error fault) :
      NodeFault o owners w fault

/-- All items are records with distinct ids, and each node names one of the procedures. -/
structure Registered (o : Options) (procs nodes : List Json) (r : Records) : Prop where
  procedures : RegisterAs (IsProcRecord o) procs r.procedures
  nodes : RegisterAs (IsOwnedNode o r.procedureIds) nodes r.nodes

/-- The fault of the first item that does not register. The procedures come before the nodes,
and both as they are listed. -/
inductive Unregistered (o : Options) (procs nodes : List Json) : Fault → Prop
  | procedure {fault : Fault} (first : RefusedFirst .procedure (IsProcRecord o)
        (fun w fault => (Reading.procRecord w).answer o = .error fault) procs fault) :
      Unregistered o procs nodes fault
  | node {records : List (WireId × ProcRecord)} {fault : Fault}
      (registered : RegisterAs (IsProcRecord o) procs records)
      (first : RefusedFirst .node (IsOwnedNode o (records.map (·.1)))
        (NodeFault o (records.map (·.1))) nodes fault) : Unregistered o procs nodes fault

/-- The first item that does not register is a record by itself, names a procedure if it is that
of a node, and has the id of an earlier record of its kind. -/
inductive Repeats (o : Options) (procs nodes : List Json) : Entity → WireId → Prop
  | procedure {id : WireId} (repeats : RepeatsFirst (IsProcRecord o) procs id) :
      Repeats o procs nodes .procedure id
  | node {records : List (WireId × ProcRecord)} {id : WireId}
      (registered : RegisterAs (IsProcRecord o) procs records)
      (repeats : RepeatsFirst (IsOwnedNode o (records.map (·.1))) nodes id) :
      Repeats o procs nodes .node id

variable {o : Options} {v w : Json} {procs nodes procs' nodes' : List Json} {fault : Fault}

namespace Reading

variable {owners : List WireId} {known : WireId → Bool}

/-! ### One node -/

/-- A node without an owner has the fault of its owner, whatever else its record has. -/
theorem answer_nodeRecord_of_stray (knows : ∀ id, known id = true ↔ id ∈ owners)
    {id owner : WireId} (stray : Stray o owners w id owner) :
    (nodeRecord known w).answer o =
      .error (.unresolvedReference .procedure owner (.ownerOf id)) := by
  have unknown : known owner = false :=
    Bool.eq_false_iff.2 fun accepted => stray.unknown ((knows owner).1 accepted)
  rw [nodeRecord, answer_bind_of_ok (by grind) (by grind) stray.idRead,
    answer_bind_of_ok (by grind) (by grind) stray.ownerRead, unknown]
  simp (disch := grind) only [Bool.not_false, if_true, answer_bind, answer_throw]
  rfl

/-- A node that is not without an owner is read as if all owners were known. -/
theorem answer_nodeRecord_of_owned (knows : ∀ id, known id = true ↔ id ∈ owners)
    (owned : ∀ id owner, ¬ Stray o owners w id owner) :
    (nodeRecord known w).answer o = (nodeRecord (fun _ => true) w).answer o := by
  unfold nodeRecord
  refine answer_bind_congr (by grind) (by grind) (by grind) fun id idRead => ?_
  refine answer_bind_congr (by grind) (by grind) (by grind) fun owner ownerRead => ?_
  have accepted : known owner = true := by
    by_contra unknown
    exact owned id owner ⟨idRead, ownerRead, fun mem => unknown ((knows owner).2 mem)⟩
  rw [accepted]

/-- The faults of a node are that of an unknown owner and those of its record by itself. -/
theorem answer_nodeRecord_eq_error_iff (knows : ∀ id, known id = true ↔ id ∈ owners) :
    (nodeRecord known w).answer o = .error fault ↔ NodeFault o owners w fault := by
  constructor
  · intro fails
    by_cases owned : ∀ id owner, ¬ Stray o owners w id owner
    · exact .unread owned (answer_nodeRecord_of_owned knows owned ▸ fails)
    · push Not at owned
      obtain ⟨id, owner, stray⟩ := owned
      cases (answer_nodeRecord_of_stray knows stray).symm.trans fails
      exact .stray stray
  · rintro (stray | ⟨owned, fails⟩)
    · exact answer_nodeRecord_of_stray knows stray
    · exact (answer_nodeRecord_of_owned knows owned).trans fails

/-! ### Both lists -/

/-- The rosters of procedures and nodes, without their links. -/
def registration (procs nodes : List Json) : Reading (Roster ProcRecord × Roster NodeRecord) := do
  let procedures ← register .procedure procRecord .empty procs
  let nodes ← register .node (nodeRecord procedures.contains) .empty nodes
  return (procedures, nodes)

@[grind ←]
theorem regular_registration (procs nodes : List Json) : Regular (registration procs nodes) := by
  unfold registration
  grind

/-- A document with both lists is registered and then linked. -/
theorem flowGraph_eq_registration (procsListed : v.member? "procs" = some (.arr procs))
    (nodesListed : v.member? "nodes" = some (.arr nodes)) :
    flowGraph v = registration procs nodes >>= fun rosters =>
      ofExcept (FlowGraph.ofRosters rosters.1 rosters.2) := by
  simp only [flowGraph, registration, field_eq_pure procsListed, field_eq_pure nodesListed, items,
    pure_bind, bind_assoc]

section Nodes

variable {P : Roster ProcRecord} {records : List (WireId × ProcRecord)}
  (same : P.entries.Perm records)
include same

theorem contains_iff_of_perm (id : WireId) : P.contains id = true ↔ id ∈ records.map (·.1) := by
  rw [Roster.contains_iff, Roster.ids, (same.map _).mem_iff]

/-- Nodes register as their records, when these have distinct ids and owners among the procedures.
-/
theorem answer_nodes_eq_ok_iff {N : Roster NodeRecord} :
    (register .node (nodeRecord P.contains) .empty nodes).answer o = .ok N ↔
      ∃ nodeRecords, RegisterAs (IsOwnedNode o (records.map (·.1))) nodes nodeRecords ∧
        N.entries.Perm nodeRecords := by
  refine answer_register_empty_eq_ok_iff (regular_nodeRecord _) fun w e => ?_
  rw [answer_nodeRecord_eq_ok_iff, contains_iff_of_perm same]
  rfl

/-- Nodes fail for the first one that does not register after the procedures. -/
theorem answer_nodes_eq_error_iff :
    (register .node (nodeRecord P.contains) .empty nodes).answer o = .error fault ↔
      RefusedFirst .node (IsOwnedNode o (records.map (·.1))) (NodeFault o (records.map (·.1)))
        nodes fault := by
  refine answer_register_empty_eq_error_iff (regular_nodeRecord _) (fun w e => ?_) fun w fault =>
    answer_nodeRecord_eq_error_iff (contains_iff_of_perm same)
  rw [answer_nodeRecord_eq_ok_iff, contains_iff_of_perm same]
  rfl

end Nodes

/-- Procedures register as their records, when these have distinct ids. -/
theorem answer_procedures_eq_ok_iff {P : Roster ProcRecord} :
    (register .procedure procRecord .empty procs).answer o = .ok P ↔
      ∃ records, RegisterAs (IsProcRecord o) procs records ∧ P.entries.Perm records :=
  answer_register_empty_eq_ok_iff regular_procRecord fun _ _ => answer_procRecord_eq_ok_iff

/-- Procedures fail for the first one that does not register. -/
theorem answer_procedures_eq_error_iff :
    (register .procedure procRecord .empty procs).answer o = .error fault ↔
      RefusedFirst .procedure (IsProcRecord o)
        (fun w fault => (procRecord w).answer o = .error fault) procs fault :=
  answer_register_empty_eq_error_iff regular_procRecord
    (fun _ _ => answer_procRecord_eq_ok_iff) fun _ _ => .rfl

/-- Both lists register as their records, and rosters have these by ascending ids. -/
theorem answer_registration_eq_ok_iff {rosters : Roster ProcRecord × Roster NodeRecord} :
    (registration procs nodes).answer o = .ok rosters ↔
      ∃ r, Registered o procs nodes r ∧ (Records.ofRosters rosters.1 rosters.2).Perm r := by
  unfold registration
  simp (disch := grind) only [answer_bind_eq_ok_iff]
  constructor
  · rintro ⟨P, procsRead, N, nodesRead, same⟩
    cases same
    obtain ⟨records, procedures, sameProcs⟩ := answer_procedures_eq_ok_iff.1 procsRead
    obtain ⟨nodeRecords, nodes, sameNodes⟩ := (answer_nodes_eq_ok_iff sameProcs).1 nodesRead
    exact ⟨⟨records, nodeRecords⟩, ⟨procedures, nodes⟩, ⟨sameProcs, sameNodes⟩⟩
  · rintro ⟨r, registered, same⟩
    exact ⟨rosters.1, answer_procedures_eq_ok_iff.2 ⟨_, registered.procedures, same.procedures⟩,
      rosters.2, (answer_nodes_eq_ok_iff same.procedures).2 ⟨_, registered.nodes, same.nodes⟩, rfl⟩

/-- Registration fails for the first procedure that does not register, and if there is none for
the first such node. -/
theorem answer_registration_eq_error_iff :
    (registration procs nodes).answer o = .error fault ↔ Unregistered o procs nodes fault := by
  unfold registration
  simp (disch := grind) only [answer_bind_eq_error_iff]
  constructor
  · rintro (refused | ⟨P, procsRead, refused | ⟨N, _, fails⟩⟩)
    · exact .procedure (answer_procedures_eq_error_iff.1 refused)
    · obtain ⟨records, registered, same⟩ := answer_procedures_eq_ok_iff.1 procsRead
      exact .node registered ((answer_nodes_eq_error_iff same).1 refused)
    · cases fails
  · rintro (first | ⟨registered, first⟩)
    · exact .inl (answer_procedures_eq_error_iff.2 first)
    · obtain ⟨P, same⟩ := Roster.exists_perm registered.distinct
      exact .inr ⟨P, answer_procedures_eq_ok_iff.2 ⟨_, registered, same⟩,
        .inl ((answer_nodes_eq_error_iff same).2 first)⟩

section Listed

variable (procsListed : v.member? "procs" = some (.arr procs))
  (nodesListed : v.member? "nodes" = some (.arr nodes))
include procsListed nodesListed

/-- A fault of registration is that of the document, without any linking. -/
theorem answer_flowGraph_of_unregistered (unregistered : Unregistered o procs nodes fault) :
    (flowGraph v).answer o = .error fault := by
  rw [flowGraph_eq_registration procsListed nodesListed,
    answer_bind_eq_error_iff (by grind) (by grind)]
  exact .inl (answer_registration_eq_error_iff.2 unregistered)

/-- With all items registered the outcome is that of linking the rosters of the records. -/
theorem answer_flowGraph_of_registered {r : Records} (registered : Registered o procs nodes r)
    {P : Roster ProcRecord} {N : Roster NodeRecord} (same : (Records.ofRosters P N).Perm r) :
    (flowGraph v).answer o = FlowGraph.ofRosters P N := by
  have given : (registration procs nodes).answer o = .ok (P, N) :=
    answer_registration_eq_ok_iff.2 ⟨r, registered, same⟩
  rw [flowGraph_eq_registration procsListed nodesListed,
    answer_bind_of_ok (by grind) (by grind) given]
  rfl

end Listed

end Reading

/-! ### Faults of registration -/

/-- A node fails by itself or for its owner. -/
theorem NodeFault.isOfValue_or {owners : List WireId} (nodeFault : NodeFault o owners w fault) :
    fault.isOfValue = true ∨
      ∃ id owner, fault = .unresolvedReference .procedure owner (.ownerOf id) := by
  cases nodeFault with
  | stray stray => exact .inr ⟨_, _, rfl⟩
  | unread owned fails => exact .inl ((Reading.plain_nodeRecord w).answer fails)

/-- A repeated id keeps its item from registering. -/
theorem Repeats.unregistered {entity : Entity} {id : WireId}
    (repeats : Repeats o procs nodes entity id) :
    Unregistered o procs nodes (.duplicateId entity id) := by
  cases repeats with
  | procedure repeats => exact .procedure (.repeated repeats)
  | node registered repeats => exact .node registered (.repeated repeats)

namespace Unregistered

/-- A list that does not register has the fault of a single item, a node without an owner, or a
repeated id. -/
theorem isOfValue_or (unregistered : Unregistered o procs nodes fault) :
    fault.isOfValue = true ∨
      (∃ id owner, fault = .unresolvedReference .procedure owner (.ownerOf id)) ∨
      ∃ entity id, fault = .duplicateId entity id ∧ Repeats o procs nodes entity id := by
  cases unregistered with
  | procedure first =>
    cases first with
    | unread split earlier fails => exact .inl ((Reading.plain_procRecord _).answer fails)
    | repeated repeats => exact .inr (.inr ⟨_, _, rfl, .procedure repeats⟩)
  | node registered first =>
    cases first with
    | unread split earlier fails => exact fails.isOfValue_or.imp id .inl
    | repeated repeats => exact .inr (.inr ⟨_, _, rfl, .node registered repeats⟩)

/-- No fault of registration is about a node that was referred to. -/
theorem ne_dangling (unregistered : Unregistered o procs nodes fault) (id : WireId)
    (referrer : Referrer) : fault ≠ .unresolvedReference .node id referrer := by
  rintro rfl
  rcases unregistered.isOfValue_or with ofValue | ⟨_, _, same⟩ | ⟨_, _, same, _⟩
  · cases ofValue
  · cases same
  · cases same

/-- A fault of registration that reports a repeated id has such an id behind it. -/
theorem repeats {entity : Entity} {id : WireId}
    (unregistered : Unregistered o procs nodes (.duplicateId entity id)) :
    Repeats o procs nodes entity id := by
  rcases unregistered.isOfValue_or with ofValue | ⟨_, _, same⟩ | ⟨_, _, same, repeats⟩
  · cases ofValue
  · cases same
  · cases same
    exact repeats

end Unregistered

/-! ### Registered lists -/

/-- A list in another order registers as the same records in another order. -/
theorem RegisterAs.perm {α : Type} {isRecord : Json → WireId × α → Prop}
    {items items' : List Json} {records : List (WireId × α)}
    (registered : RegisterAs isRecord items records) (perm : items'.Perm items) :
    ∃ records', RegisterAs isRecord items' records' ∧ records'.Perm records := by
  obtain ⟨records', read, same⟩ := List.perm_comp_forall₂ perm registered.read
  exact ⟨records', ⟨read, (same.map _).nodup_iff.2 registered.distinct⟩, same⟩

namespace Registered

variable {r : Records} (registered : Registered o procs nodes r)
include registered

/-- Lists in another order register as the same records. -/
theorem perm (procsPerm : procs'.Perm procs) (nodesPerm : nodes'.Perm nodes) :
    ∃ r', Registered o procs' nodes' r' ∧ r'.Perm r := by
  obtain ⟨procedures, procsRegistered, sameProcs⟩ := registered.procedures.perm procsPerm
  obtain ⟨nodes, nodesRegistered, sameNodes⟩ := registered.nodes.perm nodesPerm
  refine ⟨⟨procedures, nodes⟩, ⟨procsRegistered, ?_, nodesRegistered.distinct⟩,
    ⟨sameProcs, sameNodes⟩⟩
  exact nodesRegistered.read.imp fun _ _ read => ⟨read.1, (sameProcs.map _).mem_iff.2 read.2⟩

/-- Registered records fit into rosters, since their ids are distinct. -/
theorem exists_rosters : ∃ P N, (Records.ofRosters P N).Perm r := by
  obtain ⟨P, sameProcs⟩ := Roster.exists_perm registered.procedures.distinct
  obtain ⟨N, sameNodes⟩ := Roster.exists_perm registered.nodes.distinct
  exact ⟨P, N, ⟨sameProcs, sameNodes⟩⟩

theorem owner_mem {e : WireId × NodeRecord} (mem : e ∈ r.nodes) :
    e.2.owner ∈ r.procedureIds :=
  (Reading.forall₂_and_right.1 registered.nodes.read).2 e mem

/-- Registered records fail to link for the first dangling mention by ascending ids. -/
theorem ofRosters_eq_error_iff {P : Roster ProcRecord} {N : Roster NodeRecord}
    (same : (Records.ofRosters P N).Perm r) (fault : Fault) :
    FlowGraph.ofRosters P N = .error fault ↔
      ∃ m, r.inOrder.dangling? = some m ∧ fault = m.fault := by
  rw [Records.inOrder_eq same]
  refine FlowGraph.ofRosters_eq_error_iff (fun e mem => ?_) fault
  exact (same.procedures.map _).mem_iff.2 (registered.owner_mem (same.nodes.mem_iff.1 mem))

end Registered

/-- Either all items register or one of them is the first that does not. -/
theorem exists_registered_iff :
    (∃ r, Registered o procs nodes r) ↔ ¬ ∃ fault, Unregistered o procs nodes fault := by
  simp only [← Reading.answer_registration_eq_error_iff]
  constructor
  · rintro ⟨r, registered⟩ ⟨fault, fails⟩
    obtain ⟨P, N, same⟩ := registered.exists_rosters
    have given : (Reading.registration procs nodes).answer o = .ok (P, N) :=
      Reading.answer_registration_eq_ok_iff.2 ⟨r, registered, same⟩
    cases given.symm.trans fails
  · intro never
    cases given : (Reading.registration procs nodes).answer o with
    | error fault => exact absurd ⟨fault, given⟩ never
    | ok rosters =>
      obtain ⟨r, registered, _⟩ := Reading.answer_registration_eq_ok_iff.1 given
      exact ⟨r, registered⟩

/-! ### Faults of documents -/

/-- A document that reports a repeated id has it in its lists, since linking reports none. -/
theorem repeats_of_answer_flowGraph (procsListed : v.member? "procs" = some (.arr procs))
    (nodesListed : v.member? "nodes" = some (.arr nodes)) {entity : Entity} {id : WireId}
    (fails : (Reading.flowGraph v).answer o = .error (.duplicateId entity id)) :
    Repeats o procs nodes entity id := by
  by_cases registers : ∃ r, Registered o procs nodes r
  · obtain ⟨r, registered⟩ := registers
    obtain ⟨P, N, same⟩ := registered.exists_rosters
    rw [Reading.answer_flowGraph_of_registered procsListed nodesListed registered same] at fails
    obtain ⟨m, _, fault⟩ := (registered.ofRosters_eq_error_iff same _).1 fails
    cases fault
  · rw [exists_registered_iff, not_not] at registers
    obtain ⟨fault, unregistered⟩ := registers
    have given :=
      Reading.answer_flowGraph_of_unregistered procsListed nodesListed unregistered
    cases fails.symm.trans given
    exact unregistered.repeats

/-- Which fault a document with lists of procedures and nodes has. If an item does not register,
it is that of the first such item, procedures before nodes, and no dangling id of a node; it is a
repeated id exactly when that item is a record by itself with a known owner and an earlier record
of its kind has its id. If all items register, it names the first dangling id, by ascending ids of
the records, its message gives the role of that id and the record that has it in this role, and
the order of the lists has no say. -/
theorem flowGraph_fault (procsListed : v.member? "procs" = some (.arr procs))
    (nodesListed : v.member? "nodes" = some (.arr nodes)) :
    (∀ fault, Unregistered o procs nodes fault → (Reading.flowGraph v).answer o = .error fault ∧
      ∀ id referrer, fault ≠ .unresolvedReference .node id referrer) ∧
    (∀ entity id, (Reading.flowGraph v).answer o = .error (.duplicateId entity id) ↔
      Repeats o procs nodes entity id) ∧
    ((∃ r, Registered o procs nodes r) ↔ ¬ ∃ fault, Unregistered o procs nodes fault) ∧
    ∀ r, Registered o procs nodes r →
      (∀ fault, (Reading.flowGraph v).answer o = .error fault ↔
        ∃ m, r.inOrder.dangling? = some m ∧ fault = .unresolvedReference .node m.id m.referrer ∧
          m.Worded fault.message) ∧
      ∀ w procs' nodes', w.member? "procs" = some (.arr procs') → procs'.Perm procs →
        w.member? "nodes" = some (.arr nodes') → nodes'.Perm nodes →
        (Reading.flowGraph w).answer o = (Reading.flowGraph v).answer o := by
  refine ⟨fun fault unregistered => ⟨?_, unregistered.ne_dangling⟩, fun entity id => ⟨?_, ?_⟩,
    exists_registered_iff, fun r registered => ?_⟩
  · exact Reading.answer_flowGraph_of_unregistered procsListed nodesListed unregistered
  · exact repeats_of_answer_flowGraph procsListed nodesListed
  · intro repeats
    exact Reading.answer_flowGraph_of_unregistered procsListed nodesListed repeats.unregistered
  obtain ⟨P, N, same⟩ := registered.exists_rosters
  rw [Reading.answer_flowGraph_of_registered procsListed nodesListed registered same]
  refine ⟨fun fault => ?_, ?_⟩
  · rw [registered.ofRosters_eq_error_iff same]
    constructor
    · rintro ⟨m, found, rfl⟩
      exact ⟨m, found, rfl, Records.worded_of_dangling? found⟩
    · rintro ⟨m, found, named, _⟩
      exact ⟨m, found, named⟩
  intro w procs' nodes' procsListed' procsPerm nodesListed' nodesPerm
  obtain ⟨r', registered', same'⟩ := registered.perm procsPerm nodesPerm
  exact Reading.answer_flowGraph_of_registered procsListed' nodesListed' registered'
    (same.trans same'.symm)

/-! ### Lists with several faults -/

namespace Sample

def listing (procs nodes : List Json) : Json := .obj [("procs", .arr procs), ("nodes", .arr nodes)]

def unlinkedProcedures : List Json := [procedure 7 (-3) 40, procedure (-1) 41 9]

def unlinkedNodes : List Json := [node 9 (-1) [42] [] [], node (-3) 7 [] [] []]

/-- The id of a node comes twice before a node without an owner. -/
def repeatedNodes : List Json := [node 9 (-1) [42] [] [], node 9 7 [] [] [], node 4 8 [] [] []]

end Sample

/-- In the first sample several ids dangle and the lowest procedure has the one that is reported,
also with both lists reversed. In the second one the repeated id comes before a node without an
owner. -/
theorem exists_dangling_and_repeated :
    (∃ r m, Registered .default Sample.unlinkedProcedures Sample.unlinkedNodes r ∧
      r.inOrder.dangling? = some m ∧
      m.fault.message = "Unresolved node id 41 referenced by start node of procedure -1" ∧
      (Reading.flowGraph (Sample.listing Sample.unlinkedProcedures.reverse
        Sample.unlinkedNodes.reverse)).answer .default = .error m.fault) ∧
    ∃ id, Repeats .default Sample.unlinkedProcedures Sample.repeatedNodes .node id := by
  have dangles : (Reading.flowGraph
      (Sample.listing Sample.unlinkedProcedures Sample.unlinkedNodes)).answer .default =
      .error (.unresolvedReference .node ⟨41, by decide, by decide⟩
        (.startOf ⟨-1, by decide, by decide⟩)) :=
    eq_error_of_map (fun _ => ()) (by decide +kernel)
  have repeated : (Reading.flowGraph
      (Sample.listing Sample.unlinkedProcedures Sample.repeatedNodes)).answer .default =
      .error (.duplicateId .node ⟨9, by decide, by decide⟩) :=
    eq_error_of_map (fun _ => ()) (by decide +kernel)
  refine ⟨?_, _, ((flowGraph_fault rfl rfl).2.1 _ _).1 repeated⟩
  obtain ⟨first, _, registers, links⟩ := flowGraph_fault (o := .default)
    (v := Sample.listing Sample.unlinkedProcedures Sample.unlinkedNodes) rfl rfl
  obtain ⟨r, registered⟩ := registers.2 fun ⟨fault, unregistered⟩ => by
    obtain ⟨given, notDangling⟩ := first fault unregistered
    exact notDangling _ _ (Except.error.inj (given.symm.trans dangles))
  obtain ⟨faults, reordered⟩ := links r registered
  obtain ⟨m, found, (named : _ = m.fault), _⟩ := (faults _).1 dangles
  have same := reordered (Sample.listing Sample.unlinkedProcedures.reverse
    Sample.unlinkedNodes.reverse) _ _ rfl (List.reverse_perm _) rfl (List.reverse_perm _)
  refine ⟨r, m, registered, found, ?_⟩
  rw [← named, same]
  exact ⟨by decide +kernel, dangles⟩

end ProgramModel
