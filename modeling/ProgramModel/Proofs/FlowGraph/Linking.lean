import ProgramModel.FlowGraph.Link
import ProgramModel.Proofs.FlowGraph.Roster
import ProgramModel.Proofs.Wire.Regular

/-!
What linking gives. Records are closed when each id in them has a record; then they have
a graph, which is written down here without a fault in sight (`linked`). Main statement:
linking gives this graph for closed records and a fault for all others
(`ofRosters_eq_ok_iff`).
-/

namespace ProgramModel

/-- The records of a graph, each with its id, in any order. -/
structure Records where
  procedures : List (WireId × ProcRecord)
  nodes : List (WireId × NodeRecord)

namespace Records

def procedureIds (r : Records) : List WireId := r.procedures.map (·.1)

def nodeIds (r : Records) : List WireId := r.nodes.map (·.1)

/-- All ids that records name are those of records. -/
structure Closed (r : Records) : Prop where
  start : ∀ e ∈ r.procedures, e.2.start ∈ r.nodeIds
  exit : ∀ e ∈ r.procedures, e.2.exit ∈ r.nodeIds
  owner : ∀ e ∈ r.nodes, e.2.owner ∈ r.procedureIds
  succs : ∀ e ∈ r.nodes, ∀ id ∈ e.2.succs, id ∈ r.nodeIds
  preds : ∀ e ∈ r.nodes, ∀ id ∈ e.2.preds, id ∈ r.nodeIds
  exceptional : ∀ e ∈ r.nodes, ∀ id ∈ e.2.exceptional, id ∈ r.nodeIds

/-- The same records, listed in some other order. -/
structure Perm (r s : Records) : Prop where
  procedures : r.procedures.Perm s.procedures
  nodes : r.nodes.Perm s.nodes

theorem Perm.symm {r s : Records} (same : r.Perm s) : s.Perm r :=
  ⟨same.procedures.symm, same.nodes.symm⟩

theorem Perm.trans {r s t : Records} (first : r.Perm s) (second : s.Perm t) : r.Perm t :=
  ⟨first.procedures.trans second.procedures, first.nodes.trans second.nodes⟩

/-- Whether records are closed does not depend on their order. -/
theorem Closed.of_perm {r s : Records} (closed : r.Closed) (same : r.Perm s) : s.Closed where
  start e mem := (same.nodes.map _).mem_iff.1 (closed.start e (same.procedures.mem_iff.2 mem))
  exit e mem := (same.nodes.map _).mem_iff.1 (closed.exit e (same.procedures.mem_iff.2 mem))
  owner e mem := (same.procedures.map _).mem_iff.1 (closed.owner e (same.nodes.mem_iff.2 mem))
  succs e mem id h := (same.nodes.map _).mem_iff.1 (closed.succs e (same.nodes.mem_iff.2 mem) id h)
  preds e mem id h := (same.nodes.map _).mem_iff.1 (closed.preds e (same.nodes.mem_iff.2 mem) id h)
  exceptional e mem id h :=
    (same.nodes.map _).mem_iff.1 (closed.exceptional e (same.nodes.mem_iff.2 mem) id h)

/-- The entries of two rosters. -/
def ofRosters (procedures : Roster ProcRecord) (nodes : Roster NodeRecord) : Records :=
  ⟨procedures.entries, nodes.entries⟩

end Records

namespace FlowGraph

variable (procedures : Roster ProcRecord) (nodes : Roster NodeRecord)

/-! ### The graph of closed records -/

/-- The place of a node that has a record. -/
def nodeRef (id : WireId) : NodeRef := ⟨nodes.rank id⟩

/-- The place of a procedure that has a record. -/
def procRef (id : WireId) : ProcRef := ⟨procedures.rank id⟩

def linkedProcedure (e : WireId × ProcRecord) (place : Nat) : Procedure where
  ref := ⟨place⟩
  id := e.1
  attributes := e.2.attributes
  start := nodeRef nodes e.2.start
  exit := nodeRef nodes e.2.exit
  nodes := []

def linkedNode (e : WireId × NodeRecord) (place : Nat) : Node where
  ref := ⟨place⟩
  id := e.1
  body := e.2.body
  owner := procRef procedures e.2.owner
  succs := e.2.succs.map (nodeRef nodes)
  preds := e.2.preds.map (nodeRef nodes)
  exceptional := e.2.exceptional.map (nodeRef nodes)

def linkedProcedures : List Procedure :=
  procedures.entries.zipIdx.map fun (e, i) => linkedProcedure nodes e i

def linkedNodes : List Node :=
  nodes.entries.zipIdx.map fun (e, i) => linkedNode procedures nodes e i

def linked : FlowGraph where
  procedures :=
    ((linkedProcedures procedures nodes).map (adopt (linkedNodes procedures nodes))).toArray
  nodes := (linkedNodes procedures nodes).toArray

/-! ### Linking -/

variable {procedures nodes}

/-- The lookup of a node succeeds for the ids of the roster, with the place of the id. -/
theorem resolveNode_eq_ok_iff {referrer : Referrer} (id : WireId) (n : NodeRef) :
    resolveNode nodes referrer id = .ok n ↔ id ∈ nodes.ids ∧ n = nodeRef nodes id := by
  unfold resolveNode
  by_cases known : id ∈ nodes.ids
  · rw [Roster.rank?_eq_some known]
    simp [known, nodeRef, eq_comm]
  · rw [Roster.rank?_eq_none known]
    simp [known]

/-- The lookup of a procedure succeeds for the ids of the roster, with the place of the id. -/
theorem resolveProcedure_eq_ok_iff {referrer : Referrer} (id : WireId) (p : ProcRef) :
    resolveProcedure procedures referrer id = .ok p ↔
      id ∈ procedures.ids ∧ p = procRef procedures id := by
  unfold resolveProcedure
  by_cases known : id ∈ procedures.ids
  · rw [Roster.rank?_eq_some known]
    simp [known, procRef, eq_comm]
  · rw [Roster.rank?_eq_none known]
    simp [known]

/-- A procedure is linked when its start and its exit have records. -/
theorem linkProcedure_eq_ok_iff (e : WireId × ProcRecord) (place : Nat) (p : Procedure) :
    linkProcedure nodes e place = .ok p ↔
      (e.2.start ∈ nodes.ids ∧ e.2.exit ∈ nodes.ids) ∧ p = linkedProcedure nodes e place := by
  obtain ⟨id, record⟩ := e
  simp only [linkProcedure, bind_eq_ok_iff, resolveNode_eq_ok_iff]
  constructor
  · rintro ⟨_, ⟨start, rfl⟩, _, ⟨exit, rfl⟩, same⟩
    cases same
    exact ⟨⟨start, exit⟩, rfl⟩
  · rintro ⟨⟨start, exit⟩, rfl⟩
    exact ⟨_, ⟨start, rfl⟩, _, ⟨exit, rfl⟩, rfl⟩

/-- A node is linked when its owner has a record and so have all nodes in its lists. -/
theorem linkNode_eq_ok_iff (e : WireId × NodeRecord) (place : Nat) (n : Node) :
    linkNode procedures nodes e place = .ok n ↔
      (e.2.owner ∈ procedures.ids ∧ (∀ id ∈ e.2.succs, id ∈ nodes.ids) ∧
        (∀ id ∈ e.2.preds, id ∈ nodes.ids) ∧ ∀ id ∈ e.2.exceptional, id ∈ nodes.ids) ∧
      n = linkedNode procedures nodes e place := by
  obtain ⟨id, record⟩ := e
  simp only [linkNode, bind_eq_ok_iff, resolveProcedure_eq_ok_iff,
    mapM_eq_ok_iff resolveNode_eq_ok_iff]
  constructor
  · rintro ⟨_, ⟨owner, rfl⟩, _, ⟨succs, rfl⟩, _, ⟨preds, rfl⟩, _, ⟨exceptional, rfl⟩, same⟩
    cases same
    exact ⟨⟨owner, succs, preds, exceptional⟩, rfl⟩
  · rintro ⟨⟨owner, succs, preds, exceptional⟩, rfl⟩
    exact ⟨_, ⟨owner, rfl⟩, _, ⟨succs, rfl⟩, _, ⟨preds, rfl⟩, _, ⟨exceptional, rfl⟩, rfl⟩

/-- Items are accepted at all places when each of them is. -/
theorem mapM_zipIdx_eq_ok_iff {α β : Type} {f : α → Nat → Except Fault β} {accepted : α → Prop}
    {given : α → Nat → β} (each : ∀ a i b, f a i = .ok b ↔ accepted a ∧ b = given a i)
    {items : List α} {results : List β} :
    (items.zipIdx.mapM fun (a, i) => f a i) = .ok results ↔
      (∀ a ∈ items, accepted a) ∧ results = items.zipIdx.map fun (a, i) => given a i := by
  have placed : ∀ (e : α × Nat) b, f e.1 e.2 = .ok b ↔ accepted e.1 ∧ b = given e.1 e.2 :=
    fun e b => each e.1 e.2 b
  rw [mapM_eq_ok_iff placed, ← List.forall_mem_map, List.zipIdx_map_fst]

/-- Procedures are linked one by one, each at its place in the roster. -/
theorem linkProcedures_eq_ok_iff {linked : List Procedure} :
    (procedures.entries.zipIdx.mapM fun (e, i) => linkProcedure nodes e i) = .ok linked ↔
      (∀ e ∈ procedures.entries, e.2.start ∈ nodes.ids ∧ e.2.exit ∈ nodes.ids) ∧
        linked = linkedProcedures procedures nodes :=
  mapM_zipIdx_eq_ok_iff linkProcedure_eq_ok_iff

/-- Nodes are linked one by one, each at its place in the roster. -/
theorem linkNodes_eq_ok_iff {linked : List Node} :
    (nodes.entries.zipIdx.mapM fun (e, i) => linkNode procedures nodes e i) = .ok linked ↔
      (∀ e ∈ nodes.entries, e.2.owner ∈ procedures.ids ∧ (∀ id ∈ e.2.succs, id ∈ nodes.ids) ∧
        (∀ id ∈ e.2.preds, id ∈ nodes.ids) ∧ ∀ id ∈ e.2.exceptional, id ∈ nodes.ids) ∧
      linked = linkedNodes procedures nodes :=
  mapM_zipIdx_eq_ok_iff linkNode_eq_ok_iff

/-- Linking succeeds for closed records and gives the one graph that is made of them. -/
theorem ofRosters_eq_ok_iff {g : FlowGraph} :
    ofRosters procedures nodes = .ok g ↔
      (Records.ofRosters procedures nodes).Closed ∧ g = linked procedures nodes := by
  rw [ofRosters, bind_eq_ok_iff]
  simp only [linkProcedures_eq_ok_iff, bind_eq_ok_iff, linkNodes_eq_ok_iff]
  constructor
  · rintro ⟨_, ⟨ends, rfl⟩, _, ⟨links, rfl⟩, same⟩
    cases same
    exact ⟨⟨fun e mem => (ends e mem).1, fun e mem => (ends e mem).2,
      fun e mem => (links e mem).1, fun e mem => (links e mem).2.1,
      fun e mem => (links e mem).2.2.1, fun e mem => (links e mem).2.2.2⟩, rfl⟩
  · rintro ⟨closed, rfl⟩
    refine ⟨_, ⟨fun e mem => ⟨closed.start e mem, closed.exit e mem⟩, rfl⟩, _,
      ⟨fun e mem => ?_, rfl⟩, rfl⟩
    exact ⟨closed.owner e mem, closed.succs e mem, closed.preds e mem, closed.exceptional e mem⟩

/-! ### Entries of the graph -/

section Entries

variable (procedures nodes)

@[simp]
theorem toList_nodes_linked :
    (linked procedures nodes).nodes.toList = linkedNodes procedures nodes := rfl

@[simp]
theorem toList_procedures_linked :
    (linked procedures nodes).procedures.toList =
      (linkedProcedures procedures nodes).map (adopt (linkedNodes procedures nodes)) := rfl

theorem getElem?_linkedNodes (i : Nat) :
    (linkedNodes procedures nodes)[i]? =
      nodes.entries[i]?.map fun e => linkedNode procedures nodes e i := by
  simp [linkedNodes, List.getElem?_zipIdx, Function.comp_def]

theorem getElem?_linkedProcedures (i : Nat) :
    (linkedProcedures procedures nodes)[i]? =
      procedures.entries[i]?.map fun e => linkedProcedure nodes e i := by
  simp [linkedProcedures, List.getElem?_zipIdx, Function.comp_def]

/-- The nodes have the ids of the roster, in its order. -/
theorem map_id_linkedNodes : (linkedNodes procedures nodes).map (·.id) = nodes.ids := by
  apply List.ext_getElem?
  intro i
  simp [getElem?_linkedNodes, Roster.ids, Function.comp_def, linkedNode]

/-- The procedures have the ids of the roster, in its order. -/
theorem map_id_linkedProcedures :
    (linkedProcedures procedures nodes).map (·.id) = procedures.ids := by
  apply List.ext_getElem?
  intro i
  simp [getElem?_linkedProcedures, Roster.ids, Function.comp_def, linkedProcedure]

theorem map_body_linked :
    (linked procedures nodes).nodes.toList.map (·.body) = nodes.entries.map (·.2.body) := by
  apply List.ext_getElem?
  intro i
  simp [getElem?_linkedNodes, Function.comp_def, linkedNode]

theorem map_id_attributes_linked :
    (linked procedures nodes).procedures.toList.map (fun p => (p.id, p.attributes)) =
      procedures.entries.map fun e => (e.1, e.2.attributes) := by
  apply List.ext_getElem?
  intro i
  simp [getElem?_linkedProcedures, Function.comp_def, linkedProcedure, adopt]

theorem map_attributes_linked :
    (linked procedures nodes).procedures.toList.map (·.attributes) =
      procedures.entries.map (·.2.attributes) := by
  simpa [Function.comp_def] using
    congrArg (List.map Prod.snd) (map_id_attributes_linked procedures nodes)

/-- A reference leads to the node that is made of the entry at its place. -/
theorem node?_linked (i : Nat) :
    (linked procedures nodes).node? ⟨i⟩ =
      nodes.entries[i]?.map fun e => linkedNode procedures nodes e i := by
  rw [← getElem?_linkedNodes]
  simp [node?, linked]

/-- A reference leads to the procedure that is made of the entry at its place, with the nodes that
it adopts. -/
theorem procedure?_linked (i : Nat) :
    (linked procedures nodes).procedure? ⟨i⟩ =
      procedures.entries[i]?.map fun e =>
        adopt (linkedNodes procedures nodes) (linkedProcedure nodes e i) := by
  have : (linked procedures nodes).procedure? ⟨i⟩ =
      (linkedProcedures procedures nodes)[i]?.map (adopt (linkedNodes procedures nodes)) := by
    simp [procedure?, linked]
  rw [this, getElem?_linkedProcedures, Option.map_map]
  rfl

end Entries

end FlowGraph
end ProgramModel
