import ProgramModel.FlowGraph.Listing
import ProgramModel.Proofs.FlowGraph.Registration

/-!
Which documents are graphs, and what the graph keeps of its document. A graph shows
records when its entries, with ids in the place of references, are these records, each
once. Main statement: a document is a graph exactly when it lists closed records with
distinct ids, and the graph shows these records (`flowGraph_accepted_iff`).
-/

namespace ProgramModel

namespace FlowGraph

/-! ### Records of a graph -/

/-- The id of the node at a place. -/
def nodeId? (g : FlowGraph) (n : NodeRef) : Option WireId := (g.node? n).map (·.id)

/-- The id of the procedure at a place. -/
def procedureId? (g : FlowGraph) (p : ProcRef) : Option WireId := (g.procedure? p).map (·.id)

/-- The record of a procedure, with ids in the place of references. -/
def procRecord? (g : FlowGraph) (p : Procedure) : Option (WireId × ProcRecord) := do
  let start ← g.nodeId? p.start
  let exit ← g.nodeId? p.exit
  return (p.id, { attributes := p.attributes, start, exit })

/-- The record of a node, with ids in the place of references. -/
def nodeRecord? (g : FlowGraph) (n : Node) : Option (WireId × NodeRecord) := do
  let owner ← g.procedureId? n.owner
  let succs ← g.idsAt? n.succs
  let preds ← g.idsAt? n.preds
  let exceptional ← g.idsAt? n.exceptional
  return (n.id, { owner, body := n.body, succs, preds, exceptional })

/-- The graph has one procedure for each record of a procedure and one node for each of a
node, and these say what the records say. -/
structure Shows (g : FlowGraph) (r : Records) : Prop where
  procedures : (g.procedures.toList.map g.procRecord?).Perm (r.procedures.map some)
  nodes : (g.nodes.toList.map g.nodeRecord?).Perm (r.nodes.map some)

theorem idsAt?_cons (g : FlowGraph) (n : NodeRef) (rest : List NodeRef) :
    g.idsAt? (n :: rest) = do return (← g.nodeId? n) :: (← g.idsAt? rest) := by
  simp only [idsAt?, nodesAt?, nodeId?, List.mapM_cons]
  cases g.node? n with
  | none => rfl
  | some node => cases rest.mapM g.node? <;> rfl

/-! ### Records of a linked graph -/

section Linked

variable {procedures : Roster ProcRecord} {nodes : Roster NodeRecord}

theorem nodeId?_nodeRef {id : WireId} (known : id ∈ nodes.ids) :
    (linked procedures nodes).nodeId? (nodeRef nodes id) = some id := by
  rw [← Roster.ids_getElem?_rank known, nodeId?, nodeRef, node?_linked, Roster.ids]
  simp [Function.comp_def, linkedNode]

theorem procedureId?_procRef {id : WireId} (known : id ∈ procedures.ids) :
    (linked procedures nodes).procedureId? (procRef procedures id) = some id := by
  rw [← Roster.ids_getElem?_rank known, procedureId?, procRef, procedure?_linked, Roster.ids]
  simp [Function.comp_def, adopt, linkedProcedure]

/-- References to known ids lead back to these ids, in the same order. -/
theorem idsAt?_map_nodeRef {ids : List WireId} (known : ∀ id ∈ ids, id ∈ nodes.ids) :
    (linked procedures nodes).idsAt? (ids.map (nodeRef nodes)) = some ids := by
  induction ids with
  | nil => rfl
  | cons id rest ih =>
    obtain ⟨first, others⟩ := List.forall_mem_cons.1 known
    rw [List.map_cons, idsAt?_cons, nodeId?_nodeRef first, ih others]
    rfl

/-- The procedure that is made of a record shows this record again. -/
theorem procRecord?_linkedProcedure (closed : (Records.ofRosters procedures nodes).Closed)
    {e : WireId × ProcRecord} (mem : e ∈ procedures.entries) (i : Nat) :
    (linked procedures nodes).procRecord?
      (adopt (linkedNodes procedures nodes) (linkedProcedure nodes e i)) = some e := by
  simp only [procRecord?, adopt, linkedProcedure, nodeId?_nodeRef (closed.start e mem),
    nodeId?_nodeRef (closed.exit e mem)]
  rfl

/-- The node that is made of a record shows this record again, its lists of ids included. -/
theorem nodeRecord?_linkedNode (closed : (Records.ofRosters procedures nodes).Closed)
    {e : WireId × NodeRecord} (mem : e ∈ nodes.entries) (i : Nat) :
    (linked procedures nodes).nodeRecord? (linkedNode procedures nodes e i) = some e := by
  simp only [nodeRecord?, linkedNode, procedureId?_procRef (closed.owner e mem),
    idsAt?_map_nodeRef (closed.succs e mem), idsAt?_map_nodeRef (closed.preds e mem),
    idsAt?_map_nodeRef (closed.exceptional e mem)]
  rfl

/-- A linked graph has all records, in the order of their ids. -/
theorem map_procRecord?_linked (closed : (Records.ofRosters procedures nodes).Closed) :
    (linked procedures nodes).procedures.toList.map (linked procedures nodes).procRecord? =
      procedures.entries.map some := by
  apply List.ext_getElem?
  intro i
  simp only [toList_procedures_linked, List.getElem?_map, getElem?_linkedProcedures]
  cases found : procedures.entries[i]? with
  | none => rfl
  | some e =>
    exact congrArg some (procRecord?_linkedProcedure closed (List.mem_of_getElem? found) i)

/-- The nodes show the records of the roster, in its order. -/
theorem map_nodeRecord?_linked (closed : (Records.ofRosters procedures nodes).Closed) :
    (linked procedures nodes).nodes.toList.map (linked procedures nodes).nodeRecord? =
      nodes.entries.map some := by
  apply List.ext_getElem?
  intro i
  simp only [toList_nodes_linked, List.getElem?_map, getElem?_linkedNodes]
  cases found : nodes.entries[i]? with
  | none => rfl
  | some e => exact congrArg some (nodeRecord?_linkedNode closed (List.mem_of_getElem? found) i)

end Linked
end FlowGraph

/-! ### Accepted documents -/

variable {o : Options} {v : Json}

/-- A value is the record of at most one procedure. -/
theorem rightUnique_isProcRecord : Relator.RightUnique (IsProcRecord o) := by
  intro w e f first second
  have read := Reading.answer_procRecord_eq_ok_iff.2 first
  exact Except.ok.inj (read.symm.trans (Reading.answer_procRecord_eq_ok_iff.2 second))

/-- A value is the record of at most one node. -/
theorem rightUnique_isNodeRecord : Relator.RightUnique (IsNodeRecord o) := by
  intro w e f first second
  have read {e : WireId × NodeRecord} (record : IsNodeRecord o w e) :
      (Reading.nodeRecord (fun _ => true) w).answer o = .ok e :=
    Reading.answer_nodeRecord_eq_ok_iff.2 ⟨record, rfl⟩
  exact Except.ok.inj ((read first).symm.trans (read second))

/-- A document lists no other records than those it lists. -/
theorem Records.ReadFrom.unique {r s : Records} (first : r.ReadFrom o v) (second : s.ReadFrom o v) :
    r = s := by
  obtain ⟨⟨procItems, procs, procReads⟩, ⟨nodeItems, nodes, nodeReads⟩⟩ := first
  obtain ⟨⟨procItems', procs', procReads'⟩, ⟨nodeItems', nodes', nodeReads'⟩⟩ := second
  cases procs.symm.trans procs'
  cases nodes.symm.trans nodes'
  have sameProcs := List.right_unique_forall₂' rightUnique_isProcRecord procReads procReads'
  have sameNodes := List.right_unique_forall₂' rightUnique_isNodeRecord nodeReads nodeReads'
  cases r; cases s; cases sameProcs; cases sameNodes; rfl

theorem Records.Distinct.of_perm {r s : Records} (distinct : r.Distinct) (same : r.Perm s) :
    s.Distinct :=
  ⟨(same.procedures.map _).nodup_iff.1 distinct.procedures,
    (same.nodes.map _).nodup_iff.1 distinct.nodes⟩

/-- Rosters have each id once. -/
theorem Records.distinct_ofRosters (procedures : Roster ProcRecord) (nodes : Roster NodeRecord) :
    (Records.ofRosters procedures nodes).Distinct := ⟨procedures.nodup_ids, nodes.nodup_ids⟩

/-- A document is a graph exactly when its procedures and nodes can be read one by one, no
two of a kind have the same id, and each id that is named is that of a procedure or node
in the document. Nothing is lost in the graph, and nothing is added. -/
theorem flowGraph_accepted_iff (o : Options) (v : Json) :
    ((∃ g, (Reading.flowGraph v).answer o = .ok g) ↔
      ∃ r : Records, r.ReadFrom o v ∧ r.Distinct ∧ r.Closed) ∧
    ∀ g, (Reading.flowGraph v).answer o = .ok g → ∀ r : Records, r.ReadFrom o v → g.Shows r := by
  refine ⟨⟨?_, ?_⟩, ?_⟩
  · rintro ⟨g, accepted⟩
    obtain ⟨r, procedures, nodes, listed, same, closed, rfl⟩ :=
      Reading.answer_flowGraph_eq_ok_iff.1 accepted
    exact ⟨r, listed, (Records.distinct_ofRosters procedures nodes).of_perm same,
      closed.of_perm same⟩
  · rintro ⟨r, listed, distinct, closed⟩
    obtain ⟨procedures, procPerm⟩ := Roster.exists_perm distinct.procedures
    obtain ⟨nodes, nodePerm⟩ := Roster.exists_perm distinct.nodes
    have same : (Records.ofRosters procedures nodes).Perm r := ⟨procPerm, nodePerm⟩
    exact ⟨_, Reading.answer_flowGraph_eq_ok_iff.2
      ⟨r, procedures, nodes, listed, same, closed.of_perm same.symm, rfl⟩⟩
  · intro g accepted r listed
    obtain ⟨s, procedures, nodes, listed', same, closed, rfl⟩ :=
      Reading.answer_flowGraph_eq_ok_iff.1 accepted
    cases listed.unique listed'
    constructor
    · rw [FlowGraph.map_procRecord?_linked closed]
      exact same.procedures.map some
    · rw [FlowGraph.map_nodeRecord?_linked closed]
      exact same.nodes.map some

/-- The sample is accepted, so there are a graph and records that it shows. -/
theorem exists_shown_records : ∃ (g : FlowGraph) (r : Records),
    (Reading.flowGraph Sample.document).answer .default = .ok g ∧
      r.ReadFrom .default Sample.document ∧ g.Shows r := by
  obtain ⟨g, accepted, _⟩ := Sample.exists_flowGraph
  obtain ⟨iff, shows⟩ := flowGraph_accepted_iff .default Sample.document
  obtain ⟨r, listed, _, _⟩ := iff.1 ⟨g, accepted⟩
  exact ⟨g, r, accepted, listed, shows g accepted r listed⟩

end ProgramModel
