import ProgramModel.Proofs.FlowGraph.Acceptance
import ProgramModel.Proofs.FlowGraph.Reachability
import ProgramModel.Proofs.Traversal.Renaming

/-!
Parts of graphs. Some records of a graph are a part when they are closed by themselves and
own all nodes that name them as owners. In the whole the places of the part are others, but
ids are kept, and a walk from a place of the part stays in it and visits the same ids in
the same order. Main statement: `keptIn_of_part`.
-/

namespace ProgramModel

open Traversal

/-- Closed records among others, with all the nodes that name one of them as their owner. -/
structure Records.Part (r s : Records) : Prop where
  closed : r.Closed
  procedures : r.procedures ⊆ s.procedures
  nodes : r.nodes ⊆ s.nodes
  owned : ∀ e ∈ s.nodes, e.2.owner ∈ r.procedureIds → e ∈ r.nodes

namespace FlowGraph

/-- The ids of the nodes in the reverse postorder of a procedure. -/
def orderIds? (g : FlowGraph) (p : Procedure) : Option (List WireId) := do
  g.idsAt? (← g.reversePostorder? p.ref)

/-- Each entry of a graph is one of another graph too: the records are the same, and so is
all that is found out about the entry, with ids in the place of references. -/
structure KeptIn (g h : FlowGraph) : Prop where
  procedures : ∀ p ∈ g.procedures.toList, ∃ q ∈ h.procedures.toList,
    (∃ record, g.procRecord? p = some record ∧ h.procRecord? q = some record) ∧
    (∃ ids, g.idsAt? p.nodes = some ids ∧ h.idsAt? q.nodes = some ids) ∧
    ∃ ids, g.orderIds? p = some ids ∧ h.orderIds? q = some ids
  nodes : ∀ n ∈ g.nodes.toList, ∃ m ∈ h.nodes.toList,
    (∃ record, g.nodeRecord? n = some record ∧ h.nodeRecord? m = some record) ∧
    ∃ head, g.isLoopHead? n.ref = some head ∧ h.isLoopHead? m.ref = some head

/-! ### Entries by their ids -/

section Linked

variable {P P' : Roster ProcRecord} {N N' : Roster NodeRecord}

/-- The reference of an id leads to the node that is made of the record with this id. -/
theorem node?_nodeRef {e : WireId × NodeRecord} (mem : e ∈ N.entries) :
    (linked P N).node? (nodeRef N e.1) = some (linkedNode P N e (N.rank e.1)) := by
  rw [nodeRef, node?_linked, Roster.entries_getElem?_rank mem]
  rfl

/-- The reference of an id leads to the procedure that is made of the record with this id. -/
theorem procedure?_procRef {e : WireId × ProcRecord} (mem : e ∈ P.entries) :
    (linked P N).procedure? (procRef P e.1) =
      some (adopt (linkedNodes P N) (linkedProcedure N e (P.rank e.1))) := by
  rw [procRef, procedure?_linked, Roster.entries_getElem?_rank mem]
  rfl

theorem linkedNodes_eq_map (P : Roster ProcRecord) (N : Roster NodeRecord) :
    linkedNodes P N = N.entries.map fun e => linkedNode P N e (N.rank e.1) :=
  N.map_zipIdx (linkedNode P N)

theorem linkedProcedures_eq_map (P : Roster ProcRecord) (N : Roster NodeRecord) :
    linkedProcedures P N = P.entries.map fun e => linkedProcedure N e (P.rank e.1) :=
  P.map_zipIdx (linkedProcedure N)

/-- Entries of the tables are those of the rosters. -/
theorem mem_nodes_linked {n : Node} (mem : n ∈ (linked P N).nodes.toList) :
    ∃ e ∈ N.entries, n = linkedNode P N e (N.rank e.1) := by
  rw [toList_nodes_linked, linkedNodes_eq_map] at mem
  obtain ⟨e, here, rfl⟩ := List.mem_map.1 mem
  exact ⟨e, here, rfl⟩

/-- Each place of a node is the place of an id. -/
theorem exists_nodeRef {r : NodeRef} (known : ((linked P N).node? r).isSome) :
    ∃ e ∈ N.entries, r = nodeRef N e.1 := by
  obtain ⟨n, here⟩ := Option.isSome_iff_exists.1 known
  obtain ⟨e, mem, rfl⟩ := mem_nodes_linked (mem_nodes_iff.2 ⟨r, here⟩)
  have place := nodeRef_linked here
  exact ⟨e, mem, place.symm⟩

/-- Each procedure of a linked graph is made of an entry, at the place of its id. -/
theorem mem_procedures_linked {p : Procedure} (mem : p ∈ (linked P N).procedures.toList) :
    ∃ e ∈ P.entries, p = adopt (linkedNodes P N) (linkedProcedure N e (P.rank e.1)) := by
  rw [toList_procedures_linked, linkedProcedures_eq_map, List.map_map] at mem
  obtain ⟨e, here, rfl⟩ := List.mem_map.1 mem
  exact ⟨e, here, rfl⟩

/-- A walk goes from a node to the successors and exceptional successors of its record. -/
theorem targets_nodeRef {e : WireId × NodeRecord} (mem : e ∈ N.entries) :
    (linked P N).targets (nodeRef N e.1) =
      (e.2.succs ++ e.2.exceptional).map (nodeRef N) := by
  rw [targets, node?_nodeRef mem]
  exact List.map_append.symm

/-- A procedure lists the nodes of the records that name it as their owner. -/
theorem nodes_adopt (closed : (Records.ofRosters P N).Closed) {e : WireId × ProcRecord}
    (mem : e ∈ P.entries) :
    (adopt (linkedNodes P N) (linkedProcedure N e (P.rank e.1))).nodes =
      ((N.entries.filter fun d => d.2.owner = e.1).map (·.1)).map (nodeRef N) := by
  have mine : ∀ d ∈ N.entries, procRef P d.2.owner = ⟨P.rank e.1⟩ ↔ d.2.owner = e.1 := by
    intro d dMem
    constructor
    · intro same
      exact Roster.rank_injective (closed.owner d dMem) (List.mem_map_of_mem mem)
        (congrArg ProcRef.index same)
    · intro same
      rw [same]
      rfl
  simp only [adopt, linkedNodes_eq_map, List.filter_map, List.map_map]
  exact congrArg (List.map _) (List.filter_congr fun d dMem => decide_eq_decide.2 (mine d dMem))

/-- Whether a node is a loop head is a matter of its record and of the order of its owner. -/
theorem isLoopHead?_nodeRef {e : WireId × NodeRecord} (mem : e ∈ N.entries) {id : WireId}
    (owner : id = e.2.owner) {order : List NodeRef}
    (given : (linked P N).reversePostorder? (procRef P id) = some order) :
    (linked P N).isLoopHead? (nodeRef N e.1) =
      some ((order.idxOf? (nodeRef N e.1)).elim false fun position =>
        reachesBack order position (e.2.preds.map (nodeRef N))) := by
  subst owner
  simp only [isLoopHead?, node?_nodeRef mem, Option.bind_eq_bind, Option.bind_some, linkedNode,
    given]
  cases order.idxOf? (nodeRef N e.1) <;> rfl

end Linked

/-! ### The part in the whole -/

section Part

variable {P P' : Roster ProcRecord} {N N' : Roster NodeRecord}

/-- The place that the node at a place of one roster has in another one. -/
def moved (N N' : Roster NodeRecord) (r : NodeRef) : NodeRef :=
  match N.ids[r.index]? with
  | some id => nodeRef N' id
  | none => r

/-- The reference of a known id is moved to the reference of this id in the whole. -/
theorem moved_nodeRef {id : WireId} (known : id ∈ N.ids) :
    moved N N' (nodeRef N id) = nodeRef N' id := by
  rw [moved, nodeRef, Roster.ids_getElem?_rank known]

theorem map_moved {ids : List WireId} (known : ∀ id ∈ ids, id ∈ N.ids) :
    (ids.map (nodeRef N)).map (moved N N') = ids.map (nodeRef N') := by
  rw [List.map_map]
  exact List.map_congr_left fun id mem => moved_nodeRef (known id mem)

variable (part : (Records.ofRosters P N).Part (Records.ofRosters P' N'))

include part

/-- The whole has the ids of the part. -/
theorem ids_part {id : WireId} (known : id ∈ N.ids) : id ∈ N'.ids :=
  List.map_subset _ part.nodes known

/-- Nodes of the part are kept apart in the whole. -/
theorem injOn_moved : Set.InjOn (moved N N') {r | ((linked P N).node? r).isSome} := by
  intro r known s known' same
  obtain ⟨d, dMem, rfl⟩ := exists_nodeRef known
  obtain ⟨e, eMem, rfl⟩ := exists_nodeRef known'
  have dKnown : d.1 ∈ N.ids := List.mem_map_of_mem dMem
  have eKnown : e.1 ∈ N.ids := List.mem_map_of_mem eMem
  rw [moved_nodeRef dKnown, moved_nodeRef eKnown] at same
  rw [Roster.rank_injective (ids_part part dKnown) (ids_part part eKnown)
    (congrArg NodeRef.index same)]

/-- Places of the part are those of the same ids in the whole. -/
theorem idsAt?_moved {refs : List NodeRef} (known : ∀ r ∈ refs, ((linked P N).node? r).isSome) :
    ∃ ids, (linked P N).idsAt? refs = some ids ∧
      (linked P' N').idsAt? (refs.map (moved N N')) = some ids := by
  have named : ∃ ids : List WireId, (∀ id ∈ ids, id ∈ N.ids) ∧ refs = ids.map (nodeRef N) := by
    induction refs with
    | nil => exact ⟨[], by simp, rfl⟩
    | cons r rest ih =>
      obtain ⟨first, others⟩ := List.forall_mem_cons.1 known
      obtain ⟨e, mem, rfl⟩ := exists_nodeRef first
      obtain ⟨ids, idsKnown, rfl⟩ := ih others
      exact ⟨e.1 :: ids, List.forall_mem_cons.2 ⟨List.mem_map_of_mem mem, idsKnown⟩, rfl⟩
  obtain ⟨ids, idsKnown, rfl⟩ := named
  refine ⟨ids, idsAt?_map_nodeRef idsKnown, ?_⟩
  rw [map_moved idsKnown]
  exact idsAt?_map_nodeRef fun id mem => ids_part part (idsKnown id mem)

/-- From any place of the part the whole is walked as the part is. -/
theorem renames_moved {m : NodeRef} (here : ((linked P N).node? m).isSome) :
    Renames (linked P N).targets (linked P' N').targets m (moved N N') where
  injective := by
    refine (injOn_moved part).mono ?_
    intro r reached
    exact (coherent_linked part.closed).isSome_of_reachable here reached
  edges r reached := by
    obtain ⟨e, mem, rfl⟩ :=
      exists_nodeRef ((coherent_linked part.closed).isSome_of_reachable here reached)
    have known : ∀ id ∈ e.2.succs ++ e.2.exceptional, id ∈ N.ids := by
      intro id target
      rcases List.mem_append.1 target with normal | raised
      · exact part.closed.succs e mem id normal
      · exact part.closed.exceptional e mem id raised
    rw [moved_nodeRef (List.mem_map_of_mem mem), targets_nodeRef (part.nodes mem),
      targets_nodeRef mem, map_moved known]

/-- The order of a walk in the part is moved to the order in the whole. -/
theorem orderFrom_moved (closed' : (Records.ofRosters P' N').Closed) {m : NodeRef}
    (here : ((linked P N).node? m).isSome) (here' : ((linked P' N').node? (moved N N' m)).isSome) :
    (linked P' N').orderFrom (moved N N' m) =
      ((linked P N).orderFrom m).map (moved N N') := by
  have stopped := (coherent_linked part.closed).stack_walk_eq_nil here
  have stopped' := (coherent_linked closed').stack_walk_eq_nil here'
  have walk := DepthFirst.run_map (renames_moved part here) (linked P N).walkBound
  have same := DepthFirst.run_eq_of_stack_eq_nil stopped'
    (m := (linked P N).walkBound) (by rw [walk, DepthFirst.map, stopped]; rfl)
  rw [orderFrom, reversePostorder, same, walk]
  rfl

/-- Both have the same nodes for each procedure of the part. -/
theorem filter_owner_part {id : WireId} (known : id ∈ P.ids) :
    N'.entries.filter (fun d => d.2.owner = id) = N.entries.filter fun d => d.2.owner = id := by
  have same : (N'.entries.filter fun d => d.2.owner = id).Perm
      (N.entries.filter fun d => d.2.owner = id) := by
    refine (List.perm_ext_iff_of_nodup (N'.nodup_entries.filter _) (N.nodup_entries.filter _)).2 ?_
    intro d
    simp only [List.mem_filter, decide_eq_true_eq]
    constructor
    · rintro ⟨mem, rfl⟩
      exact ⟨part.owned d mem known, rfl⟩
    · rintro ⟨mem, owner⟩
      exact ⟨part.nodes mem, owner⟩
  refine same.eq_of_pairwise ?_ (N'.ascending.filter _) (N.ascending.filter _)
  intro d e _ _ less greater
  exact absurd less (Int.lt_asymm greater)

/-- The start nodes of a procedure of the part, and the orders from there. -/
theorem order_part (closed' : (Records.ofRosters P' N').Closed) {e : WireId × ProcRecord}
    (mem : e ∈ P.entries) :
    ∃ order, (∀ r ∈ order, ((linked P N).node? r).isSome) ∧
      (linked P N).reversePostorder? (procRef P e.1) = some order ∧
      (linked P' N').reversePostorder? (procRef P' e.1) = some (order.map (moved N N')) := by
  have known := part.closed.start e mem
  have here : ((linked P N).node? (nodeRef N e.2.start)).isSome := isSome_node?_nodeRef known
  have here' : ((linked P' N').node? (moved N N' (nodeRef N e.2.start))).isSome := by
    rw [moved_nodeRef known]
    exact isSome_node?_nodeRef (ids_part part known)
  refine ⟨(linked P N).orderFrom (nodeRef N e.2.start), ?_, ?_, ?_⟩
  · intro r ordered
    have coherent := coherent_linked part.closed
    exact coherent.isSome_of_reachable here
      (reachable_iff.2 ((coherent.mem_orderFrom_iff here).1 ordered))
  · rw [reversePostorder?, procedure?_procRef mem]
    rfl
  · rw [reversePostorder?, procedure?_procRef (part.procedures mem),
      ← orderFrom_moved part closed' here here', moved_nodeRef known]
    rfl

/-- Positions in an order stay the same when it is moved. -/
theorem idxOf?_moved {order : List NodeRef} {r : NodeRef}
    (known : ∀ s ∈ order, ((linked P N).node? s).isSome) (here : ((linked P N).node? r).isSome) :
    (order.map (moved N N')).idxOf? (moved N N' r) = order.idxOf? r := by
  induction order with
  | nil => rfl
  | cons s rest ih =>
    obtain ⟨first, others⟩ := List.forall_mem_cons.1 known
    have same : moved N N' s = moved N N' r ↔ s = r := (injOn_moved part).eq_iff first here
    simp only [List.map_cons, List.idxOf?_cons, beq_iff_eq, same, ih others]

/-- What reaches back in the part reaches back in the whole. -/
theorem reachesBack_moved {order preds : List NodeRef}
    (known : ∀ s ∈ order, ((linked P N).node? s).isSome)
    (predsKnown : ∀ r ∈ preds, ((linked P N).node? r).isSome) (position : Nat) :
    reachesBack (order.map (moved N N')) position (preds.map (moved N N')) =
      reachesBack order position preds := by
  induction preds with
  | nil => rfl
  | cons r rest ih =>
    obtain ⟨first, others⟩ := List.forall_mem_cons.1 predsKnown
    simp only [reachesBack, List.map_cons, List.any_cons, idxOf?_moved part known first]
    exact congrArg _ (ih others)

/-- A node is a loop head in the part exactly when it is one in the whole. -/
theorem isLoopHead?_part (closed' : (Records.ofRosters P' N').Closed)
    {e : WireId × NodeRecord} (mem : e ∈ N.entries) :
    ∃ head, (linked P N).isLoopHead? (nodeRef N e.1) = some head ∧
      (linked P' N').isLoopHead? (nodeRef N' e.1) = some head := by
  have predsKnown := part.closed.preds e mem
  have idKnown : e.1 ∈ N.ids := List.mem_map_of_mem mem
  have here : ((linked P N).node? (nodeRef N e.1)).isSome := isSome_node?_nodeRef idKnown
  obtain ⟨d, dMem, owner⟩ := List.mem_map.1 (part.closed.owner e mem)
  obtain ⟨order, known, given, given'⟩ := order_part part closed' dMem
  have place : (order.map (moved N N')).idxOf? (nodeRef N' e.1) = order.idxOf? (nodeRef N e.1) := by
    rw [← moved_nodeRef (N := N) idKnown, idxOf?_moved part known here]
  have back (position : Nat) :
      reachesBack (order.map (moved N N')) position (e.2.preds.map (nodeRef N')) =
        reachesBack order position (e.2.preds.map (nodeRef N)) := by
    rw [← map_moved predsKnown]
    exact reachesBack_moved part known (isSome_of_mem_map_nodeRef predsKnown) position
  rw [isLoopHead?_nodeRef mem owner given, isLoopHead?_nodeRef (part.nodes mem) owner given', place]
  simp only [back]
  exact ⟨_, rfl, rfl⟩

/-- A part is in the whole as it is by itself. -/
theorem keptIn_of_part (closed' : (Records.ofRosters P' N').Closed) :
    (linked P N).KeptIn (linked P' N') where
  procedures p mem := by
    obtain ⟨e, eMem, rfl⟩ := mem_procedures_linked mem
    have eMem' : e ∈ P'.entries := part.procedures eMem
    obtain ⟨order, known, given, given'⟩ := order_part part closed' eMem
    obtain ⟨ids, orderIds, orderIds'⟩ := idsAt?_moved part known
    refine ⟨_, mem_procedures_iff.2 ⟨_, procedure?_procRef eMem'⟩, ⟨e, ?_, ?_⟩, ?_, ids, ?_, ?_⟩
    · exact procRecord?_linkedProcedure part.closed eMem _
    · exact procRecord?_linkedProcedure closed' eMem' _
    · refine ⟨(N.entries.filter fun d => d.2.owner = e.1).map (·.1), ?_, ?_⟩
      · rw [nodes_adopt part.closed eMem]
        apply idsAt?_map_nodeRef
        rw [List.forall_mem_map]
        intro d owned
        exact List.mem_map_of_mem (List.mem_filter.1 owned).1
      · rw [nodes_adopt closed' eMem', filter_owner_part part (List.mem_map_of_mem eMem)]
        apply idsAt?_map_nodeRef
        rw [List.forall_mem_map]
        intro d owned
        exact ids_part part (List.mem_map_of_mem (List.mem_filter.1 owned).1)
    · rw [orderIds?]
      exact given ▸ orderIds
    · rw [orderIds?]
      exact given' ▸ orderIds'
  nodes n mem := by
    obtain ⟨e, eMem, rfl⟩ := mem_nodes_linked mem
    have eMem' : e ∈ N'.entries := part.nodes eMem
    refine ⟨_, mem_nodes_iff.2 ⟨_, node?_nodeRef eMem'⟩, ⟨e, ?_, ?_⟩, ?_⟩
    · exact nodeRecord?_linkedNode part.closed eMem _
    · exact nodeRecord?_linkedNode closed' eMem' _
    · exact isLoopHead?_part part closed' eMem

end Part
end FlowGraph

end ProgramModel
