import ProgramModel.Proofs.FlowGraph.Part

/-!
Documents that have nothing to do with each other. When no id is in both, their records can
be put into one document in any order, and each of them is a part of the graph of all.
Main statement: `flowGraph_combined`.
-/

namespace ProgramModel

/-! ### Records of two documents -/

namespace Records

/-- The records of two documents together. -/
def append (r s : Records) : Records := ⟨r.procedures ++ s.procedures, r.nodes ++ s.nodes⟩

variable {r s t : Records}

theorem Perm.append {r' s' : Records} (first : r.Perm r') (second : s.Perm s') :
    (r.append s).Perm (r'.append s') :=
  ⟨first.procedures.append second.procedures, first.nodes.append second.nodes⟩

theorem append_comm_perm (r s : Records) : (r.append s).Perm (s.append r) :=
  ⟨List.perm_append_comm, List.perm_append_comm⟩

/-- Two closed sets of records are closed together. -/
theorem Closed.append (first : r.Closed) (second : s.Closed) : (r.append s).Closed := by
  have left {id : WireId} (known : id ∈ r.nodeIds) : id ∈ (r.append s).nodeIds := by
    simp only [nodeIds, Records.append, List.map_append]
    exact List.mem_append_left _ known
  have right {id : WireId} (known : id ∈ s.nodeIds) : id ∈ (r.append s).nodeIds := by
    simp only [nodeIds, Records.append, List.map_append]
    exact List.mem_append_right _ known
  constructor
  · intro e mem
    rcases List.mem_append.1 mem with mem | mem
    · exact left (first.start e mem)
    · exact right (second.start e mem)
  · intro e mem
    rcases List.mem_append.1 mem with mem | mem
    · exact left (first.exit e mem)
    · exact right (second.exit e mem)
  · intro e mem
    simp only [procedureIds, Records.append, List.map_append]
    rcases List.mem_append.1 mem with mem | mem
    · exact List.mem_append_left _ (first.owner e mem)
    · exact List.mem_append_right _ (second.owner e mem)
  · intro e mem id target
    rcases List.mem_append.1 mem with mem | mem
    · exact left (first.succs e mem id target)
    · exact right (second.succs e mem id target)
  · intro e mem id target
    rcases List.mem_append.1 mem with mem | mem
    · exact left (first.preds e mem id target)
    · exact right (second.preds e mem id target)
  · intro e mem id target
    rcases List.mem_append.1 mem with mem | mem
    · exact left (first.exceptional e mem id target)
    · exact right (second.exceptional e mem id target)

/-- Records with distinct ids that have no id in common are distinct together. -/
theorem Distinct.append (first : r.Distinct) (second : s.Distinct)
    (procedures : ∀ id ∈ r.procedureIds, id ∉ s.procedureIds)
    (nodes : ∀ id ∈ r.nodeIds, id ∉ s.nodeIds) : (r.append s).Distinct := by
  constructor
  · simp only [procedureIds, Records.append, List.map_append]
    exact first.procedures.append second.procedures procedures
  · simp only [nodeIds, Records.append, List.map_append]
    exact first.nodes.append second.nodes nodes

/-- The nodes of the other document have owners there. -/
theorem part_append (closed : r.Closed) (others : s.Closed)
    (apart : ∀ id ∈ r.procedureIds, id ∉ s.procedureIds) : r.Part (r.append s) where
  closed := closed
  procedures := List.subset_append_left _ _
  nodes := List.subset_append_left _ _
  owned e mem mine := by
    rcases List.mem_append.1 mem with mem | mem
    · exact mem
    · exact absurd (others.owner e mem) (apart _ mine)

/-- Being a part does not depend on the order of the whole. -/
theorem Part.trans_perm (part : r.Part s) (same : s.Perm t) : r.Part t where
  closed := part.closed
  procedures := List.Subset.trans part.procedures same.procedures.subset
  nodes := List.Subset.trans part.nodes same.nodes.subset
  owned e mem mine := part.owned e (same.nodes.mem_iff.2 mem) mine

end Records

/-! ### Documents -/

/-- A document with the procedures and the nodes of two others, in any order. -/
structure Combined (a b c : Json) : Prop where
  procedures : ∃ xs ys zs, a.member? "procs" = some (.arr xs) ∧
    b.member? "procs" = some (.arr ys) ∧ c.member? "procs" = some (.arr zs) ∧ zs.Perm (xs ++ ys)
  nodes : ∃ xs ys zs, a.member? "nodes" = some (.arr xs) ∧
    b.member? "nodes" = some (.arr ys) ∧ c.member? "nodes" = some (.arr zs) ∧ zs.Perm (xs ++ ys)

/-- No id of a procedure or of a node is in both graphs. -/
structure FlowGraph.Apart (g h : FlowGraph) : Prop where
  procedures : ∀ p ∈ g.procedures.toList, ∀ q ∈ h.procedures.toList, p.id ≠ q.id
  nodes : ∀ n ∈ g.nodes.toList, ∀ m ∈ h.nodes.toList, n.id ≠ m.id

variable {o : Options} {a b c : Json}

/-- A document with the items of two others has the records of both. -/
theorem Records.ReadFrom.combined {r s : Records} (first : r.ReadFrom o a)
    (second : s.ReadFrom o b) (combined : Combined a b c) :
    ∃ t : Records, t.ReadFrom o c ∧ t.Perm (r.append s) := by
  obtain ⟨⟨ps, procsA, readsA⟩, ⟨ns, nodesA, nodeReadsA⟩⟩ := first
  obtain ⟨⟨ps', procsB, readsB⟩, ⟨ns', nodesB, nodeReadsB⟩⟩ := second
  obtain ⟨⟨xs, ys, zs, hxs, hys, procsC, procPerm⟩, ⟨us, vs, ws, hus, hvs, nodesC, nodePerm⟩⟩ :=
    combined
  cases procsA.symm.trans hxs
  cases procsB.symm.trans hys
  cases nodesA.symm.trans hus
  cases nodesB.symm.trans hvs
  obtain ⟨procedures, procReads, sameProcs⟩ :=
    List.perm_comp_forall₂ procPerm (List.rel_append readsA readsB)
  obtain ⟨nodes, nodeReads, sameNodes⟩ :=
    List.perm_comp_forall₂ nodePerm (List.rel_append nodeReadsA nodeReadsB)
  exact ⟨⟨procedures, nodes⟩, ⟨⟨zs, procsC, procReads⟩, ⟨ws, nodesC, nodeReads⟩⟩,
    ⟨sameProcs, sameNodes⟩⟩

namespace FlowGraph

variable {P P' : Roster ProcRecord} {N N' : Roster NodeRecord}

/-- Each id of the roster is the id of a procedure of the linked graph. -/
theorem exists_procedure_linked {id : WireId} (known : id ∈ P.ids) :
    ∃ p ∈ (linked P N).procedures.toList, p.id = id := by
  obtain ⟨e, mem, rfl⟩ := List.mem_map.1 known
  exact ⟨_, mem_procedures_iff.2 ⟨_, procedure?_procRef mem⟩, rfl⟩

/-- Each id of the roster is the id of a node of the linked graph. -/
theorem exists_node_linked {id : WireId} (known : id ∈ N.ids) :
    ∃ n ∈ (linked P N).nodes.toList, n.id = id := by
  obtain ⟨e, mem, rfl⟩ := List.mem_map.1 known
  exact ⟨_, mem_nodes_iff.2 ⟨_, node?_nodeRef mem⟩, rfl⟩

/-- Graphs without a common id are made of rosters without a common id of procedures. -/
theorem Apart.procedureIds (apart : (linked P N).Apart (linked P' N')) :
    ∀ id ∈ P.ids, id ∉ P'.ids := by
  intro id known known'
  obtain ⟨p, mem, rfl⟩ := exists_procedure_linked (N := N) known
  obtain ⟨q, mem', same⟩ := exists_procedure_linked (N := N') known'
  exact apart.procedures p mem q mem' same.symm

/-- Graphs without a common id are made of rosters without a common id of nodes. -/
theorem Apart.nodeIds (apart : (linked P N).Apart (linked P' N')) :
    ∀ id ∈ N.ids, id ∉ N'.ids := by
  intro id known known'
  obtain ⟨n, mem, rfl⟩ := exists_node_linked (P := P) known
  obtain ⟨m, mem', same⟩ := exists_node_linked (P := P') known'
  exact apart.nodes n mem m mem' same.symm

end FlowGraph

/-- Two graphs without an id in common can be read from one document, with their procedures
and nodes in any order. Each of them is kept in the graph of both: its entries say what they
said before, each procedure has its nodes and its reverse postorder, and the loop heads are
the same. -/
theorem flowGraph_combined {g h : FlowGraph} (first : (Reading.flowGraph a).answer o = .ok g)
    (second : (Reading.flowGraph b).answer o = .ok h) (apart : g.Apart h)
    (combined : Combined a b c) :
    ∃ k, (Reading.flowGraph c).answer o = .ok k ∧ g.KeptIn k ∧ h.KeptIn k := by
  obtain ⟨r, P, N, listed, same, closed, rfl⟩ := Reading.answer_flowGraph_eq_ok_iff.1 first
  obtain ⟨s, P', N', listed', same', closed', rfl⟩ := Reading.answer_flowGraph_eq_ok_iff.1 second
  obtain ⟨t, listedAll, sameAll⟩ := listed.combined listed' combined
  let r' := Records.ofRosters P N
  let s' := Records.ofRosters P' N'
  have whole : (r'.append s').Perm t := (same.append same').trans sameAll.symm
  have distinct : (r'.append s').Distinct :=
    (Records.distinct_ofRosters P N).append (Records.distinct_ofRosters P' N')
      apart.procedureIds apart.nodeIds
  -- The records of both documents fit into one pair of rosters, and each document is a part.
  obtain ⟨Q, procPerm⟩ := Roster.exists_perm (distinct.of_perm whole).procedures
  obtain ⟨M, nodePerm⟩ := Roster.exists_perm (distinct.of_perm whole).nodes
  have listing : (Records.ofRosters Q M).Perm t := ⟨procPerm, nodePerm⟩
  have rosters : (r'.append s').Perm (Records.ofRosters Q M) := whole.trans listing.symm
  have closedAll : (Records.ofRosters Q M).Closed := (closed.append closed').of_perm rosters
  have part : r'.Part (Records.ofRosters Q M) :=
    (Records.part_append closed closed' apart.procedureIds).trans_perm rosters
  have apart' : ∀ id ∈ P'.ids, id ∉ P.ids := fun id known known' =>
    apart.procedureIds id known' known
  have part' : s'.Part (Records.ofRosters Q M) :=
    (Records.part_append closed' closed apart').trans_perm
      ((Records.append_comm_perm s' r').trans rosters)
  refine ⟨FlowGraph.linked Q M, ?_, ?_, ?_⟩
  · exact Reading.answer_flowGraph_eq_ok_iff.2 ⟨t, Q, M, listedAll, listing, closedAll, rfl⟩
  · exact FlowGraph.keptIn_of_part part closedAll
  · exact FlowGraph.keptIn_of_part part' closedAll

/-! ### A document between the records of another one -/

namespace Sample

/-- A loop of two nodes, with ids between those of the small document. -/
def loop : Json := .obj [("procs", .arr [procedure 2 5 6]),
  ("nodes", .arr [node 6 2 [5] [5] [], node 5 2 [6] [6] []])]

def interleaved : Json := .obj [
  ("procs", .arr [procedure 7 (-3) 4, procedure 2 5 6, procedure (-1) 9 9]),
  ("nodes", .arr [node 9 (-1) [9] [9] [], node 6 2 [5] [5] [], node 4 7 [] [-3] [],
    node (-3) 7 [4, -3, 4] [-3] [9], node 5 2 [6] [6] []])]

theorem combined_interleaved : Combined document loop interleaved where
  procedures := ⟨_, _, _, rfl, rfl, rfl, .cons _ (.swap _ _ _)⟩
  nodes := ⟨_, _, _, rfl, rfl, rfl,
    .cons _ ((List.Perm.swap _ _ _).trans (.cons _ (.swap _ _ _)))⟩

/-- The ids of the procedures and of the nodes of a graph. -/
def ids (g : FlowGraph) : List Int × List Int :=
  (g.procedures.toList.map (·.id.val), g.nodes.toList.map (·.id.val))

/-- Whether two graphs have an id in common can be seen from the lists of their ids. -/
theorem apart_of_ids {g h : FlowGraph} (procedures : ∀ id ∈ (ids g).1, id ∉ (ids h).1)
    (nodes : ∀ id ∈ (ids g).2, id ∉ (ids h).2) : g.Apart h where
  procedures := by
    intro p mem q mem' same
    have known : p.id.val ∈ (ids g).1 := List.mem_map_of_mem mem
    have known' : p.id.val ∈ (ids h).1 := same ▸ List.mem_map_of_mem mem'
    exact procedures _ known known'
  nodes := by
    intro n mem m mem' same
    have known : n.id.val ∈ (ids g).2 := List.mem_map_of_mem mem
    have known' : n.id.val ∈ (ids h).2 := same ▸ List.mem_map_of_mem mem'
    exact nodes _ known known'

end Sample

/-- Two samples without a common id, and a third one with the records of both in between each
other. The references of the first two are shifted in it. -/
theorem exists_combined : ∃ g h k,
    (Reading.flowGraph Sample.document).answer .default = .ok g ∧
      (Reading.flowGraph Sample.loop).answer .default = .ok h ∧ g.Apart h ∧
      (Reading.flowGraph Sample.interleaved).answer .default = .ok k ∧
      g.KeptIn k ∧ h.KeptIn k := by
  have computed : ((Reading.flowGraph Sample.document).answer .default).toOption.map Sample.ids =
      some ([-1, 7], [-3, 4, 9]) := by
    decide +kernel
  have computed' : ((Reading.flowGraph Sample.loop).answer .default).toOption.map Sample.ids =
      some ([2], [5, 6]) := by
    decide +kernel
  obtain ⟨g, first, idsG⟩ := exists_ok_of_map_toOption Sample.ids _ computed
  obtain ⟨h, second, idsH⟩ := exists_ok_of_map_toOption Sample.ids _ computed'
  have apart : g.Apart h := by
    apply Sample.apart_of_ids
    · rw [idsG, idsH]
      decide
    · rw [idsG, idsH]
      decide
  obtain ⟨k, accepted, kept, kept'⟩ :=
    flowGraph_combined first second apart Sample.combined_interleaved
  exact ⟨g, h, k, first, second, apart, accepted, kept, kept'⟩

end ProgramModel
