import Mathlib.Data.List.Induction
import ProgramModel.FlowGraph.Listing
import ProgramModel.FlowGraph.Walk
import ProgramModel.Proofs.FlowGraph.Registration
import ProgramModel.Proofs.Traversal.DepthFirst

/-!
What holds of the tables of every graph that is read: entries ascend by their ids and
know their own places, references lead to entries, and each procedure lists the nodes it
owns. So no lookup leaves its table, neither while the lists of nodes are filled nor in
any question to the finished graph. Main statement: `flowGraph_coherent`.
-/

namespace ProgramModel

namespace FlowGraph

/-- The invariant of linked graphs. -/
structure Coherent (g : FlowGraph) : Prop where
  procedureIds : g.procedures.toList.Pairwise fun p q => p.id.val < q.id.val
  nodeIds : g.nodes.toList.Pairwise fun n m => n.id.val < m.id.val
  procedureRef : ∀ {r p}, g.procedure? r = some p → p.ref = r
  nodeRef : ∀ {r n}, g.node? r = some n → n.ref = r
  start : ∀ {r p}, g.procedure? r = some p → (g.node? p.start).isSome
  exit : ∀ {r p}, g.procedure? r = some p → (g.node? p.exit).isSome
  owner : ∀ {r n}, g.node? r = some n → (g.procedure? n.owner).isSome
  succs : ∀ {r n}, g.node? r = some n → ∀ m ∈ n.succs, (g.node? m).isSome
  preds : ∀ {r n}, g.node? r = some n → ∀ m ∈ n.preds, (g.node? m).isSome
  exceptional : ∀ {r n}, g.node? r = some n → ∀ m ∈ n.exceptional, (g.node? m).isSome
  ascending : ∀ {r p}, g.procedure? r = some p → p.nodes.Pairwise fun n m => n.index < m.index
  owned : ∀ {r p}, g.procedure? r = some p →
    ∀ m, m ∈ p.nodes ↔ ∃ n, g.node? m = some n ∧ n.owner = r

/-- No question about an entry of the graph leads out of its tables. The walks of a
procedure are looked at after every step. -/
structure Total (g : FlowGraph) : Prop where
  nodesOf : ∀ r, (g.procedure? r).isSome → (g.nodesOf? r).isSome
  reversePostorder : ∀ r, (g.procedure? r).isSome → (g.reversePostorder? r).isSome
  walk : ∀ r p, g.procedure? r = some p → ∀ steps,
    ∀ f ∈ (Traversal.DepthFirst.run g.targets steps (.start p.start)).stack, (g.node? f.node).isSome
  successors : ∀ r, (g.node? r).isSome → (g.successors? r).isSome
  predecessors : ∀ r, (g.node? r).isSome → (g.predecessors? r).isSome
  isLoopHead : ∀ r, (g.node? r).isSome → (g.isLoopHead? r).isSome
  listing : g.listing?.isSome

/-! ### Entries -/

variable {g : FlowGraph}

/-- The nodes of a graph are those that references lead to. -/
theorem mem_nodes_iff {n : Node} : n ∈ g.nodes.toList ↔ ∃ r, g.node? r = some n := by
  rw [List.mem_iff_getElem?]
  constructor
  · rintro ⟨i, here⟩
    exact ⟨⟨i⟩, by simpa [node?] using here⟩
  · rintro ⟨r, here⟩
    exact ⟨r.index, by simpa [node?] using here⟩

/-- The procedures of a graph are those that references lead to. -/
theorem mem_procedures_iff {p : Procedure} :
    p ∈ g.procedures.toList ↔ ∃ r, g.procedure? r = some p := by
  rw [List.mem_iff_getElem?]
  constructor
  · rintro ⟨i, here⟩
    exact ⟨⟨i⟩, by simpa [procedure?] using here⟩
  · rintro ⟨r, here⟩
    exact ⟨r.index, by simpa [procedure?] using here⟩

/-- Lookups that all find an entry give these entries. -/
theorem exists_mapM {α β : Type} {f : α → Option β} {items : List α}
    (each : ∀ a ∈ items, (f a).isSome) :
    ∃ results, items.mapM f = some results ∧ ∀ b ∈ results, ∃ a ∈ items, f a = some b := by
  induction items with
  | nil => exact ⟨[], rfl, by simp⟩
  | cons a rest ih =>
    obtain ⟨first, others⟩ := List.forall_mem_cons.1 each
    obtain ⟨b, given⟩ := Option.isSome_iff_exists.1 first
    obtain ⟨bs, givens, sources⟩ := ih others
    refine ⟨b :: bs, by simp [given, givens], List.forall_mem_cons.2 ⟨?_, fun c mem => ?_⟩⟩
    · exact ⟨a, List.mem_cons_self, given⟩
    · obtain ⟨s, source, gives⟩ := sources c mem
      exact ⟨s, List.mem_cons_of_mem a source, gives⟩

theorem isSome_mapM {α β : Type} {f : α → Option β} {items : List α}
    (each : ∀ a ∈ items, (f a).isSome) : (items.mapM f).isSome := by
  obtain ⟨results, given, _⟩ := exists_mapM each
  exact Option.isSome_of_eq_some given

/-- Entries that know their own places ascend by them. -/
theorem pairwise_of_places {α : Type} {place : α → Nat} {entries : List α}
    (places : ∀ i a, entries[i]? = some a → place a = i) :
    entries.Pairwise fun a b => place a < place b := by
  rw [List.pairwise_iff_getElem]
  intro i j first second less
  rw [places i _ (List.getElem?_eq_getElem first), places j _ (List.getElem?_eq_getElem second)]
  exact less

/-- Ascending references are distinct. -/
theorem nodup_of_ascending {refs : List NodeRef}
    (ascending : refs.Pairwise fun n m => n.index < m.index) : refs.Nodup :=
  ascending.imp fun less => by rintro rfl; exact Nat.lt_irrefl _ less

/-- An ascending list of places is given by which places are in it. -/
theorem eq_of_ascending {refs refs' : List NodeRef}
    (ascending : refs.Pairwise fun n m => n.index < m.index)
    (ascending' : refs'.Pairwise fun n m => n.index < m.index) (same : ∀ m, m ∈ refs ↔ m ∈ refs') :
    refs = refs' := by
  have perm : refs.Perm refs' := (List.perm_ext_iff_of_nodup (nodup_of_ascending ascending)
    (nodup_of_ascending ascending')).2 same
  exact perm.eq_of_pairwise (fun n m _ _ less greater => absurd less (Nat.lt_asymm greater))
    ascending ascending'

/-- Nodes with their own places as references come by ascending references. -/
theorem pairwise_nodes (places : ∀ {r n}, g.node? r = some n → n.ref = r) :
    g.nodes.toList.Pairwise fun n m => n.ref.index < m.ref.index :=
  pairwise_of_places fun i n here => by
    rw [places (r := ⟨i⟩) (by simpa [node?] using here)]

/-- A procedure adopts nodes by ascending references. -/
theorem ascending_adopt (places : ∀ {r n}, g.node? r = some n → n.ref = r) (p : Procedure) :
    (adopt g.nodes.toList p).nodes.Pairwise fun n m => n.index < m.index :=
  List.pairwise_map.2 ((pairwise_nodes places).filter _)

/-- A procedure adopts the nodes that have it as their owner, and no others. -/
theorem mem_adopt_iff (places : ∀ {r n}, g.node? r = some n → n.ref = r) {p : Procedure}
    {m : NodeRef} :
    m ∈ (adopt g.nodes.toList p).nodes ↔ ∃ n, g.node? m = some n ∧ n.owner = p.ref := by
  simp only [adopt, List.mem_map, List.mem_filter, mem_nodes_iff, decide_eq_true_eq]
  constructor
  · rintro ⟨n, ⟨⟨s, here⟩, mine⟩, rfl⟩
    exact ⟨n, places here ▸ here, mine⟩
  · rintro ⟨n, here, mine⟩
    exact ⟨n, ⟨⟨m, here⟩, mine⟩, places here⟩

namespace Coherent

theorem pairwise_procedures (coherent : g.Coherent) :
    g.procedures.toList.Pairwise fun p q => p.ref.index < q.ref.index :=
  pairwise_of_places fun i p here => by
    rw [coherent.procedureRef (r := ⟨i⟩) (by simpa [procedure?] using here)]

/-! ### Lists of nodes -/

/-- The list of a procedure is what the nodes say of their owners. -/
theorem adopt_eq (coherent : g.Coherent) {r : ProcRef} {p : Procedure}
    (found : g.procedure? r = some p) : adopt g.nodes.toList p = p := by
  have equal := eq_of_ascending (ascending_adopt coherent.nodeRef p) (coherent.ascending found)
    fun m => by rw [mem_adopt_iff coherent.nodeRef, coherent.owned found,
      coherent.procedureRef found]
  calc adopt g.nodes.toList p
    _ = { p with nodes := (adopt g.nodes.toList p).nodes } := rfl
    _ = p := by rw [equal]

/-- No node is in the lists of two procedures, or twice in one list. -/
theorem nodup_flatMap_nodes (coherent : g.Coherent) :
    (g.procedures.toList.flatMap (·.nodes)).Nodup := by
  refine List.nodup_flatMap.2 ⟨fun p mem => ?_, ?_⟩
  · obtain ⟨r, found⟩ := mem_procedures_iff.1 mem
    exact nodup_of_ascending (coherent.ascending found)
  · refine coherent.pairwise_procedures.imp_of_mem fun {p q} pMem qMem less => ?_
    obtain ⟨r, pFound⟩ := mem_procedures_iff.1 pMem
    obtain ⟨s, qFound⟩ := mem_procedures_iff.1 qMem
    rw [coherent.procedureRef pFound, coherent.procedureRef qFound] at less
    -- A node in both lists would have two owners.
    intro m first second
    obtain ⟨n, here, rfl⟩ := (coherent.owned pFound m).1 first
    obtain ⟨n', here', rfl⟩ := (coherent.owned qFound m).1 second
    cases here.symm.trans here'
    exact Nat.lt_irrefl _ less

/-- Each node is in the list of exactly one procedure, and there it is once. -/
theorem perm_flatMap_nodes (coherent : g.Coherent) :
    (g.procedures.toList.flatMap (·.nodes)).Perm (g.nodes.toList.map (·.ref)) := by
  refine (List.perm_ext_iff_of_nodup coherent.nodup_flatMap_nodes
    (nodup_of_ascending (List.pairwise_map.2 (pairwise_nodes coherent.nodeRef)))).2 fun m => ?_
  simp only [List.mem_flatMap, List.mem_map, mem_procedures_iff, mem_nodes_iff]
  constructor
  · rintro ⟨p, ⟨r, found⟩, mem⟩
    obtain ⟨n, here, _⟩ := (coherent.owned found m).1 mem
    exact ⟨n, ⟨m, here⟩, coherent.nodeRef here⟩
  · rintro ⟨n, ⟨r, here⟩, rfl⟩
    obtain ⟨p, found⟩ := Option.isSome_iff_exists.1 (coherent.owner here)
    exact ⟨p, ⟨n.owner, found⟩,
      (coherent.owned found n.ref).2 ⟨n, coherent.nodeRef here ▸ here, rfl⟩⟩

end Coherent

/-! ### Filling the lists -/

/-- Puts a node at the end of the list of its owner, if there is one in the table. -/
def enrol? (procedures : List Procedure) (n : Node) : Option (List Procedure) := do
  let p ← procedures[n.owner.index]?
  return procedures.set n.owner.index { p with nodes := p.nodes ++ [n.ref] }

/-- With one node more at the end, the list of its owner grows by this node and no other list
changes. -/
theorem adopt_append_singleton (nodes : List Node) (n : Node) (p : Procedure) :
    adopt (nodes ++ [n]) p =
      if n.owner = p.ref then
        { adopt nodes p with nodes := (adopt nodes p).nodes ++ [n.ref] }
      else adopt nodes p := by
  split
  · next mine => simp [adopt, List.filter_append, mine]
  · next other => simp [adopt, List.filter_append, other]

/-- Nodes that are enrolled one after another end up in the lists of their owners. After
each of them the lists are those of the nodes so far. -/
theorem foldlM_enrol? {procedures : List Procedure} {nodes : List Node}
    (places : ∀ (i : Nat) (p : Procedure), procedures[i]? = some p → p.ref = ⟨i⟩)
    (owners : ∀ n ∈ nodes, n.owner.index < procedures.length) :
    nodes.foldlM enrol? (procedures.map (adopt [])) = some (procedures.map (adopt nodes)) := by
  -- From the back, since a node goes to the end of its owner's list.
  induction nodes using List.reverseRecOn with
  | nil => rfl
  | append_singleton nodes n ih =>
    have soFar := ih fun m mem => owners m (List.mem_append_left _ mem)
    have bound := owners n (List.mem_append_right _ (List.mem_singleton_self n))
    have owner := places _ _ (List.getElem?_eq_getElem bound)
    rw [List.foldlM_append, soFar]
    simp only [Option.bind_eq_bind, Option.bind_some, List.foldlM_cons, List.foldlM_nil, enrol?,
      List.getElem?_map, List.getElem?_eq_getElem bound, Option.map_some, Option.pure_def,
      Option.some.injEq]
    apply List.ext_getElem?
    intro j
    by_cases here : n.owner.index = j
    · subst here
      simp [adopt_append_singleton, owner, bound]
    · rw [List.getElem?_set_ne here]
      cases found : procedures[j]? with
      | none => simp [found]
      | some p =>
        have other : n.owner ≠ p.ref := by
          rw [places j p found]
          rintro same
          exact here (congrArg ProcRef.index same)
        simp [found, adopt_append_singleton, other]

/-! ### Lookups -/

namespace Coherent

/-- A walk that begins in the graph stays in it. -/
theorem isSome_of_reachable (coherent : g.Coherent) {m n : NodeRef} (here : (g.node? m).isSome)
    (reachable : Traversal.Reachable g.targets m n) : (g.node? n).isSome := by
  induction reachable with
  | refl => exact here
  | @tail a b _ edge ih =>
    obtain ⟨node, found⟩ := Option.isSome_iff_exists.1 ih
    simp only [targets, found, Node.targets, List.mem_append] at edge
    exact edge.elim (coherent.succs found b) (coherent.exceptional found b)

theorem isSome_of_mem_nodes (coherent : g.Coherent) {r : ProcRef} {p : Procedure}
    (found : g.procedure? r = some p) : ∀ m ∈ p.nodes, (g.node? m).isSome := by
  intro m mem
  obtain ⟨n, here, _⟩ := (coherent.owned found m).1 mem
  exact Option.isSome_of_eq_some here

/-- The listing of a node meets no reference without an entry. -/
theorem isSome_nodeListing? (coherent : g.Coherent) {r : NodeRef} {n : Node}
    (here : g.node? r = some n) : (g.nodeListing? n).isSome := by
  obtain ⟨succs, hsuccs⟩ := Option.isSome_iff_exists.1 (isSome_mapM (coherent.succs here))
  obtain ⟨preds, hpreds⟩ := Option.isSome_iff_exists.1 (isSome_mapM (coherent.preds here))
  obtain ⟨exceptional, hexceptional⟩ :=
    Option.isSome_iff_exists.1 (isSome_mapM (coherent.exceptional here))
  simp [nodeListing?, idsAt?, nodesAt?, hsuccs, hpreds, hexceptional]

/-- The listing of a procedure meets no reference without an entry. -/
theorem isSome_procedureListing? (coherent : g.Coherent) {r : ProcRef} {p : Procedure}
    (found : g.procedure? r = some p) : (g.procedureListing? p).isSome := by
  obtain ⟨nodes, here, sources⟩ := exists_mapM (coherent.isSome_of_mem_nodes found)
  have each : ∀ n ∈ nodes, (g.nodeListing? n).isSome := fun n mem =>
    let ⟨_, _, source⟩ := sources n mem
    coherent.isSome_nodeListing? source
  obtain ⟨lines, listed⟩ := Option.isSome_iff_exists.1 (isSome_mapM each)
  simp [procedureListing?, nodesAt?, here, listed]

/-- In a coherent graph no query that starts at an entry meets a reference without an entry. -/
theorem total (coherent : g.Coherent) : g.Total where
  nodesOf r known := by
    obtain ⟨p, found⟩ := Option.isSome_iff_exists.1 known
    simp only [nodesOf?, found]
    exact isSome_mapM (coherent.isSome_of_mem_nodes found)
  reversePostorder r known := by
    rw [reversePostorder?, Option.isSome_map]
    exact known
  walk r p found steps f mem := by
    -- What stands on the stack is marked, and what is marked was reached from the start.
    have inv := Traversal.DepthFirst.Invariant.run g.targets p.start steps
    have marked : f.node ∈ (Traversal.DepthFirst.run g.targets steps (.start p.start)).visited :=
      inv.marked.mem_iff.2 (List.mem_append_left _ (List.mem_map_of_mem mem))
    exact coherent.isSome_of_reachable (coherent.start found) (inv.reached f.node marked)
  successors r known := by
    obtain ⟨n, here⟩ := Option.isSome_iff_exists.1 known
    simp only [successors?, here]
    exact isSome_mapM (coherent.succs here)
  predecessors r known := by
    obtain ⟨n, here⟩ := Option.isSome_iff_exists.1 known
    simp only [predecessors?, here]
    exact isSome_mapM (coherent.preds here)
  isLoopHead r known := by
    obtain ⟨n, here⟩ := Option.isSome_iff_exists.1 known
    obtain ⟨p, found⟩ := Option.isSome_iff_exists.1 (coherent.owner here)
    simp only [isLoopHead?, reversePostorder?, here, found, Option.map_some,
      Option.bind_eq_bind, Option.bind_some]
    split <;> rfl
  listing := by
    have each : ∀ p ∈ g.procedures.toList, (g.procedureListing? p).isSome := fun p mem =>
      let ⟨_, found⟩ := mem_procedures_iff.1 mem
      coherent.isSome_procedureListing? found
    obtain ⟨texts, listed⟩ := Option.isSome_iff_exists.1 (isSome_mapM each)
    simp [listing?, listed]

end Coherent

/-! ### Linked graphs -/

section Linked

variable {procedures : Roster ProcRecord} {nodes : Roster NodeRecord}

/-- Each node of a linked graph is made of an entry of the roster. -/
theorem exists_of_node?_linked {r : NodeRef} {n : Node}
    (here : (linked procedures nodes).node? r = some n) :
    ∃ e ∈ nodes.entries, n = linkedNode procedures nodes e r.index := by
  obtain ⟨e, found, rfl⟩ :=
    Option.map_eq_some_iff.1 ((node?_linked procedures nodes _).symm.trans here)
  exact ⟨e, List.mem_of_getElem? found, rfl⟩

/-- Each procedure of a linked graph is made of an entry of the roster, and has adopted its nodes.
-/
theorem exists_of_procedure?_linked {r : ProcRef} {p : Procedure}
    (found : (linked procedures nodes).procedure? r = some p) :
    ∃ e ∈ procedures.entries,
      p = adopt (linkedNodes procedures nodes) (linkedProcedure nodes e r.index) := by
  obtain ⟨e, here, rfl⟩ :=
    Option.map_eq_some_iff.1 ((procedure?_linked procedures nodes _).symm.trans found)
  exact ⟨e, List.mem_of_getElem? here, rfl⟩

theorem isSome_node?_nodeRef {id : WireId} (known : id ∈ nodes.ids) :
    ((linked procedures nodes).node? (nodeRef nodes id)).isSome := by
  rw [nodeRef, node?_linked, Option.isSome_map, isSome_getElem?]
  exact Roster.rank_lt known

theorem isSome_procedure?_procRef {id : WireId} (known : id ∈ procedures.ids) :
    ((linked procedures nodes).procedure? (procRef procedures id)).isSome := by
  rw [procRef, procedure?_linked, Option.isSome_map, isSome_getElem?]
  exact Roster.rank_lt known

/-- The nodes of a linked graph have their places as references. -/
theorem nodeRef_linked {r : NodeRef} {n : Node}
    (here : (linked procedures nodes).node? r = some n) : n.ref = r := by
  obtain ⟨e, _, rfl⟩ := exists_of_node?_linked here
  rfl

theorem isSome_of_mem_map_nodeRef {ids : List WireId} (known : ∀ id ∈ ids, id ∈ nodes.ids) :
    ∀ m ∈ ids.map (nodeRef nodes), ((linked procedures nodes).node? m).isSome := by
  rw [List.forall_mem_map]
  exact fun id mem => isSome_node?_nodeRef (known id mem)

/-- Linking closed records gives a coherent graph. -/
theorem coherent_linked (closed : (Records.ofRosters procedures nodes).Closed) :
    (linked procedures nodes).Coherent where
  procedureIds := by
    have ids : (linked procedures nodes).procedures.toList.map (·.id) = procedures.ids := by
      rw [toList_procedures_linked, List.map_map]
      exact map_id_linkedProcedures procedures nodes
    have ascending := procedures.pairwise_ids
    rw [← ids, List.pairwise_map] at ascending
    exact ascending
  nodeIds := by
    have ascending := nodes.pairwise_ids
    rw [← map_id_linkedNodes procedures, List.pairwise_map] at ascending
    exact ascending
  procedureRef found := by
    obtain ⟨e, _, rfl⟩ := exists_of_procedure?_linked found
    rfl
  nodeRef := nodeRef_linked
  start found := by
    obtain ⟨e, mem, rfl⟩ := exists_of_procedure?_linked found
    exact isSome_node?_nodeRef (closed.start e mem)
  exit found := by
    obtain ⟨e, mem, rfl⟩ := exists_of_procedure?_linked found
    exact isSome_node?_nodeRef (closed.exit e mem)
  owner here := by
    obtain ⟨e, mem, rfl⟩ := exists_of_node?_linked here
    exact isSome_procedure?_procRef (closed.owner e mem)
  succs here := by
    obtain ⟨e, mem, rfl⟩ := exists_of_node?_linked here
    exact isSome_of_mem_map_nodeRef (closed.succs e mem)
  preds here := by
    obtain ⟨e, mem, rfl⟩ := exists_of_node?_linked here
    exact isSome_of_mem_map_nodeRef (closed.preds e mem)
  exceptional here := by
    obtain ⟨e, mem, rfl⟩ := exists_of_node?_linked here
    exact isSome_of_mem_map_nodeRef (closed.exceptional e mem)
  ascending found := by
    obtain ⟨e, _, rfl⟩ := exists_of_procedure?_linked found
    exact ascending_adopt nodeRef_linked _
  owned found m := by
    obtain ⟨e, _, rfl⟩ := exists_of_procedure?_linked found
    exact mem_adopt_iff nodeRef_linked

end Linked

/-- Filling the lists of a coherent graph, which are empty at first, takes each node to a
procedure in the table and gives the procedures of the graph. -/
theorem Coherent.foldlM_enrol? (coherent : g.Coherent) :
    g.nodes.toList.foldlM enrol? (g.procedures.toList.map fun p => { p with nodes := [] }) =
      some g.procedures.toList := by
  have filled : g.procedures.toList.map (adopt g.nodes.toList) = g.procedures.toList := by
    refine (List.map_congr_left fun p mem => ?_).trans (List.map_id _)
    obtain ⟨r, found⟩ := mem_procedures_iff.1 mem
    exact coherent.adopt_eq found
  have places : ∀ (i : Nat) (p : Procedure), g.procedures.toList[i]? = some p → p.ref = ⟨i⟩ :=
    fun i p here => coherent.procedureRef (by simpa [procedure?] using here)
  have owners : ∀ n ∈ g.nodes.toList, n.owner.index < g.procedures.toList.length := by
    intro n mem
    obtain ⟨r, here⟩ := mem_nodes_iff.1 mem
    simpa [procedure?] using coherent.owner here
  have each := FlowGraph.foldlM_enrol? places owners
  rw [filled] at each
  exact each

/-- Every graph that is read from a document is coherent. -/
theorem coherent_of_accepted {o : Options} {v : Json}
    (accepted : (Reading.flowGraph v).answer o = .ok g) : g.Coherent := by
  obtain ⟨_, procedures, nodes, _, _, closed, rfl⟩ :=
    Reading.answer_flowGraph_eq_ok_iff.1 accepted
  exact coherent_linked closed

end FlowGraph

/-- Every graph that is read is coherent. Each of its nodes is in one list of nodes and
only once; each has found its procedure when the lists were filled; and all questions to
the graph find the entries they need. -/
theorem flowGraph_coherent {o : Options} {v : Json} {g : FlowGraph}
    (accepted : (Reading.flowGraph v).answer o = .ok g) :
    g.Coherent ∧
      (g.procedures.toList.flatMap (·.nodes)).Perm (g.nodes.toList.map (·.ref)) ∧
      g.nodes.toList.foldlM FlowGraph.enrol?
        (g.procedures.toList.map fun p => { p with nodes := [] }) = some g.procedures.toList ∧
      g.Total := by
  have coherent := FlowGraph.coherent_of_accepted accepted
  exact ⟨coherent, coherent.perm_flatMap_nodes, coherent.foldlM_enrol?, coherent.total⟩

/-- The sample is accepted, and its graph is coherent and total. -/
theorem exists_coherent_flowGraph : ∃ g : FlowGraph,
    (Reading.flowGraph Sample.document).answer .default = .ok g ∧ g.Coherent ∧ g.Total := by
  obtain ⟨g, accepted, _⟩ := Sample.exists_flowGraph
  obtain ⟨coherent, _, _, total⟩ := flowGraph_coherent accepted
  exact ⟨g, accepted, coherent, total⟩

end ProgramModel
