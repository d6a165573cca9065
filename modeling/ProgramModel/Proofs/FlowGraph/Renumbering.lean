import ProgramModel.Proofs.FlowGraph.Registration
import ProgramModel.Proofs.Wire.Renumbering

/-!
Graphs of documents whose ids are given other numbers. When the order of ids is kept, each
record keeps its place, and all references with it: the graph differs in the stored ids and in
nothing else. Main statement: `flowGraph_renumber`.
-/

namespace ProgramModel

variable {α β : Type} {f g : WireId → WireId} {ids ids' : List WireId}

/-! ### Changes that keep the order -/

/-- Of two ids in the list the greater one has the greater number. -/
def IncreasingOn (f : WireId → WireId) (ids : List WireId) : Prop :=
  ∀ a ∈ ids, ∀ b ∈ ids, a.val < b.val → (f a).val < (f b).val

instance (f : WireId → WireId) (ids : List WireId) : Decidable (IncreasingOn f ids) :=
  inferInstanceAs (Decidable (∀ a ∈ ids, ∀ b ∈ ids, a.val < b.val → (f a).val < (f b).val))

namespace IncreasingOn

/-- A change that keeps the order of some ids keeps that of a part of them. -/
theorem mono (increasing : IncreasingOn f ids) {part : List WireId} (among : part ⊆ ids) :
    IncreasingOn f part :=
  fun a mem b mem' => increasing a (among mem) b (among mem')

/-- A change that keeps the order keeps ids apart. -/
theorem injective (increasing : IncreasingOn f ids) {a b : WireId} (mem : a ∈ ids)
    (mem' : b ∈ ids) (same : f a = f b) : a = b := by
  rcases Int.lt_trichotomy a.val b.val with less | equal | greater
  · exact absurd (increasing a mem b mem' less) (same ▸ Int.lt_irrefl _)
  · exact Bounded.val_injective equal
  · exact absurd (increasing b mem' a mem greater) (same ▸ Int.lt_irrefl _)

/-- A changed id is one of the changed ids of a list only when the id is one of the list. -/
theorem mem_map_iff (increasing : IncreasingOn f ids) {part : List WireId} (among : part ⊆ ids)
    {a : WireId} (mem : a ∈ ids) : f a ∈ part.map f ↔ a ∈ part := by
  constructor
  · intro changed
    obtain ⟨b, mem', same⟩ := List.mem_map.1 changed
    rwa [← increasing.injective (among mem') mem same]
  · exact List.mem_map_of_mem

end IncreasingOn

/-! ### Records -/

def ProcRecord.renumber (g : WireId → WireId) (r : ProcRecord) : ProcRecord :=
  { r with start := g r.start, exit := g r.exit }

def NodeRecord.renumber (f g : WireId → WireId) (r : NodeRecord) : NodeRecord :=
  { r with
    owner := f r.owner
    succs := r.succs.map g
    preds := r.preds.map g
    exceptional := r.exceptional.map g }

namespace Records

def renumber (f g : WireId → WireId) (r : Records) : Records where
  procedures := r.procedures.map fun e => (f e.1, e.2.renumber g)
  nodes := r.nodes.map fun e => (g e.1, e.2.renumber f g)

theorem procedureIds_renumber (f g : WireId → WireId) (r : Records) :
    (r.renumber f g).procedureIds = r.procedureIds.map f := by
  simp [renumber, Records.procedureIds, Function.comp_def]

theorem nodeIds_renumber (f g : WireId → WireId) (r : Records) :
    (r.renumber f g).nodeIds = r.nodeIds.map g := by
  simp [renumber, Records.nodeIds, Function.comp_def]

theorem Perm.renumber {r s : Records} (same : r.Perm s) (f g : WireId → WireId) :
    (r.renumber f g).Perm (s.renumber f g) :=
  ⟨same.procedures.map _, same.nodes.map _⟩

/-- All ids of procedures in the records are in one list, and all ids of nodes in another. -/
structure Among (r : Records) (ids ids' : List WireId) : Prop where
  procedures : r.procedureIds ⊆ ids
  nodes : r.nodeIds ⊆ ids'
  start : ∀ e ∈ r.procedures, e.2.start ∈ ids'
  exit : ∀ e ∈ r.procedures, e.2.exit ∈ ids'
  owner : ∀ e ∈ r.nodes, e.2.owner ∈ ids
  succs : ∀ e ∈ r.nodes, e.2.succs ⊆ ids'
  preds : ∀ e ∈ r.nodes, e.2.preds ⊆ ids'
  exceptional : ∀ e ∈ r.nodes, e.2.exceptional ⊆ ids'

/-- An id has a record exactly when the changed id has a changed record. -/
theorem closed_renumber_iff {r : Records} (among : r.Among ids ids')
    (increasing : IncreasingOn f ids) (increasing' : IncreasingOn g ids') :
    (r.renumber f g).Closed ↔ r.Closed := by
  have procedure {id : WireId} (mem : id ∈ ids) :
      f id ∈ (r.renumber f g).procedureIds ↔ id ∈ r.procedureIds := by
    rw [procedureIds_renumber, increasing.mem_map_iff among.procedures mem]
  have node {id : WireId} (mem : id ∈ ids') :
      g id ∈ (r.renumber f g).nodeIds ↔ id ∈ r.nodeIds := by
    rw [nodeIds_renumber, increasing'.mem_map_iff among.nodes mem]
  have edges {targets : List WireId} (mem : targets ⊆ ids') :
      (∀ id ∈ targets.map g, id ∈ (r.renumber f g).nodeIds) ↔ ∀ id ∈ targets, id ∈ r.nodeIds := by
    rw [List.forall_mem_map]
    exact forall₂_congr fun id here => node (mem here)
  constructor
  · rintro ⟨start, exit, owner, succs, preds, exceptional⟩
    simp only [renumber, List.forall_mem_map] at start exit owner succs preds exceptional
    exact ⟨fun e mem => (node (among.start e mem)).1 (start e mem),
      fun e mem => (node (among.exit e mem)).1 (exit e mem),
      fun e mem => (procedure (among.owner e mem)).1 (owner e mem),
      fun e mem => (edges (among.succs e mem)).1 (succs e mem),
      fun e mem => (edges (among.preds e mem)).1 (preds e mem),
      fun e mem => (edges (among.exceptional e mem)).1 (exceptional e mem)⟩
  · intro closed
    constructor <;> refine List.forall_mem_map.2 fun e mem => ?_
    · exact (node (among.start e mem)).2 (closed.start e mem)
    · exact (node (among.exit e mem)).2 (closed.exit e mem)
    · exact (procedure (among.owner e mem)).2 (closed.owner e mem)
    · exact (edges (among.succs e mem)).2 (closed.succs e mem)
    · exact (edges (among.preds e mem)).2 (closed.preds e mem)
    · exact (edges (among.exceptional e mem)).2 (closed.exceptional e mem)

end Records

/-! ### Records that are read -/

section Read

open Reading (answer_wireIdField_eq_ok_iff answer_nodeIds_eq_ok_iff)

variable {o : Options} {v w : Json}

/-- The record of a procedure, with its ids as they are found under their keys. -/
theorem isProcRecord_iff {e : WireId × ProcRecord} :
    IsProcRecord o w e ↔ w.idAt? "pd_id" = some e.1 ∧
      (∃ a, w.member? "pd_attributes" = some a ∧
        (Reading.attributes a).answer o = .ok e.2.attributes) ∧
      w.idAt? "pd_start_node" = some e.2.start ∧ w.idAt? "pd_exit_node" = some e.2.exit := by
  constructor
  · rintro ⟨id, attributes, start, exit⟩
    exact ⟨answer_wireIdField_eq_ok_iff.1 id, attributes, answer_wireIdField_eq_ok_iff.1 start,
      answer_wireIdField_eq_ok_iff.1 exit⟩
  · rintro ⟨id, attributes, start, exit⟩
    exact ⟨answer_wireIdField_eq_ok_iff.2 id, attributes, answer_wireIdField_eq_ok_iff.2 start,
      answer_wireIdField_eq_ok_iff.2 exit⟩

/-- The record of a node, with its ids as they are found under their keys. -/
theorem isNodeRecord_iff {e : WireId × NodeRecord} :
    IsNodeRecord o w e ↔ w.idAt? "nd_id" = some e.1 ∧ w.idAt? "nd_proc_id" = some e.2.owner ∧
      (Reading.nodeBody w).answer o = .ok e.2.body ∧ w.idList? "nd_succ_ids" = some e.2.succs ∧
      w.idList? "nd_pred_ids" = some e.2.preds ∧
      w.idList? "nd_exn_ids" = some e.2.exceptional := by
  constructor
  · rintro ⟨id, owner, body, succs, preds, exceptional⟩
    exact ⟨answer_wireIdField_eq_ok_iff.1 id, answer_wireIdField_eq_ok_iff.1 owner, body,
      answer_nodeIds_eq_ok_iff.1 succs, answer_nodeIds_eq_ok_iff.1 preds,
      answer_nodeIds_eq_ok_iff.1 exceptional⟩
  · rintro ⟨id, owner, body, succs, preds, exceptional⟩
    exact ⟨answer_wireIdField_eq_ok_iff.2 id, answer_wireIdField_eq_ok_iff.2 owner, body,
      answer_nodeIds_eq_ok_iff.2 succs, answer_nodeIds_eq_ok_iff.2 preds,
      answer_nodeIds_eq_ok_iff.2 exceptional⟩

/-- A procedure with other numbers is read as the record with other numbers, and as nothing else.
-/
theorem isProcRecord_renumber_iff {e' : WireId × ProcRecord} :
    IsProcRecord o (w.renumberProcedure f g) e' ↔
      ∃ e, IsProcRecord o w e ∧ e' = (f e.1, e.2.renumber g) := by
  have ids : (w.renumberProcedure f g).idAt? "pd_id" = (w.idAt? "pd_id").map f :=
    Json.idAt?_mapMembers rfl w
  have starts : (w.renumberProcedure f g).idAt? "pd_start_node" =
      (w.idAt? "pd_start_node").map g :=
    Json.idAt?_mapMembers rfl w
  have exits : (w.renumberProcedure f g).idAt? "pd_exit_node" = (w.idAt? "pd_exit_node").map g :=
    Json.idAt?_mapMembers rfl w
  have kept : (w.renumberProcedure f g).member? "pd_attributes" = w.member? "pd_attributes" :=
    Json.member?_mapMembers_of_eq_id rfl w
  simp only [isProcRecord_iff, ids, starts, exits, kept, Option.map_eq_some_iff]
  constructor
  · rintro ⟨⟨id, idRead, same⟩, attributes, ⟨start, startRead, same'⟩, exit, exitRead, same''⟩
    refine ⟨(id, { e'.2 with start, exit }), ⟨idRead, attributes, startRead, exitRead⟩, ?_⟩
    obtain ⟨id', attributes', start', exit'⟩ := e'
    cases same
    cases same'
    cases same''
    rfl
  · rintro ⟨e, ⟨id, attributes, start, exit⟩, rfl⟩
    exact ⟨⟨_, id, rfl⟩, attributes, ⟨_, start, rfl⟩, _, exit, rfl⟩

/-- A node with other numbers is read as the record with other numbers, and as nothing else. -/
theorem isNodeRecord_renumber_iff {e' : WireId × NodeRecord} :
    IsNodeRecord o (w.renumberNode f g) e' ↔
      ∃ e, IsNodeRecord o w e ∧ e' = (g e.1, e.2.renumber f g) := by
  have ids : (w.renumberNode f g).idAt? "nd_id" = (w.idAt? "nd_id").map g :=
    Json.idAt?_mapMembers rfl w
  have owners : (w.renumberNode f g).idAt? "nd_proc_id" = (w.idAt? "nd_proc_id").map f :=
    Json.idAt?_mapMembers rfl w
  have succs : (w.renumberNode f g).idList? "nd_succ_ids" =
      (w.idList? "nd_succ_ids").map (List.map g) :=
    Json.idList?_mapMembers rfl w
  have preds : (w.renumberNode f g).idList? "nd_pred_ids" =
      (w.idList? "nd_pred_ids").map (List.map g) :=
    Json.idList?_mapMembers rfl w
  have exceptionals : (w.renumberNode f g).idList? "nd_exn_ids" =
      (w.idList? "nd_exn_ids").map (List.map g) :=
    Json.idList?_mapMembers rfl w
  simp only [isNodeRecord_iff, ids, owners, succs, preds, exceptionals,
    Reading.nodeBody_renumber, Option.map_eq_some_iff]
  constructor
  · rintro ⟨⟨id, idRead, same⟩, ⟨owner, ownerRead, sameOwner⟩, body,
      ⟨succs, succsRead, sameSuccs⟩, ⟨preds, predsRead, samePreds⟩,
      exceptional, exceptionalRead, sameExceptional⟩
    -- The record before the change has the ids that were found; the body is shared.
    refine ⟨(id, { e'.2 with owner, succs, preds, exceptional }),
      ⟨idRead, ownerRead, body, succsRead, predsRead, exceptionalRead⟩, ?_⟩
    obtain ⟨id', owner', body', succs', preds', exceptional'⟩ := e'
    cases same
    cases sameOwner
    cases sameSuccs
    cases samePreds
    cases sameExceptional
    rfl
  · rintro ⟨e, ⟨id, owner, body, succs, preds, exceptional⟩, rfl⟩
    exact ⟨⟨_, id, rfl⟩, ⟨_, owner, rfl⟩, body, ⟨_, succs, rfl⟩, ⟨_, preds, rfl⟩, _, exceptional,
      rfl⟩

/-- What is read from changed items is what is read from the items, changed as well. -/
theorem forall₂_map_iff {γ : Type} {R : α → β → Prop} {R' : γ → β → Prop} {change : α → γ}
    {image : β → β} (each : ∀ a b', R' (change a) b' ↔ ∃ b, R a b ∧ b' = image b)
    {items : List α} {results' : List β} :
    List.Forall₂ R' (items.map change) results' ↔
      ∃ results, List.Forall₂ R items results ∧ results' = results.map image := by
  induction items generalizing results' with
  | nil => simp [List.forall₂_nil_left_iff]
  | cons a rest ih =>
    simp only [List.map_cons, List.forall₂_cons_left_iff, each, ih]
    constructor
    · rintro ⟨_, _, ⟨b, first, rfl⟩, ⟨results, others, rfl⟩, rfl⟩
      exact ⟨b :: results, ⟨b, results, first, others, rfl⟩, rfl⟩
    · rintro ⟨_, ⟨b, results, first, others, rfl⟩, rfl⟩
      exact ⟨_, _, ⟨b, first, rfl⟩, ⟨results, others, rfl⟩, rfl⟩

theorem exists_of_forall₂ {R : α → β → Prop} {items : List α} {results : List β}
    (each : List.Forall₂ R items results) {b : β} (mem : b ∈ results) : ∃ a ∈ items, R a b := by
  induction each with
  | nil => cases mem
  | cons first _ ih =>
    rcases List.mem_cons.1 mem with rfl | mem
    · exact ⟨_, .head _, first⟩
    · obtain ⟨a, here, read⟩ := ih mem
      exact ⟨a, .tail _ here, read⟩

namespace Records

/-- A document with other numbers has the records with other numbers, and no others. -/
theorem readFrom_renumber_iff {s : Records} :
    s.ReadFrom o (v.renumber f g) ↔ ∃ r : Records, r.ReadFrom o v ∧ s = r.renumber f g := by
  have procs {items : List Json} : (v.renumber f g).member? "procs" = some (.arr items) ↔
      ∃ before, v.member? "procs" = some (.arr before) ∧
        items = before.map (Json.renumberProcedure f g) :=
    Json.member?_mapMembers_arr_iff rfl
  have nodes {items : List Json} : (v.renumber f g).member? "nodes" = some (.arr items) ↔
      ∃ before, v.member? "nodes" = some (.arr before) ∧
        items = before.map (Json.renumberNode f g) :=
    Json.member?_mapMembers_arr_iff rfl
  constructor
  · rintro ⟨⟨_, found, reads⟩, ⟨_, found', reads'⟩⟩
    obtain ⟨items, before, rfl⟩ := procs.1 found
    obtain ⟨items', before', rfl⟩ := nodes.1 found'
    obtain ⟨procedures, each, same⟩ := (forall₂_map_iff fun _ _ => isProcRecord_renumber_iff).1 reads
    obtain ⟨nodes, each', same'⟩ := (forall₂_map_iff fun _ _ => isNodeRecord_renumber_iff).1 reads'
    refine ⟨⟨procedures, nodes⟩, ⟨⟨items, before, each⟩, ⟨items', before', each'⟩⟩, ?_⟩
    cases s
    cases same
    cases same'
    rfl
  · rintro ⟨r, ⟨⟨items, found, reads⟩, ⟨items', found', reads'⟩⟩, rfl⟩
    exact ⟨⟨_, procs.2 ⟨items, found, rfl⟩,
        (forall₂_map_iff fun _ _ => isProcRecord_renumber_iff).2 ⟨_, reads, rfl⟩⟩,
      ⟨_, nodes.2 ⟨items', found', rfl⟩,
        (forall₂_map_iff fun _ _ => isNodeRecord_renumber_iff).2 ⟨_, reads', rfl⟩⟩⟩

/-- All ids in the records that are read are ids in the document. -/
theorem ReadFrom.among {r : Records} (listed : r.ReadFrom o v) :
    r.Among v.procedureIds v.nodeIds := by
  obtain ⟨⟨items, procs, procReads⟩, ⟨items', nodes, nodeReads⟩⟩ := listed
  have procItems := Json.itemsAt_of_member? procs
  have nodeItems := Json.itemsAt_of_member? nodes
  have procedure : ∀ e ∈ r.procedures, e.1 ∈ v.procedureIds ∧ e.2.start ∈ v.nodeIds ∧
      e.2.exit ∈ v.nodeIds := by
    intro e mem
    obtain ⟨w, here, record⟩ := exists_of_forall₂ procReads mem
    obtain ⟨id, _, start, exit⟩ := isProcRecord_iff.1 record
    simp only [Json.procedureIds, Json.nodeIds, List.mem_append, List.mem_filterMap,
      List.mem_flatMap, procItems]
    exact ⟨.inl ⟨w, here, id⟩, .inl (.inl ⟨w, here, by simp [Json.endIds, start]⟩),
      .inl (.inl ⟨w, here, by simp [Json.endIds, exit]⟩)⟩
  have node : ∀ e ∈ r.nodes, e.1 ∈ v.nodeIds ∧ e.2.owner ∈ v.procedureIds ∧
      e.2.succs ++ e.2.preds ++ e.2.exceptional ⊆ v.nodeIds := by
    intro e mem
    obtain ⟨w, here, record⟩ := exists_of_forall₂ nodeReads mem
    obtain ⟨id, owner, _, succs, preds, exceptional⟩ := isNodeRecord_iff.1 record
    have edges : w.edgeIds = e.2.succs ++ e.2.preds ++ e.2.exceptional := by
      rw [Json.edgeIds, Json.idsAt_of_idList? succs, Json.idsAt_of_idList? preds,
        Json.idsAt_of_idList? exceptional]
    refine ⟨?_, ?_, fun id target => ?_⟩ <;>
      simp only [Json.procedureIds, Json.nodeIds, List.mem_append, List.mem_filterMap,
        List.mem_flatMap, nodeItems]
    · exact .inl (.inr ⟨w, here, id⟩)
    · exact .inr ⟨w, here, owner⟩
    · exact .inr ⟨w, here, edges ▸ target⟩
  constructor
  · exact List.forall_mem_map.2 fun e mem => (procedure e mem).1
  · exact List.forall_mem_map.2 fun e mem => (node e mem).1
  · exact fun e mem => (procedure e mem).2.1
  · exact fun e mem => (procedure e mem).2.2
  · exact fun e mem => (node e mem).2.1
  · exact fun e mem id target => (node e mem).2.2 (by simp [target])
  · exact fun e mem id target => (node e mem).2.2 (by simp [target])
  · exact fun e mem id target => (node e mem).2.2 (by simp [target])

end Records

end Read

/-! ### Rosters -/

namespace Roster

variable {r : Roster α} {r' : Roster β}

/-- Records can be given other ids in the same order. -/
theorem exists_renumber (increasing : IncreasingOn f r.ids) (change : α → β) :
    ∃ r' : Roster β, r'.entries = r.entries.map fun e => (f e.1, change e.2) := by
  refine ⟨⟨r.entries.map fun e => (f e.1, change e.2), ?_⟩, rfl⟩
  rw [List.pairwise_map]
  refine r.ascending.imp_of_mem fun here here' less => ?_
  exact increasing _ (List.mem_map_of_mem here) _ (List.mem_map_of_mem here') less

/-- The places are the same ones. -/
theorem rank_of_ids_eq_map (same : r'.ids = r.ids.map f) {id : WireId} (known : id ∈ r.ids) :
    r'.rank (f id) = r.rank id := by
  apply rank_of_ids_getElem?
  rw [same, List.getElem?_map, ids_getElem?_rank known]
  rfl

end Roster

/-! ### Graphs -/

def Procedure.renumber (f : WireId → WireId) (p : Procedure) : Procedure := { p with id := f p.id }

def Node.renumber (g : WireId → WireId) (n : Node) : Node := { n with id := g n.id }

namespace FlowGraph

/-- The graph with other ids; places and references stay. -/
def renumber (f g : WireId → WireId) (h : FlowGraph) : FlowGraph where
  procedures := h.procedures.map (Procedure.renumber f)
  nodes := h.nodes.map (Node.renumber g)

section Walk

variable (f g : WireId → WireId) (h : FlowGraph)

@[simp]
theorem node?_renumber (n : NodeRef) :
    (h.renumber f g).node? n = (h.node? n).map (Node.renumber g) := by
  simp [node?, renumber]

@[simp]
theorem procedure?_renumber (p : ProcRef) :
    (h.renumber f g).procedure? p = (h.procedure? p).map (Procedure.renumber f) := by
  simp [procedure?, renumber]

/-- A walk goes the same way, since it goes along references. -/
theorem targets_renumber : (h.renumber f g).targets = h.targets := by
  funext n
  rw [targets, targets, node?_renumber]
  cases h.node? n <;> rfl

theorem walkBound_renumber : (h.renumber f g).walkBound = h.walkBound := by
  simp [walkBound, renumber, List.foldr_map, Node.renumber, Node.targets]

/-- Reverse postorder is made of references, so it stays as it is. -/
theorem reversePostorder?_renumber (p : ProcRef) :
    (h.renumber f g).reversePostorder? p = h.reversePostorder? p := by
  have same (n : NodeRef) : (h.renumber f g).orderFrom n = h.orderFrom n := by
    rw [orderFrom, orderFrom, targets_renumber, walkBound_renumber]
  rw [reversePostorder?, reversePostorder?, procedure?_renumber]
  cases h.procedure? p with
  | none => rfl
  | some procedure => exact congrArg some (same procedure.start)

/-- The same nodes are loop heads. -/
theorem isLoopHead?_renumber (n : NodeRef) :
    (h.renumber f g).isLoopHead? n = h.isLoopHead? n := by
  simp only [isLoopHead?, node?_renumber, reversePostorder?_renumber]
  cases h.node? n <;> rfl

end Walk

/-! ### Linking -/

section Linked

variable {P P' : Roster ProcRecord} {N N' : Roster NodeRecord}
  (same : Records.ofRosters P' N' = (Records.ofRosters P N).renumber f g)

include same

/-- The changed id of a procedure has the place that the id had. -/
theorem procRef_renumber {id : WireId} (known : id ∈ P.ids) : procRef P' (f id) = procRef P id := by
  have ids : P'.ids = P.ids.map f :=
    (congrArg Records.procedureIds same).trans (Records.procedureIds_renumber f g _)
  exact congrArg ProcRef.mk (Roster.rank_of_ids_eq_map ids known)

/-- The changed id of a node has the place that the id had. -/
theorem nodeRef_renumber {id : WireId} (known : id ∈ N.ids) : nodeRef N' (g id) = nodeRef N id := by
  have ids : N'.ids = N.ids.map g :=
    (congrArg Records.nodeIds same).trans (Records.nodeIds_renumber f g _)
  exact congrArg NodeRef.mk (Roster.rank_of_ids_eq_map ids known)

theorem map_nodeRef_renumber {targets : List WireId} (known : ∀ id ∈ targets, id ∈ N.ids) :
    (targets.map g).map (nodeRef N') = targets.map (nodeRef N) := by
  rw [List.map_map]
  exact List.map_congr_left fun id mem => nodeRef_renumber same (known id mem)

variable (closed : (Records.ofRosters P N).Closed)

include closed

/-- Nodes are linked to the same places, under other ids. -/
theorem linkedNodes_renumber : linkedNodes P' N' = (linkedNodes P N).map (Node.renumber g) := by
  have entries : N'.entries = N.entries.map fun e => (g e.1, e.2.renumber f g) :=
    congrArg Records.nodes same
  apply List.ext_getElem?
  intro i
  rw [getElem?_linkedNodes, List.getElem?_map, getElem?_linkedNodes, entries, List.getElem?_map]
  cases here : N.entries[i]? with
  | none => rfl
  | some e =>
    have mem : e ∈ N.entries := List.mem_of_getElem? here
    simp only [Option.map_some, linkedNode, Node.renumber, NodeRecord.renumber,
      procRef_renumber same (closed.owner e mem), map_nodeRef_renumber same (closed.succs e mem),
      map_nodeRef_renumber same (closed.preds e mem),
      map_nodeRef_renumber same (closed.exceptional e mem)]

/-- Procedures are linked to the same places, under other ids. -/
theorem linkedProcedures_renumber :
    linkedProcedures P' N' = (linkedProcedures P N).map (Procedure.renumber f) := by
  have entries : P'.entries = P.entries.map fun e => (f e.1, e.2.renumber g) :=
    congrArg Records.procedures same
  apply List.ext_getElem?
  intro i
  rw [getElem?_linkedProcedures, List.getElem?_map, getElem?_linkedProcedures, entries,
    List.getElem?_map]
  cases here : P.entries[i]? with
  | none => rfl
  | some e =>
    have mem : e ∈ P.entries := List.mem_of_getElem? here
    simp only [Option.map_some, linkedProcedure, Procedure.renumber, ProcRecord.renumber,
      nodeRef_renumber same (closed.start e mem), nodeRef_renumber same (closed.exit e mem)]

/-- Closed records with other ids have the graph with other ids. -/
theorem linked_renumber : linked P' N' = (linked P N).renumber f g := by
  have adopted : adopt ((linkedNodes P N).map (Node.renumber g)) ∘ Procedure.renumber f =
      Procedure.renumber f ∘ adopt (linkedNodes P N) := by
    funext p
    simp only [Function.comp_apply, adopt, List.filter_map, List.map_map]
    rfl
  simp only [linked, renumber, linkedNodes_renumber same closed,
    linkedProcedures_renumber same closed, List.map_map, adopted, List.map_toArray]

end Linked

end FlowGraph

/-! ### Documents -/

variable {o : Options} {v : Json}

/-- An accepted document is accepted with other numbers, and its graph has the other numbers. -/
theorem answer_flowGraph_renumber (increasing : IncreasingOn f v.procedureIds)
    (increasing' : IncreasingOn g v.nodeIds) {h : FlowGraph}
    (accepted : (Reading.flowGraph v).answer o = .ok h) :
    (Reading.flowGraph (v.renumber f g)).answer o = .ok (h.renumber f g) := by
  obtain ⟨r, P, N, listed, same, closed, rfl⟩ := Reading.answer_flowGraph_eq_ok_iff.1 accepted
  have among := listed.among
  have knownP : P.ids ⊆ v.procedureIds :=
    fun id mem => among.procedures ((same.procedures.map _).subset mem)
  have knownN : N.ids ⊆ v.nodeIds := fun id mem => among.nodes ((same.nodes.map _).subset mem)
  obtain ⟨P', procedures⟩ := Roster.exists_renumber (increasing.mono knownP) (·.renumber g)
  obtain ⟨N', nodes⟩ := Roster.exists_renumber (increasing'.mono knownN) (·.renumber f g)
  have renumbered : Records.ofRosters P' N' = (Records.ofRosters P N).renumber f g := by
    rw [Records.ofRosters, procedures, nodes]
    rfl
  refine Reading.answer_flowGraph_eq_ok_iff.2 ⟨r.renumber f g, P', N',
    Records.readFrom_renumber_iff.2 ⟨r, listed, rfl⟩, renumbered ▸ same.renumber f g, ?_,
    (FlowGraph.linked_renumber renumbered closed).symm⟩
  have others := (Records.closed_renumber_iff among increasing increasing').2 (closed.of_perm same)
  exact renumbered ▸ others.of_perm (same.renumber f g).symm

/-- A document is accepted if it is accepted with other numbers. -/
theorem exists_flowGraph_of_renumber (increasing : IncreasingOn f v.procedureIds)
    (increasing' : IncreasingOn g v.nodeIds) {h' : FlowGraph}
    (accepted : (Reading.flowGraph (v.renumber f g)).answer o = .ok h') :
    ∃ h, (Reading.flowGraph v).answer o = .ok h := by
  obtain ⟨s, P', N', listed', same', closed', rfl⟩ :=
    Reading.answer_flowGraph_eq_ok_iff.1 accepted
  obtain ⟨r, listed, rfl⟩ := Records.readFrom_renumber_iff.1 listed'
  have distinct : (r.procedureIds.map f).Nodup := by
    rw [← Records.procedureIds_renumber f g]
    exact (same'.procedures.map _).nodup_iff.1 P'.nodup_ids
  have distinct' : (r.nodeIds.map g).Nodup := by
    rw [← Records.nodeIds_renumber f g]
    exact (same'.nodes.map _).nodup_iff.1 N'.nodup_ids
  obtain ⟨P, procedures⟩ := Roster.exists_perm distinct.of_map
  obtain ⟨N, nodes⟩ := Roster.exists_perm distinct'.of_map
  have same : (Records.ofRosters P N).Perm r := ⟨procedures, nodes⟩
  have closed := (Records.closed_renumber_iff listed.among increasing increasing').1
    (closed'.of_perm same')
  exact ⟨_, Reading.answer_flowGraph_eq_ok_iff.2
    ⟨r, P, N, listed, same, closed.of_perm same.symm, rfl⟩⟩

/-- Of the ids in a document nothing counts but their order. When the ids of procedures and
those of nodes are given other numbers in the same order, the document is a graph exactly when
it was one before, and the graph is the same but for the ids in it: the reverse postorders are
the same, and so are the loop heads. -/
theorem flowGraph_renumber (o : Options) (v : Json) (f g : WireId → WireId)
    (procedures : IncreasingOn f v.procedureIds) (nodes : IncreasingOn g v.nodeIds) :
    ((∃ h, (Reading.flowGraph (v.renumber f g)).answer o = .ok h) ↔
      ∃ h, (Reading.flowGraph v).answer o = .ok h) ∧
    ∀ h, (Reading.flowGraph v).answer o = .ok h →
      (Reading.flowGraph (v.renumber f g)).answer o = .ok (h.renumber f g) ∧
      (∀ p, (h.renumber f g).reversePostorder? p = h.reversePostorder? p) ∧
      ∀ n, (h.renumber f g).isLoopHead? n = h.isLoopHead? n := by
  refine ⟨⟨?_, ?_⟩, fun h accepted => ⟨?_, ?_, ?_⟩⟩
  · rintro ⟨h', accepted⟩
    exact exists_flowGraph_of_renumber procedures nodes accepted
  · rintro ⟨h, accepted⟩
    exact ⟨_, answer_flowGraph_renumber procedures nodes accepted⟩
  · exact answer_flowGraph_renumber procedures nodes accepted
  · exact h.reversePostorder?_renumber f g
  · exact h.isLoopHead?_renumber f g

/-- Other numbers in the same order, as far as they are within the range of ids. -/
def Sample.scaled (factor offset : Int) (i : WireId) : WireId :=
  (Bounded.ofInt? _ _ (factor * i.val + offset)).getD i

/-- The small document with the ids of procedures three times as great and all nodes numbered
from a hundred on. -/
theorem flowGraph_renumber_scaled :
    IncreasingOn (Sample.scaled 3 0) Sample.document.procedureIds ∧
    IncreasingOn (Sample.scaled 1 103) Sample.document.nodeIds ∧
    ∃ h, (Reading.flowGraph Sample.document).answer .default = .ok h ∧
      (Reading.flowGraph (Sample.document.renumber (Sample.scaled 3 0)
        (Sample.scaled 1 103))).answer .default =
        .ok (h.renumber (Sample.scaled 3 0) (Sample.scaled 1 103)) ∧
      Sample.order h = some [-3, 9, 4] := by
  have procedures : IncreasingOn (Sample.scaled 3 0) Sample.document.procedureIds := by
    decide +kernel
  have nodes : IncreasingOn (Sample.scaled 1 103) Sample.document.nodeIds := by decide +kernel
  obtain ⟨h, accepted, order⟩ := Sample.exists_flowGraph
  exact ⟨procedures, nodes, h, accepted,
    ((flowGraph_renumber .default Sample.document _ _ procedures nodes).2 h accepted).1, order⟩

end ProgramModel
