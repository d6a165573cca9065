import ProgramModel.FlowGraph.Listing
import ProgramModel.Proofs.FlowGraph.Dangling
import ProgramModel.Proofs.FlowGraph.Part

/-!
The listing of a document without its graph. Records are put in order by their ids, each node
goes below the procedure that it names as its owner, and ids are shown as they stand in the
records. Main statement: the listing of the graph is this text (`flowGraph_listing`).
-/

namespace ProgramModel

/-! ### Lines of records -/

/-- Ids in decimal notation, with single spaces between them. -/
def spacedIds (ids : List WireId) : String := " ".intercalate (ids.map fun id => toString id.val)

/-- The header of a procedure. Its id is not shown. -/
def ProcRecord.line (e : WireId × ProcRecord) : String :=
  "procedure " ++ e.2.attributes.name.text ++ " [" ++ e.2.attributes.location.text ++ "]"

/-- The line of a node, with its lists of ids as they stand in the record. -/
def NodeRecord.line (e : WireId × NodeRecord) : String :=
  "  #" ++ toString e.1.val ++ " " ++ e.2.body.kind.text ++ "  succs: " ++ spacedIds e.2.succs ++
    "  preds: " ++ spacedIds e.2.preds ++
    if e.2.exceptional = [] then "" else "  exn: " ++ spacedIds e.2.exceptional

/-- The line of a node and those of its instructions. -/
def NodeRecord.lines (e : WireId × NodeRecord) : List String :=
  NodeRecord.line e :: e.2.body.instrs.map fun i => "      " ++ i.text ++ ";"

namespace Records

/-- The nodes that name a procedure as their owner, by ascending ids. -/
def nodesOf (r : Records) (id : WireId) : List (WireId × NodeRecord) :=
  r.inOrder.nodes.filter fun e => e.2.owner = id

/-- The nodes of all procedures, these by ascending ids. -/
def listedNodes (r : Records) : List (WireId × NodeRecord) :=
  r.inOrder.procedures.flatMap fun e => r.nodesOf e.1

def lines (r : Records) : List String :=
  r.inOrder.procedures.flatMap fun e =>
    ProcRecord.line e :: (r.nodesOf e.1).flatMap NodeRecord.lines

def listing (r : Records) : String := String.join (r.lines.map (· ++ "\n"))

end Records

/-! ### Texts of ids -/

/-- Behind the front of a row each id brings its own space along. -/
theorem foldl_addId (rest : List WireId) (text : String) (front : Nat) :
    (rest.zipIdx (front + 1)).foldl Listing.addId text =
      text ++ String.join (rest.map fun id => " " ++ toString id.val) := by
  induction rest generalizing text front with
  | nil => simp
  | cons id rest ih =>
    have next : Listing.addId text (id, front + 1) = text ++ " " ++ toString id.val :=
      congrArg (· ++ toString id.val) (if_pos (Nat.succ_pos front))
    rw [List.zipIdx_cons, List.foldl_cons, ih, next, List.map_cons, String.join_cons]
    simp only [String.append_assoc]

/-- A separator between texts is one before each of them but the first. -/
theorem intercalate_cons (separator first : String) (rest : List String) :
    separator.intercalate (first :: rest) =
      first ++ String.join (rest.map (separator ++ ·)) := by
  induction rest generalizing first with
  | nil => simp
  | cons next rest ih => simp [ih, String.append_assoc]

/-- The ids that are written one after another have single spaces between them. -/
theorem ids_eq_spacedIds (ids : List WireId) : Listing.ids ids = spacedIds ids := by
  cases ids with
  | nil => rfl
  | cons id rest =>
    have front : Listing.addId "" (id, 0) = toString id.val := String.empty_append
    rw [Listing.ids, List.zipIdx_cons, List.foldl_cons, foldl_addId, front, spacedIds,
      List.map_cons, intercalate_cons, List.map_map]
    rfl

/-! ### Texts and lines -/

/-- Lines in groups make the text of the groups, one after another. -/
theorem join_flatMap {α : Type} (lines : α → List String) (items : List α) :
    String.join ((items.flatMap lines).map (· ++ "\n")) =
      String.join (items.map fun a => String.join ((lines a).map (· ++ "\n"))) := by
  induction items with
  | nil => rfl
  | cons a rest ih =>
    rw [List.flatMap_cons, List.map_append, String.join_append, ih, List.map_cons,
      String.join_cons]

/-- The header that a graph shows for a procedure is the line of its record. -/
theorem procedureLine_eq (e : WireId × ProcRecord) :
    Listing.procedureLine e.2.attributes = ProcRecord.line e ++ "\n" := by
  -- The equations of definitions with texts in them would take long to make.
  delta Listing.procedureLine ProcRecord.line
  simp only [String.append_assoc, String.reduceAppend]

/-- An instruction has a line of its own, below its node. -/
theorem instrLine_eq (i : Instr) :
    Listing.instrLine i = "      " ++ i.text ++ ";" ++ "\n" := by
  delta Listing.instrLine
  simp only [String.append_assoc, String.reduceAppend]

/-- What a graph shows for a node is the lines of its record, if it has the ids of the record
again. -/
theorem nodeLines_eq (e : WireId × NodeRecord) :
    Listing.nodeLines e.1 e.2.body e.2.succs e.2.preds e.2.exceptional =
      String.join ((NodeRecord.lines e).map (· ++ "\n")) := by
  have instrs : Listing.instrLine = fun i => "      " ++ i.text ++ ";" ++ "\n" :=
    funext instrLine_eq
  have number : toString e.1 = toString e.1.val := rfl
  delta Listing.nodeLines NodeRecord.lines NodeRecord.line
  simp only [List.map_cons, String.join_cons, List.map_map, Function.comp_def, instrs,
    List.isEmpty_iff, ids_eq_spacedIds, number]

/-! ### Groups of nodes -/

/-- Entries in groups by owner are all entries, when each of them has an owner. -/
theorem perm_flatMap_owner {ids : List WireId} (distinct : ids.Nodup)
    {entries : List (WireId × NodeRecord)} (owned : ∀ e ∈ entries, e.2.owner ∈ ids) :
    (ids.flatMap fun id => entries.filter fun e => e.2.owner = id).Perm entries := by
  induction ids generalizing entries with
  | nil =>
    cases entries with
    | nil => exact .refl _
    | cons e rest => exact absurd (owned e List.mem_cons_self) List.not_mem_nil
  | cons id ids ih =>
    obtain ⟨fresh, distinct⟩ := List.nodup_cons.1 distinct
    -- The other groups do not change when the first one is taken away.
    have others : ids.flatMap (fun i => entries.filter fun e => e.2.owner = i) =
        ids.flatMap fun i => (entries.filter fun e => !decide (e.2.owner = id)).filter
          fun e => e.2.owner = i := by
      refine List.flatMap_congr fun i mem => ?_
      rw [List.filter_filter]
      refine List.filter_congr fun e _ => ?_
      by_cases mine : e.2.owner = i
      · have : i ≠ id := fun same => fresh (same ▸ mem)
        simp [mine, this]
      · simp [mine]
    rw [List.flatMap_cons, others]
    refine (List.Perm.append_left _ (ih distinct fun e mem => ?_)).trans
      (List.filter_append_perm _ entries)
    obtain ⟨mem, other⟩ := List.mem_filter.1 mem
    exact (List.mem_cons.1 (owned e mem)).resolve_left (by simpa using other)

/-- Each node of closed records is listed once. -/
theorem Records.perm_listedNodes {r : Records} (distinct : r.Distinct) (closed : r.Closed) :
    r.listedNodes.Perm r.nodes := by
  have procedures := List.mergeSort_perm r.procedures Roster.byId
  have nodes := List.mergeSort_perm r.nodes Roster.byId
  have groups : r.listedNodes = (r.inOrder.procedures.map (·.1)).flatMap r.nodesOf :=
    (List.flatMap_map ..).symm
  rw [groups]
  refine (perm_flatMap_owner ?_ fun e mem => ?_).trans nodes
  · exact (procedures.map _).nodup_iff.2 distinct.procedures
  · exact (procedures.map _).mem_iff.2 (closed.owner e (nodes.mem_iff.1 mem))

/-! ### The listing of a linked graph -/

/-- Lookups that all have a known result give these results. -/
theorem mapM_eq_some {α β : Type} {f : α → Option β} {given : α → β} {items : List α}
    (each : ∀ a ∈ items, f a = some (given a)) : items.mapM f = some (items.map given) := by
  induction items with
  | nil => rfl
  | cons a rest ih =>
    obtain ⟨first, others⟩ := List.forall_mem_cons.1 each
    rw [List.mapM_cons, first, ih others]
    rfl

namespace FlowGraph

variable {P : Roster ProcRecord} {N : Roster NodeRecord}

/-- All references of a linked node lead to nodes with the ids of its record, so its listing is
the lines of this record. -/
theorem nodeListing?_linked (closed : (Records.ofRosters P N).Closed) {e : WireId × NodeRecord}
    (mem : e ∈ N.entries) (place : Nat) :
    (linked P N).nodeListing? (linkedNode P N e place) =
      some (String.join ((NodeRecord.lines e).map (· ++ "\n"))) := by
  simp only [nodeListing?, linkedNode, idsAt?_map_nodeRef (closed.succs e mem),
    idsAt?_map_nodeRef (closed.preds e mem), idsAt?_map_nodeRef (closed.exceptional e mem)]
  exact congrArg some (nodeLines_eq e)

variable {r : Records} (same : (Records.ofRosters P N).Perm r)

include same

/-- The nodes of an owner by ascending ids are found in the roster as they come. -/
theorem nodesOf_eq (id : WireId) :
    r.nodesOf id = N.entries.filter fun d => d.2.owner = id := by
  rw [Records.nodesOf, Records.inOrder_eq same]
  rfl

/-- The listing of a linked procedure is the line of its record, with the lines of the nodes that
name it as their owner below it. -/
theorem procedureListing?_linked (closed : (Records.ofRosters P N).Closed)
    {e : WireId × ProcRecord} (mem : e ∈ P.entries) :
    (linked P N).procedureListing?
        (adopt (linkedNodes P N) (linkedProcedure N e (P.rank e.1))) =
      some (String.join
        ((ProcRecord.line e :: (r.nodesOf e.1).flatMap NodeRecord.lines).map (· ++ "\n"))) := by
  have known : ∀ d ∈ r.nodesOf e.1, d ∈ N.entries := fun d mem =>
    (List.mem_filter.1 (nodesOf_eq same e.1 ▸ mem)).1
  have nodes : (linked P N).nodesAt?
      (adopt (linkedNodes P N) (linkedProcedure N e (P.rank e.1))).nodes =
      some ((r.nodesOf e.1).map fun d => linkedNode P N d (N.rank d.1)) := by
    rw [nodes_adopt closed mem, ← nodesOf_eq same, nodesAt?, List.map_map, List.mapM_map]
    exact mapM_eq_some fun d mem => node?_nodeRef (known d mem)
  have texts : ((r.nodesOf e.1).map fun d => linkedNode P N d (N.rank d.1)).mapM
      (linked P N).nodeListing? =
      some ((r.nodesOf e.1).map fun d =>
        String.join ((NodeRecord.lines d).map (· ++ "\n"))) := by
    rw [List.mapM_map]
    exact mapM_eq_some fun d mem => nodeListing?_linked closed (known d mem) _
  rw [procedureListing?, nodes]
  simp only [Option.bind_eq_bind, Option.bind_some, texts, Option.pure_def, List.map_cons,
    String.join_cons, join_flatMap]
  exact congrArg (fun line => some (line ++ _)) (procedureLine_eq e)

/-- The listing of a linked graph is that of its records, in whatever order these are given. -/
theorem listing?_linked (closed : (Records.ofRosters P N).Closed) :
    (linked P N).listing? = some r.listing := by
  have texts : (linked P N).procedures.toList.mapM (linked P N).procedureListing? =
      some (P.entries.map fun e => String.join
        ((ProcRecord.line e :: (r.nodesOf e.1).flatMap NodeRecord.lines).map (· ++ "\n"))) := by
    rw [toList_procedures_linked, linkedProcedures_eq_map, List.map_map, List.mapM_map]
    exact mapM_eq_some fun e mem => procedureListing?_linked same closed mem
  have order : r.inOrder.procedures = P.entries := by
    rw [Records.inOrder_eq same]
    rfl
  rw [listing?, texts, Records.listing, Records.lines, join_flatMap, order]
  rfl

end FlowGraph

/-- The listing of a graph is the text of the records of its document: the procedures by
ascending ids, below each of them its nodes by ascending ids, and all ids as they stand in the
document. Each node of the document is listed once. -/
theorem flowGraph_listing {o : Options} {v : Json} {g : FlowGraph}
    (accepted : (Reading.flowGraph v).answer o = .ok g) :
    ∃ r : Records, r.ReadFrom o v ∧ g.listing? = some r.listing ∧
      r.listedNodes.Perm r.nodes := by
  obtain ⟨r, P, N, listed, same, closed, rfl⟩ := Reading.answer_flowGraph_eq_ok_iff.1 accepted
  have distinct := (Records.distinct_ofRosters P N).of_perm same
  exact ⟨r, listed, FlowGraph.listing?_linked same closed,
    Records.perm_listedNodes distinct (closed.of_perm same)⟩

/-! ### A document and its text -/

namespace Sample

/-- The assumption that a number is not zero. -/
def assumption (n : Int) : Json := .obj [("instruction_kind", .str "Prune"),
  ("condition", .obj [("expr_kind", .str "ConstExpression"), ("constant",
    .obj [("kind", .str "Int"), ("intval", .obj [("unsigned", .bool false), ("value", .ofInt n),
      ("is_pointer", .bool false)])])]),
  ("true_branch", .bool true), ("if_kind", .str "Ik_if"), ("location", location)]

/-- The nodes of two procedures in no order. One of them has instructions. -/
def mixed : Json := .obj [("procs", .arr procedures),
  ("nodes", .arr [node 4 7 [] [-3] [], node 9 (-1) [9] [9] [],
    (node (-3) 7 [4, -3, 4] [-3] [9]).withMember "nd_instrs"
      (.arr [assumption 5, assumption (-1)])])]

/-- Its listing. -/
def mixedText : String :=
  "procedure void A::f() [1:2]\n" ++
  "  #9 Join  succs: 9  preds: 9\n" ++
  "procedure void A::f() [1:2]\n" ++
  "  #-3 Join  succs: 4 -3 4  preds: -3  exn: 9\n" ++
  "      PRUNE(5, true);\n" ++
  "      PRUNE(-1, true);\n" ++
  "  #4 Join  succs:   preds: -3\n"

end Sample

/-- The text of the records is known as a whole. Each list of ids is shown in the order of the
document, with the id that it has twice, and an empty one has just the spaces around it. -/
theorem exists_listing : ∃ (g : FlowGraph) (r : Records),
    (Reading.flowGraph Sample.mixed).answer .default = .ok g ∧
      r.ReadFrom .default Sample.mixed ∧ g.listing? = some r.listing ∧
      r.listing = Sample.mixedText ∧ r.listedNodes.Perm r.nodes := by
  obtain ⟨g, accepted, shown⟩ := exists_ok_of_map_toOption
    (x := (Reading.flowGraph Sample.mixed).answer .default) (·.listing?) (some Sample.mixedText)
    (by decide +kernel)
  obtain ⟨r, listed, text, all⟩ := flowGraph_listing accepted
  exact ⟨g, r, accepted, listed, text, Option.some.inj (text.symm.trans shown), all⟩

end ProgramModel
