import Mathlib.Data.List.Sort
import ProgramModel.Proofs.FlowGraph.Linking

/-!
Dangling ids. The records of a graph mention nodes by their ids, each in one role, and linking
looks them up in a fixed order: procedures by ascending id before nodes by ascending id, and in
a record as its lists come. Main statements: the entries of rosters are the records by ascending
ids, in whatever order these were listed (`inOrder_eq`), and linking fails for the first mention
of an id without a record (`ofRosters_eq_error_iff`).
-/

namespace ProgramModel

/-! ### Mentions -/

/-- The id of a node in a record, and the role that it has there. -/
structure Mention where
  referrer : Referrer
  id : WireId
  deriving DecidableEq, Repr

/-- The fault of a mention whose id has no record. -/
def Mention.fault (m : Mention) : Fault := .unresolvedReference .node m.id m.referrer

/-- The message about an id without a record. It names the id, the role and the record that has
the id in this role. -/
inductive Mention.Worded : Mention → String → Prop
  | start (procedure id : WireId) : Worded ⟨.startOf procedure, id⟩
      ("Unresolved node id " ++ toString id.val ++
        " referenced by start node of procedure " ++ toString procedure.val)
  | exit (procedure id : WireId) : Worded ⟨.exitOf procedure, id⟩
      ("Unresolved node id " ++ toString id.val ++
        " referenced by exit node of procedure " ++ toString procedure.val)
  | successor (node id : WireId) : Worded ⟨.successorsOf node, id⟩
      ("Unresolved node id " ++ toString id.val ++
        " referenced by successors of node " ++ toString node.val)
  | predecessor (node id : WireId) : Worded ⟨.predecessorsOf node, id⟩
      ("Unresolved node id " ++ toString id.val ++
        " referenced by predecessors of node " ++ toString node.val)
  | exceptional (node id : WireId) : Worded ⟨.exceptionalOf node, id⟩
      ("Unresolved node id " ++ toString id.val ++
        " referenced by exception successors of node " ++ toString node.val)

/-- The first mention of an id that is not listed. -/
def Mention.unlisted? (ids : List WireId) (mentions : List Mention) : Option Mention :=
  mentions.find? fun m => !ids.contains m.id

def ProcRecord.mentions (e : WireId × ProcRecord) : List Mention :=
  [⟨.startOf e.1, e.2.start⟩, ⟨.exitOf e.1, e.2.exit⟩]

def NodeRecord.mentions (e : WireId × NodeRecord) : List Mention :=
  e.2.succs.map (⟨.successorsOf e.1, ·⟩) ++
    (e.2.preds.map (⟨.predecessorsOf e.1, ·⟩) ++ e.2.exceptional.map (⟨.exceptionalOf e.1, ·⟩))

/-- The order of entries by their ids. -/
def Roster.byId {α : Type} (e f : WireId × α) : Bool := e.1.val ≤ f.1.val

namespace Records

/-- All mentions of nodes, record by record. -/
def mentions (r : Records) : List Mention :=
  r.procedures.flatMap ProcRecord.mentions ++ r.nodes.flatMap NodeRecord.mentions

/-- The first mention of a node that has no record. -/
def dangling? (r : Records) : Option Mention := Mention.unlisted? r.nodeIds r.mentions

/-- The same records by ascending ids. -/
def inOrder (r : Records) : Records :=
  ⟨r.procedures.mergeSort Roster.byId, r.nodes.mergeSort Roster.byId⟩

end Records

/-! ### Messages -/

/-- The message about a mention ends with the role and the id of the record that has it. -/
theorem Mention.message_fault {m : Mention} {role : String} {e : WireId}
    (named : m.referrer.text = role ++ toString e) :
    m.fault.message = "Unresolved node id " ++ toString m.id.val ++
      (" referenced by " ++ role) ++ toString e.val := by
  have message : m.fault.message =
    "Unresolved node id " ++ toString m.id ++ " referenced by " ++ m.referrer.text := rfl
  rw [message, named]
  simp only [String.append_assoc]
  rfl

/-- The record of a procedure mentions its start and its exit, and the message says which. -/
theorem ProcRecord.worded_of_mem {e : WireId × ProcRecord} {m : Mention}
    (mem : m ∈ ProcRecord.mentions e) : m.Worded m.fault.message := by
  rcases List.mem_pair.1 mem with rfl | rfl
  · rw [Mention.message_fault rfl]
    exact .start e.1 e.2.start
  · rw [Mention.message_fault rfl]
    exact .exit e.1 e.2.exit

/-- The record of a node mentions ids in three lists, and the message says in which. -/
theorem NodeRecord.worded_of_mem {e : WireId × NodeRecord} {m : Mention}
    (mem : m ∈ NodeRecord.mentions e) : m.Worded m.fault.message := by
  rcases List.mem_append.1 mem with mem | mem
  · obtain ⟨id, _, rfl⟩ := List.mem_map.1 mem
    rw [Mention.message_fault rfl]
    exact .successor e.1 id
  rcases List.mem_append.1 mem with mem | mem
  · obtain ⟨id, _, rfl⟩ := List.mem_map.1 mem
    rw [Mention.message_fault rfl]
    exact .predecessor e.1 id
  · obtain ⟨id, _, rfl⟩ := List.mem_map.1 mem
    rw [Mention.message_fault rfl]
    exact .exceptional e.1 id

/-- The message about a dangling id names the id, its role and the record that mentions it. -/
theorem Records.worded_of_dangling? {r : Records} {m : Mention} (found : r.dangling? = some m) :
    m.Worded m.fault.message := by
  rcases List.mem_append.1 (List.mem_of_find?_eq_some found) with mem | mem
  · obtain ⟨e, _, mem⟩ := List.mem_flatMap.1 mem
    exact ProcRecord.worded_of_mem mem
  · obtain ⟨e, _, mem⟩ := List.mem_flatMap.1 mem
    exact NodeRecord.worded_of_mem mem

/-! ### Records in order -/

namespace Roster

variable {α : Type} {r : Roster α}

theorem pairwise_byId (entries : List (WireId × α)) :
    (entries.mergeSort byId).Pairwise fun e f => byId e f = true := by
  refine List.pairwise_mergeSort (fun a b c first second => ?_) (fun a b => ?_) entries
  · simp only [byId, decide_eq_true_eq] at first second ⊢
    exact Int.le_trans first second
  · simp only [byId, Bool.or_eq_true, decide_eq_true_eq]
    exact Int.le_total _ _

/-- A roster has its entries by ascending ids, as sorting would put them. -/
theorem mergeSort_eq {entries : List (WireId × α)} (same : r.entries.Perm entries) :
    entries.mergeSort byId = r.entries := by
  have perm := (List.mergeSort_perm entries byId).trans same.symm
  have ascending : r.entries.Pairwise fun e f => byId e f = true :=
    r.ascending.imp fun less => decide_eq_true (Int.le_of_lt less)
  refine perm.eq_of_pairwise (fun e f eMem fMem le ge => ?_) (pairwise_byId entries) ascending
  have sameId : e.1 = f.1 :=
    Bounded.val_injective (Int.le_antisymm (of_decide_eq_true le) (of_decide_eq_true ge))
  exact List.inj_on_of_nodup_map r.nodup_ids (perm.mem_iff.1 eMem) fMem sameId

end Roster

/-- Records by ascending ids are the entries of rosters, however the records were listed. -/
theorem Records.inOrder_eq {procedures : Roster ProcRecord} {nodes : Roster NodeRecord}
    {r : Records} (same : (Records.ofRosters procedures nodes).Perm r) :
    r.inOrder = Records.ofRosters procedures nodes := by
  rw [inOrder, Roster.mergeSort_eq same.procedures, Roster.mergeSort_eq same.nodes]
  rfl

/-! ### Results that resolve mentions -/

section Resolves

variable {α β : Type} {ids : List WireId} {mentions rest : List Mention}

/-- A result that is a fault exactly when a mention has an id that is not listed, and then the
fault of the first one. -/
structure Resolves (ids : List WireId) (mentions : List Mention) (x : Except Fault α) : Prop where
  error_iff : ∀ fault, x = .error fault ↔
    ∃ m, Mention.unlisted? ids mentions = some m ∧ fault = m.fault

namespace Resolves

theorem ok (ids : List WireId) (a : α) : Resolves ids [] (.ok a : Except Fault α) where
  error_iff := by simp [Mention.unlisted?]

theorem unlisted?_eq_none {a : α} (resolves : Resolves ids mentions (.ok a : Except Fault α)) :
    Mention.unlisted? ids mentions = none := by
  cases found : Mention.unlisted? ids mentions with
  | none => rfl
  | some m => cases (resolves.error_iff m.fault).2 ⟨m, found, rfl⟩

/-- A result after another one is a fault for the first mention of the earlier one, and without
such a fault for the first mention of the later one. -/
theorem bind {x : Except Fault α} {f : α → Except Fault β} (first : Resolves ids mentions x)
    (later : ∀ a, x = .ok a → Resolves ids rest (f a)) :
    Resolves ids (mentions ++ rest) (x >>= f) where
  error_iff fault := by
    have append : Mention.unlisted? ids (mentions ++ rest) =
        (Mention.unlisted? ids mentions).or (Mention.unlisted? ids rest) := List.find?_append
    cases x with
    | error other =>
      obtain ⟨m, found, rfl⟩ := (first.error_iff other).1 rfl
      have stays : (.error m.fault >>= f) = .error m.fault := rfl
      simp [append, found, stays, eq_comm]
    | ok a =>
      rw [append, first.unlisted?_eq_none]
      exact (later a rfl).error_iff fault

/-- What is done with a value at the end looks nothing up. -/
theorem bind_ok {x : Except Fault α} (first : Resolves ids mentions x) (f : α → β) :
    Resolves ids mentions (x >>= fun a => .ok (f a)) := by
  have whole := first.bind fun a _ => Resolves.ok ids (f a)
  rwa [List.append_nil] at whole

/-- Results for several items resolve the mentions of these items one after another. -/
theorem mapM {f : α → Except Fault β} {mentionsOf : α → List Mention} {items : List α}
    (each : ∀ a ∈ items, Resolves ids (mentionsOf a) (f a)) :
    Resolves ids (items.flatMap mentionsOf) (items.mapM f) := by
  induction items with
  | nil => exact .ok ids []
  | cons a items ih =>
    obtain ⟨first, others⟩ := List.forall_mem_cons.1 each
    rw [List.mapM_cons, List.flatMap_cons]
    exact first.bind fun b _ => (ih others).bind_ok (b :: ·)

end Resolves

end Resolves

/-! ### Linking -/

namespace FlowGraph

variable {procedures : Roster ProcRecord} {nodes : Roster NodeRecord}

/-- A lookup resolves the one mention that it is made for. -/
theorem resolves_resolveNode (referrer : Referrer) (id : WireId) :
    Resolves nodes.ids [⟨referrer, id⟩] (resolveNode nodes referrer id) where
  error_iff fault := by
    unfold resolveNode
    by_cases known : id ∈ nodes.ids
    · simp [Roster.rank?_eq_some known, Mention.unlisted?, known]
    · simp [Roster.rank?_eq_none known, Mention.unlisted?, known, Mention.fault, eq_comm]

theorem resolves_mapM_resolveNode (nodes : Roster NodeRecord) (referrer : Referrer)
    (ids : List WireId) :
    Resolves nodes.ids (ids.map (⟨referrer, ·⟩)) (ids.mapM (resolveNode nodes referrer)) := by
  rw [List.map_eq_flatMap]
  exact .mapM fun id _ => resolves_resolveNode referrer id

/-- Linking a procedure looks up what its record mentions, in the order of these mentions. -/
theorem resolves_linkProcedure (e : WireId × ProcRecord) (place : Nat) :
    Resolves nodes.ids (ProcRecord.mentions e) (linkProcedure nodes e place) :=
  (resolves_resolveNode (.startOf e.1) e.2.start).bind fun _ _ =>
    (resolves_resolveNode (.exitOf e.1) e.2.exit).bind_ok _

/-- Linking a node with a known owner looks up what its record mentions, in the order of these
mentions. -/
theorem resolves_linkNode {e : WireId × NodeRecord} (owned : e.2.owner ∈ procedures.ids)
    (place : Nat) :
    Resolves nodes.ids (NodeRecord.mentions e) (linkNode procedures nodes e place) := by
  -- The owner is looked up once more, but a node without one was not registered.
  have owner : resolveProcedure procedures (.ownerOf e.1) e.2.owner =
      .ok (procRef procedures e.2.owner) :=
    (resolveProcedure_eq_ok_iff ..).2 ⟨owned, rfl⟩
  rw [linkNode, owner]
  exact (resolves_mapM_resolveNode nodes (.successorsOf e.1) e.2.succs).bind fun _ _ =>
    (resolves_mapM_resolveNode nodes (.predecessorsOf e.1) e.2.preds).bind fun _ _ =>
    (resolves_mapM_resolveNode nodes (.exceptionalOf e.1) e.2.exceptional).bind_ok _

/-- The place of an item in a list has no say in what it mentions. -/
theorem resolves_zipIdx_mapM {α β : Type} {ids : List WireId} {f : α → Nat → Except Fault β}
    {mentionsOf : α → List Mention} (items : List α)
    (each : ∀ a ∈ items, ∀ i, Resolves ids (mentionsOf a) (f a i)) :
    Resolves ids (items.flatMap mentionsOf) (items.zipIdx.mapM fun (a, i) => f a i) := by
  have placed : items.zipIdx.map Prod.fst = items := List.zipIdx_map_fst 0 items
  have whole : items.flatMap mentionsOf = items.zipIdx.flatMap fun e => mentionsOf e.1 := by
    conv_lhs => rw [← placed, List.flatMap_map]
  rw [whole]
  refine .mapM fun e mem => each e.1 ?_ e.2
  exact placed ▸ List.mem_map_of_mem mem

/-- Linking nodes with owners fails exactly when a mention is dangling, and with the fault of
the first one. -/
theorem ofRosters_eq_error_iff (owned : ∀ e ∈ nodes.entries, e.2.owner ∈ procedures.ids)
    (fault : Fault) :
    ofRosters procedures nodes = .error fault ↔
      ∃ m, (Records.ofRosters procedures nodes).dangling? = some m ∧ fault = m.fault := by
  have resolves : Resolves nodes.ids (Records.ofRosters procedures nodes).mentions
      (ofRosters procedures nodes) :=
    (resolves_zipIdx_mapM procedures.entries fun e _ i => resolves_linkProcedure e i).bind
      fun _ _ => (resolves_zipIdx_mapM nodes.entries fun e mem i =>
        resolves_linkNode (owned e mem) i).bind_ok _
  exact resolves.error_iff fault

end FlowGraph
end ProgramModel
