import ProgramModel.FlowGraph.Lookup
import ProgramModel.Proofs.FlowGraph.Coherence
import ProgramModel.Proofs.FlowGraph.Reordering

/-!
Lookups by id and by name. Halving finds each entry of an ascending table and nothing else,
and the first entry of a name is the one with the least id. Main statement: a graph that is
read finds exactly the records of its document (`flowGraph_finds`).
-/

namespace ProgramModel

/-! ### Ascending entries -/

section Ascending

variable {α : Type} {key : α → Int} {entries : Array α} {a b : α} {i j : Nat}

/-- An entry at an earlier place has a lower key. -/
theorem key_lt_of_lt (ascending : entries.toList.Pairwise fun a b => key a < key b)
    (first : entries[i]? = some a) (second : entries[j]? = some b) (less : i < j) :
    key a < key b := by
  obtain ⟨bound, rfl⟩ := Array.getElem?_eq_some_iff.1 first
  obtain ⟨bound', rfl⟩ := Array.getElem?_eq_some_iff.1 second
  exact List.pairwise_iff_getElem.1 ascending i j bound bound' less

/-- Lesser keys stand at lesser places. -/
theorem lt_of_key_lt (ascending : entries.toList.Pairwise fun a b => key a < key b)
    (first : entries[i]? = some a) (second : entries[j]? = some b) (less : key a < key b) :
    i < j := by
  rcases Nat.lt_trichotomy i j with before | rfl | after
  · exact before
  · cases first.symm.trans second
    exact absurd less (Int.lt_irrefl _)
  · exact absurd less (Int.lt_asymm (key_lt_of_lt ascending second first after))

/-- No key is there twice. -/
theorem eq_of_key_eq (ascending : entries.toList.Pairwise fun a b => key a < key b)
    (first : entries[i]? = some a) (second : entries[j]? = some b) (same : key a = key b) :
    a = b := by
  rcases Nat.lt_trichotomy i j with before | rfl | after
  · exact absurd same (Int.ne_of_lt (key_lt_of_lt ascending first second before))
  · exact Option.some.inj (first.symm.trans second)
  · exact absurd same.symm (Int.ne_of_lt (key_lt_of_lt ascending second first after))

/-- Halving the places from `low` to below `high` finds the entry there that has the key. -/
theorem bisect_eq_some_iff (ascending : entries.toList.Pairwise fun a b => key a < key b)
    {target : Int} {low high : Nat} (bound : high ≤ entries.size) :
    bisect key entries target low high = some a ↔
      key a = target ∧ ∃ i, low ≤ i ∧ i < high ∧ entries[i]? = some a := by
  fun_induction bisect key entries target low high with
  | case1 low high less middle missing =>
    have := Array.getElem?_eq_none_iff.1 missing
    omega
  | case2 low high less middle b here found =>
    constructor
    · rintro same
      cases same
      exact ⟨found, middle, by omega, by omega, here⟩
    · rintro ⟨wanted, i, _, _, there⟩
      exact congrArg some (eq_of_key_eq ascending here there (found.trans wanted.symm))
  | case3 low high less middle b here other below ih =>
    -- Up to the middle all keys are lower than the target, and from there on in the next case
    -- they are all higher.
    rw [ih bound]
    refine and_congr_right fun wanted => exists_congr fun i => ?_
    constructor
    · rintro ⟨least, rest⟩
      exact ⟨by omega, rest⟩
    · rintro ⟨_, most, there⟩
      exact ⟨lt_of_key_lt ascending here there (wanted ▸ below), most, there⟩
  | case4 low high less middle b here other above ih =>
    rw [ih (by omega)]
    refine and_congr_right fun wanted => exists_congr fun i => ?_
    constructor
    · rintro ⟨least, most, there⟩
      exact ⟨least, by omega, there⟩
    · rintro ⟨least, _, there⟩
      exact ⟨least, lt_of_key_lt ascending there here (by omega), there⟩
  | case5 low high empty =>
    constructor
    · intro found
      cases found
    · rintro ⟨_, i, _, _, _⟩
      omega

/-- Bisection of the whole array finds the entry with the key, if there is one. -/
theorem bisect_whole_eq_some_iff (ascending : entries.toList.Pairwise fun a b => key a < key b)
    {target : Int} :
    bisect key entries target 0 entries.size = some a ↔
      a ∈ entries.toList ∧ key a = target := by
  rw [bisect_eq_some_iff ascending (Nat.le_refl _), and_comm, List.mem_iff_getElem?]
  refine and_congr_left fun _ => exists_congr fun i => ?_
  simp only [Array.getElem?_toList, Nat.zero_le, true_and, and_iff_right_iff_imp]
  exact fun here => (Array.getElem?_eq_some_iff.1 here).1

/-- The first of several entries has the least key. -/
theorem key_le_of_find? (key : α → Int) {items : List α}
    (ascending : items.Pairwise fun a b => key a < key b) {wanted : α → Bool}
    (found : items.find? wanted = some a) (mem : b ∈ items) (also : wanted b = true) :
    key a ≤ key b := by
  obtain ⟨_, before, after, rfl, others⟩ := List.find?_eq_some_iff_append.1 found
  rcases List.mem_append.1 mem with early | late
  · simpa [also] using others b early
  · rcases List.mem_cons.1 late with rfl | late
    · exact Int.le_refl _
    · have ordered := (List.pairwise_append.1 ascending).2.1
      exact Int.le_of_lt ((List.pairwise_cons.1 ordered).1 b late)

end Ascending

/-! ### Lookups in a graph -/

namespace FlowGraph

variable {g : FlowGraph}

/-- The lookup of a node by its id is exact. -/
theorem Coherent.nodeById?_eq_some_iff (coherent : g.Coherent) {id : WireId} {n : Node} :
    g.nodeById? id = some n ↔ n ∈ g.nodes.toList ∧ n.id = id := by
  rw [nodeById?, bisect_whole_eq_some_iff coherent.nodeIds]
  exact and_congr_right fun _ => ⟨Bounded.val_injective, congrArg _⟩

/-- The lookup of a procedure by its id is exact. -/
theorem Coherent.procedureById?_eq_some_iff (coherent : g.Coherent) {id : WireId}
    {p : Procedure} :
    g.procedureById? id = some p ↔ p ∈ g.procedures.toList ∧ p.id = id := by
  rw [procedureById?, bisect_whole_eq_some_iff coherent.procedureIds]
  exact and_congr_right fun _ => ⟨Bounded.val_injective, congrArg _⟩

/-- The lookup of a procedure by its name finds one whenever there is one. -/
theorem exists_procedureByName?_iff {name : ProcName} :
    (∃ p, g.procedureByName? name = some p) ↔ ∃ p ∈ g.procedures.toList, p.name = name := by
  simp [procedureByName?, ← Option.isSome_iff_exists]

/-- Graphs in which lookups find what the records have. -/
structure Finds (g : FlowGraph) (r : Records) : Prop where
  node_iff : ∀ id, (∃ n, g.nodeById? id = some n) ↔ id ∈ r.nodeIds
  /-- The node that is found has the id, and it is the entry at its own place. -/
  node : ∀ id n, g.nodeById? id = some n → n.id = id ∧ g.node? n.ref = some n
  procedure_iff : ∀ id, (∃ p, g.procedureById? id = some p) ↔ id ∈ r.procedureIds
  procedure : ∀ id p, g.procedureById? id = some p → p.id = id ∧ g.procedure? p.ref = some p
  name_iff : ∀ name, (∃ p, g.procedureByName? name = some p) ↔
    ∃ e ∈ r.procedures, e.2.attributes.name = name
  /-- The procedure that is found has the name, and no record of the name has a lesser id. -/
  name : ∀ name p, g.procedureByName? name = some p →
    p.name = name ∧ g.procedureById? p.id = some p ∧
      ∀ e ∈ r.procedures, e.2.attributes.name = name → p.id.val ≤ e.1.val

/-- The entries of a graph are the records, as far as lookups look at them. -/
structure Lists (g : FlowGraph) (r : Records) : Prop where
  nodes : (g.nodes.toList.map (·.id)).Perm r.nodeIds
  procedures : (g.procedures.toList.map fun p => (p.id, p.attributes)).Perm
    (r.procedures.map fun e => (e.1, e.2.attributes))

/-- What can be said of a procedure of the graph by its id and its attributes can be said of a
record. -/
theorem Lists.exists_procedure_iff {r : Records} (lists : g.Lists r)
    (wanted : WireId × Attributes → Prop) :
    (∃ p ∈ g.procedures.toList, wanted (p.id, p.attributes)) ↔
      ∃ e ∈ r.procedures, wanted (e.1, e.2.attributes) := by
  have same := exists_congr fun e => and_congr_left (c := wanted e) fun _ =>
    lists.procedures.mem_iff (a := e)
  simpa using same

/-- Lookups in a coherent graph are about the records that the graph lists. -/
theorem Coherent.finds (coherent : g.Coherent) {r : Records} (lists : g.Lists r) :
    g.Finds r where
  node_iff id := by
    rw [← lists.nodes.mem_iff, List.mem_map]
    exact exists_congr fun n => coherent.nodeById?_eq_some_iff
  node id n found := by
    obtain ⟨mem, same⟩ := coherent.nodeById?_eq_some_iff.1 found
    obtain ⟨r, here⟩ := mem_nodes_iff.1 mem
    exact ⟨same, coherent.nodeRef here ▸ here⟩
  procedure_iff id := by
    simp only [coherent.procedureById?_eq_some_iff, Records.procedureIds, List.mem_map]
    exact lists.exists_procedure_iff fun e => e.1 = id
  procedure id p found := by
    obtain ⟨mem, same⟩ := coherent.procedureById?_eq_some_iff.1 found
    obtain ⟨r, here⟩ := mem_procedures_iff.1 mem
    exact ⟨same, coherent.procedureRef here ▸ here⟩
  name_iff name := by
    rw [exists_procedureByName?_iff]
    exact lists.exists_procedure_iff fun e => e.2.name = name
  name name p found := by
    rw [procedureByName?, ← Array.find?_toList] at found
    have mem := List.mem_of_find?_eq_some found
    have named := List.find?_some found
    refine ⟨of_decide_eq_true named,
      coherent.procedureById?_eq_some_iff.2 ⟨mem, rfl⟩, fun e listed also => ?_⟩
    obtain ⟨q, there, same⟩ :=
      (lists.exists_procedure_iff (· = (e.1, e.2.attributes))).2 ⟨e, listed, rfl⟩
    have sameId : q.id = e.1 := congrArg Prod.fst same
    have sameName : q.name = e.2.attributes.name := congrArg (·.2.name) same
    rw [← sameId]
    exact key_le_of_find? (fun p => p.id.val) coherent.procedureIds found there
      (decide_eq_true (sameName.trans also))

/-- A linked graph lists the records that it is made of. -/
theorem lists_linked {procedures : Roster ProcRecord} {nodes : Roster NodeRecord} {r : Records}
    (same : (Records.ofRosters procedures nodes).Perm r) : (linked procedures nodes).Lists r where
  nodes := by
    rw [toList_nodes_linked, map_id_linkedNodes]
    exact same.nodes.map _
  procedures := by
    rw [map_id_attributes_linked]
    exact same.procedures.map _

end FlowGraph

/-- A graph that is read finds the node and the procedure of each id that the document lists,
and of no other id. Of the procedures of one name it finds the one with the least id, and
another order of the document makes no difference to that. -/
theorem flowGraph_finds {o : Options} {v : Json} {g : FlowGraph}
    (accepted : (Reading.flowGraph v).answer o = .ok g) :
    (∃ r : Records, r.ReadFrom o v ∧ g.Finds r) ∧
      ∀ w, Reordered v w → ∃ h, (Reading.flowGraph w).answer o = .ok h ∧
        ∀ name, h.procedureByName? name = g.procedureByName? name := by
  refine ⟨?_, fun w reordered =>
    ⟨g, answer_flowGraph_reordered reordered accepted, fun _ => rfl⟩⟩
  have coherent := FlowGraph.coherent_of_accepted accepted
  obtain ⟨r, procedures, nodes, listed, same, _, rfl⟩ :=
    Reading.answer_flowGraph_eq_ok_iff.1 accepted
  exact ⟨r, listed, coherent.finds (FlowGraph.lists_linked same)⟩

/-- The sample is accepted, so there are a graph and records that lookups in it find. -/
theorem exists_found_records : ∃ (g : FlowGraph) (r : Records),
    (Reading.flowGraph Sample.document).answer .default = .ok g ∧
      r.ReadFrom .default Sample.document ∧ g.Finds r := by
  obtain ⟨g, accepted, _⟩ := Sample.exists_flowGraph
  obtain ⟨⟨r, listed, finds⟩, _⟩ := flowGraph_finds accepted
  exact ⟨g, r, accepted, listed, finds⟩

end ProgramModel
