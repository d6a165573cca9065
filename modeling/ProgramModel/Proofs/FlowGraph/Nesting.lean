import ProgramModel.Proofs.FlowGraph.Linking
import ProgramModel.Proofs.Wire.Readers

/-!
Nesting in graphs. A roster keeps every record that is entered, and linking every record
of the rosters, so a graph is as deep as all that was read for it. Main statement:
`graded_flowGraph`.
-/

namespace ProgramModel

variable {α : Type}

/-! ### Rosters -/

/-- The greatest depth of the records. -/
def Roster.deepest (depth : α → Nat) (r : Roster α) : Nat :=
  ProgramModel.deepest (r.entries.map fun e => depth e.2)

/-- The depth of a roster with one entry more. -/
theorem Roster.deepest_insert? {depth : α → Nat} {r s : Roster α} {id : WireId} {a : α}
    (inserted : r.insert? id a = some s) : s.deepest depth = max (r.deepest depth) (depth a) := by
  have same := deepest_of_perm ((perm_insert? inserted).map fun e => depth e.2)
  rw [deepest, same, List.map_cons, deepest_cons, Nat.max_comm, deepest]

namespace FlowGraph

/-! ### Linking -/

/-- A lookup has no fault of depth. -/
theorem final_resolveNode (nodes : Roster NodeRecord) (referrer : Referrer) (id : WireId) :
    Reading.Final (resolveNode nodes referrer id) := by
  unfold resolveNode
  split
  · exact Reading.final_ok _
  · exact Reading.final_error rfl

theorem final_resolveProcedure (procedures : Roster ProcRecord) (referrer : Referrer)
    (id : WireId) : Reading.Final (resolveProcedure procedures referrer id) := by
  unfold resolveProcedure
  split
  · exact Reading.final_ok _
  · exact Reading.final_error rfl

theorem final_linkProcedure (nodes : Roster NodeRecord) (e : WireId × ProcRecord) (place : Nat) :
    Reading.Final (linkProcedure nodes e place) :=
  (final_resolveNode ..).bind fun _ => (final_resolveNode ..).bind fun _ => Reading.final_ok _

/-- Linking a node has no fault of depth. -/
theorem final_linkNode (procedures : Roster ProcRecord) (nodes : Roster NodeRecord)
    (e : WireId × NodeRecord) (place : Nat) :
    Reading.Final (linkNode procedures nodes e place) := by
  have resolved (referrer : Referrer) (ids : List WireId) :
      Reading.Final (ids.mapM (resolveNode nodes referrer)) :=
    .mapM (final_resolveNode nodes referrer)
  exact (final_resolveProcedure ..).bind fun _ => (resolved ..).bind fun _ =>
    (resolved ..).bind fun _ => (resolved ..).bind fun _ => Reading.final_ok _

/-- Linking has no fault of depth, so the depth of a document is that of its records. -/
theorem final_ofRosters (procedures : Roster ProcRecord) (nodes : Roster NodeRecord) :
    Reading.Final (ofRosters procedures nodes) :=
  (Reading.Final.mapM fun _ => final_linkProcedure ..).bind fun _ =>
    (Reading.Final.mapM fun _ => final_linkNode ..).bind fun _ => Reading.final_ok _

/-- A linked graph is as deep as the deepest attributes and the deepest body that it is made of.
-/
theorem depth_linked (procedures : Roster ProcRecord) (nodes : Roster NodeRecord) :
    (linked procedures nodes).depth =
      max (procedures.deepest (·.attributes.depth)) (nodes.deepest (·.body.depth)) := by
  have procs := congrArg (List.map Attributes.depth) (map_attributes_linked procedures nodes)
  have bodies := congrArg (List.map NodeBody.depth) (map_body_linked procedures nodes)
  simp only [List.map_map, Function.comp_def] at procs bodies
  rw [FlowGraph.depth, procs, bodies, deepest_append, Roster.deepest, Roster.deepest]

end FlowGraph

namespace Reading

/-! ### Documents -/

theorem graded_ofExcept {before : Nat} {result : Except Fault α} {depth : α → Nat}
    (final : Final result) (exact : ∀ a, result = .ok a → before = depth a) :
    Graded before (ofExcept result) depth := by
  cases result with
  | error fault => exact .throw fault (final.isDepth fault rfl)
  | ok a => exact .pure a (exact a rfl)

/-- Registration needs the levels that the entries so far and the new records need. -/
theorem graded_register {readRecord : Json → Reading (WireId × α)} {depth : α → Nat}
    (graded : ∀ w, Graded 0 (readRecord w) fun e => depth e.2) (entity : Entity)
    (items : List Json) (roster : Roster α) :
    Graded (roster.deepest depth) (register entity readRecord roster items)
      (Roster.deepest depth) := by
  induction items generalizing roster with
  | nil => exact .pure roster rfl
  | cons w rest ih =>
    rw [register]
    apply Graded.bind (graded w)
    rintro ⟨id, record⟩
    dsimp only
    cases inserted : roster.insert? id record with
    | some grown =>
      rw [← Roster.deepest_insert? inserted]
      exact ih grown
    | none => exact .throw _

/-- A document of procedures and nodes needs as many levels as its graph is deep. -/
theorem graded_flowGraph (v : Json) : Graded 0 (flowGraph v) FlowGraph.depth := by
  refine .flat_bind (flat_field ..) fun _ => .flat_bind (flat_items ..) fun procs =>
    .flat_bind (flat_field ..) fun _ => .flat_bind (flat_items ..) fun nodes => ?_
  have procedures : Graded 0 (register .procedure procRecord .empty procs)
      (Roster.deepest (·.attributes.depth)) :=
    graded_register graded_procRecord .procedure procs .empty
  refine .bind procedures fun P => ?_
  have bodies : Graded 0 (register .node (nodeRecord P.contains) .empty nodes)
      (Roster.deepest (·.body.depth)) :=
    graded_register (graded_nodeRecord P.contains) .node nodes .empty
  refine .bind bodies fun N => graded_ofExcept (FlowGraph.final_ofRosters P N) ?_
  intro g linking
  obtain ⟨_, rfl⟩ := FlowGraph.ofRosters_eq_ok_iff.1 linking
  rw [FlowGraph.depth_linked, Nat.zero_max]

end Reading
end ProgramModel
