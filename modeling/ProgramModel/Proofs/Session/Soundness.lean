import ProgramModel.Proofs.FlowGraph.Nesting
import ProgramModel.Proofs.FlowGraph.Registration
import ProgramModel.Proofs.TypeTable.Entries
import ProgramModel.Proofs.Wire.Soundness

/-!
Soundness of what is read. A graph holds nothing but what its records have, and a table
nothing but what entries of its document have. Main statement: all constituents of the
values of all kinds are sound (`reading_sound`).
-/

namespace ProgramModel

variable {o : Options}

namespace Reading

/-- The definitions of a table are those of the entries that it was read from. -/
theorem sound_typeTable (v : Json) : Sound (typeTable v) o TypeTable.constituents := by
  have entries : Ensures (list v "type environment document" typeEntry) o fun entries =>
      ∀ e ∈ entries, ∀ c ∈ .typeName e.1 :: e.2.constituents, c.Sound o :=
    .skip fun items => .mapM sound_typeEntry items
  refine .bind entries fun entries sound => .pure ?_
  rw [TypeTable.constituents, List.forall_mem_flatMap]
  intro e mem
  exact sound e (TypeTable.mem_of_mem_toList_ofList mem)

end Reading

/-! ### Graphs -/

namespace Records

/-- The constituents of what the records have besides ids. -/
structure Sound (o : Options) (r : Records) : Prop where
  procedures : ∀ e ∈ r.procedures, ∀ c ∈ e.2.attributes.constituents, c.Sound o
  nodes : ∀ e ∈ r.nodes, ∀ c ∈ e.2.body.constituents, c.Sound o

/-- Records of a document have sound constituents. -/
theorem ReadFrom.sound {v : Json} {r : Records} (readFrom : r.ReadFrom o v) : r.Sound o := by
  obtain ⟨⟨procItems, _, procs⟩, ⟨nodeItems, _, nodes⟩⟩ := readFrom
  constructor
  · refine (Reading.forall₂_and_right.1 (procs.imp fun w e record => ⟨record, ?_⟩)).2
    obtain ⟨a, _, given⟩ := record.attributes
    exact (Reading.sound_attributes a).holds given
  · refine (Reading.forall₂_and_right.1 (nodes.imp fun w e record => ⟨record, ?_⟩)).2
    exact (Reading.sound_nodeBody w).holds record.body

end Records

namespace FlowGraph

/-- The constituents of a linked graph are those of the records that it is made of. -/
theorem constituents_linked (P : Roster ProcRecord) (N : Roster NodeRecord) :
    (linked P N).constituents =
      P.entries.flatMap (·.2.attributes.constituents) ++
        N.entries.flatMap (·.2.body.constituents) := by
  have procedures := congrArg (List.flatMap Attributes.constituents) (map_attributes_linked P N)
  have nodes := congrArg (List.flatMap NodeBody.constituents) (map_body_linked P N)
  simp only [List.flatMap_map] at procedures nodes
  rw [constituents, procedures, nodes]

/-- A graph that is read has sound constituents. -/
theorem sound_of_answer {v : Json} {g : FlowGraph}
    (given : (Reading.flowGraph v).answer o = .ok g) : ∀ c ∈ g.constituents, c.Sound o := by
  obtain ⟨r, P, N, readFrom, same, _, rfl⟩ := Reading.answer_flowGraph_eq_ok_iff.1 given
  have sound := readFrom.sound
  rw [constituents_linked, List.forall_mem_append, List.forall_mem_flatMap,
    List.forall_mem_flatMap]
  constructor
  · intro e mem
    exact sound.procedures e (same.procedures.mem_iff.1 mem)
  · intro e mem
    exact sound.nodes e (same.nodes.mem_iff.1 mem)

end FlowGraph

/-! ### Values of all kinds -/

/-- Readings of all kinds but graphs, whichever levels are open before. -/
theorem Subject.sound_reading {s : Subject} (v : Json) (other : s ≠ flowGraph) :
    Reading.Sound (s.reading v) o Decoded.constituents := by
  cases s with
  | typeName => exact .map (Reading.sound_typeName v)
  | procName => exact .map (Reading.sound_procName v)
  | fieldName => exact .map (Reading.sound_fieldName v)
  | programVariable => exact .map (Reading.sound_programVariable v)
  | intLiteral =>
    refine .map ⟨fun given => ?_⟩
    exact List.forall_mem_singleton.2 (((Reading.ensures_intLiteral v).holds given).sound o)
  | type => exact .map (Reading.sound_ty v)
  | constant => exact .map (Reading.sound_constant v)
  | expr => exact .map (Reading.sound_expr v)
  | instr => exact .map (Reading.sound_instr v)
  | attributes => exact .map (Reading.sound_attributes v)
  | structDef => exact .map (Reading.sound_structDef v)
  | typeTable => exact .map (Reading.sound_typeTable v)
  | flowGraph => exact absurd rfl other
  | temporary | location | itemAnnotations | methodAnnotations | nodeKind =>
    exact .map ⟨fun _ => by simp [Decoded.constituents]⟩

/-- Whatever is read, with any options: at every depth of the value, type names are simple,
methods are not called like the built-in procedure and have a result unless they are
constructors, only the null pointer counts as a pointer and as null, and no float constant
is infinite. -/
theorem reading_sound (o : Options) (s : Subject) (v : Json) (x : Decoded)
    (given : (s.reading v).answer o = .ok x) : ∀ c ∈ x.constituents, c.Sound o := by
  by_cases graph : s = .flowGraph
  · subst graph
    rw [Subject.reading, Reading.answer_map _ (Reading.graded_flowGraph v).regular] at given
    cases read : (Reading.flowGraph v).answer o with
    | error fault =>
      rw [read] at given
      cases given
    | ok g =>
      rw [read] at given
      cases given
      exact FlowGraph.sound_of_answer read
  · exact (s.sound_reading v graph).holds given

/-! ### A call of a constructor -/

namespace Sample

/-- The constructor of a class, with a number as its argument that is marked as a pointer. -/
def construction : Json :=
  .obj [("instruction_kind", .str "Call"),
    ("return_var", .obj [("kind", .str "Normal"), ("name", .str "r"), ("stamp", .ofInt 0)]),
    ("return_type", .obj [("type_kind", .str "Tvoid")]),
    ("function_expression", .obj [("expr_kind", .str "ConstExpression"), ("constant",
      .obj [("kind", .str "Fun"), ("function_name", .obj [("method_name", .str ".ctor"),
        ("class_name", .str "p.q.A"), ("parameters", .arr []), ("is_static", .bool false)])])]),
    ("args", .arr [.obj [("expression", .obj [("expr_kind", .str "ConstExpression"),
      ("constant", .obj [("kind", .str "Int"), ("intval", .obj [("unsigned", .bool false),
        ("value", .ofInt 7), ("is_pointer", .bool true)])])]),
      ("type", .obj [("type_kind", .str "Tstruct"), ("struct_name", .str "p.B")])]]),
    ("flags", .obj [("is_virtual", .bool false), ("is_noreturn", .bool false),
      ("is_block", .bool false)]),
    ("location", .obj [("line", .ofInt 1), ("col", .ofInt 2)])]

/-- The literal as it is read. -/
def seven : IntLiteral := .ofWord ⟨7, by decide, by decide⟩

end Sample

/-- The literal of the argument has lost its mark. -/
theorem exists_sound_instr :
    ∃ x, (Subject.instr.reading Sample.construction).answer .default = .ok x ∧
      .literal Sample.seven ∈ x.constituents ∧ ∀ c ∈ x.constituents, c.Sound .default := by
  have computed : ((Subject.instr.reading Sample.construction).answer .default).toOption.map
      (fun x => decide (.literal Sample.seven ∈ x.constituents)) = some true := by
    decide +kernel
  obtain ⟨x, read, known⟩ := exists_ok_of_map_toOption _ _ computed
  have mem := of_decide_eq_true known
  exact ⟨x, read, mem, reading_sound .default .instr Sample.construction x read⟩

end ProgramModel
