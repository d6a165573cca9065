import ProgramModel.Session

/-!
The depth of values: how many types and expressions are nested in one another at the
most. The types in a procedure's name count below the expression that names it, and a
value without types and expressions has depth zero.
-/

namespace ProgramModel

/-- The greatest of some depths. -/
def deepest (depths : List Nat) : Nat := depths.foldr max 0

def Ty.depth : Ty → Nat
  | pointer target _ => target.depth + 1
  | array element _ _ => element.depth + 1
  | _ => 1

/-- The depth of a type that may be absent. -/
def Ty.depthOf (t : Option Ty) : Nat := deepest (t.toList.map Ty.depth)

def ProcName.depth : ProcName → Nat
  | builtinNew => 0
  | method s => max (deepest (s.parameters.map Ty.depth)) (Ty.depthOf s.result)

def Variable.depth (x : Variable) : Nat := deepest (x.owner?.toList.map ProcName.depth)

def Constant.depth : Constant → Nat
  | procedure name => name.depth
  | _ => 0

def Expr.depth : Expr → Nat
  | temporary _ => 1
  | unary _ operand result => max operand.depth (Ty.depthOf result) + 1
  | binary _ left right => max left.depth right.depth + 1
  | constant c => c.depth + 1
  | cast target operand => max target.depth operand.depth + 1
  | addressOf x => x.depth + 1
  | fieldOf base _ type => max base.depth type.depth + 1
  | elementOf array index => max array.depth index.depth + 1
  | sizeof type _ => type.depth + 1
  | sizeofArray type _ length => max type.depth length.depth + 1

def Instr.depth : Instr → Nat
  | load _ address type _ => max address.depth type.depth
  | store address type value _ => max address.depth (max type.depth value.depth)
  | prune condition _ _ _ => condition.depth
  | call result callee arguments _ _ =>
    max (max result.2.depth callee.depth)
      (deepest (arguments.map fun a => max a.1.depth a.2.depth))

def Attributes.depth (a : Attributes) : Nat :=
  deepest (a.captured.map (·.type.depth) ++ a.formals.map (·.type.depth) ++
    a.locals.map (·.type.depth) ++ [a.name.depth, a.result.depth])

def StructDef.depth (d : StructDef) : Nat :=
  deepest ((d.fields ++ d.statics).map (·.type.depth) ++ d.methods.map ProcName.depth)

def TypeTable.depth (t : TypeTable) : Nat := deepest (t.toList.map (·.2.depth))

def NodeBody.depth (b : NodeBody) : Nat :=
  deepest (b.temporaries.map (·.2.depth) ++ b.instrs.map Instr.depth ++
    (b.deadBefore ++ b.deadAfter).map Variable.depth)

def FlowGraph.depth (g : FlowGraph) : Nat :=
  deepest (g.procedures.toList.map (·.attributes.depth) ++ g.nodes.toList.map (·.body.depth))

def Decoded.depth : Decoded → Nat
  | procName p => p.depth
  | programVariable x => x.depth
  | type t => t.depth
  | constant c => c.depth
  | expr e => e.depth
  | instr i => i.depth
  | attributes a => a.depth
  | structDef d => d.depth
  | typeTable t => t.depth
  | flowGraph g => g.depth
  | typeName _ | fieldName _ | temporary _ | location _ | intLiteral _ | itemAnnotations _
  | methodAnnotations _ | nodeKind _ => 0

end ProgramModel
