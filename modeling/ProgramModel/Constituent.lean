import ProgramModel.Session

/-!
The constituents of values: all names of types, signatures, integer and float constants
and expressions in a value, at every depth. What holds of each of them wherever it stands
is said of the lists here.
-/

namespace ProgramModel

inductive Constituent where
  | typeName (name : TypeName)
  | signature (s : Signature)
  | literal (l : IntLiteral)
  | float (x : Binary64)
  | expr (e : Expr)
  deriving DecidableEq, Repr

/-! ### Lists of constituents -/

def Ty.constituents : Ty → List Constituent
  | pointer target _ => target.constituents
  | array element _ _ => element.constituents
  | struct name => [.typeName name]
  | _ => []

/-- The constituents of a type that may be absent. -/
def Ty.constituentsOf (t : Option Ty) : List Constituent := t.toList.flatMap Ty.constituents

def ProcName.constituents : ProcName → List Constituent
  | builtinNew => []
  | method s =>
    .signature s :: .typeName s.owner ::
      (s.parameters.flatMap Ty.constituents ++ Ty.constituentsOf s.result)

def FieldName.constituents (f : FieldName) : List Constituent := [.typeName f.owner]

def Storage.constituents : Storage → List Constituent
  | localOf p | calledOf p => p.constituents
  | global => []

def Variable.constituents (x : Variable) : List Constituent := x.storage.constituents

def Constant.constituents : Constant → List Constituent
  | int l => [.literal l]
  | procedure name => name.constituents
  | float x => [.float x]
  | string _ | classRef _ => []

/-- The expression itself comes first. -/
def Expr.constituents (e : Expr) : List Constituent :=
  .expr e :: match e with
    | temporary _ => []
    | unary _ operand result => operand.constituents ++ Ty.constituentsOf result
    | binary _ left right => left.constituents ++ right.constituents
    | constant c => c.constituents
    | cast target operand => target.constituents ++ operand.constituents
    | addressOf x => x.constituents
    | fieldOf base field type => base.constituents ++ (field.constituents ++ type.constituents)
    | elementOf array index => array.constituents ++ index.constituents
    | sizeof type _ => type.constituents
    | sizeofArray type _ length => type.constituents ++ length.constituents

def Instr.constituents : Instr → List Constituent
  | load _ address type _ => address.constituents ++ type.constituents
  | store address type value _ =>
    address.constituents ++ (type.constituents ++ value.constituents)
  | prune condition _ _ _ => condition.constituents
  | call result callee arguments _ _ =>
    result.2.constituents ++ (callee.constituents ++
      arguments.flatMap fun a => a.1.constituents ++ a.2.constituents)

def Attributes.constituents (a : Attributes) : List Constituent :=
  a.captured.flatMap (·.type.constituents) ++ (a.formals.flatMap (·.type.constituents) ++
    (a.locals.flatMap (·.type.constituents) ++ (a.name.constituents ++ a.result.constituents)))

def StructField.constituents (f : StructField) : List Constituent :=
  f.name.constituents ++ f.type.constituents

def StructDef.constituents (d : StructDef) : List Constituent :=
  d.fields.flatMap StructField.constituents ++ (d.statics.flatMap StructField.constituents ++
    (d.supers.map .typeName ++ d.methods.flatMap ProcName.constituents))

def TypeTable.constituents (t : TypeTable) : List Constituent :=
  t.toList.flatMap fun e => .typeName e.1 :: e.2.constituents

def NodeBody.constituents (b : NodeBody) : List Constituent :=
  b.temporaries.flatMap (·.2.constituents) ++ (b.instrs.flatMap Instr.constituents ++
    (b.deadBefore.flatMap Variable.constituents ++ b.deadAfter.flatMap Variable.constituents))

def FlowGraph.constituents (g : FlowGraph) : List Constituent :=
  g.procedures.toList.flatMap (·.attributes.constituents) ++
    g.nodes.toList.flatMap (·.body.constituents)

def Decoded.constituents : Decoded → List Constituent
  | typeName n => [.typeName n]
  | procName p => p.constituents
  | fieldName f => f.constituents
  | programVariable x => x.constituents
  | intLiteral l => [.literal l]
  | type t => t.constituents
  | constant c => c.constituents
  | expr e => e.constituents
  | instr i => i.constituents
  | attributes a => a.constituents
  | structDef d => d.constituents
  | typeTable t => t.constituents
  | flowGraph g => g.constituents
  | temporary _ | location _ | itemAnnotations _ | methodAnnotations _ | nodeKind _ => []

/-! ### Sound constituents -/

/-- The name is what comes behind the last separator of a qualified name. -/
def TypeName.Simple (o : Options) (n : TypeName) : Prop := o.separator ∉ n.name.toList

instance (o : Options) (n : TypeName) : Decidable (n.Simple o) :=
  inferInstanceAs (Decidable (o.separator ∉ n.name.toList))

/-- The method is not called like the built-in procedure, and it has a result unless it is
called like a constructor. -/
structure Signature.Regular (o : Options) (s : Signature) : Prop where
  name : s.name ≠ o.builtinNewName
  result : s.result = none ↔ s.name = o.constructorName

instance (o : Options) (s : Signature) : Decidable (s.Regular o) :=
  decidable_of_iff (s.name ≠ o.builtinNewName ∧ (s.result = none ↔ s.name = o.constructorName))
    ⟨fun h => ⟨h.1, h.2⟩, fun h => ⟨h.name, h.result⟩⟩

/-- Nothing but the null pointer counts as a pointer. -/
def IntLiteral.Canonical (l : IntLiteral) : Prop := l.isPointer = true → l = .null

instance (l : IntLiteral) : Decidable l.Canonical :=
  inferInstanceAs (Decidable (l.isPointer = true → l = .null))

namespace Constituent

/-- What documents give, at every depth of every value. -/
def Sound (o : Options) : Constituent → Prop
  | typeName n => n.Simple o
  | signature s => s.Regular o
  | literal l => l.Canonical ∧ (l.isNull = true ↔ l = .null)
  | float x => x.isFinite = true ∨ x.isNaN = true
  | expr e => e.isNull = true ↔ e = .null

/-- What the written form keeps, but for which NaN it was. -/
def Writable (o : Options) : Constituent → Prop
  | typeName n => n.Simple o
  | signature s => s.Regular o
  | literal l => l.Canonical
  | float x => x.isNaN = true
  | expr _ => True

instance (o : Options) : DecidablePred (Writable o)
  | typeName n => inferInstanceAs (Decidable (n.Simple o))
  | signature s => inferInstanceAs (Decidable (s.Regular o))
  | literal l => inferInstanceAs (Decidable l.Canonical)
  | float x => inferInstanceAs (Decidable (x.isNaN = true))
  | expr _ => isTrue trivial

end Constituent
end ProgramModel
