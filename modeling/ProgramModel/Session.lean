import ProgramModel.FlowGraph.Agreement
import ProgramModel.FlowGraph.Link
import ProgramModel.FlowGraph.Listing
import ProgramModel.TypeTable.Wire

/-!
Sessions: requests to read values of all kinds, one after another with the same options
and one gauge of nesting.
-/

namespace ProgramModel

/-- The kinds of values that can be read on their own. -/
inductive Subject where
  | typeName
  | procName
  | fieldName
  | temporary
  | programVariable
  | location
  | intLiteral
  | type
  | constant
  | expr
  | instr
  | itemAnnotations
  | methodAnnotations
  | attributes
  | nodeKind
  | structDef
  | typeTable
  | flowGraph
  deriving DecidableEq, Repr

/-- A value that was read. -/
inductive Decoded where
  | typeName (value : TypeName)
  | procName (value : ProcName)
  | fieldName (value : FieldName)
  | temporary (value : Temporary)
  | programVariable (value : Variable)
  | location (value : Location)
  | intLiteral (value : IntLiteral)
  | type (value : Ty)
  | constant (value : Constant)
  | expr (value : Expr)
  | instr (value : Instr)
  | itemAnnotations (value : ItemAnnotations)
  | methodAnnotations (value : MethodAnnotations)
  | attributes (value : Attributes)
  | nodeKind (value : NodeKind)
  | structDef (value : StructDef)
  | typeTable (value : TypeTable)
  | flowGraph (value : FlowGraph)
  deriving DecidableEq

/-- The reading of a value of some kind. -/
def Subject.reading (s : Subject) (v : Json) : Reading Decoded :=
  match s with
  | typeName => .typeName <$> Reading.typeName v
  | procName => .procName <$> Reading.procName v
  | fieldName => .fieldName <$> Reading.fieldName v
  | temporary => .temporary <$> Reading.temporary v
  | programVariable => .programVariable <$> Reading.programVariable v
  | location => .location <$> Reading.location v
  | intLiteral => .intLiteral <$> Reading.intLiteral v
  | type => .type <$> Reading.ty v
  | constant => .constant <$> Reading.constant v
  | expr => .expr <$> Reading.expr v
  | instr => .instr <$> Reading.instr v
  | itemAnnotations => .itemAnnotations <$> Reading.itemAnnotations v
  | methodAnnotations => .methodAnnotations <$> Reading.methodAnnotations v
  | attributes => .attributes <$> Reading.attributes v
  | nodeKind => .nodeKind <$> Reading.nodeKind v
  | structDef => .structDef <$> Reading.structDef v
  | typeTable => .typeTable <$> Reading.typeTable v
  | flowGraph => .flowGraph <$> Reading.flowGraph v

namespace Decoded

/-- The text that a value is shown as, for the kinds that have one. -/
def text? : Decoded → Option String
  | typeName n => some n.text
  | procName p => some p.text
  | fieldName f => some f.text
  | temporary t => some t.text
  | programVariable x => some x.text
  | location l => some l.text
  | intLiteral l => some l.text
  | type t => some t.text
  | constant c => some c.text
  | expr e => some e.text
  | instr i => some i.text
  | nodeKind k => some k.text
  | flowGraph g => g.listing?
  | itemAnnotations _ | methodAnnotations _ | attributes _ | structDef _ | typeTable _ => none

/-- Equality of values, with float constants compared as numbers. -/
def agrees : Decoded → Decoded → Bool
  | constant c, constant d => c.agrees d
  | expr e, expr f => e.agrees f
  | instr i, instr j => i.agrees j
  | flowGraph g, flowGraph h => g.agrees h
  | x, y => decide (x = y)

end Decoded

/-- A value to read. A document that could not be had is its own answer. -/
structure Request where
  subject : Subject
  document : Except Fault Json

structure Session where
  options : Options
  gauge : Gauge

namespace Session

def start (o : Options) : Session := ⟨o, .start⟩

/-- The answer to a request, and the session after it. -/
def ask (s : Session) (r : Request) : Except Fault Decoded × Session :=
  match r.document with
  | .error fault => (.error fault, s)
  | .ok v =>
    let (answer, gauge) := (r.subject.reading v).outcome s.options s.gauge
    (answer, { s with gauge })

/-- The answers to requests in their order. -/
def askAll (s : Session) : List Request → List (Except Fault Decoded)
  | [] => []
  | r :: rest =>
    let (answer, s) := s.ask r
    answer :: askAll s rest

end Session
end ProgramModel
