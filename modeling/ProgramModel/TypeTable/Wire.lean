import ProgramModel.TypeTable.Basic

/-!
Tables of types read from documents. A document is a list of named definitions; a
table that is extended by one changes only if the whole document can be read.
-/

namespace ProgramModel

namespace Reading

def typeEntry (v : Json) : Reading (TypeName × StructDef) := do
  let name ← typeName (← field v "type_name" "type environment entry")
  return (name, ← structDef (← field v "type_struct" "type environment entry"))

def typeTable (v : Json) : Reading TypeTable := do
  return .ofList (← list v "type environment document" typeEntry)

end Reading

/-- The table with the definitions of a document written over its own. -/
def TypeTable.extend (o : Options) (t : TypeTable) (document : Json) :
    Except Fault TypeTable := do
  return t.merge (← (Reading.typeTable document).answer o)

end ProgramModel
