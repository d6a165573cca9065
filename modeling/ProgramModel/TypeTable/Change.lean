import ProgramModel.TypeTable.Wire

/-!
Changes that a caller makes to a table of types, one after another. A change with a fault
leaves the table as it is.
-/

namespace ProgramModel.TypeTable

inductive Change where
  /-- Write the definitions of a document over those of the table. -/
  | extend (document : Json)
  /-- Read a document as a table of its own and merge that into the table. -/
  | merge (document : Json)
  | insert (name : TypeName) (definition : StructDef)

/-- The answer to a change and the table after it. An insertion answers with the definition
whose place it takes. -/
def change (o : Options) (t : TypeTable) : Change → Except Fault (Option StructDef) × TypeTable
  | .extend document =>
    match t.extend o document with
    | .ok u => (.ok none, u)
    | .error fault => (.error fault, t)
  | .merge document =>
    match (Reading.typeTable document).answer o with
    | .ok u => (.ok none, t.merge u)
    | .error fault => (.error fault, t)
  | .insert name d => (.ok (t.get? name), t.insert name d)

/-- The answers to changes in their order, and the table after the last one. -/
def changeAll (o : Options) (t : TypeTable) :
    List Change → List (Except Fault (Option StructDef)) × TypeTable
  | [] => ([], t)
  | c :: rest =>
    let (answer, u) := t.change o c
    let (answers, last) := changeAll o u rest
    (answer :: answers, last)

end ProgramModel.TypeTable
