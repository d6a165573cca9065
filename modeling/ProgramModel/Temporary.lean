import ProgramModel.Ty.Wire

/-!
Temporaries: variables that no source text names. Kind, base name and stamp together
tell one from another.
-/

namespace ProgramModel

inductive TemporaryKind where
  | normal
  | primed
  | footprint
  /-- A placeholder that holds nothing. -/
  | unbound
  deriving DecidableEq, Repr, Ord

instance : Tagged TemporaryKind where
  name := "identifier kind"
  all := [.normal, .primed, .footprint, .unbound]
  tag
    | .normal => "Normal"
    | .primed => "Primed"
    | .footprint => "Footprint"
    | .unbound => "None"
  find?_tag a := by cases a <;> rfl

/-- The mark that temporaries of a kind are shown with. -/
def TemporaryKind.mark : TemporaryKind → String
  | normal => "n$"
  | primed => "#"
  | footprint => "@"
  | unbound => "_"

structure Temporary where
  kind : TemporaryKind
  name : String
  stamp : WireId
  deriving DecidableEq, Repr, Ord

def Temporary.text (t : Temporary) : String := t.kind.mark ++ t.name ++ toString t.stamp

namespace Reading

def temporary (v : Json) : Reading Temporary := do
  let kind ← taggedField TemporaryKind v "kind" "identifier"
  let name ← stringField v "name" "identifier"
  return { kind, name, stamp := ← wireIdField v "stamp" "identifier" }

/-- The temporary under a key. -/
def temporaryField (v : Json) (key context : String) : Reading Temporary := do
  temporary (← field v key context)

end Reading

open Json in
def Temporary.toWire (t : Temporary) : Json :=
  .obj [("kind", ofTagged t.kind), ("name", .str t.name), ("stamp", .ofInt t.stamp.val)]

end ProgramModel
