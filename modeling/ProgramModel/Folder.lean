import ProgramModel.Fault

/-!
Folders of files, and what the paths in them lead to. Nothing is known outside a
folder but that its parent and the root are directories, so that a name there leads
nowhere.
-/

namespace ProgramModel

/-- Files by their names, the last one of a name. -/
structure Folder where
  files : List (String × ByteArray)

namespace Folder

/-- What the first segments of a path lead to. -/
inductive Spot where
  | inside
  | outside
  | file (content : ByteArray)

def file? (d : Folder) (name : String) : Option ByteArray :=
  (d.files.reverse.find? (·.1 == name)).map (·.2)

/-- The greatest length of a name in a directory, in bytes. -/
def nameLimit : Nat := 255

/-- The greatest length of a path, in bytes. -/
def pathLimit : Nat := 4095

/-- One segment further. No segment leads on from a file, not even an empty one. -/
def follow (d : Folder) : Spot → String → Except FileFault Spot
  | .file _, _ => .error .notDirectory
  | here, "" => .ok here
  | here, "." => .ok here
  | _, ".." => .ok .outside
  | here, name =>
    if nameLimit < name.utf8ByteSize then .error .nameTooLong
    else
      match here, d.file? name with
      | .inside, some content => .ok (.file content)
      | _, _ => .error .absent

/-- The content of the file at a path. -/
def fetch (d : Folder) (path : String) : Except FileFault ByteArray := do
  if path.contains '\x00' then throw .nulInPath
  if path.isEmpty then throw .absent
  if pathLimit < path.utf8ByteSize then throw .nameTooLong
  let start := if path.startsWith "/" then Spot.outside else Spot.inside
  match ← (path.splitOn "/").foldlM d.follow start with
  | .file content => return content
  | _ => throw .isDirectory

end Folder
end ProgramModel
