import ProgramModel.Fault
import ProgramModel.Json.Reader

/-!
Documents as texts and as files. A text has to be JSON before anything is read from
it, and a file has to be text.
-/

namespace ProgramModel

namespace Document

def ofText (text : String) : Except Fault Json :=
  match Json.ofText Json.nestingLimit text with
  | .ok v => .ok v
  | .error cause => .error (.malformed cause)

/-- The text of a file, where `fetch` gives the bytes at a path. -/
def fetchText (fetch : String → Except FileFault ByteArray) (path : String) :
    Except Fault String :=
  match fetch path with
  | .error cause => .error (.unreadable path cause)
  | .ok bytes =>
    match String.fromUTF8? bytes with
    | some text => .ok text
    | none => .error (.unreadable path .notText)

end Document
end ProgramModel
