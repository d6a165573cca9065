import ProgramModel.Bounded
import ProgramModel.Json.Defect
import ProgramModel.Json.Glimpse

/-!
Why a document is not accepted. A fault names the cause and the construct that was
being read; its wording is in `Fault.message` alone. Every fault is fatal for its
document. Only an id without a record is a fault of reference, all others are
faults of structure.
-/

namespace ProgramModel

/-- Records that have an id of their own. -/
inductive Entity where
  | procedure
  | node
  deriving DecidableEq, Repr

def Entity.text : Entity → String
  | procedure => "procedure"
  | node => "node"

/-- The place that an id was used at: a role and the id of the record that has it. -/
inductive Referrer where
  | ownerOf (node : WireId)
  | startOf (procedure : WireId)
  | exitOf (procedure : WireId)
  | successorsOf (node : WireId)
  | predecessorsOf (node : WireId)
  | exceptionalOf (node : WireId)
  deriving DecidableEq, Repr

def Referrer.text : Referrer → String
  | ownerOf id => "owner of node " ++ toString id
  | startOf id => "start node of procedure " ++ toString id
  | exitOf id => "exit node of procedure " ++ toString id
  | successorsOf id => "successors of node " ++ toString id
  | predecessorsOf id => "predecessors of node " ++ toString id
  | exceptionalOf id => "exception successors of node " ++ toString id

/-- The shapes of values that readings ask for. -/
inductive Shape where
  | object
  | string
  | boolean
  | integer
  | natural
  | coordinate
  | wideInteger
  | array
  | typeName
  deriving DecidableEq, Repr

def Shape.text : Shape → String
  | object => "object"
  | string => "string"
  | boolean => "boolean"
  | integer => "integer"
  | natural => "non-negative integer"
  | coordinate => "32-bit integer"
  | wideInteger => "integer literal"
  | array => "array"
  | typeName => "string or class descriptor"

/-- Why a file gives no text. -/
inductive FileFault where
  | absent
  | isDirectory
  | notDirectory
  | nameTooLong
  | nulInPath
  | notText
  deriving DecidableEq, Repr

def FileFault.message : FileFault → String
  | absent => "No such file or directory (os error 2)"
  | isDirectory => "Is a directory (os error 21)"
  | notDirectory => "Not a directory (os error 20)"
  | nameTooLong => "File name too long (os error 36)"
  | nulInPath => "file name contained an unexpected NUL byte"
  | notText => "stream did not contain valid UTF-8"

inductive Fault where
  | malformed (cause : Json.Malformed)
  | unreadable (path : String) (cause : FileFault)
  | missingField (field context : String)
  | unknownVariant (enumeration tag : String)
  | shapeMismatch (expected : Shape) (context : String) (got : Json.Glimpse)
  | zeroDepthLimit
  | unsupported (what detail : String)
  | depthExceeded (limit : Nat) (context : String)
  | duplicateId (entity : Entity) (id : WireId)
  | unresolvedReference (entity : Entity) (id : WireId) (referrer : Referrer)
  deriving DecidableEq, Repr

inductive FaultClass where
  | structural
  | reference
  deriving DecidableEq, Repr

namespace Fault

def message : Fault → String
  | malformed cause => "Malformed JSON document: " ++ cause.message
  | unreadable path cause => "Failed to read " ++ path ++ ": " ++ cause.message
  | missingField field context => "Missing field `" ++ field ++ "` in " ++ context
  | unknownVariant enumeration tag =>
    "Unknown " ++ enumeration ++ " variant: " ++ Text.quoted tag
  | shapeMismatch expected context got =>
    "Expected " ++ expected.text ++ " for " ++ context ++ ", got " ++ got.text
  | zeroDepthLimit => "Expected positive integer for max_depth option, got 0"
  | unsupported what detail => "Unsupported " ++ what ++ ": " ++ detail
  | depthExceeded limit context =>
    "Nesting depth limit (" ++ toString limit ++ ") exceeded while decoding " ++ context
  | duplicateId entity id => "Duplicate " ++ entity.text ++ " id " ++ toString id
  | unresolvedReference entity id referrer =>
    "Unresolved " ++ entity.text ++ " id " ++ toString id ++ " referenced by " ++ referrer.text

/-- Not being accepted for the depth of nesting. -/
def isDepth : Fault → Bool
  | depthExceeded .. => true
  | _ => false

def faultClass : Fault → FaultClass
  | unresolvedReference .. => .reference
  | _ => .structural

def isReference (f : Fault) : Bool := f.faultClass = .reference

end Fault
end ProgramModel
