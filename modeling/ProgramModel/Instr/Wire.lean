import ProgramModel.Expr.Wire
import ProgramModel.Instr.Basic

/-!
Instructions read from wire values and written as such.
-/

namespace ProgramModel

/-- The forms of an instruction. -/
inductive InstrForm where
  | load
  | store
  | prune
  | call
  deriving DecidableEq, Repr

instance : Tagged InstrForm where
  name := "instruction kind"
  all := [.load, .store, .prune, .call]
  tag
    | .load => "Load"
    | .store => "Store"
    | .prune => "Prune"
    | .call => "Call"
  find?_tag a := by cases a <;> rfl

namespace Reading

def callFlags (v : Json) : Reading CallFlags := do
  let isVirtual ← booleanField v "is_virtual" "call flags"
  let isNoReturn ← booleanField v "is_noreturn" "call flags"
  return { isVirtual, isNoReturn, isBlock := ← booleanField v "is_block" "call flags" }

/-- An argument of a call with its type. -/
def argument (v : Json) : Reading (Expr × Ty) := do
  let value ← exprField v "expression" "call argument"
  return (value, ← tyField v "type" "call argument")

def instr (v : Json) : Reading Instr := do
  match ← formField InstrForm v "instruction_kind" "instruction" with
  | .load =>
    let target ← temporaryField v "identifier" "load instruction"
    let address ← exprField v "expression" "load instruction"
    let type ← tyField v "type" "load instruction"
    return .load target address type (← locationField v "location" "load instruction")
  | .store =>
    let address ← exprField v "lvalue" "store instruction"
    let type ← tyField v "type" "store instruction"
    let value ← exprField v "rvalue" "store instruction"
    return .store address type value (← locationField v "location" "store instruction")
  | .prune =>
    let condition ← exprField v "condition" "prune instruction"
    let trueBranch ← booleanField v "true_branch" "prune instruction"
    let kind ← taggedField BranchKind v "if_kind" "prune instruction"
    return .prune condition trueBranch kind (← locationField v "location" "prune instruction")
  | .call =>
    let result ← temporaryField v "return_var" "call instruction"
    let resultType ← tyField v "return_type" "call instruction"
    let callee ← exprField v "function_expression" "call instruction"
    let arguments ← listField v "args" "call instruction" argument
    let flags ← callFlags (← field v "flags" "call instruction")
    return .call (result, resultType) callee arguments flags
      (← locationField v "location" "call instruction")

end Reading

open Json

def CallFlags.toWire (f : CallFlags) : Json :=
  .obj [("is_virtual", .bool f.isVirtual), ("is_noreturn", .bool f.isNoReturn),
    ("is_block", .bool f.isBlock)]

def Instr.toWire (o : Options) : Instr → Json
  | load target address type location =>
    .obj [("instruction_kind", ofTagged InstrForm.load), ("identifier", target.toWire),
      ("expression", address.toWire o), ("type", type.toWire o), ("location", location.toWire)]
  | store address type value location =>
    .obj [("instruction_kind", ofTagged InstrForm.store), ("lvalue", address.toWire o),
      ("type", type.toWire o), ("rvalue", value.toWire o), ("location", location.toWire)]
  | prune condition trueBranch kind location =>
    .obj [("instruction_kind", ofTagged InstrForm.prune), ("condition", condition.toWire o),
      ("true_branch", .bool trueBranch), ("if_kind", ofTagged kind),
      ("location", location.toWire)]
  | call result callee arguments flags location =>
    .obj [("instruction_kind", ofTagged InstrForm.call), ("return_var", result.1.toWire),
      ("return_type", result.2.toWire o), ("function_expression", callee.toWire o),
      ("args", .arr (arguments.map fun a =>
        .obj [("expression", a.1.toWire o), ("type", a.2.toWire o)])),
      ("flags", flags.toWire), ("location", location.toWire)]

end ProgramModel
