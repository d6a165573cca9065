/-!
The conventions that documents are read by. Each has a default, so that a partial
description, or none, is a complete set of options.
-/

namespace ProgramModel

structure Options where
  /-- The number of types and expressions that may be nested in one another. -/
  maxDepth : Nat := 256
  /-- The method name of constructors, which have no return type. -/
  constructorName : String := ".ctor"
  /-- The method name of the built-in allocation procedure. -/
  builtinNewName : String := "__new"
  /-- The separator between the parts of a qualified type name. -/
  separator : Char := '.'
  deriving DecidableEq, Repr

def Options.default : Options := {}

instance : Inhabited Options := ⟨.default⟩

end ProgramModel
