import ProgramModel.Wire.Tagged

/-!
The kinds of integers, floats and pointers, and the forms that a type is written in.
-/

namespace ProgramModel

/-- Integer types of a machine. -/
inductive IntKind where
  | char
  | signedChar
  | unsignedChar
  | bool
  | int
  | unsignedInt
  | short
  | unsignedShort
  | long
  | unsignedLong
  | longLong
  | unsignedLongLong
  | int128
  | unsignedInt128
  deriving DecidableEq, Repr, Ord

instance : Tagged IntKind where
  name := "int kind"
  all := [.char, .signedChar, .unsignedChar, .bool, .int, .unsignedInt, .short, .unsignedShort,
    .long, .unsignedLong, .longLong, .unsignedLongLong, .int128, .unsignedInt128]
  tag
    | .char => "IChar"
    | .signedChar => "ISChar"
    | .unsignedChar => "IUChar"
    | .bool => "IBool"
    | .int => "IInt"
    | .unsignedInt => "IUInt"
    | .short => "IShort"
    | .unsignedShort => "IUShort"
    | .long => "ILong"
    | .unsignedLong => "IULong"
    | .longLong => "ILongLong"
    | .unsignedLongLong => "IULongLong"
    | .int128 => "I128"
    | .unsignedInt128 => "IU128"
  find?_tag a := by cases a <;> rfl

/-- A plain character counts as signed, a truth value as unsigned. -/
def IntKind.isUnsigned : IntKind → Bool
  | unsignedChar | bool | unsignedInt | unsignedShort | unsignedLong | unsignedLongLong
  | unsignedInt128 => true
  | _ => false

/-- Floating-point types of a machine. -/
inductive FloatKind where
  | float
  | double
  | longDouble
  deriving DecidableEq, Repr, Ord

instance : Tagged FloatKind where
  name := "float kind"
  all := [.float, .double, .longDouble]
  tag
    | .float => "FFloat"
    | .double => "FDouble"
    | .longDouble => "FLongDouble"
  find?_tag a := by cases a <;> rfl

/-- How a pointer holds what it points at. -/
inductive PointerKind where
  | plain
  | reference
  | weak
  | unretained
  | autoreleasing
  deriving DecidableEq, Repr, Ord

instance : Tagged PointerKind where
  name := "pointer kind"
  all := [.plain, .reference, .weak, .unretained, .autoreleasing]
  tag
    | .plain => "Pk_pointer"
    | .reference => "Pk_reference"
    | .weak => "Pk_objc_weak"
    | .unretained => "Pk_objc_unsafe_unretained"
    | .autoreleasing => "Pk_objc_autoreleasing"
  find?_tag a := by cases a <;> rfl

/-- The forms of a type. An enumeration type has a form, but no meaning here. -/
inductive TyForm where
  | void
  | int
  | float
  | pointer
  | array
  | struct
  | var
  | enumeration
  deriving DecidableEq, Repr

instance : Tagged TyForm where
  name := "type kind"
  all := [.void, .int, .float, .pointer, .array, .struct, .var, .enumeration]
  tag
    | .void => "Tvoid"
    | .int => "Tint"
    | .float => "Tfloat"
    | .pointer => "Tptr"
    | .array => "Tarray"
    | .struct => "Tstruct"
    | .var => "Tvar"
    | .enumeration => "Tenum"
  find?_tag a := by cases a <;> rfl

end ProgramModel
