import ProgramModel.Location

/-!
Annotations of declarations. An item is a class, a field, or the result or a parameter
of a method; its annotations keep their order.
-/

namespace ProgramModel

/-- An argument of an annotation; one that is given by its position has no name. -/
structure AnnotationParam where
  name : Option String
  value : String
  deriving DecidableEq, Repr

structure AnnotationUse where
  className : String
  params : List AnnotationParam
  /-- The annotation is there when the program runs. -/
  isVisible : Bool
  deriving DecidableEq, Repr

/-- All annotations of an item. -/
abbrev ItemAnnotations := List AnnotationUse

/-- The annotations of a method's result and of each of its parameters. -/
structure MethodAnnotations where
  result : ItemAnnotations
  params : List ItemAnnotations
  deriving DecidableEq, Repr

namespace Reading

def annotationParam (v : Json) : Reading AnnotationParam := do
  let name ← optionalString v "name" "annotation parameter"
  return { name, value := ← stringField v "value" "annotation parameter" }

def annotationUse (v : Json) : Reading AnnotationUse := do
  let body ← field v "annotation" "annotation"
  let params ← listField body "params" "annotation" annotationParam
  let className ← stringField body "class_name" "annotation"
  return { className, params, isVisible := ← booleanField v "visible" "annotation" }

def itemAnnotations (v : Json) : Reading ItemAnnotations := list v "item annotation" annotationUse

def methodAnnotations (v : Json) : Reading MethodAnnotations := do
  let result ← itemAnnotations (← field v "return" "method annotation")
  return { result, params := ← listField v "params" "method annotation" itemAnnotations }

end Reading
end ProgramModel
