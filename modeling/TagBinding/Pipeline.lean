import TagBinding.Fault
import TagBinding.Routine

/-!
# Pipelines

A pipeline is what a declaration of transforms comes to: nothing, one function, or functions
through which a value passes from left to right. What counts as not given declares nothing; a
list or a tuple of functions declares them in order; every other value is invalid.
-/
namespace TagBinding

variable {F : Type}

/-- The functions through which a value passes. -/
inductive Pipeline (F : Type) where
  /-- No function: the value stays as it is. -/
  | identity
  /-- One function, declared by itself. -/
  | single (function : F)
  /-- The functions of a declared sequence, in order. -/
  | chain (stages : List F)

/-- The function that a value is. -/
def Value.function? : Value F → Option F
  | .function symbol => some symbol
  | _ => none

/-- The functions of a list of values, when all of them are functions. -/
def functions? : List (Value F) → Option (List F)
  | [] => some []
  | first :: rest => do
    let function ← first.function?
    let others ← functions? rest
    some (function :: others)

namespace Pipeline

/-- The pipeline that a value declares, if it declares one. -/
def ofValue? (declared : Value F) : Option (Pipeline F) :=
  if declared.isVacant then some .identity
  else
    match declared with
    | .function symbol => some (.single symbol)
    | .list items | .tuple items => (functions? items).map .chain
    | _ => none

/-- The pipeline that a value declares for the definition of a name. -/
def ofDeclaration (name : String) (declared : Value F) : Except (Fault F) (Pipeline F) :=
  match ofValue? declared with
  | some pipeline => .ok pipeline
  | none => .error (.invalidTransforms name)

/-- The functions of a pipeline in order. -/
def stages : Pipeline F → List F
  | .identity => []
  | .single function => [function]
  | .chain stages => stages

/-- What a pipeline does: its functions in a row. -/
def routine (behaviour : Behaviour F) (pipeline : Pipeline F) : Routine F :=
  .sequence (pipeline.stages.map behaviour)

end Pipeline

end TagBinding
