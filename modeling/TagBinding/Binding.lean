import TagBinding.Definition.Load
import TagBinding.Pipeline

/-!
# Bindings

A binding is a definition made ready for extraction: its declared transforms have become a
pipeline, and after that pipeline comes another one that all bindings of a set-up share.
-/
namespace TagBinding

variable {F : Type}

/-- A definition with the pipelines through which its values pass. -/
structure Binding (F : Type) where
  /-- The definition. -/
  definition : Definition F
  /-- The pipeline of the definition's own transforms. -/
  own : Pipeline F
  /-- The pipeline that is shared by all definitions and comes second. -/
  shared : Pipeline F

namespace Binding

/-- The name of the tags. -/
def name (binding : Binding F) : String := binding.definition.name

/-- The document property that is written. -/
def target (binding : Binding F) : String := binding.definition.target

/-- The functions through which the value of a tag passes, the definition's own ones first. -/
def transforms (binding : Binding F) : List F := binding.own.stages ++ binding.shared.stages

/-- The routine that turns the part of a tag into a value. -/
def routine (behaviour : Behaviour F) (binding : Binding F) : Routine F :=
  (binding.own.routine behaviour).andThen (binding.shared.routine behaviour)

/-- The value of a tag: the part that the definition asks for, after both pipelines. -/
def evaluate (behaviour : Behaviour F) (binding : Binding F) (tag : Tag F)
    (document : Document F) : Reply F :=
  binding.routine behaviour document (some tag) (tag.part binding.definition.tagProperty)

/-- The name under which the shared transforms are declared. -/
def sharedName : String := "<default transforms>"

/-- Load a declared definition and make it ready, with a shared pipeline. -/
def ofDeclared (shared : Pipeline F) (declared : Value F) : Except (Fault F) (Binding F) := do
  let definition ← Definition.load declared
  let own ← Pipeline.ofDeclaration definition.name definition.transforms
  .ok ⟨definition, own, shared⟩

/-- Make declared definitions ready in order. The shared transforms are looked at first, then
the fields and the transforms of each definition; the first fault ends it. -/
def resolveAll (declared : List (Value F)) (shared : Value F) :
    Except (Fault F) (List (Binding F)) := do
  let pipeline ← Pipeline.ofDeclaration sharedName shared
  declared.mapM (ofDeclared pipeline)

end Binding

end TagBinding
