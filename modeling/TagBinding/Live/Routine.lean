import TagBinding.Binding
import TagBinding.Live.Scene

/-!
# Live routines

A live routine is what a function does in a scene: it is given the scene, a tag and a value, and it
replies with its edits, with what it remembers from then on, and with a value or a failure. It may
hand on the lists that it is given, make lists of its own, keep a list and hand it out again at
every run, and let what it replies depend on what it remembers. The edits stay when it fails.
-/
namespace TagBinding.Live

variable {F M : Type}

/-- What a live routine answers. -/
structure Reply (F M : Type) where
  /-- What the functions remember afterwards. -/
  memory : M
  /-- The changes it makes to the scene, in order. -/
  edits : List (Edit F)
  /-- Its value, or the message of its failure. -/
  outcome : Except String (Value F)

/-- A function of a scene, a tag and a value; a default function is run without a tag. -/
abbrev Routine (F M : Type) := Scene F M → Option (Tag F) → Value F → Reply F M

/-- What the functions that values name do. -/
abbrev Behaviour (F M : Type) := F → Routine F M

/-- The scene after a reply. -/
def Scene.after (scene : Scene F M) (reply : Reply F M) : Scene F M :=
  { scene.editAll reply.edits with memory := reply.memory }

/-- Whether a reply assigns a property. -/
def Reply.assigns (reply : Reply F M) (key : String) : Bool := reply.edits.any (Edit.assigns key)

/-- A reply of a value without edits. -/
def Scene.give (scene : Scene F M) (value : Value F) : Reply F M := ⟨scene.memory, [], .ok value⟩

namespace Routine

/-- The routine that answers with the value it is given. -/
def identity : Routine F M := fun scene _ value => scene.give value

/-- One routine after another; the second one does not run when the first one fails. -/
def andThen (first second : Routine F M) : Routine F M := fun scene tag value =>
  let reply := first scene tag value
  match reply.outcome with
  | .error _ => reply
  | .ok middle =>
    let next := second (scene.after reply) tag middle
    { next with edits := reply.edits ++ next.edits }

/-- Routines in a row. -/
def sequence (routines : List (Routine F M)) : Routine F M := routines.foldr andThen identity

/-- What a pipeline does: its functions in a row. -/
def ofPipeline (behaviour : Behaviour F M) (pipeline : Pipeline F) : Routine F M :=
  sequence (pipeline.stages.map behaviour)

/-- The routine that turns the part of a tag into the value of a binding. -/
def ofBinding (behaviour : Behaviour F M) (binding : Binding F) : Routine F M :=
  (ofPipeline behaviour binding.own).andThen (ofPipeline behaviour binding.shared)

end Routine

/-- The value of a tag: the part that the definition asks for, after both pipelines. -/
def evaluate (behaviour : Behaviour F M) (binding : Binding F) (tag : Tag F)
    (scene : Scene F M) : Reply F M :=
  Routine.ofBinding behaviour binding scene (some tag)
    (tag.part scene.heap binding.definition.tagProperty)

end TagBinding.Live
