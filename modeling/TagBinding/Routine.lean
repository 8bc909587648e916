import TagBinding.Document

/-!
# Routines

A routine is what a function does when it is run: it is given a document, a tag and a value, and
it replies with the edits it makes to the document and with a value or a failure. The edits stay
when it fails. Nothing else of a document can be changed by a routine.

Routines in a row run on the document as the earlier ones leave it, each on the value of the one
before, up to the first that fails. A row may be split anywhere (`Routine.andThen_assoc`,
`Routine.sequence_append`).
-/
namespace TagBinding

variable {F : Type}

/-- What a routine answers. -/
structure Reply (F : Type) where
  /-- The changes it makes to the document, in order. -/
  edits : List (Edit F)
  /-- Its value, or the message of its failure. -/
  outcome : Except String (Value F)

/-- A function of a document, a tag and a value; a default function is run without a tag. -/
abbrev Routine (F : Type) := Document F → Option (Tag F) → Value F → Reply F

/-- What the functions that values name do. -/
abbrev Behaviour (F : Type) := F → Routine F

/-- Whether a reply assigns a property. -/
def Reply.assigns (reply : Reply F) (key : String) : Bool := reply.edits.any (Edit.assigns key)

/-- A reply without edits. -/
def Reply.value (value : Value F) : Reply F := ⟨[], .ok value⟩

namespace Routine

/-- The routine that answers with the value it is given. -/
def identity : Routine F := fun _ _ value => .value value

/-- One routine after another; the second one does not run when the first one fails. -/
def andThen (first second : Routine F) : Routine F := fun document tag value =>
  let reply := first document tag value
  match reply.outcome with
  | .error _ => reply
  | .ok middle =>
    let next := second (document.editAll reply.edits) tag middle
    ⟨reply.edits ++ next.edits, next.outcome⟩

/-- Routines in a row. -/
def sequence (routines : List (Routine F)) : Routine F := routines.foldr andThen identity

/-- The identity after a routine changes nothing. -/
@[simp] theorem andThen_identity (routine : Routine F) : routine.andThen identity = routine := by
  funext document tag value
  rcases found : routine document tag value with ⟨edits, outcome⟩
  cases outcome <;> simp [andThen, identity, Reply.value, found]

/-- Rows of routines may be split anywhere. -/
theorem andThen_assoc (first second third : Routine F) :
    (first.andThen second).andThen third = first.andThen (second.andThen third) := by
  funext document tag value
  rcases one : first document tag value with ⟨edits, outcome⟩
  cases outcome with
  | error message => simp [andThen, one]
  | ok middle =>
    rcases two : second (document.editAll edits) tag middle with ⟨more, next⟩
    cases next with
    | error message => simp [andThen, one, two]
    | ok last => simp [andThen, one, two, Document.editAll_append, List.append_assoc]

/-- The row of two lists of routines is the row of the first before the row of the second. -/
theorem sequence_append (first second : List (Routine F)) :
    sequence (first ++ second) = (sequence first).andThen (sequence second) := by
  induction first with
  | nil => rfl
  | cons routine rest ih =>
    show routine.andThen (sequence (rest ++ second)) = _
    rw [ih, ← andThen_assoc]
    rfl

/-- A row of one routine is that routine. -/
@[simp] theorem sequence_singleton (routine : Routine F) : sequence [routine] = routine :=
  andThen_identity routine

end Routine

/-- Run something on a document for every item of a list, each time on the document as it was
left before; a failure does not stop the run. -/
def runEach {ι : Type} (run : ι → Document F → Reply F) :
    List ι → Document F → List (Except String (Value F)) × Document F
  | [], document => ([], document)
  | item :: rest, document =>
    let reply := run item document
    let others := runEach run rest (document.editAll reply.edits)
    (reply.outcome :: others.1, others.2)

end TagBinding
