import TagBinding.Definition.Problem

/-!
# Readings that collect every problem

A reading of several parts does not stop at the first part that is wrong. It gives a value when
every part is read, and otherwise the problems of all the parts in their order.
-/
namespace TagBinding

/-- The outcome of reading something: its value, or all its problems in order. -/
inductive Reading (α : Type) where
  /-- Nothing is wrong. -/
  | accepted (value : α)
  /-- Something is wrong. -/
  | refused (problems : List Problem)

namespace Reading

variable {α β : Type}

/-- A refusal with a single problem. -/
def refuse (location : Location) (complaint : Complaint) : Reading α :=
  .refused [⟨location, complaint⟩]

/-- Change the value of a reading. -/
def map (change : α → β) : Reading α → Reading β
  | .accepted value => .accepted (change value)
  | .refused problems => .refused problems

/-- Read one more part and give its value to the function read so far. -/
def also (first : Reading (α → β)) (second : Reading α) : Reading β :=
  match first, second with
  | .accepted change, .accepted value => .accepted (change value)
  | .accepted _, .refused problems => .refused problems
  | .refused problems, .accepted _ => .refused problems
  | .refused problems, .refused more => .refused (problems ++ more)

/-- The problems of a reading. -/
def problems : Reading α → List Problem
  | .accepted _ => []
  | .refused problems => problems

/-- Whether a reading gives a value. -/
def isAccepted : Reading α → Bool
  | .accepted _ => true
  | .refused _ => false

/-- Refuse a reading for further problems, if there are any. -/
def noting (reading : Reading α) (more : List Problem) : Reading α :=
  match reading with
  | .accepted value => if more.isEmpty then .accepted value else .refused more
  | .refused problems => .refused (problems ++ more)

/-- Read every item of a list, which counts its items from a first index. -/
def ofItems {ι : Type} (read : Nat → ι → Reading α) : Nat → List ι → Reading (List α)
  | _, [] => .accepted []
  | index, item :: rest => ((read index item).map List.cons).also (ofItems read (index + 1) rest)

/-- A changed reading has the same problems. -/
@[simp] theorem problems_map (change : α → β) (reading : Reading α) :
    (reading.map change).problems = reading.problems := by
  cases reading <;> rfl

/-- The problems of two parts stand in the order of the parts. -/
@[simp] theorem problems_also (first : Reading (α → β)) (second : Reading α) :
    (first.also second).problems = first.problems ++ second.problems := by
  cases first <;> cases second <;> simp [also, problems]

/-- Two parts are accepted together exactly when each is. -/
@[simp] theorem isAccepted_also (first : Reading (α → β)) (second : Reading α) :
    (first.also second).isAccepted = (first.isAccepted && second.isAccepted) := by
  cases first <;> cases second <;> rfl

/-- A changed reading is accepted when it was. -/
@[simp] theorem isAccepted_map (change : α → β) (reading : Reading α) :
    (reading.map change).isAccepted = reading.isAccepted := by
  cases reading <;> rfl

/-- Further problems come last. -/
@[simp] theorem problems_noting (reading : Reading α) (more : List Problem) :
    (reading.noting more).problems = reading.problems ++ more := by
  cases reading with
  | accepted value => cases more <;> rfl
  | refused found => rfl

end Reading

end TagBinding
