import TagBinding.Proofs.Live.Cases
import TagBinding.Proofs.SharedTransforms

/-!
# Shared transforms in a scene

What a binding makes of a tag in a scene depends on the row of all its transforms, and not on which
of them are its own and which are shared (`evaluate_eq_sequence`). So the definitions of a set-up may
declare the shared transforms themselves, as their last ones: whatever the functions change, remember
or share, and whoever receives the reports, no extraction comes to anything else
(`Session.extraction_of_folded`).
-/
namespace TagBinding.Live

variable {F M S : Type}

namespace Routine

/-- Rows of live routines may be split anywhere. -/
theorem andThen_assoc (first second third : Routine F M) :
    (first.andThen second).andThen third = first.andThen (second.andThen third) := by
  funext scene tag value
  rcases one : first scene tag value with ⟨memory, edits, outcome⟩
  cases outcome with
  | error message => simp only [andThen, one]
  | ok middle =>
    rcases two : second (scene.after ⟨memory, edits, .ok middle⟩) tag middle with
      ⟨later, more, next⟩
    cases next with
    | error message => simp only [andThen, one, two]
    | ok last =>
      have both : scene.after ⟨later, edits ++ more, .ok last⟩ = _ :=
        scene.after_append ⟨memory, edits, .ok middle⟩ ⟨later, more, .ok last⟩
      simp only [andThen, one, two, both, List.append_assoc]

/-- The row of two lists of live routines is the row of the first before the row of the second. -/
theorem sequence_append (first second : List (Routine F M)) :
    sequence (first ++ second) = (sequence first).andThen (sequence second) := by
  induction first with
  | nil => rfl
  | cons routine rest ih =>
    show routine.andThen (sequence (rest ++ second)) = _
    rw [ih, ← andThen_assoc]
    rfl

/-- The two pipelines of a binding do what one row of all its transforms does. -/
theorem ofBinding_eq_sequence (behaviour : Behaviour F M) (binding : Binding F) :
    ofBinding behaviour binding = sequence (binding.transforms.map behaviour) := by
  rw [Binding.transforms, List.map_append, sequence_append]
  rfl

end Routine

/-- The value of a tag is what one row of all transforms makes of its part. -/
theorem evaluate_eq_sequence (behaviour : Behaviour F M) (binding : Binding F) (tag : Tag F)
    (scene : Scene F M) :
    evaluate behaviour binding tag scene =
      Routine.sequence (binding.transforms.map behaviour) scene (some tag)
        (tag.part scene.heap binding.definition.tagProperty) := by
  rw [evaluate, Routine.ofBinding_eq_sequence]

/-- That two bindings are the same but for which of their transforms are shared. -/
structure Binding.Regrouped (first second : Binding F) : Prop where
  /-- They have the same name. -/
  name : first.name = second.name
  /-- They have the same target. -/
  target : first.target = second.target
  /-- They ask for the same part of a tag. -/
  tagProperty : first.definition.tagProperty = second.definition.tagProperty
  /-- Both require a tag, or neither does. -/
  required : first.definition.required = second.definition.required
  /-- Both allow several tags, or neither does. -/
  multi : first.definition.multi = second.definition.multi
  /-- They have the same default function. -/
  defaultFn : first.definition.defaultFn = second.definition.defaultFn
  /-- They have the same transforms in the same order. -/
  transforms : first.transforms = second.transforms

namespace Binding.Regrouped

variable {behaviour : Behaviour F M} {first second : Binding F} (same : Regrouped first second)

include same

/-- They evaluate every tag alike. -/
theorem evaluate (tag : Tag F) (scene : Scene F M) :
    evaluate behaviour first tag scene = evaluate behaviour second tag scene := by
  rw [evaluate_eq_sequence, evaluate_eq_sequence, same.transforms, same.tagProperty]

/-- They collect values alike. -/
theorem collect (address : Address) (tags : List (Tag F)) (scene : Scene F M) :
    collect behaviour first address tags scene = collect behaviour second address tags scene := by
  induction tags generalizing scene with
  | nil => rfl
  | cons tag rest ih => simp only [Live.collect, same.evaluate, ih]

/-- They are extracted alike. -/
theorem extract (scene : Scene F M) :
    extract behaviour first scene = extract behaviour second scene := by
  have all : ∀ tags, extractAll behaviour first tags scene =
      extractAll behaviour second tags scene := by
    intro tags
    simp only [extractAll, same.target, same.collect]
  have only : ∀ tag, extractOnly behaviour first tag scene =
      extractOnly behaviour second tag scene := by
    intro tag
    simp only [extractOnly, same.target, same.evaluate]
  have written : ∀ value (filled : Scene F M), writeDefault first value filled =
      writeDefault second value filled := by
    intro value filled
    simp only [writeDefault, same.multi, same.target]
  have default : extractDefault behaviour first scene = extractDefault behaviour second scene := by
    simp only [extractDefault, same.required, same.name, same.defaultFn, written]
  simp only [Live.extract, same.name, same.target, same.multi, all, only, default]

end Binding.Regrouped

/-- Shared transforms may be folded into a definition, and only regroups the transforms. -/
theorem Binding.regrouped_folding {shared : TagBinding.Value F} {definition : Definition F}
    (declares : shared.DeclaresTransforms) (own : definition.transforms.DeclaresTransforms) :
    Regrouped (.ready shared definition) (.ready .null (definition.folding shared)) where
  name := rfl
  target := rfl
  tagProperty := rfl
  required := rfl
  multi := rfl
  defaultFn := rfl
  transforms := by
    rw [Binding.transforms_ready declares own, Binding.transforms_ready (.vacant rfl) (.list _),
      Definition.folding, TagBinding.Value.stages, filterMap_function?_map]
    exact (List.append_nil _).symm

section Regrouped

variable (behaviour : Behaviour F M) {ι : Type} {items : List ι} {one other : ι → Binding F}
  (same : ∀ item ∈ items, Binding.Regrouped (one item) (other item))

include same

/-- A pass does not tell such bindings apart, and neither does a receiver of its reports. -/
theorem attend_of_regrouped (receiver : Receiver F M S) (kept : S) (scene : Scene F M) :
    attend behaviour receiver (items.map one) kept scene =
      attend behaviour receiver (items.map other) kept scene := by
  induction items generalizing kept scene with
  | nil => rfl
  | cons item rest ih =>
    obtain ⟨head, tail⟩ := List.forall_mem_cons.mp same
    have others : attend behaviour receiver (rest.map one) =
        attend behaviour receiver (rest.map other) :=
      funext fun kept => funext fun scene => ih tail kept scene
    simp only [List.map_cons, attend, head.extract, others]

end Regrouped

/-- Shared transforms may be folded into the definitions, whatever the functions do. The definitions
that declare all functions themselves are extracted alike in every scene and with every receiver of
reports, and an extractor of them does the same in every session, on every thread and with every
sink, to one document or to several ones in order. -/
theorem Session.extraction_of_folded (behaviour : Behaviour F M) {definitions : List (Definition F)}
    {shared : TagBinding.Value F} (declares : shared.DeclaresTransforms)
    (each : ∀ definition ∈ definitions, definition.transforms.DeclaresTransforms) :
    let bindings := definitions.map (Binding.ready shared)
    let folded := definitions.map fun definition =>
      Binding.ready .null (definition.folding shared)
    (∀ {S : Type} (receiver : Receiver F M S),
      attend behaviour receiver bindings = attend behaviour receiver folded) ∧
    (∀ (session : Session F M) thread sink index,
      session.extractWith behaviour thread ⟨bindings, sink⟩ index =
        session.extractWith behaviour thread ⟨folded, sink⟩ index) ∧
    ∀ (session : Session F M) thread sink indices,
      session.extractEachWith behaviour thread ⟨bindings, sink⟩ indices =
        session.extractEachWith behaviour thread ⟨folded, sink⟩ indices := by
  intro bindings folded
  have same : ∀ definition ∈ definitions, Binding.Regrouped (.ready shared definition)
      (.ready .null (definition.folding shared)) :=
    fun definition inside => Binding.regrouped_folding declares (each definition inside)
  have attended : ∀ {S : Type} (receiver : Receiver F M S),
      attend behaviour receiver bindings = attend behaviour receiver folded :=
    fun receiver => funext fun kept => funext fun scene =>
      attend_of_regrouped behaviour same receiver kept scene
  have single : ∀ (session : Session F M) thread sink index,
      session.extractWith behaviour thread ⟨bindings, sink⟩ index =
        session.extractWith behaviour thread ⟨folded, sink⟩ index := by
    intro session thread sink index
    simp only [extractWith, attended]
  refine ⟨attended, single, fun session thread sink indices => ?_⟩
  induction indices generalizing session with
  | nil => rfl
  | cons index rest ih => simp only [extractEachWith, single, ih]

end TagBinding.Live
