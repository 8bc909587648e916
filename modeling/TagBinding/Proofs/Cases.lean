import TagBinding.Proofs.Collection

/-!
# The cases of one binding

What the extraction of one binding does depends on how many tags it finds, on whether its
definition requires one or allows several, and, when it collects, on what its property holds. Each
case has its equation here, so that nothing else has to open the definitions of extraction.
-/
namespace TagBinding

variable {F : Type}

namespace Routine

/-- What holds of the identity, and of two routines in a row if it holds of both, holds of a row of
routines if it holds of each. -/
theorem sequence_of_closed {holds : Routine F → Prop} (still : holds identity)
    (row : ∀ {first second}, holds first → holds second → holds (first.andThen second))
    {routines : List (Routine F)} (each : ∀ routine ∈ routines, holds routine) :
    holds (sequence routines) := by
  induction routines with
  | nil => exact still
  | cons routine rest ih =>
    obtain ⟨head, tail⟩ := List.forall_mem_cons.mp each
    exact row head (ih tail)

end Routine

namespace Binding

/-- The two pipelines of a binding do what one row of all its transforms does. -/
theorem routine_eq_sequence (behaviour : Behaviour F) (binding : Binding F) :
    binding.routine behaviour = .sequence (binding.transforms.map behaviour) := by
  rw [transforms, List.map_append, Routine.sequence_append]
  rfl

section Cases

variable (behaviour : Behaviour F) (binding : Binding F) {document : Document F}

/-- Without tags the default is looked at. -/
theorem extract_of_nil (absent : document.tags.named binding.name = []) :
    binding.extract behaviour document =
      .after (.began binding.name binding.target) (binding.extractDefault behaviour document) := by
  simp only [extract, absent]

/-- A binding that allows several tags collects the values of those that there are. -/
theorem extract_of_multi (present : document.tags.named binding.name ≠ [])
    (multi : binding.definition.multi = true) :
    binding.extract behaviour document =
      .after (.began binding.name binding.target)
        (binding.extractAll behaviour (document.tags.named binding.name) document) := by
  obtain ⟨tag, rest, found⟩ := List.exists_cons_of_ne_nil present
  simp only [extract, found, multi, if_pos]

/-- A binding that allows one tag writes the value of the only one. -/
theorem extract_of_only {tag : Tag F} (only : document.tags.named binding.name = [tag])
    (single : binding.definition.multi = false) :
    binding.extract behaviour document =
      .after (.began binding.name binding.target)
        (binding.extractOnly behaviour tag document) := by
  simp [extract, only, single]

/-- A binding that allows one tag refuses several. -/
theorem extract_of_several (several : 2 ≤ (document.tags.named binding.name).length)
    (single : binding.definition.multi = false) :
    binding.extract behaviour document =
      .after (.began binding.name binding.target)
        (.failed document (.duplicateTag binding.name (document.tags.named binding.name).length
          document.file document.startingLine)) := by
  match found : document.tags.named binding.name with
  | [] => simp [found] at several
  | [tag] => simp [found] at several
  | tag :: second :: rest => simp [extract, found, single]

/-- Collecting starts with the list of the target property, which is stored at once. -/
theorem extractAll_collectsFrom (growable : document.CanCollect binding.target)
    (tags : List (Tag F)) :
    binding.CollectsFrom behaviour document (document.items binding.target) [] tags
      (binding.extractAll behaviour tags document) := by
  have start := collect_collectsFrom behaviour binding document (document.items binding.target)
    [] tags
  simpa only [extractAll, Document.collected_of_canCollect growable, carried, editsOf_nil,
    List.any_nil, Bool.false_eq_true, ↓reduceIte, results_nil, List.append_nil,
    Document.collecting, Document.editAll_nil] using start

/-- Collecting is refused, before any call, when the target property holds something else. -/
theorem extractAll_of_fixed (fixed : ¬ document.CanCollect binding.target)
    (tags : List (Tag F)) :
    ∃ held, document.get? binding.target = some held ∧ held ≠ .null ∧
      (∀ items, held ≠ .list items) ∧
      binding.extractAll behaviour tags document = .failed document (.notAList held) := by
  obtain ⟨held, found, notNull, notList, refused⟩ := Document.collected_of_not_canCollect fixed
  exact ⟨held, found, notNull, notList, by simp only [extractAll, refused]⟩

/-- A value that is given takes the place of what the functions have assigned. -/
theorem extractOnly_of_ok {tag : Tag F} {value : Value F}
    (given : (binding.evaluate behaviour tag document).outcome = .ok value) :
    binding.extractOnly behaviour tag document =
      .after (.evaluated ⟨tag, document, binding.evaluate behaviour tag document⟩)
        (.still ((document.editAll (binding.evaluate behaviour tag document).edits).assign
          binding.target value)) := by
  simp only [extractOnly, given]

/-- A call that fails leaves its edits. -/
theorem extractOnly_of_error {tag : Tag F} {message : String}
    (failed : (binding.evaluate behaviour tag document).outcome = .error message) :
    binding.extractOnly behaviour tag document =
      .after (.evaluated ⟨tag, document, binding.evaluate behaviour tag document⟩)
        (.failed (document.editAll (binding.evaluate behaviour tag document).edits)
          (.functionFailed message)) := by
  simp only [extractOnly, failed]

/-- A required tag is missed, whether or not there is a default function. -/
theorem extractDefault_of_required (required : binding.definition.required = true) :
    binding.extractDefault behaviour document =
      .failed document (.missingTag binding.name document.file document.startingLine) := by
  simp only [extractDefault, required, if_pos]

/-- Without a default function there is nothing to do. -/
theorem extractDefault_of_none (optional : binding.definition.required = false)
    (missing : binding.definition.defaultFn = none) :
    binding.extractDefault behaviour document = .still document := by
  simp [extractDefault, optional, missing]

variable {function : F}

/-- A default function that fails leaves its edits. -/
theorem extractDefault_of_error (optional : binding.definition.required = false)
    (default : binding.definition.defaultFn = some function) {message : String}
    (failed : (behaviour function document none .null).outcome = .error message) :
    binding.extractDefault behaviour document =
      .after (.defaulted document (behaviour function document none .null))
        (.failed (document.editAll (behaviour function document none .null).edits)
          (.functionFailed message)) := by
  simp [extractDefault, optional, default, failed]

/-- A default function without a value leaves its edits, and nothing is written. -/
theorem extractDefault_of_null (optional : binding.definition.required = false)
    (default : binding.definition.defaultFn = some function)
    (given : (behaviour function document none .null).outcome = .ok .null) :
    binding.extractDefault behaviour document =
      .after (.defaulted document (behaviour function document none .null))
        (.still (document.editAll (behaviour function document none .null).edits)) := by
  simp [extractDefault, optional, default, given]

/-- The value of a default function is written to the document as the function leaves it. -/
theorem extractDefault_of_value (optional : binding.definition.required = false)
    (default : binding.definition.defaultFn = some function) {value : Value F}
    (given : (behaviour function document none .null).outcome = .ok value)
    (present : value ≠ .null) :
    binding.extractDefault behaviour document =
      .after (.defaulted document (behaviour function document none .null))
        (binding.writeDefault value
          (document.editAll (behaviour function document none .null).edits)) := by
  simp only [extractDefault, optional, default, given]
  cases value with
  | null => exact absurd rfl present
  | _ => rfl

/-- A default value is written as it is when one tag is allowed. -/
theorem writeDefault_of_single (single : binding.definition.multi = false) (value : Value F) :
    binding.writeDefault value document = .still (document.assign binding.target value) := by
  simp [writeDefault, single]

/-- A default value is one more item when several tags are allowed. -/
theorem writeDefault_of_growable (multi : binding.definition.multi = true)
    (growable : document.CanCollect binding.target) (value : Value F) :
    binding.writeDefault value document =
      .still (document.assign binding.target
        (.list (document.items binding.target ++ [value]))) := by
  simp only [writeDefault, multi, if_pos, Document.collected_of_canCollect growable]

/-- A default value is refused when several tags are allowed and the target property holds
something that cannot grow. -/
theorem writeDefault_of_fixed (multi : binding.definition.multi = true)
    (fixed : ¬ document.CanCollect binding.target) (value : Value F) :
    ∃ held, document.get? binding.target = some held ∧ held ≠ .null ∧
      (∀ items, held ≠ .list items) ∧
      binding.writeDefault value document = .failed document (.notAList held) := by
  obtain ⟨held, found, notNull, notList, refused⟩ := Document.collected_of_not_canCollect fixed
  exact ⟨held, found, notNull, notList, by simp only [writeDefault, multi, if_pos, refused]⟩

/-- Writing a default value asks for the value of no tag. -/
@[simp] theorem calls_writeDefault (value : Value F) :
    (binding.writeDefault value document).calls = [] := by
  unfold writeDefault
  split
  · split <;> rfl
  · rfl

/-- Doing without a tag asks for the value of none. -/
@[simp] theorem calls_extractDefault : (binding.extractDefault behaviour document).calls = [] := by
  unfold extractDefault
  split
  · rfl
  · split
    · rfl
    · dsimp only
      rw [Pass.calls_after_defaulted]
      split <;> simp

/-- A binding asks for the values of the tags that it finds when it is taken up, in order, up to the
one that stops it, and for those of no other tags. -/
theorem calls_extract :
    (binding.extract behaviour document).calls.map Call.tag <+: document.tags.named binding.name ∧
      ((binding.extract behaviour document).fault? = none →
        (binding.extract behaviour document).calls.map Call.tag =
          document.tags.named binding.name) := by
  by_cases absent : document.tags.named binding.name = []
  · rw [extract_of_nil behaviour binding absent, Pass.calls_after_began, calls_extractDefault,
      absent]
    exact ⟨List.prefix_refl _, fun _ => rfl⟩
  cases allowed : binding.definition.multi with
  | true =>
    rw [extract_of_multi behaviour binding absent allowed, Pass.calls_after_began,
      Pass.fault?_after]
    by_cases growable : document.CanCollect binding.target
    · rcases (extractAll_collectsFrom behaviour binding growable
        (document.tags.named binding.name)).ending with
        ⟨-, all, -⟩ | ⟨done, call, message, rest, made, found, -, -, failed⟩
      · rw [all]
        exact ⟨List.prefix_refl _, fun _ => rfl⟩
      · rw [made, failed]
        refine ⟨⟨rest, ?_⟩, nofun⟩
        rw [found, List.map_append, List.append_assoc]
        rfl
    · obtain ⟨held, -, -, -, refused⟩ := extractAll_of_fixed behaviour binding growable
        (document.tags.named binding.name)
      rw [refused]
      exact ⟨List.nil_prefix, nofun⟩
  | false =>
    rcases several : document.tags.named binding.name with _ | ⟨tag, _ | ⟨second, rest⟩⟩
    · exact absurd several absent
    · rw [extract_of_only behaviour binding several allowed, Pass.calls_after_began]
      have asked : (binding.extractOnly behaviour tag document).calls.map Call.tag = [tag] := by
        simp only [extractOnly, Pass.calls_after_evaluated]
        split <;> rfl
      rw [asked]
      exact ⟨List.prefix_refl _, fun _ => rfl⟩
    · rw [extract_of_several behaviour binding (by simp [several]) allowed, Pass.calls_after_began]
      exact ⟨List.nil_prefix, nofun⟩

/-- Writing a default value reports nothing. -/
@[simp] theorem messages_writeDefault (value : Value F) :
    (binding.writeDefault value document).messages = [] := by
  unfold writeDefault
  split
  · split <;> rfl
  · rfl

/-- Doing without a tag reports nothing. -/
@[simp] theorem messages_extractDefault :
    (binding.extractDefault behaviour document).messages = [] := by
  unfold extractDefault
  split
  · rfl
  · split
    · rfl
    · dsimp only
      rw [Pass.messages_after_defaulted]
      split <;> simp

/-- Collecting values reports nothing. -/
@[simp] theorem messages_extractAll (tags : List (Tag F)) :
    (binding.extractAll behaviour tags document).messages = [] := by
  by_cases growable : document.CanCollect binding.target
  · rw [Pass.messages, (extractAll_collectsFrom behaviour binding growable tags).quiet]
    simp [Event.message?]
  · obtain ⟨held, -, -, -, refused⟩ := extractAll_of_fixed behaviour binding growable tags
    rw [refused, Pass.messages_failed]

/-- Writing the value of an only tag reports nothing. -/
@[simp] theorem messages_extractOnly (tag : Tag F) :
    (binding.extractOnly behaviour tag document).messages = [] := by
  unfold extractOnly
  dsimp only
  rw [Pass.messages_after_evaluated]
  split <;> simp

/-- The extraction of a binding reports nothing by itself. -/
@[simp] theorem messages_extract : (binding.extract behaviour document).messages = [] := by
  unfold extract
  split
  · simp
  · split
    · simp
    · split <;> simp

end Cases

end Binding

end TagBinding
