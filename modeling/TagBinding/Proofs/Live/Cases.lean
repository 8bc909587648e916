import TagBinding.Proofs.Live.Collection

/-!
# The cases of one binding in a scene

What the live extraction of one binding does depends on how many tags it finds, on whether its
definition requires one or allows several, and, when it collects, on what its property holds. Each
case has its equation here, so that nothing else has to open the definitions of live extraction.
-/
namespace TagBinding.Live

variable {F M : Type}

/-- Two replies in a row leave what one reply of the edits of both leaves. -/
theorem Scene.after_append (scene : Scene F M) (reply next : Reply F M) :
    scene.after { next with edits := reply.edits ++ next.edits } =
      (scene.after reply).after next := by
  simp only [Scene.after, Scene.editAll_append, Scene.editAll_remember]

namespace Routine

/-- What holds of the identity, and of two routines in a row if it holds of both, holds of the
routine of a binding if it holds of its transforms. -/
theorem ofBinding_of_closed {holds : Routine F M → Prop} (still : holds identity)
    (row : ∀ {first second}, holds first → holds second → holds (first.andThen second))
    {behaviour : Behaviour F M} {binding : Binding F}
    (each : ∀ function ∈ binding.transforms, holds (behaviour function)) :
    holds (ofBinding behaviour binding) := by
  have sequence : ∀ stages : List F, (∀ function ∈ stages, holds (behaviour function)) →
      holds (sequence (stages.map behaviour)) := by
    intro stages all
    induction stages with
    | nil => exact still
    | cons function rest ih =>
      obtain ⟨head, tail⟩ := List.forall_mem_cons.mp all
      exact row head (ih tail)
  obtain ⟨own, shared⟩ := List.forall_mem_append.mp each
  exact row (sequence binding.own.stages own) (sequence binding.shared.stages shared)

/-- That a routine always gives a value, whatever it edits. -/
def NeverFails (routine : Routine F M) : Prop :=
  ∀ scene tag value, ∃ result, (routine scene tag value).outcome = .ok result

/-- That a routine gives no list other items; it may make lists, assign properties and attach
tags. -/
def Keeps (routine : Routine F M) : Prop :=
  ∀ scene tag value, ∀ edit ∈ (routine scene tag value).edits, edit.rewrites = false

/-- Of two routines in a row none fails if neither of them does. -/
theorem NeverFails.andThen {first second : Routine F M} (former : first.NeverFails)
    (latter : second.NeverFails) : (first.andThen second).NeverFails := by
  intro scene tag value
  obtain ⟨middle, given⟩ := former scene tag value
  obtain ⟨last, done⟩ := latter (scene.after (first scene tag value)) tag middle
  exact ⟨last, by simp only [Routine.andThen, given, done]⟩

/-- That a routine makes edits of some kind only. -/
def Only (allowed : Edit F → Prop) (routine : Routine F M) : Prop :=
  ∀ scene tag value, ∀ edit ∈ (routine scene tag value).edits, allowed edit

/-- Two routines in a row make edits of some kind only if both of them do. -/
theorem Only.andThen {allowed : Edit F → Prop} {first second : Routine F M}
    (former : first.Only allowed) (latter : second.Only allowed) :
    (first.andThen second).Only allowed := by
  intro scene tag value edit made
  cases given : (first scene tag value).outcome with
  | error message =>
    simp only [Routine.andThen, given] at made
    exact former scene tag value edit made
  | ok middle =>
    simp only [Routine.andThen, given] at made
    rcases List.mem_append.mp made with early | late
    · exact former scene tag value edit early
    · exact latter _ tag middle edit late

end Routine

section Values

variable {behaviour : Behaviour F M} {binding : Binding F}

/-- A tag has a value whenever no transform fails. -/
theorem exists_value (safe : ∀ function ∈ binding.transforms, (behaviour function).NeverFails)
    (tag : Tag F) (scene : Scene F M) :
    ∃ value, (evaluate behaviour binding tag scene).outcome = .ok value :=
  Routine.ofBinding_of_closed (fun _ _ value => ⟨value, rfl⟩)
    Routine.NeverFails.andThen safe scene (some tag) _

/-- The evaluation of a tag makes edits of some kind only when all transforms do. -/
theorem only_evaluate {allowed : Edit F → Prop}
    (each : ∀ function ∈ binding.transforms, (behaviour function).Only allowed)
    (tag : Tag F) (scene : Scene F M) :
    ∀ edit ∈ (evaluate behaviour binding tag scene).edits, allowed edit :=
  Routine.ofBinding_of_closed (fun _ _ _ edit made => by cases made)
    Routine.Only.andThen each scene (some tag) _

/-- The evaluation of a tag gives no list other items when no transform does. -/
theorem keeps_evaluate (keeping : ∀ function ∈ binding.transforms, (behaviour function).Keeps)
    (tag : Tag F) (scene : Scene F M) :
    ∀ edit ∈ (evaluate behaviour binding tag scene).edits, edit.rewrites = false :=
  only_evaluate keeping tag scene

end Values

namespace Scene

/-- Whether values can be collected in a property: it is absent, or holds no value or a list. -/
def CanCollect (scene : Scene F M) (key : String) : Prop :=
  ∀ held, scene.document.get? key = some held → held = .null ∨ ∃ address, held = .list address

/-- A scene in which a new list has been made for a property. -/
def opened (scene : Scene F M) (key : String) : Scene F M :=
  { scene with
    heap := scene.heap.make scene.document.home []
    document := scene.document.assign key (.list (scene.heap.next scene.document.home)) }

/-- That collecting in a property means putting values in a list, from a scene on. -/
inductive CollectsIn (scene : Scene F M) (key : String) : Address → Scene F M → Prop where
  /-- The property holds the list. -/
  | found {address : Address} (held : scene.document.get? key = some (.list address)) :
      CollectsIn scene key address scene
  /-- The property holds nothing, and the list is made for it. -/
  | made (absent : scene.document.get? key = none ∨ scene.document.get? key = some .null) :
      CollectsIn scene key (scene.heap.next scene.document.home) (scene.opened key)

variable {scene : Scene F M} {key : String}

/-- A property that holds nothing gets a new list. -/
theorem collected_of_absent (absent : scene.document.get? key = none ∨
    scene.document.get? key = some .null) :
    (scene.collected key : Except (Fault F) _) =
      .ok (scene.heap.next scene.document.home, scene.opened key) := by
  rcases absent with absent | absent <;>
    · simp only [collected, absent]
      rfl

/-- A property that holds a list has it collected. -/
theorem collected_of_list {address : Address}
    (held : scene.document.get? key = some (.list address)) :
    (scene.collected key : Except (Fault F) _) = .ok (address, scene) := by
  simp only [collected, held]

/-- A property that holds something else is refused. -/
theorem collected_of_fixed {held : Value F} (found : scene.document.get? key = some held)
    (notNull : held ≠ .null) (notList : ∀ address, held ≠ .list address) :
    scene.collected key = .error (.notAList (scene.heap.read held)) := by
  unfold collected
  rw [found]
  cases held with
  | null => exact absurd rfl notNull
  | list address => exact absurd rfl (notList address)
  | _ => rfl

/-- A property in which values can be collected has a list for them, or gets one. -/
theorem collected_of_canCollect (growable : scene.CanCollect key) :
    ∃ address start, (scene.collected key : Except (Fault F) _) = .ok (address, start) ∧
      scene.CollectsIn key address start := by
  cases found : scene.document.get? key with
  | none => exact ⟨_, _, collected_of_absent (.inl found), .made (.inl found)⟩
  | some held =>
    rcases growable held found with rfl | ⟨address, rfl⟩
    · exact ⟨_, _, collected_of_absent (.inr found), .made (.inr found)⟩
    · exact ⟨address, scene, collected_of_list found, .found found⟩

/-- A property in which values cannot be collected holds something else, which is complained
about. -/
theorem collected_of_not_canCollect (fixed : ¬ scene.CanCollect key) :
    ∃ held, scene.document.get? key = some held ∧ held ≠ .null ∧
      (∀ address, held ≠ .list address) ∧
      scene.collected key = .error (.notAList (scene.heap.read held)) := by
  simp only [CanCollect, Classical.not_forall, not_or, not_exists] at fixed
  obtain ⟨held, found, notNull, notList⟩ := fixed
  exact ⟨held, found, notNull, notList, collected_of_fixed found notNull notList⟩

/-- The property in which values are collected holds their list from the start. -/
theorem CollectsIn.get?_start {address : Address} {start : Scene F M}
    (collects : scene.CollectsIn key address start) :
    start.document.get? key = some (.list address) := by
  cases collects with
  | found held => exact held
  | made absent =>
    rw [opened, Document.get?_assign, if_pos rfl]

/-- Before values are collected, all lists are there with what they held. -/
theorem CollectsIn.extends_start {address : Address} {start : Scene F M}
    (collects : scene.CollectsIn key address start) : scene.heap.Extends start.heap := by
  cases collects with
  | found held => exact .refl scene.heap
  | made absent => exact scene.heap.extends_make scene.document.home []

/-- The list in which values are collected is there, if the one that the property holds is. -/
theorem CollectsIn.knows_start {address : Address} {start : Scene F M}
    (collects : scene.CollectsIn key address start)
    (known : ∀ held, scene.document.get? key = some (.list held) → scene.heap.Knows held) :
    start.heap.Knows address := by
  cases collects with
  | found held => exact known address held
  | made absent =>
    exact (scene.heap.knows_make_iff scene.document.home [] _).mpr (.inr rfl)

end Scene

section Cases

variable (behaviour : Behaviour F M) (binding : Binding F) {scene : Scene F M}

/-- Without tags the default is looked at. -/
theorem extract_of_nil (absent : scene.document.named binding.name = []) :
    extract behaviour binding scene =
      .after (.began binding.name binding.target) (extractDefault behaviour binding scene) := by
  simp only [extract, absent]

/-- A binding that allows several tags collects the values of those that there are. -/
theorem extract_of_multi (present : scene.document.named binding.name ≠ [])
    (multi : binding.definition.multi = true) :
    extract behaviour binding scene =
      .after (.began binding.name binding.target)
        (extractAll behaviour binding (scene.document.named binding.name) scene) := by
  obtain ⟨tag, rest, found⟩ := List.exists_cons_of_ne_nil present
  simp only [extract, found, multi, if_pos]

/-- A binding that allows one tag writes the value of the only one. -/
theorem extract_of_only {tag : Tag F} (only : scene.document.named binding.name = [tag])
    (single : binding.definition.multi = false) :
    extract behaviour binding scene =
      .after (.began binding.name binding.target) (extractOnly behaviour binding tag scene) := by
  simp [extract, only, single]

/-- A binding that allows one tag refuses several. -/
theorem extract_of_several (several : 2 ≤ (scene.document.named binding.name).length)
    (single : binding.definition.multi = false) :
    extract behaviour binding scene =
      .after (.began binding.name binding.target)
        (.failed scene (.duplicateTag binding.name (scene.document.named binding.name).length
          scene.document.file scene.document.startingLine)) := by
  match found : scene.document.named binding.name with
  | [] => simp [found] at several
  | [tag] => simp [found] at several
  | tag :: second :: rest => simp [extract, found, single]

/-- Collecting puts the values of the tags in the list of the target property. -/
theorem extractAll_collectsFrom (growable : scene.CanCollect binding.target)
    (tags : List (Tag F)) :
    ∃ address start, scene.CollectsIn binding.target address start ∧
      CollectsFrom behaviour binding start address tags
        (extractAll behaviour binding tags scene) := by
  obtain ⟨address, start, opened, collects⟩ := Scene.collected_of_canCollect growable
  refine ⟨address, start, collects, ?_⟩
  simp only [extractAll, opened]
  exact collect_collectsFrom behaviour binding address start tags

/-- Collecting is refused, before any call, when the target property holds something else. -/
theorem extractAll_of_fixed (fixed : ¬ scene.CanCollect binding.target) (tags : List (Tag F)) :
    ∃ held, scene.document.get? binding.target = some held ∧ held ≠ .null ∧
      (∀ address, held ≠ .list address) ∧
      extractAll behaviour binding tags scene =
        .failed scene (.notAList (scene.heap.read held)) := by
  obtain ⟨held, found, notNull, notList, refused⟩ := Scene.collected_of_not_canCollect fixed
  exact ⟨held, found, notNull, notList, by simp only [extractAll, refused]⟩

/-- A value that is given takes the place of what the functions have assigned. -/
theorem extractOnly_of_ok {tag : Tag F} {value : Value F}
    (given : (evaluate behaviour binding tag scene).outcome = .ok value) :
    extractOnly behaviour binding tag scene =
      .after (.evaluated ⟨tag, scene, evaluate behaviour binding tag scene⟩)
        (.still ((scene.after (evaluate behaviour binding tag scene)).assign binding.target
          value)) := by
  simp only [extractOnly, given]

/-- A function that fails leaves its edits, and the target as they leave it. -/
theorem extractOnly_of_error {tag : Tag F} {message : String}
    (failed : (evaluate behaviour binding tag scene).outcome = .error message) :
    extractOnly behaviour binding tag scene =
      .after (.evaluated ⟨tag, scene, evaluate behaviour binding tag scene⟩)
        (.failed (scene.after (evaluate behaviour binding tag scene))
          (.functionFailed message)) := by
  simp only [extractOnly, failed]

/-- A required tag is missed, whether or not there is a default function. -/
theorem extractDefault_of_required (required : binding.definition.required = true) :
    extractDefault behaviour binding scene =
      .failed scene (.missingTag binding.name scene.document.file scene.document.startingLine) := by
  simp only [extractDefault, required, if_pos]

/-- Without a default function there is nothing to do. -/
theorem extractDefault_of_none (optional : binding.definition.required = false)
    (missing : binding.definition.defaultFn = none) :
    extractDefault behaviour binding scene = .still scene := by
  simp [extractDefault, optional, missing]

variable {function : F}

/-- A default function that fails leaves its edits. -/
theorem extractDefault_of_error (optional : binding.definition.required = false)
    (default : binding.definition.defaultFn = some function) {message : String}
    (failed : (behaviour function scene none .null).outcome = .error message) :
    extractDefault behaviour binding scene =
      .after (.defaulted scene (behaviour function scene none .null))
        (.failed (scene.after (behaviour function scene none .null))
          (.functionFailed message)) := by
  simp [extractDefault, optional, default, failed]

/-- A default function without a value leaves its edits, and nothing is written. -/
theorem extractDefault_of_null (optional : binding.definition.required = false)
    (default : binding.definition.defaultFn = some function)
    (given : (behaviour function scene none .null).outcome = .ok .null) :
    extractDefault behaviour binding scene =
      .after (.defaulted scene (behaviour function scene none .null))
        (.still (scene.after (behaviour function scene none .null))) := by
  simp [extractDefault, optional, default, given]

/-- The value of a default function is written to the scene as the function leaves it. -/
theorem extractDefault_of_value (optional : binding.definition.required = false)
    (default : binding.definition.defaultFn = some function) {value : Value F}
    (given : (behaviour function scene none .null).outcome = .ok value)
    (present : value ≠ .null) :
    extractDefault behaviour binding scene =
      .after (.defaulted scene (behaviour function scene none .null))
        (writeDefault binding value (scene.after (behaviour function scene none .null))) := by
  simp only [extractDefault, optional, default, given]
  cases value with
  | null => exact absurd rfl present
  | _ => rfl

/-- A default value is written as it is when one tag is allowed. -/
theorem writeDefault_of_single (single : binding.definition.multi = false) (value : Value F) :
    writeDefault binding value scene = .still (scene.assign binding.target value) := by
  simp [writeDefault, single]

/-- A default value is put at the end of the list of the target when several tags are allowed. -/
theorem writeDefault_of_growable (multi : binding.definition.multi = true)
    (growable : scene.CanCollect binding.target) (value : Value F) :
    ∃ address start, scene.CollectsIn binding.target address start ∧
      writeDefault binding value scene = .still (start.push address value) := by
  obtain ⟨address, start, opened, collects⟩ := Scene.collected_of_canCollect growable
  refine ⟨address, start, collects, ?_⟩
  simp only [writeDefault, multi, if_pos, opened]

/-- A default value is refused when several tags are allowed and the target property holds
something that cannot grow. -/
theorem writeDefault_of_fixed (multi : binding.definition.multi = true)
    (fixed : ¬ scene.CanCollect binding.target) (value : Value F) :
    ∃ held, scene.document.get? binding.target = some held ∧ held ≠ .null ∧
      (∀ address, held ≠ .list address) ∧
      writeDefault binding value scene = .failed scene (.notAList (scene.heap.read held)) := by
  obtain ⟨held, found, notNull, notList, refused⟩ := Scene.collected_of_not_canCollect fixed
  exact ⟨held, found, notNull, notList, by simp only [writeDefault, multi, if_pos, refused]⟩

/-- Writing a default value reports nothing. -/
@[simp] theorem messages_writeDefault (value : Value F) :
    (writeDefault binding value scene).messages = [] := by
  unfold writeDefault
  split
  · split <;> rfl
  · rfl

/-- Doing without a tag reports nothing. -/
@[simp] theorem messages_extractDefault :
    (extractDefault behaviour binding scene).messages = [] := by
  unfold extractDefault
  split
  · rfl
  · split
    · rfl
    · dsimp only
      rw [Pass.messages_after_defaulted]
      split <;> simp

/-- Collecting values reports nothing. -/
@[simp] theorem messages_extractAll (tags : List (Tag F)) :
    (extractAll behaviour binding tags scene).messages = [] := by
  by_cases growable : scene.CanCollect binding.target
  · obtain ⟨address, start, -, loop⟩ := extractAll_collectsFrom behaviour binding growable tags
    rw [Pass.messages, loop.quiet]
    simp [Event.message?]
  · obtain ⟨held, -, -, -, refused⟩ := extractAll_of_fixed behaviour binding growable tags
    rw [refused, Pass.messages_failed]

/-- Writing the value of an only tag reports nothing. -/
@[simp] theorem messages_extractOnly (tag : Tag F) :
    (extractOnly behaviour binding tag scene).messages = [] := by
  unfold extractOnly
  dsimp only
  rw [Pass.messages_after_evaluated]
  split <;> simp

/-- The extraction of a binding reports nothing by itself. -/
@[simp] theorem messages_extract : (extract behaviour binding scene).messages = [] := by
  unfold extract
  rw [Pass.messages_after_began]
  split
  · simp
  · split
    · simp
    · split <;> simp

end Cases

/-- The messages of a pass over one more binding: none of its own, the report after it, and those of
the pass over the other ones. -/
theorem messages_extractPass_cons (behaviour : Behaviour F M) (binding : Binding F)
    (rest : List (Binding F)) (scene : Scene F M)
    (done : (extract behaviour binding scene).fault? = none) :
    (extractPass behaviour (binding :: rest) scene).messages =
      (extract behaviour binding scene).scene.report.messages ++
        (extractPass behaviour rest (extract behaviour binding scene).scene).messages := by
  have quiet : (extract behaviour binding scene).messages = [] :=
    messages_extract behaviour binding
  rw [Pass.messages] at quiet
  rw [extractPass_cons]
  simp only [done, Pass.messages, List.filterMap_append, quiet, List.nil_append]

end TagBinding.Live
