import TagBinding.Proofs.Live.Cases
import TagBinding.Proofs.Live.Frame

/-!
# Relations that extraction keeps

Much of what can be said of a pass is that two runs of it stay related: runs that differ in what no
function looks at, or runs beside which other things happen. All of this is proved here once. A
relation between scenes is kept by a binding (`Kept`) when its scenes look the same to the binding,
and when it is kept by what the binding does to them: by its functions, by the list that it makes,
by the values that it puts in that list, and by the assignment of its target. Then it is kept by the
extraction of the binding, and by a pass over such bindings (`extractPass_related`), and both runs
end alike. What a single run keeps is the case of a relation that only equal scenes have: if every
step of a binding leads from a scene to a related one (`Respects`), so does a pass
(`related_extractPass`).
-/
namespace TagBinding.Live

variable {F M S : Type}

/-- That a relation between scenes is kept by what a binding does. The values that are handed on are
within a set of lists, to which the list that is collected belongs as well. -/
structure Kept (behaviour : Behaviour F M) (kept : Address → Prop)
    (related : Scene F M → Scene F M → Prop) (binding : Binding F) : Prop where
  /-- The same tags are found. -/
  named : ∀ {first second}, related first second →
    second.document.named binding.name = first.document.named binding.name
  /-- The tags that are found are within the set. -/
  inside : ∀ {first second}, related first second →
    ∀ tag ∈ first.document.named binding.name, tag.Within kept
  /-- The place in the source is the same. -/
  place : ∀ {first second}, related first second →
    second.document.file = first.document.file ∧
      second.document.startingLine = first.document.startingLine
  /-- The target holds the same. -/
  target : ∀ {first second}, related first second →
    second.document.get? binding.target = first.document.get? binding.target
  /-- What the target holds is read alike, and if it is a list, this belongs to the set. -/
  held : ∀ {first second}, related first second → ∀ value,
    first.document.get? binding.target = some value →
      second.heap.read value = first.heap.read value ∧
        ∀ address, value = .list address → kept address
  /-- The list that is made for the target is the same, and making it keeps the relation. -/
  opened : ∀ {first second}, related first second →
    let next := first.heap.next first.document.home
    second.heap.next second.document.home = next ∧ kept next ∧
      related (first.opened binding.target) (second.opened binding.target)
  /-- The value of a tag is the same, and evaluating the tag keeps the relation. -/
  evaluated : ∀ {first second}, related first second → ∀ tag : Tag F, tag.Within kept →
    let reply := evaluate behaviour binding tag first
    let other := evaluate behaviour binding tag second
    other.outcome = reply.outcome ∧ related (first.after reply) (second.after other) ∧
      ∀ value, reply.outcome = .ok value → value.Within kept
  /-- The default value is the same, and running the default function keeps the relation. -/
  defaulted : ∀ {first second}, related first second →
    ∀ function ∈ binding.definition.defaultFn,
    let reply := behaviour function first none .null
    let other := behaviour function second none .null
    other.outcome = reply.outcome ∧ related (first.after reply) (second.after other) ∧
      ∀ value, reply.outcome = .ok value → value.Within kept
  /-- Putting a value at the end of a list keeps the relation. -/
  pushed : ∀ {first second}, related first second → ∀ address (value : Value F), kept address →
    value.Within kept → related (first.push address value) (second.push address value)
  /-- Assigning the target keeps the relation. -/
  assigned : ∀ {first second}, related first second → ∀ value : Value F, value.Within kept →
    related (first.assign binding.target value) (second.assign binding.target value)

/-- That two parts of a pass end alike in related scenes, with the same debug lines. -/
structure Pass.Related (related : Scene F M → Scene F M → Prop) (first second : Pass F M) :
    Prop where
  /-- The scenes at the end are related. -/
  scene : related first.scene second.scene
  /-- Both end early for the same fault, or neither does. -/
  fault? : second.fault? = first.fault?
  /-- They have the same debug lines. -/
  debugLines : second.debugLines = first.debugLines

namespace Pass

variable {related : Scene F M → Scene F M → Prop} {first second : Scene F M}

/-- Parts that do nothing to related scenes are related. -/
theorem related_still (scenes : related first second) :
    Related related (still first) (still second) := ⟨scenes, rfl, rfl⟩

/-- Parts that fail in related scenes for the same fault are related. -/
theorem related_failed (scenes : related first second) (fault : Fault F) :
    Related related (failed first fault) (failed second fault) := ⟨scenes, rfl, rfl⟩

/-- Events with the same debug lines keep parts related that come after them. -/
theorem Related.after {one other : Pass F M} (parts : Related related one other)
    {event again : Event F M} (lines : again.debugLines = event.debugLines) :
    Related related (one.after event) (other.after again) where
  scene := parts.scene
  fault? := parts.fault?
  debugLines := by
    show again.debugLines ++ other.debugLines = event.debugLines ++ one.debugLines
    rw [lines, parts.debugLines]

/-- Parts in a row are related when the first ones are, and the second ones in related scenes. -/
theorem Related.andThen {one other : Pass F M} (parts : Related related one other)
    {next again : Scene F M → Pass F M}
    (later : ∀ {left right}, related left right → Related related (next left) (again right)) :
    Related related (one.andThen next) (other.andThen again) := by
  cases failed : one.fault? with
  | some fault =>
    rw [andThen_of_fault _ failed, andThen_of_fault _ (parts.fault?.trans failed)]
    exact parts
  | none =>
    rw [andThen_of_none _ failed, andThen_of_none _ (parts.fault?.trans failed)]
    obtain ⟨scene, fault?, lines⟩ := later parts.scene
    refine ⟨scene, fault?, ?_⟩
    have own : other.events.flatMap Event.debugLines = one.events.flatMap Event.debugLines :=
      parts.debugLines
    have rest : (again other.scene).events.flatMap Event.debugLines =
        (next one.scene).events.flatMap Event.debugLines := lines
    show (other.events ++ _).flatMap Event.debugLines = (one.events ++ _).flatMap Event.debugLines
    rw [List.flatMap_append, List.flatMap_append, own, rest]

end Pass

section Engine

variable {behaviour : Behaviour F M} {kept : Address → Prop}
  {related : Scene F M → Scene F M → Prop} {binding : Binding F}
  (keeps : Kept behaviour kept related binding) {first second : Scene F M}
  (scenes : related first second)

include keeps scenes

/-- Collecting the values of tags keeps the relation. -/
theorem collect_related {address : Address} (mine : kept address) (tags : List (Tag F))
    (inside : ∀ tag ∈ tags, tag.Within kept) :
    Pass.Related related (collect behaviour binding address tags first)
      (collect behaviour binding address tags second) := by
  induction tags generalizing first second with
  | nil => exact Pass.related_still scenes
  | cons tag rest ih =>
    obtain ⟨here, later⟩ := List.forall_mem_cons.mp inside
    obtain ⟨outcome, edited, within⟩ := keeps.evaluated scenes tag here
    unfold collect
    simp only [outcome]
    cases given : (evaluate behaviour binding tag first).outcome with
    | error message => exact (Pass.related_failed edited _).after rfl
    | ok value =>
      exact (ih (keeps.pushed edited address value mine (within value given)) later).after rfl

/-- The list in which values are collected is the same in related scenes, and belongs to the set. -/
theorem collected_related :
    (∃ fault, (first.collected binding.target : Except (Fault F) _) = .error fault ∧
        second.collected binding.target = .error fault) ∨
      ∃ address one other,
        (first.collected binding.target : Except (Fault F) _) = .ok (address, one) ∧
        second.collected binding.target = .ok (address, other) ∧ kept address ∧
        related one other := by
  obtain ⟨next, mine, made⟩ := keeps.opened scenes
  have same := keeps.target scenes
  have fresh : first.document.get? binding.target = none ∨
      first.document.get? binding.target = some .null →
      (first.collected binding.target : Except (Fault F) _) =
          .ok (first.heap.next first.document.home, first.opened binding.target) ∧
        (second.collected binding.target : Except (Fault F) _) =
          .ok (first.heap.next first.document.home, second.opened binding.target) := by
    intro absent
    refine ⟨Scene.collected_of_absent absent, ?_⟩
    rw [Scene.collected_of_absent (same ▸ absent), next]
  cases found : first.document.get? binding.target with
  | none =>
    obtain ⟨one, other⟩ := fresh (.inl found)
    exact .inr ⟨_, _, _, one, other, mine, made⟩
  | some held =>
    obtain ⟨read, within⟩ := keeps.held scenes held found
    by_cases null : held = .null
    · obtain ⟨one, other⟩ := fresh (.inr (null ▸ found))
      exact .inr ⟨_, _, _, one, other, mine, made⟩
    · by_cases list : ∃ address, held = .list address
      · obtain ⟨address, rfl⟩ := list
        exact .inr ⟨address, first, second, Scene.collected_of_list found,
          Scene.collected_of_list (same.trans found), within address rfl, scenes⟩
      · have notList := not_exists.mp list
        refine .inl ⟨_, Scene.collected_of_fixed found null notList, ?_⟩
        rw [Scene.collected_of_fixed (same.trans found) null notList, read]

/-- Collecting into the target keeps the relation. -/
theorem extractAll_related (tags : List (Tag F)) (inside : ∀ tag ∈ tags, tag.Within kept) :
    Pass.Related related (extractAll behaviour binding tags first)
      (extractAll behaviour binding tags second) := by
  unfold extractAll
  rcases collected_related keeps scenes with ⟨fault, one, other⟩ | found
  · simp only [one, other]
    exact Pass.related_failed scenes fault
  · obtain ⟨address, one, other, held, alsoHeld, mine, still⟩ := found
    simp only [held, alsoHeld]
    exact collect_related keeps still mine tags inside

/-- Writing the value of an only tag keeps the relation. -/
theorem extractOnly_related {tag : Tag F} (inside : tag.Within kept) :
    Pass.Related related (extractOnly behaviour binding tag first)
      (extractOnly behaviour binding tag second) := by
  obtain ⟨outcome, edited, within⟩ := keeps.evaluated scenes tag inside
  unfold extractOnly
  simp only [outcome]
  cases given : (evaluate behaviour binding tag first).outcome with
  | error message => exact (Pass.related_failed edited _).after rfl
  | ok value =>
    exact (Pass.related_still (keeps.assigned edited value (within value given))).after rfl

/-- Writing a default value keeps the relation. -/
theorem writeDefault_related {value : Value F} (inside : value.Within kept) :
    Pass.Related related (writeDefault binding value first)
      (writeDefault binding value second) := by
  unfold writeDefault
  split
  · rcases collected_related keeps scenes with ⟨fault, one, other⟩ | found
    · simp only [one, other]
      exact Pass.related_failed scenes fault
    · obtain ⟨address, one, other, held, alsoHeld, mine, still⟩ := found
      simp only [held, alsoHeld]
      exact Pass.related_still (keeps.pushed still address value mine inside)
  · exact Pass.related_still (keeps.assigned scenes value inside)

/-- Doing without a tag keeps the relation. -/
theorem extractDefault_related :
    Pass.Related related (extractDefault behaviour binding first)
      (extractDefault behaviour binding second) := by
  obtain ⟨file, line⟩ := keeps.place scenes
  cases required : binding.definition.required with
  | true =>
    rw [extractDefault_of_required behaviour binding required,
      extractDefault_of_required behaviour binding required, file, line]
    exact Pass.related_failed scenes _
  | false =>
    cases default : binding.definition.defaultFn with
    | none =>
      rw [extractDefault_of_none behaviour binding required default,
        extractDefault_of_none behaviour binding required default]
      exact Pass.related_still scenes
    | some function =>
      obtain ⟨outcome, edited, within⟩ := keeps.defaulted scenes function default
      cases given : (behaviour function first none .null).outcome with
      | error message =>
        rw [extractDefault_of_error behaviour binding required default given,
          extractDefault_of_error behaviour binding required default (outcome.trans given)]
        exact (Pass.related_failed edited _).after rfl
      | ok value =>
        by_cases null : value = .null
        · subst null
          rw [extractDefault_of_null behaviour binding required default given,
            extractDefault_of_null behaviour binding required default (outcome.trans given)]
          exact (Pass.related_still edited).after rfl
        · rw [extractDefault_of_value behaviour binding required default given null,
            extractDefault_of_value behaviour binding required default (outcome.trans given) null]
          exact (writeDefault_related keeps edited (within value given)).after rfl

/-- The extraction of a binding keeps the relation. -/
theorem extract_related :
    Pass.Related related (extract behaviour binding first)
      (extract behaviour binding second) := by
  obtain ⟨file, line⟩ := keeps.place scenes
  have inside := keeps.inside scenes
  unfold extract
  rw [keeps.named scenes]
  refine Pass.Related.after ?_ rfl
  cases found : first.document.named binding.name with
  | nil => exact extractDefault_related keeps scenes
  | cons tag rest =>
    rw [found] at inside
    dsimp only
    split
    · exact extractAll_related keeps scenes (tag :: rest) inside
    · split
      · exact extractOnly_related keeps scenes (inside tag List.mem_cons_self)
      · rw [file, line]
        exact Pass.related_failed scenes _

end Engine

section Passes

variable {behaviour : Behaviour F M} {kept : Address → Prop}
  {related : Scene F M → Scene F M → Prop}

/-- A report has no debug lines. -/
@[simp] theorem Scene.debugLines_report (scene : Scene F M) : scene.report.debugLines = [] := by
  unfold report
  split <;> rfl

/-- Reports keep every relation. -/
theorem report_related {first second : Scene F M} (scenes : related first second) :
    Pass.Related related first.report second.report := by
  refine ⟨?_, ?_, ?_⟩
  · rw [Scene.scene_report, Scene.scene_report]
    exact scenes
  · rw [Scene.fault?_report, Scene.fault?_report]
  · rw [Scene.debugLines_report, Scene.debugLines_report]

/-- A pass over bindings that keep a relation keeps it, and ends alike in related scenes. -/
theorem extractPass_related (bindings : List (Binding F))
    (keeps : ∀ binding ∈ bindings, Kept behaviour kept related binding)
    {first second : Scene F M} (scenes : related first second) :
    Pass.Related related (extractPass behaviour bindings first)
      (extractPass behaviour bindings second) := by
  induction bindings generalizing first second with
  | nil => exact Pass.related_still scenes
  | cons binding rest ih =>
    obtain ⟨head, tail⟩ := List.forall_mem_cons.mp keeps
    exact ((extract_related head scenes).andThen report_related).andThen (ih tail)

/-- If related scenes have the same reports, a pass reports the same in them. -/
theorem messages_extractPass_related (bindings : List (Binding F))
    (keeps : ∀ binding ∈ bindings, Kept behaviour kept related binding)
    (alike : ∀ {first second}, related first second →
      second.report.messages = first.report.messages)
    {first second : Scene F M} (scenes : related first second) :
    (extractPass behaviour bindings second).messages =
      (extractPass behaviour bindings first).messages := by
  induction bindings generalizing first second with
  | nil => rfl
  | cons binding rest ih =>
    obtain ⟨head, tail⟩ := List.forall_mem_cons.mp keeps
    have own := extract_related head scenes
    cases ended : (extract behaviour binding first).fault? with
    | some fault =>
      rw [extractPass_cons_of_fault behaviour binding rest first ended,
        extractPass_cons_of_fault behaviour binding rest second (own.fault?.trans ended),
        messages_extract, messages_extract]
    | none =>
      rw [messages_extractPass_cons behaviour binding rest first ended,
        messages_extractPass_cons behaviour binding rest second (own.fault?.trans ended),
        alike own.scene, ih tail own.scene]

end Passes

/-- That every step of a binding leads from a scene to a related one, whatever is handed on. -/
structure Respects (behaviour : Behaviour F M) (related : Scene F M → Scene F M → Prop)
    (binding : Binding F) : Prop where
  /-- Making the list for the target does. -/
  opened : ∀ scene : Scene F M, related scene (scene.opened binding.target)
  /-- Evaluating a tag does. -/
  evaluated : ∀ (scene : Scene F M) (tag : Tag F),
    related scene (scene.after (evaluate behaviour binding tag scene))
  /-- Running the default function does. -/
  defaulted : ∀ scene : Scene F M, ∀ function ∈ binding.definition.defaultFn,
    related scene (scene.after (behaviour function scene none .null))
  /-- Putting a value at the end of a list does. -/
  pushed : ∀ (scene : Scene F M) (address : Address) (value : Value F),
    related scene (scene.push address value)
  /-- Assigning the target does. -/
  assigned : ∀ (scene : Scene F M) (value : Value F),
    related scene (scene.assign binding.target value)

section Runs

variable {behaviour : Behaviour F M} {related : Scene F M → Scene F M → Prop}
  (trans : ∀ first second third, related first second → related second third →
    related first third)

include trans

/-- A binding whose steps lead to related scenes keeps what a scene is related to. -/
theorem Respects.kept {binding : Binding F} (respects : Respects behaviour related binding)
    (start : Scene F M) :
    Kept behaviour (fun _ => True) (fun one other => other = one ∧ related start one) binding where
  named := by
    rintro first second ⟨rfl, -⟩
    rfl
  inside _ _ _ _ _ := trivial
  place := by
    rintro first second ⟨rfl, -⟩
    exact ⟨rfl, rfl⟩
  target := by
    rintro first second ⟨rfl, -⟩
    rfl
  held := by
    rintro first second ⟨rfl, -⟩ value -
    exact ⟨rfl, fun _ _ => trivial⟩
  opened := by
    rintro first second ⟨rfl, before⟩
    exact ⟨rfl, trivial, rfl, trans _ _ _ before (respects.opened second)⟩
  evaluated := by
    rintro first second ⟨rfl, before⟩ tag -
    exact ⟨rfl, ⟨rfl, trans _ _ _ before (respects.evaluated second tag)⟩, fun _ _ _ _ => trivial⟩
  defaulted := by
    rintro first second ⟨rfl, before⟩ function default
    exact ⟨rfl, ⟨rfl, trans _ _ _ before (respects.defaulted second function default)⟩,
      fun _ _ _ _ => trivial⟩
  pushed := by
    rintro first second ⟨rfl, before⟩ address value - -
    exact ⟨rfl, trans _ _ _ before (respects.pushed second address value)⟩
  assigned := by
    rintro first second ⟨rfl, before⟩ value -
    exact ⟨rfl, trans _ _ _ before (respects.assigned second value)⟩

variable (refl : ∀ scene, related scene scene)

include refl

/-- If the steps of a binding lead to related scenes, so does its extraction. -/
theorem Respects.extract {binding : Binding F} (respects : Respects behaviour related binding)
    (scene : Scene F M) : related scene (extract behaviour binding scene).scene := by
  have start : scene = scene ∧ related scene scene := ⟨rfl, refl scene⟩
  exact (extract_related (respects.kept trans scene) start).scene.2

/-- If the steps of all bindings lead to related scenes, so does a pass, whether or not it comes to
its end. -/
theorem related_extractPass {bindings : List (Binding F)}
    (respects : ∀ binding ∈ bindings, Respects behaviour related binding) (scene : Scene F M) :
    related scene (extractPass behaviour bindings scene).scene := by
  have kept := fun binding inside => (respects binding inside).kept trans scene
  have start : scene = scene ∧ related scene scene := ⟨rfl, refl scene⟩
  exact (extractPass_related bindings kept start).scene.2

end Runs

end TagBinding.Live
