import TagBinding.Proofs.Checkpoints

/-!
# Functions that leave documents alone

When no function of a binding edits documents, all that its extraction can do to a document is to
write the target, once or not at all. What it writes, and whether it fails, is decided by what its
functions reply and by the part of the document that it reads itself: the tags, the place in the
source and the target (`Document.AgreeAt`). So on two documents that agree there, and on which its
functions reply the same, it does the same (`Binding.Passive.extract_alongside`), and on a single
document it leaves everything but the target (`Binding.Passive.agreeAt_extract`).
-/
namespace TagBinding

variable {F : Type}

namespace Document

/-- That two documents have the same tags, the same place in the source and the same value of a
property. -/
structure AgreeAt (key : String) (first second : Document F) : Prop where
  /-- They have the same tags. -/
  tags : first.tags = second.tags
  /-- They come from the same file. -/
  file : first.file = second.file
  /-- They start on the same line. -/
  startingLine : first.startingLine = second.startingLine
  /-- The property is the same. -/
  property : first.get? key = second.get? key

/-- Assign a value to a property, if there is a value. -/
def assign? (document : Document F) (key : String) (value? : Option (Value F)) : Document F :=
  value?.elim document (document.assign key)

variable (document : Document F) {key other : String}

/-- A document agrees with itself at every property. -/
@[refl] theorem AgreeAt.refl (key : String) (document : Document F) :
    AgreeAt key document document := ⟨rfl, rfl, rfl, rfl⟩

/-- An assignment, if there is one, leaves every other property. -/
theorem agreeAt_assign? (different : key ≠ other) (value? : Option (Value F)) :
    AgreeAt key document (document.assign? other value?) := by
  cases value? with
  | none => exact .refl key document
  | some value =>
    refine ⟨rfl, rfl, rfl, ?_⟩
    exact ((document.get?_assign other value key).trans (if_neg different)).symm

/-- After an assignment, if there is one, the property reads the same in documents in which it was
the same before. -/
theorem AgreeAt.get?_assign? {first second : Document F} (agree : first.AgreeAt key second)
    (value? : Option (Value F)) :
    (first.assign? key value?).get? key = (second.assign? key value?).get? key := by
  cases value? with
  | none => exact agree.property
  | some value =>
    show (first.assign key value).get? key = (second.assign key value).get? key
    rw [get?_assign, get?_assign, if_pos rfl, if_pos rfl]

/-- An assignment, if there is one, drops no property and moves none. -/
theorem keys_prefix_assign? (value? : Option (Value F)) :
    document.properties.keys <+: (document.assign? key value?).properties.keys := by
  cases value? with
  | none => exact List.prefix_refl _
  | some value => exact Table.keys_prefix_insert document.properties key value

end Document

namespace Routine

/-- That a routine edits no document. -/
def Passive (routine : Routine F) : Prop :=
  ∀ document tag value, (routine document tag value).edits = []

/-- The identity edits nothing. -/
theorem passive_identity : (identity : Routine F).Passive := fun _ _ _ => rfl

/-- Of two routines in a row none edits documents if neither of them does. -/
theorem Passive.andThen {first second : Routine F} (former : first.Passive)
    (latter : second.Passive) : (first.andThen second).Passive := by
  intro document tag value
  simp only [Routine.andThen]
  cases (first document tag value).outcome with
  | error message => exact former document tag value
  | ok middle =>
    show _ ++ _ = []
    rw [former, latter, List.append_nil]

end Routine

/-- That no function of a binding edits documents. -/
structure Binding.Passive (behaviour : Behaviour F) (binding : Binding F) : Prop where
  /-- No transform does. -/
  transforms : ∀ function ∈ binding.transforms, (behaviour function).Passive
  /-- No default function does. -/
  default : ∀ function ∈ binding.definition.defaultFn, (behaviour function).Passive

/-- That the functions of a binding reply the same to two documents, also when a list is written to
the target of both. -/
structure Binding.RepliesAlike (behaviour : Behaviour F) (binding : Binding F)
    (first second : Document F) : Prop where
  /-- A tag has the same value. -/
  evaluate : ∀ tag,
    binding.evaluate behaviour tag first = binding.evaluate behaviour tag second
  /-- A tag has the same value while values are collected. -/
  collect : ∀ tag values,
    binding.evaluate behaviour tag (first.assign binding.target (.list values)) =
      binding.evaluate behaviour tag (second.assign binding.target (.list values))
  /-- The default is the same. -/
  default : ∀ function ∈ binding.definition.defaultFn,
    behaviour function first none .null = behaviour function second none .null

/-- That two parts of passes end alike, and that all they do to two documents is to write the same
value to a property, or none. -/
structure Pass.Alongside (key : String) (first second : Document F) (one other : Pass F) :
    Prop where
  /-- The faults are the same, if there are any. -/
  fault : one.fault? = other.fault?
  /-- The property is written, or it is not. -/
  write : ∃ value?, one.document = first.assign? key value? ∧
    other.document = second.assign? key value?

namespace Pass.Alongside

variable {key : String} {first second : Document F} {one other : Pass F}

/-- Two parts in which nothing happens end alike. -/
theorem still (key : String) (first second : Document F) :
    Alongside key first second (.still first) (.still second) := ⟨rfl, none, rfl, rfl⟩

/-- Two parts that fail at once with one fault end alike. -/
theorem failed (key : String) (first second : Document F) (fault : Fault F) :
    Alongside key first second (.failed first fault) (.failed second fault) :=
  ⟨rfl, none, rfl, rfl⟩

/-- Two parts that assign one value end alike. -/
theorem assigned (key : String) (first second : Document F) (value : Value F) :
    Alongside key first second (.still (first.assign key value))
      (.still (second.assign key value)) := ⟨rfl, some value, rfl, rfl⟩

/-- Events may come before both. -/
theorem after (alongside : Alongside key first second one other) (event happening : Event F) :
    Alongside key first second (one.after event) (other.after happening) :=
  ⟨alongside.fault, alongside.write⟩

end Pass.Alongside

namespace Binding

variable {behaviour : Behaviour F} {binding : Binding F} {first second : Document F}

/-- On one document the replies are the same. -/
theorem RepliesAlike.refl (behaviour : Behaviour F) (binding : Binding F) (document : Document F) :
    binding.RepliesAlike behaviour document document :=
  ⟨fun _ => rfl, fun _ _ => rfl, fun _ _ => rfl⟩

namespace Passive

variable (passive : binding.Passive behaviour)

include passive

/-- Asking for the value of a tag edits nothing. -/
theorem edits_evaluate (tag : Tag F) (document : Document F) :
    (binding.evaluate behaviour tag document).edits = [] := by
  have routines : ∀ routine ∈ binding.transforms.map behaviour, routine.Passive := by
    simpa using passive.transforms
  rw [evaluate, routine_eq_sequence]
  exact Routine.sequence_of_closed Routine.passive_identity Routine.Passive.andThen routines
    document (some tag) _

variable (alike : binding.RepliesAlike behaviour first second)

include alike

/-- Collecting values writes the same list to both documents. The list that is in them at the start
stands for the values that were collected before. -/
theorem collect_alongside (values : List (Value F)) (tags : List (Tag F)) :
    Pass.Alongside binding.target first second
      (binding.collect behaviour (some values) tags (first.assign binding.target (.list values)))
      (binding.collect behaviour (some values) tags
        (second.assign binding.target (.list values))) := by
  induction tags generalizing values with
  | nil => exact .assigned _ _ _ _
  | cons tag rest ih =>
    have quiet :=
      passive.edits_evaluate tag (second.assign binding.target (.list values))
    simp only [Binding.collect, alike.collect tag values, quiet, Reply.assigns, List.any_nil,
      Bool.false_eq_true, if_false, Document.editAll_nil]
    apply Pass.Alongside.after
    cases (binding.evaluate behaviour tag
        (second.assign binding.target (.list values))).outcome with
    | error message => exact ⟨rfl, some (.list values), rfl, rfl⟩
    | ok value =>
      simp only [Document.assign_assign]
      exact ih (values ++ [value])

/-- Writing the value of an only tag writes the same value to both documents. -/
theorem extractOnly_alongside (tag : Tag F) :
    Pass.Alongside binding.target first second (binding.extractOnly behaviour tag first)
      (binding.extractOnly behaviour tag second) := by
  have quiet := passive.edits_evaluate tag second
  simp only [Binding.extractOnly, alike.evaluate tag, quiet, Document.editAll_nil]
  apply Pass.Alongside.after
  cases (binding.evaluate behaviour tag second).outcome with
  | error message => exact .failed _ _ _ _
  | ok value => exact .assigned _ _ _ _

variable (agree : first.AgreeAt binding.target second)

include agree

omit passive alike in
/-- What the target collects is the same in both documents. -/
theorem collected_eq_of_agreeAt :
    (first.collected binding.target : Except (Fault F) _) = second.collected binding.target := by
  rw [Document.collected, Document.collected, agree.property]

/-- Collecting the values of all tags does the same to both documents. -/
theorem extractAll_alongside (tags : List (Tag F)) :
    Pass.Alongside binding.target first second (binding.extractAll behaviour tags first)
      (binding.extractAll behaviour tags second) := by
  rw [Binding.extractAll, Binding.extractAll, collected_eq_of_agreeAt agree]
  cases second.collected binding.target with
  | error fault => exact .failed _ _ _ _
  | ok values => exact passive.collect_alongside alike values tags

omit passive alike in
/-- A default value is written to both documents, or to neither. -/
theorem writeDefault_alongside (value : Value F) :
    Pass.Alongside binding.target first second (binding.writeDefault value first)
      (binding.writeDefault value second) := by
  rw [writeDefault, writeDefault, collected_eq_of_agreeAt agree]
  split
  · cases second.collected binding.target with
    | error fault => exact .failed _ _ _ _
    | ok values => exact .assigned _ _ _ _
  · exact .assigned _ _ _ _

/-- Doing without a tag does the same to both documents. -/
theorem extractDefault_alongside :
    Pass.Alongside binding.target first second (binding.extractDefault behaviour first)
      (binding.extractDefault behaviour second) := by
  rw [Binding.extractDefault, Binding.extractDefault, agree.file, agree.startingLine]
  split
  · exact .failed _ _ _ _
  · cases given : binding.definition.defaultFn with
    | none => exact .still _ _ _
    | some function =>
      have quiet := passive.default function given second none .null
      simp only [alike.default function given, quiet, Document.editAll_nil]
      apply Pass.Alongside.after
      cases (behaviour function second none .null).outcome with
      | error message => exact .failed _ _ _ _
      | ok value =>
        cases value with
        | null => exact .still _ _ _
        | _ => exact writeDefault_alongside agree _

/-- The extraction of a binding does the same to both documents. -/
theorem extract_alongside :
    Pass.Alongside binding.target first second (binding.extract behaviour first)
      (binding.extract behaviour second) := by
  rw [Binding.extract, Binding.extract, agree.tags, agree.file, agree.startingLine]
  apply Pass.Alongside.after
  cases second.tags.named binding.name with
  | nil => exact passive.extractDefault_alongside alike agree
  | cons tag rest =>
    dsimp only
    split
    · exact passive.extractAll_alongside alike agree (tag :: rest)
    · split
      · exact passive.extractOnly_alongside alike tag
      · exact .failed _ _ _ _

end Passive

/-- The extraction of a binding whose functions edit nothing writes its target, or nothing. -/
theorem Passive.extract_document (passive : binding.Passive behaviour) (document : Document F) :
    ∃ value?, (binding.extract behaviour document).document =
      document.assign? binding.target value? := by
  obtain ⟨value?, written, -⟩ :=
    (passive.extract_alongside (.refl behaviour binding document) (.refl _ document)).write
  exact ⟨value?, written⟩

/-- The extraction of a binding whose functions edit nothing leaves every other property, the tags
and the place in the source. -/
theorem Passive.agreeAt_extract (passive : binding.Passive behaviour) (document : Document F)
    {key : String} (different : key ≠ binding.target) :
    document.AgreeAt key (binding.extract behaviour document).document := by
  obtain ⟨value?, written⟩ := passive.extract_document document
  rw [written]
  exact document.agreeAt_assign? different value?

/-- The extraction of a binding whose functions edit nothing keeps the tags. -/
theorem Passive.tags_extract (passive : binding.Passive behaviour) (document : Document F) :
    (binding.extract behaviour document).document.tags = document.tags := by
  obtain ⟨value?, written⟩ := passive.extract_document document
  rw [written]
  cases value? <;> rfl

/-- The extraction of a binding whose functions edit nothing drops no property and moves none. -/
theorem Passive.keys_prefix_extract (passive : binding.Passive behaviour)
    (document : Document F) :
    document.properties.keys <+:
      (binding.extract behaviour document).document.properties.keys := by
  obtain ⟨value?, written⟩ := passive.extract_document document
  rw [written]
  exact document.keys_prefix_assign? value?

end Binding

variable {behaviour : Behaviour F}

/-- Every checkpoint of a pass whose functions edit nothing has the tags of the start. -/
theorem tags_of_mem_checkpoints (bindings : List (Binding F)) (document : Document F)
    (passive : ∀ binding ∈ bindings, binding.Passive behaviour) :
    ∀ checkpoint ∈ checkpoints behaviour bindings document, checkpoint.tags = document.tags := by
  induction bindings generalizing document with
  | nil => simp [checkpoints]
  | cons binding rest ih =>
    obtain ⟨head, tail⟩ := List.forall_mem_cons.mp passive
    cases first : (binding.extract behaviour document).fault? with
    | some fault => simp [checkpoints_cons_of_fault behaviour binding rest document first]
    | none =>
      rw [checkpoints_cons_of_none behaviour binding rest document first]
      have tags := head.tags_extract document
      have later := ih (binding.extract behaviour document).document tail
      rw [tags] at later
      exact List.forall_mem_cons.mpr ⟨tags, later⟩

/-- A pass whose functions edit nothing reports after every binding that is done if there is a bad
tag, and never if there is none. -/
theorem messages_of_passive (bindings : List (Binding F)) (document : Document F)
    (passive : ∀ binding ∈ bindings, binding.Passive behaviour) :
    (extractPass behaviour bindings document).messages =
      if document.tags.bad.isEmpty then []
      else (checkpoints behaviour bindings document).map Document.badTagReport := by
  have tags := tags_of_mem_checkpoints bindings document passive
  rw [messages_extractPass]
  cases clean : document.tags.bad.isEmpty with
  | true =>
    have none : (checkpoints behaviour bindings document).filter
        (fun checkpoint => !checkpoint.tags.bad.isEmpty) = [] := by
      refine List.filter_eq_nil_iff.mpr fun checkpoint inside => ?_
      simp [tags checkpoint inside, clean]
    rw [none, List.map_nil, if_pos rfl]
  | false =>
    have all : (checkpoints behaviour bindings document).filter
        (fun checkpoint => !checkpoint.tags.bad.isEmpty) =
          checkpoints behaviour bindings document := by
      refine List.filter_eq_self.mpr fun checkpoint inside => ?_
      simp [tags checkpoint inside, clean]
    rw [all, if_neg Bool.false_ne_true]

end TagBinding
