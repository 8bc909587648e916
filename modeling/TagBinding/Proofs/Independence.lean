import Mathlib.Data.List.Basic
import TagBinding.Proofs.Restraint

/-!
# Bindings in any order

The transforms of a steady binding do not look at the document, and its default function looks at
the tags alone. If bindings are steady and write different properties, none of them can notice
whether another one has been extracted before: each does in a pass what it does to the document at
the start (`extractPass_of_steady`). So it does not matter in which order they are extracted, unless
one of them fails. Which fault ends the pass depends on the order, but whether one does, does not
(`extractPass_of_perm`).
-/
namespace TagBinding

variable {F : Type}

namespace Routine

/-- That a routine does not look at the document, and edits none. -/
structure Detached (routine : Routine F) : Prop where
  /-- It edits no document. -/
  passive : routine.Passive
  /-- It replies the same whatever the document is. -/
  same : ∀ first second, routine first = routine second

/-- The identity does not look at the document. -/
theorem detached_identity : (identity : Routine F).Detached :=
  ⟨passive_identity, fun _ _ => rfl⟩

/-- Of two routines in a row none looks at the document if neither of them does. -/
theorem Detached.andThen {first second : Routine F} (former : first.Detached)
    (latter : second.Detached) : (first.andThen second).Detached where
  passive := former.passive.andThen latter.passive
  same := by
    intro one other
    funext tag value
    simp only [Routine.andThen, former.same one other,
      latter.same (one.editAll _) (other.editAll (first other tag value).edits)]

end Routine

/-- That the values that a binding writes depend on tags alone. -/
structure Binding.Steady (behaviour : Behaviour F) (binding : Binding F) : Prop where
  /-- No transform looks at the document or edits it. -/
  transforms : ∀ function ∈ binding.transforms, (behaviour function).Detached
  /-- No default function edits a document. -/
  passive : ∀ function ∈ binding.definition.defaultFn, (behaviour function).Passive
  /-- No default function looks at more of a document than its tags. -/
  default : ∀ function ∈ binding.definition.defaultFn, ∀ first second : Document F,
    first.tags = second.tags → behaviour function first = behaviour function second

namespace Binding

variable {behaviour : Behaviour F} {binding : Binding F}

/-- The functions of a steady binding edit nothing. -/
theorem Steady.toPassive (steady : binding.Steady behaviour) : binding.Passive behaviour where
  transforms function used := (steady.transforms function used).passive
  default := steady.passive

/-- The functions of a steady binding reply the same to documents with the same tags. -/
theorem Steady.repliesAlike (steady : binding.Steady behaviour) {first second : Document F}
    (tags : first.tags = second.tags) : binding.RepliesAlike behaviour first second := by
  have routines : ∀ routine ∈ binding.transforms.map behaviour, routine.Detached := by
    simpa using steady.transforms
  have detached : (binding.routine behaviour).Detached := by
    rw [routine_eq_sequence]
    exact Routine.sequence_of_closed Routine.detached_identity Routine.Detached.andThen routines
  have evaluate : ∀ (tag : Tag F) (one other : Document F),
      binding.evaluate behaviour tag one = binding.evaluate behaviour tag other := by
    intro tag one other
    rw [Binding.evaluate, Binding.evaluate, detached.same one other]
  refine ⟨fun tag => evaluate tag _ _, fun tag values => evaluate tag _ _, ?_⟩
  intro function given
  rw [steady.default function given first second tags]

/-- A steady binding ends alike on documents that agree at its target, and leaves the same in the
target. -/
theorem Steady.extract_eq (steady : binding.Steady behaviour) {first second : Document F}
    (agree : first.AgreeAt binding.target second) :
    (binding.extract behaviour first).fault? = (binding.extract behaviour second).fault? ∧
      (binding.extract behaviour first).document.get? binding.target =
        (binding.extract behaviour second).document.get? binding.target := by
  obtain ⟨fault, value?, one, other⟩ :=
    steady.toPassive.extract_alongside (steady.repliesAlike agree.tags) agree
  refine ⟨fault, ?_⟩
  rw [one, other]
  exact agree.get?_assign? value?

end Binding

section Pass

variable {behaviour : Behaviour F}

/-- Steady bindings with different targets are extracted as if each were the only one. The pass
succeeds exactly when each of them can be extracted from the document at the start, and leaves in
every target what the extraction of its binding leaves there, and all other properties and the tags
as they were. -/
theorem extractPass_of_steady (bindings : List (Binding F)) (document : Document F)
    (distinct : (bindings.map Binding.target).Nodup)
    (steady : ∀ binding ∈ bindings, binding.Steady behaviour) :
    let pass := extractPass behaviour bindings document
    (pass.fault? = none ↔
        ∀ binding ∈ bindings, (binding.extract behaviour document).fault? = none) ∧
      (pass.fault? = none →
        (∀ binding ∈ bindings, pass.document.get? binding.target =
          (binding.extract behaviour document).document.get? binding.target) ∧
        (∀ key ∉ bindings.map Binding.target,
          pass.document.get? key = document.get? key) ∧
        pass.document.tags = document.tags ∧
        document.properties.keys <+: pass.document.properties.keys) := by
  induction bindings generalizing document with
  | nil => simp [extractPass]
  | cons binding rest ih =>
    intro pass
    obtain ⟨head, tail⟩ := List.forall_mem_cons.mp steady
    obtain ⟨fresh, later⟩ := List.nodup_cons.mp distinct
    cases first : (binding.extract behaviour document).fault? with
    | some fault =>
      have failed : pass.fault? = some fault := by
        simp only [pass, extractPass_cons_of_fault behaviour binding rest document first, first]
      simp [failed, first]
    | none =>
      obtain ⟨sameDocument, sameFault⟩ :=
        extractPass_cons_of_none behaviour binding rest document first
      have own := head.toPassive
      -- The other bindings find their targets, and the tags, as they were at the start.
      have agree : ∀ other ∈ rest,
          document.AgreeAt other.target (binding.extract behaviour document).document := by
        intro other inside
        refine own.agreeAt_extract document fun same => fresh ?_
        exact same ▸ List.mem_map_of_mem inside
      have alike := fun other inside => (tail other inside).extract_eq (agree other inside)
      obtain ⟨succeeds, leaves⟩ := ih (binding.extract behaviour document).document later tail
      have done : pass.fault? = none ↔ ∀ other ∈ binding :: rest,
          (other.extract behaviour document).fault? = none := by
        rw [sameFault, succeeds, List.forall_mem_cons]
        constructor
        · intro others
          exact ⟨first, fun other inside => (alike other inside).1.trans (others other inside)⟩
        · rintro ⟨-, others⟩ other inside
          exact (alike other inside).1.symm.trans (others other inside)
      refine ⟨done, fun finished => ?_⟩
      obtain ⟨targets, elsewhere, tags, keys⟩ := leaves (sameFault.symm.trans finished)
      simp only [pass, sameDocument]
      refine ⟨List.forall_mem_cons.mpr ⟨elsewhere binding.target fresh, ?_⟩, ?_, ?_, ?_⟩
      · intro other inside
        exact (targets other inside).trans (alike other inside).2.symm
      · intro key outside
        obtain ⟨different, others⟩ := not_or.mp (mt List.mem_cons.mpr outside)
        have kept := own.agreeAt_extract document different
        exact (elsewhere key others).trans kept.property.symm
      · exact tags.trans (own.tags_extract document)
      · exact (own.keys_prefix_extract document).trans keys

/-- A pass of steady bindings that succeeds reports after each of them if there is a bad tag. -/
theorem length_messages_of_steady (bindings : List (Binding F)) (document : Document F)
    (steady : ∀ binding ∈ bindings, binding.Steady behaviour)
    (done : (extractPass behaviour bindings document).fault? = none) :
    (extractPass behaviour bindings document).messages.length =
      if document.tags.bad.isEmpty then 0 else bindings.length := by
  rw [messages_of_passive bindings document fun binding inside =>
    (steady binding inside).toPassive]
  split
  · rfl
  · rw [List.length_map, length_checkpoints behaviour bindings document done]

/-- If steady bindings write different properties, it makes no difference to a pass in which order
they come. It comes to its end in every order if it does in one, and then every property has the same
value, the properties that were there before keep their places, the tags are the same, and there are
as many reports: one for each binding if the document has a bad tag, and else none. -/
theorem extractPass_of_perm (document : Document F) {bindings others : List (Binding F)}
    (permuted : bindings.Perm others) (distinct : (bindings.map Binding.target).Nodup)
    (steady : ∀ binding ∈ bindings, binding.Steady behaviour) :
    let one := extractPass behaviour bindings document
    let other := extractPass behaviour others document
    let reports := if document.tags.bad.isEmpty then 0 else bindings.length
    (one.fault? = none ↔ other.fault? = none) ∧
      (one.fault? = none → (∀ key, one.document.get? key = other.document.get? key) ∧
        document.properties.keys <+: one.document.properties.keys ∧
        document.properties.keys <+: other.document.properties.keys ∧
        one.document.tags = document.tags ∧ other.document.tags = document.tags ∧
        one.messages.length = reports ∧ other.messages.length = reports) := by
  intro one other reports
  have sameTargets := permuted.map Binding.target
  have otherDistinct : (others.map Binding.target).Nodup := sameTargets.nodup_iff.mp distinct
  have otherSteady : ∀ binding ∈ others, binding.Steady behaviour :=
    fun binding inside => steady binding (permuted.mem_iff.mpr inside)
  obtain ⟨succeeds, leaves⟩ := extractPass_of_steady bindings document distinct steady
  obtain ⟨otherSucceeds, otherLeaves⟩ :=
    extractPass_of_steady others document otherDistinct otherSteady
  have alike : one.fault? = none ↔ other.fault? = none := by
    rw [succeeds, otherSucceeds]
    exact ⟨fun each binding inside => each binding (permuted.mem_iff.mpr inside),
      fun each binding inside => each binding (permuted.mem_iff.mp inside)⟩
  refine ⟨alike, fun done => ?_⟩
  have otherDone := alike.mp done
  obtain ⟨targets, elsewhere, tags, keys⟩ := leaves done
  obtain ⟨otherTargets, otherElsewhere, otherTags, otherKeys⟩ := otherLeaves otherDone
  refine ⟨?_, keys, otherKeys, tags, otherTags, ?_, ?_⟩
  · intro key
    by_cases target : key ∈ bindings.map Binding.target
    · obtain ⟨binding, inside, rfl⟩ := List.mem_map.mp target
      exact (targets binding inside).trans
        (otherTargets binding (permuted.mem_iff.mp inside)).symm
    · have otherTarget : key ∉ others.map Binding.target :=
        fun written => target (sameTargets.mem_iff.mpr written)
      exact (elsewhere key target).trans (otherElsewhere key otherTarget).symm
  · exact length_messages_of_steady bindings document steady done
  · have reported := length_messages_of_steady others document otherSteady otherDone
    rwa [← permuted.length_eq] at reported

end Pass

end TagBinding
