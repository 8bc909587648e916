import TagBinding.Proofs.Cases

/-!
# Checkpoints of a pass

A pass pauses behind every binding that is done, for a report. The documents at these pauses are its
checkpoints: there is one for every binding that is done (`length_checkpoints`), and what a pass
reports is the bad tags of those of its checkpoints that have any (`messages_extractPass`), whatever
the functions of its bindings do.
-/
namespace TagBinding

variable {F : Type} (behaviour : Behaviour F)

/-- The documents that a pass leaves behind each of its bindings that is done, in order. -/
def checkpoints : List (Binding F) → Document F → List (Document F)
  | [], _ => []
  | binding :: rest, document =>
    let own := binding.extract behaviour document
    match own.fault? with
    | some _ => []
    | none => own.document :: checkpoints rest own.document

/-- A pass that its first binding stops has no checkpoint. -/
theorem checkpoints_cons_of_fault (binding : Binding F) (rest : List (Binding F))
    (document : Document F) {fault : Fault F}
    (failed : (binding.extract behaviour document).fault? = some fault) :
    checkpoints behaviour (binding :: rest) document = [] := by
  simp only [checkpoints, failed]

/-- The first checkpoint is what the first binding leaves. -/
theorem checkpoints_cons_of_none (binding : Binding F) (rest : List (Binding F))
    (document : Document F) (done : (binding.extract behaviour document).fault? = none) :
    checkpoints behaviour (binding :: rest) document =
      (binding.extract behaviour document).document ::
        checkpoints behaviour rest (binding.extract behaviour document).document := by
  simp only [checkpoints, done]

/-- A pass that comes to its end has a checkpoint for every binding. -/
theorem length_checkpoints (bindings : List (Binding F)) (document : Document F)
    (done : (extractPass behaviour bindings document).fault? = none) :
    (checkpoints behaviour bindings document).length = bindings.length := by
  induction bindings generalizing document with
  | nil => rfl
  | cons binding rest ih =>
    cases first : (binding.extract behaviour document).fault? with
    | some fault =>
      rw [extractPass_cons_of_fault behaviour binding rest document first, first] at done
      cases done
    | none =>
      rw [(extractPass_cons_of_none behaviour binding rest document first).2] at done
      rw [checkpoints_cons_of_none behaviour binding rest document first, List.length_cons,
        ih _ done, List.length_cons]

/-- Behind bindings that are done come the checkpoints of the pass over the other ones. -/
theorem checkpoints_append_of_none (first second : List (Binding F)) (document : Document F)
    (done : (extractPass behaviour first document).fault? = none) :
    checkpoints behaviour (first ++ second) document =
      checkpoints behaviour first document ++
        checkpoints behaviour second (extractPass behaviour first document).document := by
  induction first generalizing document with
  | nil => rfl
  | cons binding rest ih =>
    cases own : (binding.extract behaviour document).fault? with
    | some fault =>
      rw [extractPass_cons_of_fault behaviour binding rest document own, own] at done
      cases done
    | none =>
      obtain ⟨sameDocument, sameFault⟩ :=
        extractPass_cons_of_none behaviour binding rest document own
      rw [sameFault] at done
      rw [List.cons_append, checkpoints_cons_of_none behaviour binding _ document own,
        checkpoints_cons_of_none behaviour binding rest document own, ih _ done, sameDocument,
        List.cons_append]

/-- A part that came to its end has its reports before those of the part that follows. -/
theorem Pass.messages_andThen_of_none {pass : Pass F} (next : Document F → Pass F)
    (done : pass.fault? = none) :
    (pass.andThen next).messages = pass.messages ++ (next pass.document).messages := by
  rw [Pass.andThen_of_none next done, messages, messages, messages, List.filterMap_append]

/-- There is one report on a document that has bad tags, and none on any other. -/
theorem Document.messages_report (document : Document F) :
    document.report.messages =
      if document.tags.bad.isEmpty then [] else [document.badTagReport] := by
  unfold report
  split <;> rfl

/-- A pass reports the bad tags of those of its checkpoints that have any. -/
theorem messages_extractPass (bindings : List (Binding F)) (document : Document F) :
    (extractPass behaviour bindings document).messages =
      ((checkpoints behaviour bindings document).filter fun checkpoint =>
        !checkpoint.tags.bad.isEmpty).map Document.badTagReport := by
  induction bindings generalizing document with
  | nil => rfl
  | cons binding rest ih =>
    cases first : (binding.extract behaviour document).fault? with
    | some fault =>
      rw [extractPass_cons_of_fault behaviour binding rest document first,
        checkpoints_cons_of_fault behaviour binding rest document first,
        Binding.messages_extract]
      rfl
    | none =>
      have reported : ((binding.extract behaviour document).andThen Document.report).fault? =
          none := by
        simp [Pass.andThen_of_none _ first]
      have left : ((binding.extract behaviour document).andThen Document.report).document =
          (binding.extract behaviour document).document := by
        simp [Pass.andThen_of_none _ first]
      rw [extractPass, Pass.messages_andThen_of_none _ reported,
        Pass.messages_andThen_of_none _ first, Binding.messages_extract, List.nil_append, left, ih,
        checkpoints_cons_of_none behaviour binding rest document first, Document.messages_report,
        List.filter_cons]
      cases (binding.extract behaviour document).document.tags.bad.isEmpty <;> rfl

end TagBinding
