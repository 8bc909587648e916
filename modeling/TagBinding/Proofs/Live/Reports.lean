import TagBinding.Proofs.Live.Growth

/-!
# Reports of a live pass

A pass pauses behind every binding that is done, for a report. The scenes at these pauses are its
checkpoints. Whatever the functions do, and whatever lists they share, what is reported is the bad
tags at those checkpoints that have any (`messages_extractPass`), and these are the last ones, since
no bad tag is ever dropped (`filter_isMarred_suffix`). A receiver that changes no scene and does not
fail is handed these scenes and their reports in order, and nothing else (`attend_eq_foldl`).
-/
namespace TagBinding.Live

variable {F M : Type}

/-- Whether a scene has bad tags. -/
def Scene.isMarred (scene : Scene F M) : Bool := !scene.document.bad.isEmpty

/-- A scene has bad tags exactly when there are some. -/
theorem Scene.isMarred_iff (scene : Scene F M) :
    scene.isMarred = true ↔ scene.document.bad ≠ [] := by
  simp [isMarred]

/-- The scenes that a pass leaves behind each of its bindings that is done, in order. -/
def checkpoints (behaviour : Behaviour F M) : List (Binding F) → Scene F M → List (Scene F M)
  | [], _ => []
  | binding :: rest, scene =>
    let own := extract behaviour binding scene
    match own.fault? with
    | some _ => []
    | none => own.scene :: checkpoints behaviour rest own.scene

section Checkpoints

variable (behaviour : Behaviour F M)

/-- A pass that its first binding stops has no checkpoint. -/
theorem checkpoints_cons_of_fault (binding : Binding F) (rest : List (Binding F))
    (scene : Scene F M) {fault : Fault F}
    (failed : (extract behaviour binding scene).fault? = some fault) :
    checkpoints behaviour (binding :: rest) scene = [] := by
  simp only [checkpoints, failed]

/-- The first checkpoint is what the first binding leaves. -/
theorem checkpoints_cons_of_none (binding : Binding F) (rest : List (Binding F))
    (scene : Scene F M) (done : (extract behaviour binding scene).fault? = none) :
    checkpoints behaviour (binding :: rest) scene =
      (extract behaviour binding scene).scene ::
        checkpoints behaviour rest (extract behaviour binding scene).scene := by
  simp only [checkpoints, done]

/-- The checkpoint in a place is where the pass over the bindings up to that place ends, if it does
come to its end. -/
theorem getElem?_checkpoints (bindings : List (Binding F)) (scene : Scene F M) (place : Nat)
    (inside : place < bindings.length) :
    (checkpoints behaviour bindings scene)[place]? =
      (extractPass behaviour (bindings.take (place + 1)) scene).fault?.elim
        (some (extractPass behaviour (bindings.take (place + 1)) scene).scene)
        fun _ => none := by
  induction bindings generalizing scene place with
  | nil => cases inside
  | cons binding rest ih =>
    rw [List.take_succ_cons]
    cases first : (extract behaviour binding scene).fault? with
    | some fault =>
      rw [checkpoints_cons_of_fault behaviour binding rest scene first,
        extractPass_cons_of_fault behaviour binding _ scene first, first]
      rfl
    | none =>
      obtain ⟨sameScene, sameFault⟩ :=
        extractPass_cons_of_none behaviour binding (rest.take place) scene first
      rw [checkpoints_cons_of_none behaviour binding rest scene first, sameScene, sameFault]
      cases place with
      | zero => rfl
      | succ before =>
        rw [List.getElem?_cons_succ]
        exact ih _ before (Nat.lt_of_succ_lt_succ inside)

/-- A pass that comes to its end has a checkpoint for every binding. -/
theorem length_checkpoints_eq (bindings : List (Binding F)) (scene : Scene F M)
    (finished : (extractPass behaviour bindings scene).fault? = none) :
    (checkpoints behaviour bindings scene).length = bindings.length := by
  induction bindings generalizing scene with
  | nil => rfl
  | cons binding rest ih =>
    cases first : (extract behaviour binding scene).fault? with
    | some fault =>
      rw [extractPass_cons_of_fault behaviour binding rest scene first, first] at finished
      cases finished
    | none =>
      rw [(extractPass_cons_of_none behaviour binding rest scene first).2] at finished
      rw [checkpoints_cons_of_none behaviour binding rest scene first, List.length_cons,
        List.length_cons, ih _ finished]

/-- A document that has bad tags has some behind every binding that is done. -/
theorem isMarred_of_mem_checkpoints (bindings : List (Binding F)) (scene : Scene F M)
    (marred : scene.isMarred = true) :
    ∀ checkpoint ∈ checkpoints behaviour bindings scene, checkpoint.isMarred = true := by
  induction bindings generalizing scene with
  | nil => simp [checkpoints]
  | cons binding rest ih =>
    cases first : (extract behaviour binding scene).fault? with
    | some fault => simp [checkpoints_cons_of_fault behaviour binding rest scene first]
    | none =>
      have still : (extract behaviour binding scene).scene.isMarred = true := by
        rw [Scene.isMarred_iff] at marred ⊢
        exact fun empty => marred
          (List.prefix_nil.mp (empty ▸ (Document.grown_extract behaviour binding scene).bad))
      rw [checkpoints_cons_of_none behaviour binding rest scene first]
      exact List.forall_mem_cons.mpr ⟨still, ih _ still⟩

/-- The checkpoints with bad tags are the last ones. -/
theorem filter_isMarred_suffix (bindings : List (Binding F)) (scene : Scene F M) :
    (checkpoints behaviour bindings scene).filter Scene.isMarred <:+
      checkpoints behaviour bindings scene := by
  induction bindings generalizing scene with
  | nil => exact List.suffix_refl _
  | cons binding rest ih =>
    cases first : (extract behaviour binding scene).fault? with
    | some fault =>
      rw [checkpoints_cons_of_fault behaviour binding rest scene first]
      exact List.suffix_refl _
    | none =>
      rw [checkpoints_cons_of_none behaviour binding rest scene first]
      cases marred : (extract behaviour binding scene).scene.isMarred with
      | true =>
        have whole := List.filter_eq_self.mpr (List.forall_mem_cons.mpr
          ⟨marred, isMarred_of_mem_checkpoints behaviour rest _ marred⟩)
        exact ⟨[], whole⟩
      | false =>
        rw [List.filter_cons_of_neg (by simp [marred])]
        exact (ih _).trans (List.suffix_cons _ _)

/-- A pass reports the bad tags at each of its checkpoints that has any. -/
theorem messages_extractPass (bindings : List (Binding F)) (scene : Scene F M) :
    (extractPass behaviour bindings scene).messages =
      ((checkpoints behaviour bindings scene).filter Scene.isMarred).map Scene.badTagReport := by
  induction bindings generalizing scene with
  | nil => rfl
  | cons binding rest ih =>
    cases first : (extract behaviour binding scene).fault? with
    | some fault =>
      rw [extractPass_cons_of_fault behaviour binding rest scene first,
        checkpoints_cons_of_fault behaviour binding rest scene first, messages_extract]
      rfl
    | none =>
      rw [messages_extractPass_cons behaviour binding rest scene first,
        checkpoints_cons_of_none behaviour binding rest scene first, ih]
      cases marred : (extract behaviour binding scene).scene.isMarred with
      | true =>
        rw [Scene.messages_report_of_marred ((Scene.isMarred_iff _).mp marred),
          List.filter_cons_of_pos marred]
        rfl
      | false =>
        have sound : (extract behaviour binding scene).scene.document.bad = [] :=
          Decidable.not_not.mp (mt (Scene.isMarred_iff _).mpr (by simp [marred]))
        rw [Scene.messages_report_of_sound sound, List.filter_cons_of_neg (by simp [marred])]
        rfl

/-- A pass over a document with bad tags reports every checkpoint. -/
theorem messages_of_marred (bindings : List (Binding F)) (scene : Scene F M)
    (marred : scene.document.bad ≠ []) :
    (extractPass behaviour bindings scene).messages =
      (checkpoints behaviour bindings scene).map Scene.badTagReport := by
  rw [messages_extractPass, List.filter_eq_self.mpr]
  exact isMarred_of_mem_checkpoints behaviour bindings scene ((Scene.isMarred_iff _).mpr marred)

/-- A receiver that changes no scene and does not fail is handed the checkpoints with bad tags and
their reports in order, while the pass goes on, and makes no difference to the pass. -/
theorem attend_eq_foldl {S : Type} {receiver : Receiver F M S} (quiet : receiver.Quiet)
    (bindings : List (Binding F)) (kept : S) (scene : Scene F M) :
    attend behaviour receiver bindings kept scene =
      ⟨((checkpoints behaviour bindings scene).filter Scene.isMarred).foldl
          (fun kept checkpoint => (receiver kept checkpoint checkpoint.badTagReport).kept) kept,
        extractPass behaviour bindings scene, none⟩ := by
  have handed : (attend behaviour receiver bindings kept scene).kept =
      ((checkpoints behaviour bindings scene).filter Scene.isMarred).foldl
        (fun kept checkpoint => (receiver kept checkpoint checkpoint.badTagReport).kept) kept := by
    induction bindings generalizing kept scene with
    | nil => rfl
    | cons binding rest ih =>
      cases first : (extract behaviour binding scene).fault? with
      | some fault =>
        rw [attend_cons_of_fault behaviour receiver binding rest kept scene first,
          checkpoints_cons_of_fault behaviour binding rest scene first]
        rfl
      | none =>
        rw [checkpoints_cons_of_none behaviour binding rest scene first]
        cases marred : (extract behaviour binding scene).scene.isMarred with
        | true =>
          rw [attend_cons_of_received rest first ((Scene.isMarred_iff _).mp marred) rfl
            (quiet.sound ..), List.filter_cons_of_pos marred, List.foldl_cons]
          refine (ih _ _).trans ?_
          rw [quiet.still]
        | false =>
          have sound : (extract behaviour binding scene).scene.document.bad = [] :=
            Decidable.not_not.mp (mt (Scene.isMarred_iff _).mpr (by simp [marred]))
          rw [attend_cons_of_sound behaviour receiver binding rest kept scene first sound,
            List.filter_cons_of_neg (by simp [marred])]
          exact ih _ _
  have pass := attend_of_quiet behaviour quiet bindings kept scene
  have taken := quiet.refusal?_attend behaviour bindings kept scene
  cases attended : attend behaviour receiver bindings kept scene with
  | mk left run refusal =>
    rw [attended] at handed pass taken
    subst handed pass taken
    rfl

end Checkpoints

end TagBinding.Live
