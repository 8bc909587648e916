import TagBinding.Live.Session

/-!
# Live passes in parts

A live pass is put together from parts as a plain one is, with a turn of the receiver behind every
binding that is done. So what runs over a list of bindings may be split anywhere (`attend_append`).
A receiver of reports that changes no scene and does not fail makes no difference to the pass: it is
handed the messages of the pass in order (`attend_of_quiet`).
-/
namespace TagBinding.Live

variable {F M : Type}

namespace Pass

/-- Two passes that end alike, after the same events, are equal. -/
@[ext] theorem ext {left right : Pass F M} (scene : left.scene = right.scene)
    (events : left.events = right.events) (fault? : left.fault? = right.fault?) :
    left = right := by
  cases left
  cases right
  cases scene
  cases events
  cases fault?
  rfl

/-- An event changes no scene. -/
@[simp] theorem scene_after (event : Event F M) (pass : Pass F M) :
    (pass.after event).scene = pass.scene := rfl

/-- An event stops no pass. -/
@[simp] theorem fault?_after (event : Event F M) (pass : Pass F M) :
    (pass.after event).fault? = pass.fault? := rfl

/-- An event that comes first stands before the other ones. -/
@[simp] theorem events_after (event : Event F M) (pass : Pass F M) :
    (pass.after event).events = event :: pass.events := rfl

/-- A pass that fails at once leaves the scene. -/
@[simp] theorem scene_failed (scene : Scene F M) (fault : Fault F) :
    (failed scene fault).scene = scene := rfl

/-- A pass in which nothing happens leaves the scene. -/
@[simp] theorem scene_still (scene : Scene F M) : (still scene).scene = scene :=
  rfl

/-- A pass that fails at once ends with its fault. -/
@[simp] theorem fault?_failed (scene : Scene F M) (fault : Fault F) :
    (failed scene fault).fault? = some fault := rfl

/-- A pass in which nothing happens ends well. -/
@[simp] theorem fault?_still (scene : Scene F M) : (still scene).fault? = none := rfl

/-- Where nothing happens nothing is called. -/
@[simp] theorem calls_still (scene : Scene F M) : (still scene).calls = [] := rfl

/-- Where all fails at once nothing is called. -/
@[simp] theorem calls_failed (scene : Scene F M) (fault : Fault F) :
    (failed scene fault).calls = [] := rfl

/-- The start of a binding is no call. -/
@[simp] theorem calls_after_began (name target : String) (pass : Pass F M) :
    (pass.after (.began name target)).calls = pass.calls := rfl

/-- A default is not called for a tag. -/
@[simp] theorem calls_after_defaulted (seen : Scene F M) (reply : Reply F M) (pass : Pass F M) :
    (pass.after (.defaulted seen reply)).calls = pass.calls := rfl

/-- A call that comes first stands before the other ones. -/
@[simp] theorem calls_after_evaluated (call : Call F M) (pass : Pass F M) :
    (pass.after (.evaluated call)).calls = call :: pass.calls := rfl

/-- The calls of a part that makes calls for one binding are these calls. -/
@[simp] theorem calls_of_evaluated (scene : Scene F M) (name target : String)
    (calls : List (Call F M)) (fault? : Option (Fault F)) :
    (⟨scene, .began name target :: calls.map .evaluated, fault?⟩ : Pass F M).calls = calls := by
  have each : Event.call? ∘ Event.evaluated = (some : Call F M → Option (Call F M)) := rfl
  simp only [Pass.calls, List.filterMap_cons, Event.call?, List.filterMap_map, each,
    List.filterMap_some]

/-- Where nothing happens nothing is reported. -/
@[simp] theorem messages_still (scene : Scene F M) : (still scene).messages = [] := rfl

/-- Where all fails at once nothing is reported. -/
@[simp] theorem messages_failed (scene : Scene F M) (fault : Fault F) :
    (failed scene fault).messages = [] := rfl

/-- The start of a binding reports nothing. -/
@[simp] theorem messages_after_began (name target : String) (pass : Pass F M) :
    (pass.after (.began name target)).messages = pass.messages := rfl

/-- A default reports nothing. -/
@[simp] theorem messages_after_defaulted (seen : Scene F M) (reply : Reply F M) (pass : Pass F M) :
    (pass.after (.defaulted seen reply)).messages = pass.messages := rfl

/-- A call reports nothing. -/
@[simp] theorem messages_after_evaluated (call : Call F M) (pass : Pass F M) :
    (pass.after (.evaluated call)).messages = pass.messages := rfl

/-- A part that ended early has nothing after it. -/
theorem andThen_of_fault {pass : Pass F M} (next : Scene F M → Pass F M) {fault : Fault F}
    (failed : pass.fault? = some fault) : pass.andThen next = pass := by
  simp only [andThen, failed]

/-- A part that came to its end is followed by the next one, on the scene that it leaves. -/
theorem andThen_of_none {pass : Pass F M} (next : Scene F M → Pass F M)
    (done : pass.fault? = none) :
    pass.andThen next =
      ⟨(next pass.scene).scene, pass.events ++ (next pass.scene).events,
        (next pass.scene).fault?⟩ := by
  simp only [andThen, done]

end Pass

/-- A report never ends a pass. -/
@[simp] theorem Scene.fault?_report (scene : Scene F M) : scene.report.fault? = none := by
  unfold report
  split <;> rfl

/-- A report changes no scene. -/
@[simp] theorem Scene.scene_report (scene : Scene F M) :
    scene.report.scene = scene := by
  unfold report
  split <;> rfl

/-- A binding that ends a pass early leaves it as its own extraction left it. -/
theorem extractPass_cons_of_fault (behaviour : Behaviour F M) (binding : Binding F)
    (rest : List (Binding F)) (scene : Scene F M) {fault : Fault F}
    (failed : (extract behaviour binding scene).fault? = some fault) :
    extractPass behaviour (binding :: rest) scene = extract behaviour binding scene := by
  simp only [extractPass, Pass.andThen_of_fault _ failed]

/-- A binding that is done is followed by the pass over the other ones. -/
theorem extractPass_cons_of_none (behaviour : Behaviour F M) (binding : Binding F)
    (rest : List (Binding F)) (scene : Scene F M)
    (done : (extract behaviour binding scene).fault? = none) :
    (extractPass behaviour (binding :: rest) scene).scene =
        (extractPass behaviour rest (extract behaviour binding scene).scene).scene ∧
      (extractPass behaviour (binding :: rest) scene).fault? =
        (extractPass behaviour rest (extract behaviour binding scene).scene).fault? := by
  have reported : ((extract behaviour binding scene).andThen Scene.report).fault? = none := by
    simp [Pass.andThen_of_none _ done]
  rw [extractPass, Pass.andThen_of_none _ reported, Pass.andThen_of_none _ done]
  simp

section Receivers

variable {S : Type}

/-- That a receiver leaves every scene as it is. -/
def Receiver.Still (receiver : Receiver F M S) : Prop :=
  ∀ kept scene message, (receiver kept scene message).scene = scene

/-- That a receiver changes no scene and does not fail. -/
structure Receiver.Quiet (receiver : Receiver F M S) : Prop where
  /-- It leaves every scene as it is. -/
  still : receiver.Still
  /-- It never fails. -/
  sound : ∀ kept scene message, (receiver kept scene message).failure? = none

/-- A pass over one more binding: its own extraction, which ends it if it fails, and else the
report and the pass over the other ones. -/
theorem extractPass_cons (behaviour : Behaviour F M) (binding : Binding F)
    (rest : List (Binding F)) (scene : Scene F M) :
    extractPass behaviour (binding :: rest) scene =
      let own := extract behaviour binding scene
      match own.fault? with
      | some _ => own
      | none =>
        let others := extractPass behaviour rest own.scene
        ⟨others.scene, own.events ++ (own.scene.report.events ++ others.events), others.fault?⟩ := by
  dsimp only
  cases ended : (extract behaviour binding scene).fault? with
  | some fault => exact extractPass_cons_of_fault behaviour binding rest scene ended
  | none =>
    have reported : ((extract behaviour binding scene).andThen Scene.report).fault? = none := by
      simp [Pass.andThen_of_none _ ended]
    rw [extractPass, Pass.andThen_of_none _ reported, Pass.andThen_of_none _ ended]
    simp

/-- Without bad tags nothing is reported. -/
theorem Scene.messages_report_of_sound {scene : Scene F M} (sound : scene.document.bad = []) :
    scene.report.messages = [] := by
  simp only [report, sound, List.isEmpty_nil, if_true]
  rfl

/-- With bad tags there is one report. -/
theorem Scene.messages_report_of_marred {scene : Scene F M} (marred : scene.document.bad ≠ []) :
    scene.report.messages = [scene.badTagReport] := by
  rw [report, if_neg (mt List.isEmpty_iff.mp marred)]
  rfl

/-- The events of a report: one with its message, or none without bad tags. -/
theorem Scene.events_report (scene : Scene F M) :
    scene.report.events =
      if scene.document.bad.isEmpty then [] else [.reported scene.badTagReport] := by
  unfold report
  split <;> rfl

section Attending

variable (behaviour : Behaviour F M) (receiver : Receiver F M S) (binding : Binding F)
  (rest : List (Binding F)) (kept : S) (scene : Scene F M)

/-- A binding that fails ends the pass, and the receiver is handed nothing. -/
theorem attend_cons_of_fault {fault : Fault F}
    (failed : (extract behaviour binding scene).fault? = some fault) :
    attend behaviour receiver (binding :: rest) kept scene =
      ⟨kept, extract behaviour binding scene, none⟩ := by
  simp only [attend, failed]

/-- After a binding that is done, and without bad tags, the other bindings are taken up. -/
theorem attend_cons_of_sound (done : (extract behaviour binding scene).fault? = none)
    (sound : (extract behaviour binding scene).scene.document.bad = []) :
    attend behaviour receiver (binding :: rest) kept scene =
      (attend behaviour receiver rest kept (extract behaviour binding scene).scene).afterAll
        (extract behaviour binding scene).events := by
  simp only [attend, done, sound, List.isEmpty_nil, if_true]

variable {behaviour receiver binding kept scene}

/-- A receiver that fails ends the pass behind the report that it was handed. -/
theorem attend_cons_of_failure (done : (extract behaviour binding scene).fault? = none)
    (marred : (extract behaviour binding scene).scene.document.bad ≠ []) {receipt : Receipt F M S}
    (received : receiver kept (extract behaviour binding scene).scene
      (extract behaviour binding scene).scene.badTagReport = receipt) {failure : String}
    (failed : receipt.failure? = some failure) :
    attend behaviour receiver (binding :: rest) kept scene =
      ⟨receipt.kept, ⟨receipt.scene, (extract behaviour binding scene).events ++
        [.reported (extract behaviour binding scene).scene.badTagReport],
        some (.functionFailed failure)⟩, some failure⟩ := by
  subst received
  have some : ¬ (extract behaviour binding scene).scene.document.bad.isEmpty = true :=
    mt List.isEmpty_iff.mp marred
  simp only [attend, done, if_neg some, failed]

/-- After a report that is received the other bindings are taken up, on the scene that the receiver
leaves. -/
theorem attend_cons_of_received (done : (extract behaviour binding scene).fault? = none)
    (marred : (extract behaviour binding scene).scene.document.bad ≠ []) {receipt : Receipt F M S}
    (received : receiver kept (extract behaviour binding scene).scene
      (extract behaviour binding scene).scene.badTagReport = receipt)
    (taken : receipt.failure? = none) :
    attend behaviour receiver (binding :: rest) kept scene =
      (attend behaviour receiver rest receipt.kept receipt.scene).afterAll
        ((extract behaviour binding scene).events ++
          [.reported (extract behaviour binding scene).scene.badTagReport]) := by
  subst received
  have some : ¬ (extract behaviour binding scene).scene.document.bad.isEmpty = true :=
    mt List.isEmpty_iff.mp marred
  simp only [attend, done, if_neg some, taken]

end Attending

/-- A part that is attended and the one that follows it, unless it ended early. -/
def Attended.andThen (attended : Attended F M S) (next : S → Scene F M → Attended F M S) :
    Attended F M S :=
  match attended.pass.fault? with
  | some _ => attended
  | none => (next attended.kept attended.pass.scene).afterAll attended.pass.events

/-- Events before a part are also before what follows it. -/
theorem Attended.andThen_afterAll (events : List (Event F M)) (attended : Attended F M S)
    (next : S → Scene F M → Attended F M S) :
    (attended.afterAll events).andThen next = (attended.andThen next).afterAll events := by
  cases failed : attended.pass.fault? with
  | some fault => simp only [andThen, afterAll, failed]
  | none => simp only [andThen, afterAll, failed, List.append_assoc]

/-- The bindings in a row are attended first ones first, and then the others. -/
theorem attend_append (behaviour : Behaviour F M) (receiver : Receiver F M S)
    (first second : List (Binding F)) (kept : S) (scene : Scene F M) :
    attend behaviour receiver (first ++ second) kept scene =
      (attend behaviour receiver first kept scene).andThen
        (attend behaviour receiver second) := by
  induction first generalizing kept scene with
  | nil => rfl
  | cons binding rest ih =>
    rw [List.cons_append]
    cases ended : (extract behaviour binding scene).fault? with
    | some fault =>
      rw [attend_cons_of_fault behaviour receiver binding _ kept scene ended,
        attend_cons_of_fault behaviour receiver binding rest kept scene ended]
      simp only [Attended.andThen, ended]
    | none =>
      by_cases sound : (extract behaviour binding scene).scene.document.bad = []
      · rw [attend_cons_of_sound behaviour receiver binding _ kept scene ended sound,
          attend_cons_of_sound behaviour receiver binding rest kept scene ended sound, ih,
          Attended.andThen_afterAll]
      · cases taken : (receiver kept (extract behaviour binding scene).scene
            (extract behaviour binding scene).scene.badTagReport).failure? with
        | some failure =>
          rw [attend_cons_of_failure _ ended sound rfl taken,
            attend_cons_of_failure rest ended sound rfl taken]
          rfl
        | none =>
          rw [attend_cons_of_received _ ended sound rfl taken,
            attend_cons_of_received rest ended sound rfl taken, ih, Attended.andThen_afterAll]

/-- A receiver that changes no scene, and that has not ended the pass, makes no difference to it. -/
theorem attend_of_still (behaviour : Behaviour F M) {receiver : Receiver F M S}
    (still : receiver.Still) (bindings : List (Binding F)) (kept : S) (scene : Scene F M)
    (taken : (attend behaviour receiver bindings kept scene).refusal? = none) :
    (attend behaviour receiver bindings kept scene).pass = extractPass behaviour bindings scene := by
  induction bindings generalizing kept scene with
  | nil => rfl
  | cons binding rest ih =>
    cases ended : (extract behaviour binding scene).fault? with
    | some fault =>
      rw [attend_cons_of_fault behaviour receiver binding rest kept scene ended,
        extractPass_cons_of_fault behaviour binding rest scene ended]
    | none =>
      rw [extractPass_cons]
      simp only [ended, Scene.events_report]
      by_cases sound : (extract behaviour binding scene).scene.document.bad = []
      · rw [attend_cons_of_sound behaviour receiver binding rest kept scene ended sound] at taken ⊢
        simp only [Attended.afterAll, ih _ _ taken, sound, List.isEmpty_nil, if_true,
          List.nil_append]
      · have some : ¬ (extract behaviour binding scene).scene.document.bad.isEmpty = true :=
          mt List.isEmpty_iff.mp sound
        cases received : (receiver kept (extract behaviour binding scene).scene
            (extract behaviour binding scene).scene.badTagReport).failure? with
        | some failure =>
          rw [attend_cons_of_failure rest ended sound rfl received] at taken
          cases taken
        | none =>
          rw [attend_cons_of_received rest ended sound rfl received] at taken ⊢
          simp only [Attended.afterAll, ih _ _ taken, if_neg some, List.append_assoc]
          rw [still]

/-- A receiver that never fails ends no pass. -/
theorem Receiver.Quiet.refusal?_attend {receiver : Receiver F M S} (quiet : receiver.Quiet)
    (behaviour : Behaviour F M) (bindings : List (Binding F)) (kept : S) (scene : Scene F M) :
    (attend behaviour receiver bindings kept scene).refusal? = none := by
  induction bindings generalizing kept scene with
  | nil => rfl
  | cons binding rest ih =>
    cases ended : (extract behaviour binding scene).fault? with
    | some fault => rw [attend_cons_of_fault behaviour receiver binding rest kept scene ended]
    | none =>
      by_cases sound : (extract behaviour binding scene).scene.document.bad = []
      · rw [attend_cons_of_sound behaviour receiver binding rest kept scene ended sound]
        exact ih _ _
      · rw [attend_cons_of_received rest ended sound rfl (quiet.sound ..)]
        exact ih _ _

/-- A quiet receiver makes no difference to a pass. -/
theorem attend_of_quiet (behaviour : Behaviour F M) {receiver : Receiver F M S}
    (quiet : receiver.Quiet) (bindings : List (Binding F)) (kept : S) (scene : Scene F M) :
    (attend behaviour receiver bindings kept scene).pass = extractPass behaviour bindings scene :=
  attend_of_still behaviour quiet.still bindings kept scene
    (quiet.refusal?_attend behaviour bindings kept scene)

/-- A receiver that looks at messages only, does nothing else and does not fail. -/
def Receiver.ofMessages (take : S → String → S) : Receiver F M S :=
  fun kept scene message => ⟨take kept message, scene, none⟩

/-- A receiver that looks at messages only is quiet. -/
theorem Receiver.quiet_ofMessages (take : S → String → S) :
    (Receiver.ofMessages take : Receiver F M S).Quiet :=
  ⟨fun _ _ _ => rfl, fun _ _ _ => rfl⟩

end Receivers

end TagBinding.Live
