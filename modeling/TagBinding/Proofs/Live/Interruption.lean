import TagBinding.Proofs.Live.Cases
import TagBinding.Stock.Standard

/-!
# Passes that end early

A pass ends at the first binding whose extraction fails, or when the receiver of its reports fails.
`Interruption` lists the seven ways in which the extraction of a binding can fail, each with the
scene, the events and the fault that are left, and `interruption_of_fault` shows that there is no
other. A pass that ends early is then the pass over the bindings before the failing one, followed
by one of these seven (`attend_interrupted`), whatever the functions and the receiver do.

What is left is said of the lists themselves. The results of the calls before a failing one are in
the list that the target collects, and so they are seen wherever else that list is held; every
other list holds what it held.
-/
namespace TagBinding.Live

variable {F M S : Type}

/-- How the extraction of a binding ends early in a scene. -/
inductive Interruption (behaviour : Behaviour F M) (binding : Binding F) (scene : Scene F M) :
    Pass F M → Prop where
  /-- A required tag is missing. No function is run. -/
  | missing (absent : scene.document.named binding.name = [])
      (required : binding.definition.required = true) :
      Interruption behaviour binding scene
        ⟨scene, [.began binding.name binding.target],
          some (.missingTag binding.name scene.document.file scene.document.startingLine)⟩
  /-- There are several tags where one is allowed. No function is run. -/
  | duplicate (several : 2 ≤ (scene.document.named binding.name).length)
      (single : binding.definition.multi = false) :
      Interruption behaviour binding scene
        ⟨scene, [.began binding.name binding.target],
          some (.duplicateTag binding.name (scene.document.named binding.name).length
            scene.document.file scene.document.startingLine)⟩
  /-- There are tags to collect, and the target holds something that cannot grow. No function is
  run. -/
  | fixed {held : Value F} (present : scene.document.named binding.name ≠ [])
      (multi : binding.definition.multi = true)
      (found : scene.document.get? binding.target = some held) (notNull : held ≠ .null)
      (notList : ∀ address, held ≠ .list address) :
      Interruption behaviour binding scene
        ⟨scene, [.began binding.name binding.target], some (.notAList (scene.heap.read held))⟩
  /-- The call for an only tag fails. Its edits stay, and the target is not written. -/
  | only {tag : Tag F} {message : String} (only : scene.document.named binding.name = [tag])
      (single : binding.definition.multi = false)
      (failed : (evaluate behaviour binding tag scene).outcome = .error message) :
      Interruption behaviour binding scene
        ⟨scene.after (evaluate behaviour binding tag scene),
          [.began binding.name binding.target,
            .evaluated ⟨tag, scene, evaluate behaviour binding tag scene⟩],
          some (.functionFailed message)⟩
  /-- The call for one of several tags fails. What the calls before it have left stays, with the
  edits of the failing call, and the tags after it have no call. -/
  | collecting {address : Address} {start : Scene F M} {done : List (Call F M)} {call : Call F M}
      {rest : List (Tag F)} {message : String} (multi : binding.definition.multi = true)
      (collects : scene.CollectsIn binding.target address start)
      (found : scene.document.named binding.name = done.map Call.tag ++ call.tag :: rest)
      (good : ∀ former ∈ done, ∃ value, former.reply.outcome = .ok value)
      (faithful : ∀ before later after, done ++ [call] = before ++ later :: after →
        later.seen = start.afterCalls address before ∧
          later.reply = evaluate behaviour binding later.tag later.seen)
      (failed : call.reply.outcome = .error message) :
      Interruption behaviour binding scene
        ⟨(start.afterCalls address done).after call.reply,
          .began binding.name binding.target :: (done ++ [call]).map .evaluated,
          some (.functionFailed message)⟩
  /-- The default function fails. Its edits stay, and the target is not written. -/
  | default {function : F} {message : String}
      (absent : scene.document.named binding.name = [])
      (optional : binding.definition.required = false)
      (default : binding.definition.defaultFn = some function)
      (failed : (behaviour function scene none .null).outcome = .error message) :
      Interruption behaviour binding scene
        ⟨scene.after (behaviour function scene none .null),
          [.began binding.name binding.target,
            .defaulted scene (behaviour function scene none .null)],
          some (.functionFailed message)⟩
  /-- There is a default value to collect, and the target, as the default function has left it,
  holds something that cannot grow. The edits of the function stay. -/
  | fixedDefault {function : F} {value held : Value F}
      (absent : scene.document.named binding.name = [])
      (optional : binding.definition.required = false)
      (multi : binding.definition.multi = true)
      (default : binding.definition.defaultFn = some function)
      (given : (behaviour function scene none .null).outcome = .ok value)
      (present : value ≠ .null)
      (found : (scene.after (behaviour function scene none .null)).document.get? binding.target =
        some held)
      (notNull : held ≠ .null) (notList : ∀ address, held ≠ .list address) :
      Interruption behaviour binding scene
        ⟨scene.after (behaviour function scene none .null),
          [.began binding.name binding.target,
            .defaulted scene (behaviour function scene none .null)],
          some (.notAList ((scene.after (behaviour function scene none .null)).heap.read held))⟩

section Failing

variable {behaviour : Behaviour F M} {binding : Binding F} {scene : Scene F M} {fault : Fault F}

/-- A default value can be written unless it is to be collected in a target that cannot grow. -/
theorem not_canCollect_of_writeDefault (binding : Binding F) (value : Value F)
    (failed : (writeDefault binding value scene).fault? = some fault) :
    binding.definition.multi = true ∧ ¬ scene.CanCollect binding.target := by
  cases multi : binding.definition.multi with
  | false => simp [writeDefault_of_single binding multi] at failed
  | true =>
    refine ⟨rfl, fun growable => ?_⟩
    obtain ⟨address, start, -, written⟩ := writeDefault_of_growable binding multi growable value
    simp [written] at failed

/-- Without tags the extraction fails for want of a required tag or with the default. -/
theorem interruption_of_nil (absent : scene.document.named binding.name = [])
    (failed : (extract behaviour binding scene).fault? = some fault) :
    Interruption behaviour binding scene (extract behaviour binding scene) := by
  rw [extract_of_nil behaviour binding absent] at failed ⊢
  cases required : binding.definition.required with
  | true =>
    rw [extractDefault_of_required behaviour binding required]
    exact .missing absent required
  | false =>
    cases default : binding.definition.defaultFn with
    | none => simp [extractDefault_of_none behaviour binding required default] at failed
    | some function =>
      cases outcome : (behaviour function scene none .null).outcome with
      | error message =>
        rw [extractDefault_of_error behaviour binding required default outcome]
        exact .default absent required default outcome
      | ok value =>
        by_cases null : value = .null
        · subst null
          simp [extractDefault_of_null behaviour binding required default outcome] at failed
        · rw [extractDefault_of_value behaviour binding required default outcome null]
            at failed ⊢
          obtain ⟨multi, fixed⟩ := not_canCollect_of_writeDefault binding value failed
          obtain ⟨held, found, notNull, notList, refused⟩ :=
            writeDefault_of_fixed binding multi fixed value
          rw [refused]
          exact .fixedDefault absent required multi default outcome null found notNull notList

/-- With several tags to collect the extraction fails at the target or in a call. -/
theorem interruption_of_multi (present : scene.document.named binding.name ≠ [])
    (multi : binding.definition.multi = true)
    (failed : (extract behaviour binding scene).fault? = some fault) :
    Interruption behaviour binding scene (extract behaviour binding scene) := by
  rw [extract_of_multi behaviour binding present multi] at failed ⊢
  by_cases growable : scene.CanCollect binding.target
  · obtain ⟨address, start, collects, loop⟩ := extractAll_collectsFrom behaviour binding growable
      (scene.document.named binding.name)
    rcases loop.ending with ⟨finished, -⟩ | ⟨done, call, message, rest, made, found, ends⟩
    · simp [finished] at failed
    · obtain ⟨good, broken, stopped⟩ := ends
      have left := loop.left
      have quiet := loop.quiet
      rw [made, Scene.afterCalls_append, Scene.afterCalls_cons, Scene.afterCalls_nil,
        Scene.afterCall_of_error _ _ broken] at left
      rw [made] at quiet
      have whole : (extractAll behaviour binding (scene.document.named binding.name) scene).after
          (.began binding.name binding.target) =
            ⟨(start.afterCalls address done).after call.reply,
              .began binding.name binding.target :: (done ++ [call]).map .evaluated,
              some (.functionFailed message)⟩ :=
        Pass.ext left (congrArg (List.cons _) quiet) stopped
      rw [whole]
      refine .collecting multi collects found good ?_ broken
      intro before later after split
      exact loop.faithful before later after (made.trans split)
  · obtain ⟨held, found, notNull, notList, refused⟩ :=
      extractAll_of_fixed behaviour binding growable (scene.document.named binding.name)
    rw [refused]
    exact .fixed present multi found notNull notList

/-- With tags where one is allowed the extraction fails because there are several, or in the
call. -/
theorem interruption_of_single (present : scene.document.named binding.name ≠ [])
    (single : binding.definition.multi = false)
    (failed : (extract behaviour binding scene).fault? = some fault) :
    Interruption behaviour binding scene (extract behaviour binding scene) := by
  match found : scene.document.named binding.name with
  | [] => exact absurd found present
  | [tag] =>
    rw [extract_of_only behaviour binding found single] at failed ⊢
    cases outcome : (evaluate behaviour binding tag scene).outcome with
    | error message =>
      rw [extractOnly_of_error behaviour binding outcome]
      exact .only found single outcome
    | ok value => simp [extractOnly_of_ok behaviour binding outcome] at failed
  | tag :: second :: rest =>
    have several : 2 ≤ (scene.document.named binding.name).length := by simp [found]
    rw [extract_of_several behaviour binding several single]
    exact .duplicate several single

/-- An extraction that fails ends in one of the ways that are listed. -/
theorem interruption_of_fault (failed : (extract behaviour binding scene).fault? = some fault) :
    Interruption behaviour binding scene (extract behaviour binding scene) := by
  by_cases absent : scene.document.named binding.name = []
  · exact interruption_of_nil absent failed
  · cases allowed : binding.definition.multi with
    | true => exact interruption_of_multi absent allowed failed
    | false => exact interruption_of_single absent allowed failed

/-- What is left when a call for one of several tags has failed and no call has assigned a property
or given a list other items: the properties as they were, the target with its list, the results of
the tags before in that list, and in every other list what it held. -/
theorem Interruption.left_of_attaching {own : Pass F M} {message : String}
    (interruption : Interruption behaviour binding scene own)
    (present : scene.document.named binding.name ≠ [])
    (multi : binding.definition.multi = true)
    (failed : own.fault? = some (.functionFailed message))
    (free : ∀ call ∈ own.calls, ∀ edit ∈ call.reply.edits, ∀ key, edit.assigns key = false)
    (keeping : ∀ call ∈ own.calls, ∀ edit ∈ call.reply.edits, edit.rewrites = false)
    (known : ∀ address, scene.document.get? binding.target = some (.list address) →
      scene.heap.Knows address) :
    ∃ address start, scene.CollectsIn binding.target address start ∧
      own.scene = start.afterCalls address own.calls ∧
      own.scene.document.properties = start.document.properties ∧
      ∀ other, start.heap.Knows other → own.scene.heap.items other =
        if other = address then start.heap.items other ++ results own.calls
        else start.heap.items other := by
  cases interruption with
  | missing absent => exact absurd absent present
  | duplicate _ single => simp [multi] at single
  | fixed => simp at failed
  | only _ single => simp [multi] at single
  | default absent => exact absurd absent present
  | fixedDefault absent => exact absurd absent present
  | @collecting address start done call rest message _ collects _ _ _ broken =>
    rw [Pass.calls_of_evaluated] at free keeping ⊢
    have none : ∀ edit ∈ editsOf (done ++ [call]), ∀ key, edit.assigns key = false :=
      List.forall_mem_flatMap.mpr free
    have kept : ∀ edit ∈ editsOf (done ++ [call]), edit.rewrites = false :=
      List.forall_mem_flatMap.mpr keeping
    have left : (start.afterCalls address done).after call.reply =
        start.afterCalls address (done ++ [call]) := by
      rw [Scene.afterCalls_append, Scene.afterCalls_cons, Scene.afterCalls_nil,
        Scene.afterCall_of_error _ _ broken]
    refine ⟨address, start, collects, left, ?_, ?_⟩
    · rw [left]
      exact start.properties_afterCalls_of_free address (done ++ [call]) none
    · intro other there
      rw [left]
      exact start.items_afterCalls address (done ++ [call]) kept (collects.knows_start known) other
        there

end Failing

/-- A pass that ends early splits at the binding at which it ends: the bindings before it are done,
and then either its extraction fails, or the receiver does when it is handed the report. The
bindings after it have no part in that. -/
theorem attend_split_of_fault (behaviour : Behaviour F M) (receiver : Receiver F M S)
    (bindings : List (Binding F)) (kept : S) (scene : Scene F M) {fault : Fault F}
    (failed : (attend behaviour receiver bindings kept scene).pass.fault? = some fault) :
    ∃ done binding rest, bindings = done ++ binding :: rest ∧
      let before := attend behaviour receiver done kept scene
      let own := extract behaviour binding before.pass.scene
      let receipt := receiver before.kept own.scene own.scene.badTagReport
      before.pass.fault? = none ∧
        (own.fault? = some fault ∨
          own.fault? = none ∧ own.scene.document.bad ≠ [] ∧
            ∃ failure, receipt.failure? = some failure ∧ fault = .functionFailed failure) := by
  induction bindings generalizing kept scene with
  | nil => cases failed
  | cons binding rest ih =>
    cases ended : (extract behaviour binding scene).fault? with
    | some own =>
      rw [attend_cons_of_fault behaviour receiver binding rest kept scene ended] at failed
      exact ⟨[], binding, rest, rfl, rfl, .inl failed⟩
    | none =>
      by_cases sound : (extract behaviour binding scene).scene.document.bad = []
      · rw [attend_cons_of_sound behaviour receiver binding rest kept scene ended sound] at failed
        obtain ⟨done, stopped, others, split, finished, broken⟩ := ih _ _ failed
        refine ⟨binding :: done, stopped, others, congrArg (List.cons binding) split, ?_⟩
        rw [attend_cons_of_sound behaviour receiver binding done kept scene ended sound]
        exact ⟨finished, broken⟩
      · cases taken : (receiver kept (extract behaviour binding scene).scene
            (extract behaviour binding scene).scene.badTagReport).failure? with
        | some failure =>
          rw [attend_cons_of_failure rest ended sound rfl taken] at failed
          exact ⟨[], binding, rest, rfl, rfl,
            .inr ⟨ended, sound, failure, taken, (Option.some.inj failed).symm⟩⟩
        | none =>
          rw [attend_cons_of_received rest ended sound rfl taken] at failed
          obtain ⟨done, stopped, others, split, finished, broken⟩ := ih _ _ failed
          refine ⟨binding :: done, stopped, others, congrArg (List.cons binding) split, ?_⟩
          rw [attend_cons_of_received done ended sound rfl taken]
          exact ⟨finished, broken⟩

/-- A binding whose extraction fails ends the pass behind the bindings before it, which leave the
receiver what it has; the bindings after it do not matter. -/
theorem attend_of_fault_at (behaviour : Behaviour F M) (receiver : Receiver F M S)
    (done : List (Binding F)) (binding : Binding F) (rest : List (Binding F)) (kept : S)
    (scene : Scene F M) (finished : (attend behaviour receiver done kept scene).pass.fault? = none)
    {fault : Fault F} (broken : (extract behaviour binding
      (attend behaviour receiver done kept scene).pass.scene).fault? = some fault) :
    attend behaviour receiver (done ++ binding :: rest) kept scene =
      (⟨(attend behaviour receiver done kept scene).kept, extract behaviour binding
        (attend behaviour receiver done kept scene).pass.scene, none⟩ : Attended F M S).afterAll
        (attend behaviour receiver done kept scene).pass.events := by
  rw [attend_append]
  simp only [Attended.andThen, finished]
  rw [attend_cons_of_fault behaviour receiver binding rest _ _ broken]

/-- A pass that ends early, whatever receives its reports, is the pass over the bindings before some
binding, which is done, and then either the extraction of that binding, which fails in one of the
ways that are listed, or the report after it, with which the receiver fails. In the first case the
receiver has what the bindings before have left it, and the bindings after do not matter. -/
theorem attend_interrupted (behaviour : Behaviour F M) (receiver : Receiver F M S)
    (bindings : List (Binding F)) (kept : S) (scene : Scene F M) {fault : Fault F}
    (failed : (attend behaviour receiver bindings kept scene).pass.fault? = some fault) :
    let attended := attend behaviour receiver bindings kept scene
    ∃ done binding rest, bindings = done ++ binding :: rest ∧
      let before := attend behaviour receiver done kept scene
      let own := extract behaviour binding before.pass.scene
      let receipt := receiver before.kept own.scene own.scene.badTagReport
      before.pass.fault? = none ∧
        (own.fault? = some fault ∧
            attended =
              ⟨before.kept, ⟨own.scene, before.pass.events ++ own.events, some fault⟩, none⟩ ∧
            attended.pass.messages = before.pass.messages ∧
            (∀ others,
              attend behaviour receiver (done ++ binding :: others) kept scene = attended) ∧
            Interruption behaviour binding before.pass.scene own ∧
            (∀ message, fault = .functionFailed message → binding.definition.multi = true →
              before.pass.scene.document.named binding.name ≠ [] →
              (∀ call ∈ own.calls, ∀ edit ∈ call.reply.edits, ∀ key,
                edit.assigns key = false) →
              (∀ call ∈ own.calls, ∀ edit ∈ call.reply.edits, edit.rewrites = false) →
              (∀ address, before.pass.scene.document.get? binding.target = some (.list address) →
                before.pass.scene.heap.Knows address) →
              ∃ address start, before.pass.scene.CollectsIn binding.target address start ∧
                own.scene = start.afterCalls address own.calls ∧
                own.scene.document.properties = start.document.properties ∧
                ∀ other, start.heap.Knows other → own.scene.heap.items other =
                  if other = address then start.heap.items other ++ results own.calls
                  else start.heap.items other) ∨
          own.fault? = none ∧ own.scene.document.bad ≠ [] ∧
            ∃ failure, receipt.failure? = some failure ∧ fault = .functionFailed failure) := by
  intro attended
  obtain ⟨done, binding, rest, split, finished, ending⟩ :=
    attend_split_of_fault behaviour receiver bindings kept scene failed
  refine ⟨done, binding, rest, split, finished, ending.imp_left fun broken => ?_⟩
  have whole := fun others =>
    attend_of_fault_at behaviour receiver done binding others kept scene finished broken
  have same : attended = _ :=
    (congrArg (attend behaviour receiver · kept scene) split).trans (whole rest)
  have quiet : (extract behaviour binding
      (attend behaviour receiver done kept scene).pass.scene).messages = [] :=
    messages_extract behaviour binding
  refine ⟨broken, ?_, ?_, fun others => (whole others).trans same.symm,
    interruption_of_fault broken, ?_⟩
  · simp only [same, Attended.afterAll, broken]
  · rw [Pass.messages] at quiet
    rw [same, Attended.afterAll, Pass.messages, List.filterMap_append, quiet, List.append_nil,
      Pass.messages]
  · rintro message rfl multi present free keeping known
    exact (interruption_of_fault broken).left_of_attaching present multi broken free keeping known

/-- A function that gives its value, but fails when it is called for the second time. -/
def faltering : Behaviour Unit Nat
  | (), scene, _, value =>
    ⟨scene.memory + 1, [], if scene.memory = 1 then .error "again" else .ok value⟩

/-- Two properties for the one title, remarks that are put at the end of the first of them and pass
through that function, and an author. -/
def outline : List (Binding Unit) :=
  [⟨(Definition.plain "title").onto "lines", .identity, .identity⟩,
    ⟨(Definition.plain "title").onto "heading", .identity, .identity⟩,
    ⟨((Definition.plain "remark").onto "lines").collecting, .single (), .identity⟩,
    ⟨.plain "author", .identity, .identity⟩]

/-- A document with a title that is a list, two remarks and an author. -/
def outlined : Scene Unit Nat where
  memory := 0
  heap := Heap.empty.makeAll 0 [[.text "T"], [], [], [], []]
  document := ⟨0, none, none, .empty,
    [⟨"title", .list ⟨0, 0⟩, 1, none, none, ⟨0, 1⟩⟩, ⟨"remark", .text "one", 2, none, none, ⟨0, 2⟩⟩,
      ⟨"remark", .text "two", 3, none, none, ⟨0, 3⟩⟩, ⟨"author", .text "A", 4, none, none, ⟨0, 4⟩⟩],
    [], .empty⟩

/-- The second remark ends the pass over the outline, before the author. The first one is in the
list of the title, which both properties hold. -/
theorem attend_outline_interrupted :
    let receiver : Receiver Unit Nat (List String) :=
      .ofMessages fun kept message => kept ++ [message]
    let attended := attend faltering receiver outline [] outlined
    attended.pass.fault? = some (.functionFailed "again") ∧
      attended.pass.scene.document.get? "lines" = some (.list ⟨0, 0⟩) ∧
      attended.pass.scene.document.get? "heading" = some (.list ⟨0, 0⟩) ∧
      attended.pass.scene.heap.items ⟨0, 0⟩ = [.text "T", .text "one"] ∧
      ∃ done binding rest, outline = done ++ binding :: rest ∧
        let before := attend faltering receiver done [] outlined
        before.pass.fault? = none ∧ attended.kept = before.kept ∧
          Interruption faltering binding before.pass.scene
            (extract faltering binding before.pass.scene) := by
  intro receiver attended
  have failed : attended.pass.fault? = some (.functionFailed "again") := rfl
  obtain ⟨done, binding, rest, split, finished, ended | ⟨-, -, failure, refused, -⟩⟩ :=
    attend_interrupted faltering receiver outline [] outlined failed
  · obtain ⟨-, whole, -, -, interruption, -⟩ := ended
    have kept : attended.kept = (attend faltering receiver done [] outlined).kept := by
      rw [show attended = _ from whole]
    exact ⟨failed, rfl, rfl, rfl, done, binding, rest, split, finished, kept, interruption⟩
  · cases refused

end TagBinding.Live
