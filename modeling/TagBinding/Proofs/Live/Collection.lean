import TagBinding.Proofs.Live.Edits
import TagBinding.Proofs.Live.Passes

/-!
# Collecting into a list

The loop over the tags of a binding holds on to one list and puts every value at its end. What
the functions do to the document meanwhile makes no difference to that: the scene after some calls
is the scene before them, changed by each call in turn and with its value in the list
(`Scene.afterCalls`). `CollectsFrom` says what the loop does in terms of this, for functions that
do whatever they like, failing included, and `collect_collectsFrom` proves it of the loop.

When no function gives a list other items, the list holds at every point what it held at the start
and then the values so far (`Scene.items_afterCalls`), whether or not the document still holds it.
-/
namespace TagBinding.Live

variable {F M : Type}

/-- The values that calls give, in order. -/
def results (calls : List (Call F M)) : List (Value F) :=
  calls.filterMap fun call => call.reply.outcome.toOption

/-- The edits that calls make, in order. -/
def editsOf (calls : List (Call F M)) : List (Edit F) := calls.flatMap fun call => call.reply.edits

/-- Without calls there are no values. -/
@[simp] theorem results_nil : results ([] : List (Call F M)) = [] := rfl

/-- Without calls there are no edits. -/
@[simp] theorem editsOf_nil : editsOf ([] : List (Call F M)) = [] := rfl

/-- The edits of the first call come first. -/
@[simp] theorem editsOf_cons (call : Call F M) (rest : List (Call F M)) :
    editsOf (call :: rest) = call.reply.edits ++ editsOf rest := rfl

/-- A call that gives a value gives one result. -/
theorem results_cons {call : Call F M} {value : Value F} (given : call.reply.outcome = .ok value)
    (rest : List (Call F M)) : results (call :: rest) = value :: results rest := by
  simp [results, given, Except.toOption]

/-- A call that fails has no result. -/
theorem results_cons_of_error {call : Call F M} {message : String}
    (failed : call.reply.outcome = .error message) (rest : List (Call F M)) :
    results (call :: rest) = results rest := by
  simp [results, failed, Except.toOption]

/-- The results of a call and of others are its own, if it has one, and then theirs. -/
theorem results_cons_eq (call : Call F M) (rest : List (Call F M)) :
    results (call :: rest) = call.reply.outcome.toOption.toList ++ results rest := by
  cases outcome : call.reply.outcome with
  | error message => exact results_cons_of_error outcome rest
  | ok value => exact results_cons outcome rest

/-- When every call gives a value, the results are the outcomes of the calls, one each. -/
theorem map_outcome_eq {calls : List (Call F M)}
    (good : ∀ call ∈ calls, ∃ value, call.reply.outcome = .ok value) :
    calls.map (fun call => call.reply.outcome) = (results calls).map .ok := by
  induction calls with
  | nil => rfl
  | cons call rest ih =>
    obtain ⟨⟨value, given⟩, tail⟩ := List.forall_mem_cons.mp good
    rw [results_cons given, List.map_cons, List.map_cons, given, ih tail]

namespace Scene

/-- A scene after a call, with the value of the call, if it gives one, at the end of a list. -/
def afterCall (scene : Scene F M) (address : Address) (call : Call F M) : Scene F M :=
  match call.reply.outcome with
  | .error _ => scene.after call.reply
  | .ok value => (scene.after call.reply).push address value

/-- A scene after calls whose values are put at the end of a list. -/
def afterCalls (scene : Scene F M) (address : Address) (calls : List (Call F M)) : Scene F M :=
  calls.foldl (fun left call => left.afterCall address call) scene

variable (scene : Scene F M) (address : Address)

/-- Without calls a scene stays as it is. -/
@[simp] theorem afterCalls_nil : scene.afterCalls address [] = scene := rfl

/-- The first call comes before the others. -/
@[simp] theorem afterCalls_cons (call : Call F M) (rest : List (Call F M)) :
    scene.afterCalls address (call :: rest) = (scene.afterCall address call).afterCalls address rest :=
  rfl

/-- Calls in two runs are calls in one. -/
theorem afterCalls_append (first second : List (Call F M)) :
    scene.afterCalls address (first ++ second) =
      (scene.afterCalls address first).afterCalls address second := by
  simp [afterCalls, List.foldl_append]

/-- A call that fails leaves what its reply leaves. -/
theorem afterCall_of_error {call : Call F M} {message : String}
    (failed : call.reply.outcome = .error message) :
    scene.afterCall address call = scene.after call.reply := by
  simp only [afterCall, failed]

/-- A call that gives a value leaves it at the end of the list. -/
theorem afterCall_of_ok {call : Call F M} {value : Value F}
    (given : call.reply.outcome = .ok value) :
    scene.afterCall address call = (scene.after call.reply).push address value := by
  simp only [afterCall, given]

/-- A call changes the document by its edits only. -/
theorem document_afterCall (call : Call F M) :
    (scene.afterCall address call).document = (scene.editAll call.reply.edits).document := by
  unfold afterCall
  split <;> rfl

/-- After calls a property holds the value that their edits leave in it, or else what it held
before. -/
theorem get?_afterCalls (calls : List (Call F M)) (key : String) :
    (scene.afterCalls address calls).document.get? key =
      (lastAssigned key (editsOf calls)).or (scene.document.get? key) := by
  induction calls generalizing scene with
  | nil => rfl
  | cons call rest ih =>
    rw [afterCalls_cons, ih, document_afterCall, get?_editAll, editsOf_cons, lastAssigned_append,
      Option.or_assoc]

/-- Calls whose edits assign no property leave all properties as they are, with their places. -/
theorem properties_afterCalls_of_free (calls : List (Call F M))
    (free : ∀ edit ∈ editsOf calls, ∀ key, edit.assigns key = false) :
    (scene.afterCalls address calls).document.properties = scene.document.properties := by
  induction calls generalizing scene with
  | nil => rfl
  | cons call rest ih =>
    rw [editsOf_cons, List.forall_mem_append] at free
    rw [afterCalls_cons, ih _ free.2, document_afterCall]
    exact scene.properties_editAll_of_free call.reply.edits free.1

/-- A call whose edits give no list other items leaves the lists as its edits leave them, but for the
one that its value is put in, which has it behind what it held before. -/
theorem heap_afterCall (call : Call F M)
    (keeping : ∀ edit ∈ call.reply.edits, edit.rewrites = false)
    (known : scene.heap.Knows address) :
    (scene.afterCall address call).heap =
      (scene.heap.editAll call.reply.edits).put address
        (scene.heap.items address ++ call.reply.outcome.toOption.toList) := by
  have kept : (scene.heap.editAll call.reply.edits).items address = scene.heap.items address := by
    rw [← scene.heap_editAll]
    exact (scene.extends_editAll call.reply.edits keeping).items address known
  cases outcome : call.reply.outcome with
  | error message =>
    rw [scene.afterCall_of_error address outcome]
    simp only [Except.toOption, Option.toList_none, List.append_nil, ← kept, Heap.put_items]
    exact scene.heap_editAll call.reply.edits
  | ok value =>
    rw [scene.afterCall_of_ok address outcome]
    show (scene.editAll call.reply.edits).heap.push address value = _
    rw [scene.heap_editAll, Heap.push, kept]
    rfl

/-- A list that is there stays there during a call. -/
theorem knows_afterCall (call : Call F M)
    (keeping : ∀ edit ∈ call.reply.edits, edit.rewrites = false) {other : Address}
    (known : scene.heap.Knows other) : (scene.afterCall address call).heap.Knows other := by
  have stays := (scene.extends_editAll call.reply.edits keeping).knows known
  unfold afterCall
  split <;> exact stays

/-- When no call gives a list other items, the lists are left as the edits of all calls leave them,
but for the one that the values are put in, which has them behind what it held before. -/
theorem heap_afterCalls (calls : List (Call F M))
    (keeping : ∀ edit ∈ editsOf calls, edit.rewrites = false)
    (known : scene.heap.Knows address) :
    (scene.afterCalls address calls).heap =
      (scene.heap.editAll (editsOf calls)).put address
        (scene.heap.items address ++ results calls) := by
  induction calls generalizing scene with
  | nil =>
    rw [results_nil, List.append_nil]
    exact (scene.heap.put_items address).symm
  | cons call rest ih =>
    rw [editsOf_cons, List.forall_mem_append] at keeping
    obtain ⟨head, tail⟩ := keeping
    have stays : (scene.heap.editAll call.reply.edits).Knows address := by
      rw [← scene.heap_editAll]
      exact (scene.extends_editAll call.reply.edits head).knows known
    rw [afterCalls_cons, ih _ tail (scene.knows_afterCall address call head known),
      scene.heap_afterCall address call head known, Heap.editAll_put _ stays _ _ tail,
      Heap.put_put, editsOf_cons, Heap.editAll_append, Heap.items_put, if_pos rfl,
      results_cons_eq, List.append_assoc]

/-- When no call gives a list other items, the list that the values are put in holds what it held
before and then the values, and every other list that was there holds what it held. -/
theorem items_afterCalls (calls : List (Call F M))
    (keeping : ∀ edit ∈ editsOf calls, edit.rewrites = false)
    (known : scene.heap.Knows address) (other : Address) (there : scene.heap.Knows other) :
    (scene.afterCalls address calls).heap.items other =
      if other = address then scene.heap.items other ++ results calls
      else scene.heap.items other := by
  have kept : (scene.heap.editAll (editsOf calls)).items other = scene.heap.items other := by
    rw [← scene.heap_editAll]
    exact (scene.extends_editAll (editsOf calls) keeping).items other there
  rw [scene.heap_afterCalls address calls keeping known, Heap.items_put, kept]
  by_cases same : other = address
  · rw [if_pos same, if_pos same, same]
  · rw [if_neg same, if_neg same]

end Scene

/-- That a part of a pass asks for the values of tags and puts them at the end of a list. -/
structure CollectsFrom (behaviour : Behaviour F M) (binding : Binding F) (start : Scene F M)
    (address : Address) (tags : List (Tag F)) (pass : Pass F M) : Prop where
  /-- Every call finds the scene as the calls before it have left it, and replies what the
  functions of the binding reply in that scene. -/
  faithful : ∀ before call after, pass.calls = before ++ call :: after →
    call.seen = start.afterCalls address before ∧
      call.reply = evaluate behaviour binding call.tag call.seen
  /-- The scene is left as all calls leave it. -/
  left : pass.scene = start.afterCalls address pass.calls
  /-- Nothing happens but calls. -/
  quiet : pass.events = pass.calls.map .evaluated
  /-- Either every tag has had its call, and every call has given a value, or the last call has
  failed, and the tags after it have had none. -/
  ending : (pass.fault? = none ∧ pass.calls.map Call.tag = tags ∧
      ∀ call ∈ pass.calls, ∃ value, call.reply.outcome = .ok value) ∨
    ∃ done call message rest, pass.calls = done ++ [call] ∧
      tags = done.map Call.tag ++ call.tag :: rest ∧
      (∀ call ∈ done, ∃ value, call.reply.outcome = .ok value) ∧
      call.reply.outcome = .error message ∧ pass.fault? = some (.functionFailed message)

section Loop

variable (behaviour : Behaviour F M) (binding : Binding F) (address : Address)
  {call : Call F M}

/-- A failing call ends the loop. -/
theorem collect_cons_of_error (rest : List (Tag F)) {message : String}
    (replied : call.reply = evaluate behaviour binding call.tag call.seen)
    (failed : call.reply.outcome = .error message) :
    collect behaviour binding address (call.tag :: rest) call.seen =
      .after (.evaluated call)
        (.failed (call.seen.afterCall address call) (.functionFailed message)) := by
  simp only [collect, ← replied, failed, Scene.afterCall]

/-- A call that gives a value is followed by the loop over the other tags. -/
theorem collect_cons_of_ok (rest : List (Tag F)) {value : Value F}
    (replied : call.reply = evaluate behaviour binding call.tag call.seen)
    (given : call.reply.outcome = .ok value) :
    collect behaviour binding address (call.tag :: rest) call.seen =
      .after (.evaluated call)
        (collect behaviour binding address rest (call.seen.afterCall address call)) := by
  simp only [collect, ← replied, given, Scene.afterCall]

/-- A failing call is the last one. -/
theorem collectsFrom_failed (rest : List (Tag F)) {message : String}
    (replied : call.reply = evaluate behaviour binding call.tag call.seen)
    (failed : call.reply.outcome = .error message) :
    CollectsFrom behaviour binding call.seen address (call.tag :: rest)
      (.after (.evaluated call)
        (.failed (call.seen.afterCall address call) (.functionFailed message))) where
  faithful := by
    intro before other after split
    obtain ⟨rfl, rfl, -⟩ : before = [] ∧ other = call ∧ after = [] := by
      simpa [eq_comm, List.append_eq_singleton_iff] using split
    exact ⟨rfl, replied⟩
  left := rfl
  quiet := rfl
  ending := .inr ⟨[], call, message, rest, rfl, rfl, by simp, failed, rfl⟩

/-- A call that gives a value comes before the calls that collect from there on. -/
theorem CollectsFrom.cons {rest : List (Tag F)} {value : Value F} {pass : Pass F M}
    (replied : call.reply = evaluate behaviour binding call.tag call.seen)
    (given : call.reply.outcome = .ok value)
    (tail : CollectsFrom behaviour binding (call.seen.afterCall address call) address rest pass) :
    CollectsFrom behaviour binding call.seen address (call.tag :: rest)
      (.after (.evaluated call) pass) where
  faithful := by
    intro before other after split
    cases before with
    | nil =>
      obtain ⟨rfl, -⟩ : call = other ∧ pass.calls = after := by simpa using split
      exact ⟨rfl, replied⟩
    | cons first before =>
      obtain ⟨rfl, later⟩ : call = first ∧ pass.calls = before ++ other :: after := by
        simpa using split
      exact tail.faithful before other after later
  left := by simp [tail.left]
  quiet := by simp [tail.quiet]
  ending := by
    rcases tail.ending with ⟨finished, all, good⟩ | ⟨done, last, message, others, ends⟩
    · refine .inl ⟨finished, by simp [all], ?_⟩
      simpa using ⟨⟨value, given⟩, good⟩
    · obtain ⟨made, tags, good, failed, fault⟩ := ends
      refine .inr ⟨call :: done, last, message, others, by simp [made], by simp [tags], ?_,
        failed, fault⟩
      simpa using ⟨⟨value, given⟩, good⟩

/-- The loop over tags puts their values in its list. -/
theorem collect_collectsFrom (start : Scene F M) (tags : List (Tag F)) :
    CollectsFrom behaviour binding start address tags
      (collect behaviour binding address tags start) := by
  induction tags generalizing start with
  | nil =>
    exact ⟨fun before call after split => by simp [collect] at split, rfl, rfl,
      .inl ⟨rfl, rfl, by simp [collect]⟩⟩
  | cons tag rest ih =>
    obtain ⟨call, rfl, rfl, replied⟩ : ∃ call : Call F M, call.tag = tag ∧ call.seen = start ∧
        call.reply = evaluate behaviour binding call.tag call.seen :=
      ⟨⟨tag, start, evaluate behaviour binding tag start⟩, rfl, rfl, rfl⟩
    cases outcome : call.reply.outcome with
    | error message =>
      rw [collect_cons_of_error behaviour binding address rest replied outcome]
      exact collectsFrom_failed behaviour binding address rest replied outcome
    | ok value =>
      rw [collect_cons_of_ok behaviour binding address rest replied outcome]
      exact (ih (call.seen.afterCall address call)).cons behaviour binding address replied outcome

end Loop

end TagBinding.Live
