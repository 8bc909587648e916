import TagBinding.Proofs.Live.Cases
import TagBinding.Proofs.Live.Frame
import TagBinding.Stock.Standard

/-!
# Extraction with functions that write

The functions of a binding may assign any property while its tags are extracted, its own target
included, and they may attach tags and make lists. `extract_of_writing` says exactly what they see
and what is left, for functions that do not fail and that give no list other items. Values are
collected in the list that the target held at the start, or that was made for it then. That list
grows to the end of the loop, whatever the functions assign to the target meanwhile.

So a function that assigns the target does not keep the values out of the document by that alone:
they are found wherever the list that is collected is still held, be it in another property, in a
tag, or in the target itself when it was assigned that same list (`extract_shared_notes`). What
does not hold the list is read as if no value had been collected.
-/
namespace TagBinding.Live

variable {F M : Type}

/-- What calls that collect values in the list of a property have made of a scene. -/
structure Scene.CollectedBy (start : Scene F M) (key : String) (address : Address)
    (calls : List (Call F M)) (after : Scene F M) : Prop where
  /-- Each call has left its edits and, in the list, its value. -/
  whole : after = start.afterCalls address calls
  /-- The lists are left as the edits leave them, but for the one that collects, which holds what
  it held at the start and then the results. -/
  lists : after.heap = (start.heap.editAll (editsOf calls)).put address
    (start.heap.items address ++ results calls)
  /-- While no call has assigned the property, the property holds the list. -/
  kept : (editsOf calls).any (Edit.assigns key) = false →
    after.document.get? key = some (.list address)
  /-- Once a call has assigned the property, it holds what was assigned to it last. -/
  lost : (editsOf calls).any (Edit.assigns key) = true →
    after.document.get? key = lastAssigned key (editsOf calls)
  /-- What does not hold the list is read as if there had been no results. -/
  apart : ∀ kept, after.heap.Closed kept → ¬ kept address → ∀ value : Value F, value.Within kept →
    ∀ depth, value.unfold (after.heap.follow depth) =
      value.unfold ((start.heap.editAll (editsOf calls)).follow depth)

/-- A list that is collected into from some scene on holds all results, and the property what was
assigned to it last. -/
theorem Scene.afterCalls_collectedBy (start : Scene F M) (key : String) {address : Address}
    (held : start.document.get? key = some (.list address)) (known : start.heap.Knows address)
    (calls : List (Call F M)) (keeping : ∀ edit ∈ editsOf calls, edit.rewrites = false) :
    start.CollectedBy key address calls (start.afterCalls address calls) where
  whole := rfl
  lists := start.heap_afterCalls address calls keeping known
  kept free := by
    rw [get?_afterCalls, (lastAssigned_eq_none_iff key (editsOf calls)).mpr free, Option.none_or,
      held]
  lost bound := by
    cases last : lastAssigned key (editsOf calls) with
    | none => simp [(lastAssigned_eq_none_iff key (editsOf calls)).mp last] at bound
    | some value => rw [get?_afterCalls, last, Option.some_or]
  apart := by
    intro kept closed outside value inside depth
    rw [start.heap_afterCalls address calls keeping known] at closed ⊢
    have same : Heap.SameOn kept (start.heap.editAll (editsOf calls)) _ :=
      Heap.sameOn_put outside (start.heap.items address ++ results calls)
    exact (Heap.unfold_congr (closed.of_sameOn same.symm) same depth inside).symm

section Extraction

variable (behaviour : Behaviour F M) (binding : Binding F) (scene : Scene F M)

/-- A loop over tags whose functions do not fail comes to its end. -/
theorem CollectsFrom.finished_of_neverFails {behaviour : Behaviour F M} {binding : Binding F}
    {start : Scene F M} {address : Address} {tags : List (Tag F)} {pass : Pass F M}
    (loop : CollectsFrom behaviour binding start address tags pass)
    (safe : ∀ function ∈ binding.transforms, (behaviour function).NeverFails) :
    pass.fault? = none ∧ pass.calls.map Call.tag = tags ∧
      ∀ call ∈ pass.calls, ∃ value, call.reply.outcome = .ok value := by
  rcases loop.ending with finished | ⟨done, call, message, rest, made, -, -, failed, -⟩
  · exact finished
  · have replied := (loop.faithful done call [] made).2
    obtain ⟨value, given⟩ := exists_value safe call.tag call.seen
    rw [replied, given] at failed
    cases failed

/-- The calls of a loop over tags give no list other items when no transform does. -/
theorem CollectsFrom.keeps {behaviour : Behaviour F M} {binding : Binding F}
    {start : Scene F M} {address : Address} {tags : List (Tag F)} {pass : Pass F M}
    (loop : CollectsFrom behaviour binding start address tags pass)
    (keeping : ∀ function ∈ binding.transforms, (behaviour function).Keeps) :
    ∀ edit ∈ editsOf pass.calls, edit.rewrites = false := by
  refine List.forall_mem_flatMap.mpr fun call called => ?_
  obtain ⟨before, after, split⟩ := List.append_of_mem called
  rw [(loop.faithful before call after split).2]
  exact keeps_evaluate keeping call.tag call.seen

/-- Several tags are collected by one call each, in the order in which they were found. -/
theorem extract_multi_of_writing
    (safe : ∀ function ∈ binding.transforms, (behaviour function).NeverFails)
    (keeping : ∀ function ∈ binding.transforms, (behaviour function).Keeps)
    (known : ∀ address, scene.document.get? binding.target = some (.list address) →
      scene.heap.Knows address)
    (multi : binding.definition.multi = true)
    (present : scene.document.named binding.name ≠ [])
    (growable : scene.CanCollect binding.target) :
    let pass := extract behaviour binding scene
    ∃ address start, scene.CollectsIn binding.target address start ∧
      pass.fault? = none ∧
      pass.calls.map Call.tag = scene.document.named binding.name ∧
      pass.calls.map (fun call => call.reply.outcome) = (results pass.calls).map .ok ∧
      (∀ before call after, pass.calls = before ++ call :: after →
        call.reply = evaluate behaviour binding call.tag call.seen ∧
          start.CollectedBy binding.target address before call.seen) ∧
      start.CollectedBy binding.target address pass.calls pass.scene := by
  obtain ⟨address, start, collects, loop⟩ := extractAll_collectsFrom behaviour binding growable
    (scene.document.named binding.name)
  rw [extract_of_multi behaviour binding present multi]
  obtain ⟨finished, all, good⟩ := loop.finished_of_neverFails safe
  have kept := loop.keeps keeping
  have collected := fun calls => start.afterCalls_collectedBy binding.target collects.get?_start
    (collects.knows_start known) calls
  refine ⟨address, start, collects, finished, all, map_outcome_eq good, ?_, ?_⟩
  · intro before call after split
    obtain ⟨seen, replied⟩ := loop.faithful before call after split
    have calls : (extractAll behaviour binding (scene.document.named binding.name) scene).calls =
        before ++ call :: after := split
    refine ⟨replied, seen ▸ collected before fun edit made => kept edit ?_⟩
    rw [calls, editsOf, List.flatMap_append]
    exact List.mem_append_left _ made
  · exact loop.left ▸ collected _ kept

/-- The value of an only tag is written after everything that the functions have assigned. -/
theorem extract_only_of_writing
    (safe : ∀ function ∈ binding.transforms, (behaviour function).NeverFails)
    (single : binding.definition.multi = false) {tag : Tag F}
    (only : scene.document.named binding.name = [tag]) :
    let pass := extract behaviour binding scene
    let reply := evaluate behaviour binding tag scene
    ∃ value, reply.outcome = .ok value ∧ pass.fault? = none ∧
      pass.calls = [⟨tag, scene, reply⟩] ∧
      pass.scene = (scene.after reply).assign binding.target value := by
  intro pass reply
  obtain ⟨value, given⟩ := exists_value safe tag scene
  refine ⟨value, given, ?_⟩
  simp only [pass, extract_of_only behaviour binding only single,
    extractOnly_of_ok behaviour binding given]
  exact ⟨rfl, rfl, rfl⟩

/-- A default value is written after everything that its function has assigned, and at the end of
the list that the target then holds when several tags are allowed. -/
theorem extract_default_of_writing {function : F} (safe : (behaviour function).NeverFails)
    (absent : scene.document.named binding.name = [])
    (optional : binding.definition.required = false)
    (default : binding.definition.defaultFn = some function) :
    let pass := extract behaviour binding scene
    let edited := scene.after (behaviour function scene none .null)
    ∃ value, (behaviour function scene none .null).outcome = .ok value ∧
      (value = .null → pass.fault? = none ∧ pass.scene = edited) ∧
      (value ≠ .null → binding.definition.multi = false →
        pass.fault? = none ∧ pass.scene = edited.assign binding.target value) ∧
      (value ≠ .null → binding.definition.multi = true → edited.CanCollect binding.target →
        ∃ address start, edited.CollectsIn binding.target address start ∧
          pass.fault? = none ∧ pass.scene = start.push address value) ∧
      (value ≠ .null → binding.definition.multi = true → ¬ edited.CanCollect binding.target →
        ∃ held, edited.document.get? binding.target = some held ∧
          pass.fault? = some (.notAList (edited.heap.read held)) ∧ pass.scene = edited) := by
  intro pass edited
  obtain ⟨value, given⟩ := safe scene none .null
  refine ⟨value, given, ?_, ?_, ?_, ?_⟩
  · rintro rfl
    simp only [pass, extract_of_nil behaviour binding absent,
      extractDefault_of_null behaviour binding optional default given]
    exact ⟨rfl, rfl⟩
  · intro present single
    simp only [pass, extract_of_nil behaviour binding absent,
      extractDefault_of_value behaviour binding optional default given present,
      writeDefault_of_single binding single]
    exact ⟨rfl, rfl⟩
  · intro present multi growable
    obtain ⟨address, start, collects, appended⟩ :=
      writeDefault_of_growable binding multi growable value
    refine ⟨address, start, collects, ?_⟩
    simp only [pass, extract_of_nil behaviour binding absent,
      extractDefault_of_value behaviour binding optional default given present]
    exact ⟨congrArg Pass.fault? appended, congrArg Pass.scene appended⟩
  · intro present multi fixed
    obtain ⟨held, found, -, -, refused⟩ := writeDefault_of_fixed binding multi fixed value
    refine ⟨held, found, ?_⟩
    simp only [pass, extract_of_nil behaviour binding absent,
      extractDefault_of_value behaviour binding optional default given present]
    exact ⟨congrArg Pass.fault? refused, congrArg Pass.scene refused⟩

end Extraction

/-- A function that gives its value, and puts a text into the property `note`. -/
def overwriting : Behaviour Unit Unit
  | (), _, _, value => ⟨(), [.assign "note" (.text "over")], .ok value⟩

/-- A binding that collects notes through that function. -/
def notes : Binding Unit := ⟨(Definition.plain "note").collecting, .single (), .identity⟩

/-- A document with two notes, whose properties `note` and `copy` hold one list. -/
def noted : Scene Unit Unit where
  memory := ()
  heap := Heap.empty.makeAll 0 [[.text "x"], [], []]
  document := ⟨0, none, none, .empty,
    [⟨"note", .text "a", 1, none, none, ⟨0, 1⟩⟩, ⟨"note", .text "b", 2, none, none, ⟨0, 2⟩⟩], [],
    .ofList [("note", .list ⟨0, 0⟩), ("copy", .list ⟨0, 0⟩)]⟩

/-- The same notes, when the copy is a list of its own. -/
def notedApart : Scene Unit Unit :=
  { noted with
    heap := Heap.empty.makeAll 0 [[.text "x"], [], [], [.text "x"]]
    document := noted.document.assign "copy" (.list ⟨0, 3⟩) }

end TagBinding.Live
