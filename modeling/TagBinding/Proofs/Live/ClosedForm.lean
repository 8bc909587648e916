import TagBinding.Proofs.ClosedForm
import TagBinding.Proofs.Live.Arrivals
import TagBinding.Proofs.Live.Builtins
import TagBinding.Stock.Standard

/-!
# A live pass in closed form

What a pass of settled functions comes to can be read off from the portrait of the scene at its
start, if there is one (`extractPass_in_closed_form`): if every list that a collecting binding finds
in its target is held there and nowhere else. Without that it cannot. Two properties that hold one
list, as two plain bindings of one tag leave it, both show what either of them collects
(`extractPass_pairing_shared`).
-/
namespace TagBinding.Live

variable {F M : Type}

/-- What a live pass with settled functions comes to, when no list in which values are collected is
held in a second place. It succeeds exactly when the document meets every binding, and stops with
the fault for the first one that it does not meet otherwise. Of the document only properties change.
They are read afterwards as what the bindings up to there leave: their values behind the items that
a collecting property held, and the last value alone in any other one. New properties come in the
order of the bindings. -/
theorem extractPass_in_closed_form {reliance : Reliance F M} {behaviour : Behaviour F M}
    {plain : TagBinding.Behaviour F}
    {transform : F → TagBinding.Tag F → TagBinding.Value F → TagBinding.Value F}
    {fallback : F → TagSet F → TagBinding.Value F} (bindings : List (Binding F))
    (implements : ∀ binding ∈ bindings,
      Binding.Implements reliance (Collecting bindings) behaviour plain binding)
    (settled : ∀ binding ∈ bindings, binding.Settled plain transform fallback)
    (apart : ∀ first ∈ bindings, ∀ second ∈ bindings, first.target = second.target →
      first.definition.multi = second.definition.multi) {kept : Address → Prop}
    {scene : Scene F M} {document : TagBinding.Document F}
    (ready : scene.Ready reliance (Collecting bindings) kept document)
    (growable : ∀ binding ∈ bindings, binding.definition.multi = true →
      scene.CanCollect binding.target) :
    let pass := extractPass behaviour bindings scene
    let found := fun binding : Binding F => scene.document.named binding.name
    let completed := bindings.takeWhile fun binding => decide (binding.Met document.tags)
    let yield := Binding.yield transform fallback document.tags
    (pass.fault? = none ↔ ∀ binding ∈ bindings,
      (found binding ≠ [] ∨ binding.definition.required = false) ∧
        (binding.definition.multi = true ∨ (found binding).length ≤ 1)) ∧
    (∀ done binding rest, bindings = done ++ binding :: rest →
      (∀ former ∈ done, former.Met document.tags) → ¬ binding.Met document.tags →
      pass.fault? = some (if found binding = []
        then .missingTag binding.name scene.document.file scene.document.startingLine
        else .duplicateTag binding.name (found binding).length scene.document.file
          scene.document.startingLine)) ∧
    ∃ wider left, pass.scene.Ready reliance (Collecting bindings) wider left ∧
      left.tags = document.tags ∧ left.file = document.file ∧
      left.startingLine = document.startingLine ∧
      (∀ key, (∀ binding ∈ bindings, binding.target = key → binding.definition.multi = true) →
        left.get? key =
          if gathered yield completed key = [] then document.get? key
          else some (.list (document.items key ++ gathered yield completed key))) ∧
      (∀ key, (∀ binding ∈ bindings, binding.target = key → binding.definition.multi = false) →
        left.get? key = ((gathered yield completed key).getLast?).or (document.get? key)) ∧
      pass.scene.document.properties.keys = scene.document.properties.keys ++
        ((written yield completed).filter fun key =>
          !scene.document.properties.keys.contains key).eraseDups := by
  intro pass found completed yield
  have portrayed := extractPass_portrayed implements (collects_of_apart apart) ready
  obtain ⟨succeeds, stops, tags, file, line, collected, single, keys⟩ :=
    TagBinding.extractPass_closed_form bindings document settled apart fun binding inside multi =>
      ready.canCollect_iff.mp (growable binding inside multi)
  have count : ∀ binding : Binding F,
      (found binding).length = (document.tags.named binding.name).length :=
    fun binding => (ready.named binding.name).length_eq
  have absent : ∀ binding : Binding F, found binding = [] ↔ document.tags.named binding.name = [] :=
    fun binding => by rw [← List.length_eq_zero_iff, count, List.length_eq_zero_iff]
  refine ⟨?_, ?_, ?_⟩
  · simp only [count, ne_eq, absent]
    exact portrayed.fault?_eq_none_iff.trans succeeds
  · intro done binding rest split former broken
    simp only [count, absent, ready.file, ready.startingLine]
    refine portrayed.fault?_eq_some (stops done binding rest split former broken) fun held => ?_
    split <;> simp
  · obtain ⟨wider, left⟩ := portrayed.scene
    refine ⟨wider, _, left, tags, file, line, collected, single, ?_⟩
    rw [left.keys, keys, ready.keys]

/-- Two bindings that collect references in one property, a title, and an author, who has to be
named. -/
def referencing : List (Binding Builtin) :=
  [⟨((Definition.plain "see").onto "links").collecting, .single .trimWhitespace, .identity⟩,
    ⟨.plain "title", .identity, .single .trimWhitespace⟩,
    ⟨((Definition.plain "link").onto "links").collecting, .identity, .identity⟩,
    ⟨{ Definition.plain "author" with required := true }, .identity, .identity⟩]

/-- A document with references and a title, whose author is not named. -/
def referenced : TagBinding.Document Builtin :=
  ⟨some "f", some 1, .ofList .empty
    [⟨"link", .text "l", 1, none, none, []⟩, ⟨"see", .text " s ", 2, none, none, []⟩,
      ⟨"title", .text "T ", 3, none, none, []⟩],
    .ofList [("links", .null)]⟩

/-- The missing author stops the pass, and the references and the title are there. -/
theorem extractPass_referenced :
    ∃ live wider left,
      (Session.ofPlain () ⟨[referenced], [], []⟩).documents[0]? = some live ∧
      let pass := extractPass builtin referencing
        ((Session.ofPlain () ⟨[referenced], [], []⟩).sceneOf live)
      pass.fault? = some (.missingTag "author" (some "f") (some 1)) ∧
      pass.scene.Ready .nothing (Collecting referencing) wider left ∧
      left.get? "links" = some (.list [.text "s", .text "l"]) ∧
      left.get? "title" = some (.text "T") ∧
      pass.scene.document.properties.keys = ["links", "title"] := by
  have trims : ∀ binding ∈ referencing, ∀ function ∈ binding.transforms,
      function = .trimWhitespace := by decide
  have without : ∀ binding ∈ referencing, binding.definition.defaultFn = none := by decide
  have settled : ∀ binding ∈ referencing,
      binding.Settled Builtin.routine (fun _ _ value => value.trimmed) (fun _ _ => .null) := by
    intro binding inside
    constructor
    · intro function used document tag value
      rw [trims binding inside function used]
      rfl
    · intro function given
      rw [without binding inside] at given
      cases given
  have apart : ∀ first ∈ referencing, ∀ second ∈ referencing, first.target = second.target →
      first.definition.multi = second.definition.multi := by decide
  have null : ∀ binding ∈ referencing, binding.definition.multi = true →
      referenced.get? binding.target = some .null := by
    intro binding inside multi
    simp only [referencing, List.mem_cons, List.not_mem_nil, or_false] at inside
    rcases inside with rfl | rfl | rfl | rfl
    · rfl
    · cases multi
    · rfl
    · cases multi
  obtain ⟨live, kept, present, ready⟩ :=
    Session.ready_ofPlain () ⟨[referenced], [], []⟩ (Collecting referencing)
      (show [referenced][0]? = some referenced from rfl)
  have growable : ∀ binding ∈ referencing, binding.definition.multi = true →
      ((Session.ofPlain () ⟨[referenced], [], []⟩).sceneOf live).CanCollect binding.target :=
    fun binding inside multi => ready.canCollect_iff.mpr fun held found =>
      .inl (Option.some.inj (found.symm.trans (null binding inside multi)))
  have nobody : live.named "author" = [] :=
    List.eq_nil_of_length_eq_zero (ready.named "author").length_eq
  obtain ⟨-, stops, wider, left, same, -, -, -, collected, single, keys⟩ :=
    extractPass_in_closed_form referencing (fun binding _ => implements_builtin_self binding)
      settled apart ready growable
  have stopped := stops (referencing.take 3) _ [] rfl (by decide) (by decide)
  refine ⟨live, wider, left, present, ?_, same, ?_, ?_, ?_⟩
  · rw [ready.file, ready.startingLine] at stopped
    exact stopped.trans (congrArg some (if_pos nobody))
  · exact collected "links" (by decide)
  · exact single "title" (by decide)
  · rw [ready.keys] at keys
    exact keys

/-- There are no functions. -/
def functionless : Behaviour Empty Unit := fun function => function.elim

/-- A scene with a tag that describes a list, and with two tags that describe a text. -/
def listed : Scene Empty Unit where
  memory := ()
  heap := Heap.empty.makeAll 0 [[.text "q"], [], [], []]
  document := ⟨0, none, none, .empty,
    [⟨"a", .list ⟨0, 0⟩, 1, none, none, ⟨0, 1⟩⟩, ⟨"b", .text "B", 2, none, none, ⟨0, 2⟩⟩,
      ⟨"c", .text "C", 3, none, none, ⟨0, 3⟩⟩], [], .empty⟩

/-- Two bindings that put what one tag describes into two properties. -/
def doubling : List (Binding Empty) :=
  [⟨(Definition.plain "a").onto "x", .identity, .identity⟩,
    ⟨(Definition.plain "a").onto "y", .identity, .identity⟩]

/-- Two bindings that collect values in these properties. -/
def pairing : List (Binding Empty) :=
  [⟨((Definition.plain "b").onto "x").collecting, .identity, .identity⟩,
    ⟨((Definition.plain "c").onto "y").collecting, .identity, .identity⟩]

/-- The scene that the former bindings leave: both properties hold the list that the tag
describes. -/
def shared : Scene Empty Unit := (extractPass functionless doubling listed).scene

/-- In that scene both properties hold one item and can be collected in, and one value is collected
in each of them. Afterwards each of them shows both values. -/
theorem extractPass_pairing_shared :
    let pass := extractPass functionless pairing shared
    (∀ first ∈ pairing, ∀ second ∈ pairing, first.target = second.target →
        first.definition.multi = second.definition.multi) ∧
      (∀ binding ∈ pairing, shared.CanCollect binding.target) ∧
      (∀ key ∈ ["x", "y"], (shared.document.get? key).map shared.heap.read =
        some (.list [.text "q"])) ∧
      (shared.document.named "b").map Tag.description = [.text "B"] ∧
      (shared.document.named "c").map Tag.description = [.text "C"] ∧
      pass.fault? = none ∧
      ∀ key ∈ ["x", "y"], (pass.scene.document.get? key).map pass.scene.heap.read =
        some (.list [.text "q", .text "B", .text "C"]) := by
  have held : ∀ binding ∈ pairing, shared.document.get? binding.target = some (.list ⟨0, 0⟩) := by
    simp only [pairing, List.forall_mem_cons]
    exact ⟨rfl, rfl, fun _ inside => absurd inside List.not_mem_nil⟩
  refine ⟨by decide, ?_, ?_, rfl, rfl, rfl, ?_⟩
  · exact fun binding inside value found =>
      .inr ⟨_, Option.some.inj (found.symm.trans (held binding inside))⟩
  · simp only [List.forall_mem_cons]
    exact ⟨rfl, rfl, fun _ inside => absurd inside List.not_mem_nil⟩
  · simp only [List.forall_mem_cons]
    exact ⟨rfl, rfl, fun _ inside => absurd inside List.not_mem_nil⟩

end TagBinding.Live
