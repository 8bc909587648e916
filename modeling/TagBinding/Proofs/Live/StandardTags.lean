import TagBinding.Proofs.Live.ClosedForm
import TagBinding.Proofs.StandardTags

/-!
# What the standard definitions extract from live documents

The functions of the standard definitions do in a scene what the plain ones do to its portrait. So the
table of the standard definitions (`standardProperty`) says what the properties of a live document
are read as after a pass (`extractPass_standard_tags`), as long as the lists that are found in
`params`, `examples` and `see` are held there and nowhere else. If two of these properties hold one
list, both show what is collected in either of them (`extractPass_standard_shared`).
-/
namespace TagBinding.Live

variable {F M : Type}

open Definition

/-- The built-in functions differ in what they give for a text with a blank. -/
theorem builtin_injective (scene : Scene F M) :
    Function.Injective (builtin : Builtin → Routine F M) := by
  intro one other same
  have trimmed : Text.trim " a" ≠ " a" := by decide
  have shorter : Text.trim " a" ≠ "module" := by decide
  have outcomes := congrArg (fun routine : Routine F M =>
    (routine scene (some ⟨"", .null, 0, none, none, ⟨0, 0⟩⟩) (.text " a")).outcome) same
  cases one <;> cases other <;> first | rfl | grind [builtin, Scene.give, Value.trimmed]

/-- Functions among which are the built-in ones have plain functions among which are the plain
built-in ones. -/
theorem exists_plain_builtins {behaviour : Behaviour F M} {known : Builtin → F}
    (knows : ∀ function, behaviour (known function) = builtin function) (scene : Scene F M) :
    ∃ plain : TagBinding.Behaviour F, ∀ function, plain (known function) = function.routine := by
  classical
  refine ⟨fun name => if own : ∃ function, known function = name then own.choose.routine
    else .identity, fun function => ?_⟩
  have own : ∃ other, known other = known function := ⟨function, rfl⟩
  have same : own.choose = function := by
    refine builtin_injective scene ?_
    rw [← knows, ← knows, own.choose_spec]
  exact (dif_pos own).trans (congrArg Builtin.routine same)

/-- The functions of the standard definitions implement the plain built-in ones. -/
theorem implements_standard {reliance : Reliance F M} {collecting : String → Prop}
    {behaviour : Behaviour F M} {plain : TagBinding.Behaviour F} {known : Builtin → F}
    (knows : ∀ function, behaviour (known function) = builtin function)
    (knowsPlain : ∀ function, plain (known function) = function.routine) :
    ∀ binding ∈ standardBindings known,
      Binding.Implements reliance collecting behaviour plain binding := by
  intro binding inside
  refine implements_of_builtin known knows knowsPlain ?_ ?_
  · intro function used
    obtain ⟨own, -, same⟩ := transforms_standard known binding inside function used
    exact ⟨own, same⟩
  · exact fun function given => ⟨_, default_standard known binding inside function given⟩

/-- The standard definitions collect values in three properties. -/
theorem collects_standard (known : Builtin → F) : ∀ binding ∈ standardBindings known,
    Binding.Collects (· ∈ ["params", "examples", "see"]) binding := by
  have literal : (standardBindings known).map
      (fun binding => (binding.definition.multi, binding.target)) =
        [(false, "name"), (false, "module"), (false, "kind"), (false, "description"),
          (true, "params"), (false, "returns"), (true, "examples"), (true, "see"),
          (false, "deprecated"), (false, "private")] := rfl
  have each : ∀ entry ∈ [(false, "name"), (false, "module"), (false, "kind"),
      (false, "description"), (true, "params"), (false, "returns"), (true, "examples"),
      (true, "see"), (false, "deprecated"), (false, "private")],
      entry.1 = true ↔ entry.2 ∈ ["params", "examples", "see"] := by decide
  intro binding inside
  exact each (binding.definition.multi, binding.target) (literal ▸ List.mem_map_of_mem inside)

/-- What a pass with the standard definitions comes to, for a comment whose tags are filed under
the standard aliases, when the lists that are found in `params`, `examples` and `see` are held there
and nowhere else. It succeeds exactly when each of the seven tags that may occur once does so at
most; it stops otherwise at the first of these, in the order of the definitions, that occurs more
often, with a complaint on how often it does, after the writes of the definitions before. When it
succeeds, all definitions have written: each property is read as what the table says, and any other
one as what it was read as before. -/
theorem extractPass_standard_tags (behaviour : Behaviour F M) (known : Builtin → F)
    (knows : ∀ function, behaviour (known function) = builtin function) {kept : Address → Prop}
    {scene : Scene F M} {document : TagBinding.Document F}
    (portrays : scene.Portrays (· ∈ ["params", "examples", "see"]) kept document)
    (added : List (TagBinding.Tag F)) (filed : document.tags = .ofList standardAliases added)
    (growable : ∀ key ∈ ["params", "examples", "see"], scene.CanCollect key) :
    let found := fun name => (added.filter fun tag => !tag.isBad).filter fun tag =>
      tag.tagName ∈ standardSpellings name
    let pass := extractPass behaviour (standardBindings known) scene
    let reads := fun left : TagBinding.Document F =>
      ∃ wider, pass.scene.Portrays (· ∈ ["params", "examples", "see"]) wider left
    Binding.resolveAll ((standard known).map .definition) .null = .ok (standardBindings known) ∧
    (pass.fault? = none ↔
      ∀ name ∈ ["name", "module", "kind", "description", "returns", "deprecated", "private"],
        (found name).length ≤ 1) ∧
    (∀ before definition after, standard known = before ++ definition :: after →
      (∀ former ∈ before, former.multi = true ∨ (found former.name).length ≤ 1) →
      definition.multi = false → 2 ≤ (found definition.name).length →
      pass.fault? = some (.duplicateTag definition.name (found definition.name).length
        scene.document.file scene.document.startingLine) ∧
      reads (document.standardized found before)) ∧
    (pass.fault? = none → ∃ left, reads left ∧ left = document.standardized found (standard known) ∧
      ∀ key, left.get? key = (standardProperty found document key).or (document.get? key)) := by
  intro found pass reads
  obtain ⟨plain, knowsPlain⟩ := exists_plain_builtins knows scene
  have ready : scene.Ready .nothing (· ∈ ["params", "examples", "see"]) kept document :=
    ⟨portrays, trivial⟩
  have portrayed :=
    extractPass_portrayed (implements_standard knows knowsPlain) (collects_standard known) ready
  obtain ⟨resolved, succeeds, stops, whole⟩ := extractPass_standard plain known knowsPlain document
    added filed fun key inside => portrays.canCollect_iff.mp (growable key inside)
  obtain ⟨wider, left⟩ := portrayed.scene
  refine ⟨resolved, portrayed.fault?_eq_none_iff.trans succeeds, ?_, ?_⟩
  · intro before definition after split former single several
    obtain ⟨stopped, same⟩ := stops before definition after split former single several
    rw [portrays.file, portrays.startingLine]
    refine ⟨portrayed.fault?_eq_some stopped fun held => by simp, wider, ?_⟩
    rw [← same]
    exact left.toPortrays
  · intro finished
    obtain ⟨same, values⟩ := whole (portrayed.fault?_eq_none_iff.mp finished)
    exact ⟨_, ⟨wider, left.toPortrays⟩, same, values⟩

/-- The tags of a comment on a module, of which the name is marred. -/
def moduleTags : List (TagBinding.Tag Builtin) :=
  [⟨"module", .text " math\n", 1, none, none, []⟩, ⟨"arg", .text "left", 2, some "a", none, []⟩,
    ⟨"see", .text "sum\n product ", 3, none, none, []⟩, ⟨"return", .null, 4, none, none, []⟩,
    ⟨"name", .text "x", 5, none, none, ["unclear"]⟩]

/-- A comment with given tags. -/
def comment (added : List (TagBinding.Tag Builtin)) : TagBinding.Document Builtin :=
  ⟨some "f", some 1, .ofList standardAliases added, .ofList [("params", .null)]⟩

/-- The scene of the comment in a session of its own. -/
def commented (added : List (TagBinding.Tag Builtin)) : Session Builtin Unit :=
  .ofPlain () ⟨[comment added], [], []⟩

/-- The comment on the module is extracted. With a second result under another spelling it is
refused, when the name of the module has been written. -/
theorem extractPass_commented :
    (∃ live left, (commented moduleTags).documents = [live] ∧
      let pass := extractPass builtin (standardBindings id) ((commented moduleTags).sceneOf live)
      pass.fault? = none ∧
      (∃ kept, pass.scene.Portrays (· ∈ ["params", "examples", "see"]) kept left) ∧
      left.get? "kind" = some (.text "module") ∧
      left.get? "see" = some (.list [.list [.text "sum", .text "product"]])) ∧
    let doubled := commented (moduleTags ++ [⟨"returns", .null, 6, none, none, []⟩])
    ∃ live left, doubled.documents = [live] ∧
      let pass := extractPass builtin (standardBindings id) (doubled.sceneOf live)
      pass.fault? = some (.duplicateTag "returns" 2 (some "f") (some 1)) ∧
      (∃ kept, pass.scene.Portrays (· ∈ ["params", "examples", "see"]) kept left) ∧
      left.get? "module" = some (.text "math") := by
  have comes : ∀ added, ∃ live kept, (commented added).documents = [live] ∧
      ((commented added).sceneOf live).Portrays (· ∈ ["params", "examples", "see"]) kept
        (comment added) := by
    intro added
    obtain ⟨live, kept, present, portrays⟩ := Session.portrays_ofPlain () ⟨[comment added], [], []⟩
      (· ∈ ["params", "examples", "see"]) (show [comment added][0]? = _ from rfl)
    exact ⟨live, kept, congrArg (fun one => [one]) (Option.some.inj present), portrays⟩
  have growable : ∀ added, ∀ key ∈ ["params", "examples", "see"],
      (comment added).CanCollect key := by
    intro added key inside held found
    simp only [List.mem_cons, List.not_mem_nil, or_false] at inside
    rcases inside with rfl | rfl | rfl
    · exact .inl (Option.some.inj found).symm
    · cases found
    · cases found
  constructor
  · obtain ⟨live, kept, only, portrays⟩ := comes moduleTags
    obtain ⟨-, succeeds, -, written⟩ := extractPass_standard_tags builtin id (fun _ => rfl) portrays
      moduleTags rfl fun key inside => portrays.canCollect_iff.mpr (growable _ key inside)
    have finished := succeeds.mpr (by decide)
    obtain ⟨left, reads, -, values⟩ := written finished
    exact ⟨live, left, only, finished, reads, values "kind", values "see"⟩
  · obtain ⟨live, kept, only, portrays⟩ :=
      comes (moduleTags ++ [⟨"returns", .null, 6, none, none, []⟩])
    obtain ⟨-, -, stops, -⟩ := extractPass_standard_tags builtin id (fun _ => rfl) portrays
      (moduleTags ++ [⟨"returns", .null, 6, none, none, []⟩]) rfl
      fun key inside => portrays.canCollect_iff.mpr (growable _ key inside)
    have stopped := stops ((standard id).take 5)
      (((plain "returns").alsoNamed ["return"]).through Builtin.wholeTag) ((standard id).drop 6) rfl
      (by decide) rfl (by decide)
    rw [portrays.file, portrays.startingLine] at stopped
    exact ⟨live, _, only, stopped.1, stopped.2, rfl⟩

/-- A scene with a parameter and an example, whose properties `params` and `examples` hold one
list. -/
def sharing : Scene Builtin Unit where
  memory := ()
  heap := Heap.empty.makeAll 0 [[.text "q"], [], []]
  document := ⟨0, none, none, standardAliases,
    [⟨"param", .text "p", 1, none, none, ⟨0, 1⟩⟩, ⟨"example", .text "e", 2, none, none, ⟨0, 2⟩⟩],
    [], .ofList [("params", .list ⟨0, 0⟩), ("examples", .list ⟨0, 0⟩)]⟩

/-- In that scene the three properties can be collected in, and no tag occurs twice. Afterwards the
parameters and the examples both show the parameter and the example. -/
theorem extractPass_standard_shared :
    let pass := extractPass builtin (standardBindings id) sharing
    (∀ key ∈ ["params", "examples", "see"], sharing.CanCollect key) ∧
      (∀ key ∈ ["params", "examples"], (sharing.document.get? key).map sharing.heap.read =
        some (.list [.text "q"])) ∧
      (sharing.document.named "example").map Tag.description = [.text "e"] ∧
      pass.fault? = none ∧
      ∀ key ∈ ["params", "examples"], (pass.scene.document.get? key).map pass.scene.heap.read =
        some (.list [.text "q", .tag ⟨"param", .text "p", 1, none, none, []⟩, .text "e"]) := by
  refine ⟨?_, ?_, rfl, rfl, ?_⟩
  · simp only [List.forall_mem_cons]
    refine ⟨fun held found => .inr ⟨⟨0, 0⟩, (Option.some.inj found).symm⟩,
      fun held found => .inr ⟨⟨0, 0⟩, (Option.some.inj found).symm⟩, ?_,
      fun _ inside => absurd inside List.not_mem_nil⟩
    intro held found
    cases found
  · simp only [List.forall_mem_cons]
    exact ⟨rfl, rfl, fun _ inside => absurd inside List.not_mem_nil⟩
  · simp only [List.forall_mem_cons]
    exact ⟨rfl, rfl, fun _ inside => absurd inside List.not_mem_nil⟩

end TagBinding.Live
