import TagBinding.Live.Stock
import TagBinding.Proofs.Live.Refinement

/-!
# Portraits of the built-in functions

Every built-in function does in a scene what the plain one does to its portrait
(`implements_builtin`). They rely on nothing. All of them hand on what they are given or have a value
without lists to give, but for the lines of a text: these are a list that is made for them, and that
may be held anywhere from then on (`Reply.Matches.giveList`).
-/
namespace TagBinding.Live

variable {F M : Type} {reliance : Reliance F M} {collecting : String → Prop}
  {kept : Address → Prop} {scene : Scene F M} {document : TagBinding.Document F}

/-- A text without the blanks at its ends is read as that. -/
theorem Heap.Depicts.trimmed {heap : Heap F} {value : Value F} {shown : TagBinding.Value F}
    (depicts : heap.Depicts kept value shown) : heap.Depicts kept value.trimmed shown.trimmed := by
  by_cases text : ∃ content, value = .text content
  · obtain ⟨content, rfl⟩ := text
    obtain rfl := (depicts.shows.text_iff content).mp rfl
    exact .of_forall rfl fun _ => rfl
  · have other : ¬ ∃ content, shown = .text content := fun ⟨content, same⟩ =>
      text ⟨content, (depicts.shows.text_iff content).mpr same⟩
    have live : value.trimmed = value := by
      cases value with
      | text content => exact absurd ⟨content, rfl⟩ text
      | _ => rfl
    have plain : shown.trimmed = shown := by
      cases shown with
      | text content => exact absurd ⟨content, rfl⟩ other
      | _ => rfl
    rw [live, plain]
    exact depicts

/-- A list that is made and given, with items that may be held anywhere, matches the plain list of
what these are read as. -/
theorem Reply.Matches.giveList (ready : scene.Ready reliance collecting kept document)
    {items : List (Value F)} {shown : List (TagBinding.Value F)}
    (each : List.Forall₂ (scene.heap.Depicts kept) items shown) :
    let next := scene.heap.next scene.document.home
    (⟨scene.memory, [.make scene.document.home items], .ok (.list next)⟩ : Reply F M).Matches
      reliance collecting kept scene document (.value (.list shown))
      fun address => kept address ∨ address = next := by
  intro next
  let made := scene.heap.make scene.document.home items
  have larger := scene.heap.extends_make scene.document.home items
  have unknown : ¬ scene.heap.Knows next := scene.heap.not_knows_next scene.document.home
  have same : Heap.SameOn kept scene.heap made :=
    fun address inside => (larger.items address (ready.known address inside)).symm
  have held : made.items next = items := by
    rw [Heap.items_make, if_pos rfl]
  have there : List.Forall₂ (made.Depicts fun address => kept address ∨ address = next) items
      shown := each.imp fun _ _ depicts => depicts.transfer ready.closed same fun _ => .inl
  have closed : made.Closed fun address => kept address ∨ address = next := by
    rintro address (inside | rfl) item listed
    · rw [← same address inside] at listed
      exact (ready.closed address inside item listed).mono fun _ => .inl
    · rw [held] at listed
      intro inner found
      exact .inl ((Heap.depicts_all each).1 inner (mem_addressesAll.mpr ⟨item, listed, found⟩))
  have known : ∀ address, kept address ∨ address = next → made.Knows address := by
    rintro address (inside | rfl)
    · exact larger.knows (ready.known address inside)
    · exact (scene.heap.knows_make_iff scene.document.home items next).mpr (.inr rfl)
  refine ⟨fun _ => .inl, ?_, larger, ⟨?_, ?_⟩, fun _ _ => rfl,
    fun _ _ bound => absurd bound Bool.false_ne_true, .ok ?_⟩
  · rintro address (inside | rfl)
    · exact .inl inside
    · exact .inr unknown
  · refine ready.toPortrays.extend rfl closed known larger (fun _ => .inl) ?_
    rintro address (inside | rfl)
    · exact .inl inside
    · exact .inr unknown
  · exact reliance.stable ready.relied (fun _ => .inl) same
  · refine Heap.depicts_list (.inr rfl) ?_
    show List.Forall₂ _ (made.items next) shown
    rw [held]
    exact there

/-- A built-in function does in a scene what the plain one does to its portrait, with or without a
tag. -/
theorem builtin_matches (function : Builtin)
    (ready : scene.Ready reliance collecting kept document) {tag : Option (Tag F)}
    {shownTag : Option (TagBinding.Tag F)}
    (tags : Option.Rel (scene.heap.DepictsTag kept) tag shownTag) {value : Value F}
    {shown : TagBinding.Value F} (depicts : scene.heap.Depicts kept value shown) :
    ∃ wider, (builtin function scene tag value).Matches reliance collecting kept scene document
      (function.routine document shownTag shown) wider := by
  cases function with
  | identity => exact ⟨_, .give ready depicts⟩
  | trimWhitespace => exact ⟨_, .give ready depicts.trimmed⟩
  | wholeTag =>
    cases tags with
    | none => exact ⟨_, .give ready (.of_forall rfl fun _ => rfl)⟩
    | some tag => exact ⟨_, .give ready tag.value⟩
  | toBool => exact ⟨_, .give ready (.of_forall rfl fun _ => rfl)⟩
  | splitLines =>
    by_cases text : ∃ content, value = .text content
    · obtain ⟨content, rfl⟩ := text
      obtain rfl := (depicts.shows.text_iff content).mp rfl
      exact ⟨_, .giveList ready (Heap.depicts_texts (Text.cleanLines content))⟩
    · have other : ¬ ∃ content, shown = .text content := fun ⟨content, same⟩ =>
        text ⟨content, (depicts.shows.text_iff content).mpr same⟩
      have live : builtin .splitLines scene tag value = scene.give value := by
        cases value with
        | text content => exact absurd ⟨content, rfl⟩ text
        | _ => rfl
      have plain : shown.lines = shown := by
        cases shown with
        | text content => exact absurd ⟨content, rfl⟩ other
        | _ => rfl
      rw [live, Builtin.routine, plain]
      exact ⟨_, .give ready depicts⟩
  | defaultKind =>
    have found := ready.named "module"
    have same : (scene.document.named "module").isEmpty =
        (document.tags.named "module").isEmpty := by
      generalize scene.document.named "module" = live at found
      generalize document.tags.named "module" = plain at found
      cases found <;> rfl
    simp only [builtin, Builtin.routine, TagBinding.Document.defaultKind, same]
    refine ⟨_, .give ready ?_⟩
    split <;> exact .of_forall rfl fun _ => rfl

/-- The built-in functions implement the plain ones, when they are run for a tag. -/
theorem implements_builtin (function : Builtin) :
    (builtin function : Routine F M).Implements reliance collecting function.routine :=
  fun ready _ _ tags _ _ depicts => builtin_matches function ready (.some tags) depicts

/-- The built-in functions implement the plain ones, when they are run without a tag. -/
theorem implementsDefault_builtin (function : Builtin) :
    (builtin function : Routine F M).ImplementsDefault reliance collecting function.routine :=
  fun ready => builtin_matches function ready .none (.of_forall rfl fun _ => rfl)

/-- Bindings of built-in functions implement those of the plain ones. -/
theorem implements_of_builtin {behaviour : Behaviour F M} {plain : TagBinding.Behaviour F}
    (known : Builtin → F) (knows : ∀ function, behaviour (known function) = builtin function)
    (knowsPlain : ∀ function, plain (known function) = function.routine) {binding : Binding F}
    (transforms : ∀ function ∈ binding.transforms, ∃ own, function = known own)
    (default : ∀ function ∈ binding.definition.defaultFn, ∃ own, function = known own) :
    Binding.Implements reliance collecting behaviour plain binding where
  transforms function used := by
    obtain ⟨own, rfl⟩ := transforms function used
    rw [knows, knowsPlain]
    exact implements_builtin own
  default function given := by
    obtain ⟨own, rfl⟩ := default function given
    rw [knows, knowsPlain]
    exact implementsDefault_builtin own

/-- Built-in functions under their own names implement the plain ones. -/
theorem implements_builtin_self {reliance : Reliance Builtin M} (binding : Binding Builtin) :
    Binding.Implements reliance collecting builtin Builtin.routine binding :=
  implements_of_builtin id (fun _ => rfl) (fun _ => rfl) (fun own _ => ⟨own, rfl⟩)
    fun own _ => ⟨own, rfl⟩

end TagBinding.Live
