import Mathlib.Data.List.Nodup
import TagBinding.Proofs.Independence
import TagBinding.Proofs.Live.ClosedForm

/-!
# Live bindings in any order

If the functions of bindings with different targets read tags alone, it makes no difference to the
extraction of a document in which order they come, as long as no list in which they collect is held
in a second place (`Session.extractWith_of_perm`). Lists that are held twice betray the order: where
two properties hold one list, it has the values of the binding that comes first before those of the
other one (`extractWith_pairing_reversed`).
-/
namespace TagBinding.Live

variable {F M : Type}

/-- If steady bindings write different properties, and no list in which values are collected is held
in a second place, it makes no difference to an extraction in which order they come. It succeeds in
every order if it succeeds in one, and then every property is read as the same value, the properties
that were there before keep their places, the tags are read as before, and as many reports are
recorded: one for each binding if the document has a bad tag, and else none. -/
theorem Session.extractWith_of_perm {reliance : Reliance F M} {behaviour : Behaviour F M}
    {plain : TagBinding.Behaviour F} (session : Session F M) (thread : Thread) {index : Nat}
    {live : Document F} (present : session.documents[index]? = some live)
    {bindings others : List (Binding F)} (permuted : bindings.Perm others)
    (distinct : (bindings.map Binding.target).Nodup)
    (steady : ∀ binding ∈ bindings, binding.Steady plain)
    (implements : ∀ binding ∈ bindings,
      Binding.Implements reliance (Collecting bindings) behaviour plain binding)
    {kept : Address → Prop} {document : TagBinding.Document F}
    (ready : (session.sceneOf live).Ready reliance (Collecting bindings) kept document) :
    let one := session.extractWith behaviour thread ⟨bindings, .record⟩ index
    let other := session.extractWith behaviour thread ⟨others, .record⟩ index
    let reports := if live.bad.isEmpty then 0 else bindings.length
    (one.answer = .ok () ↔ other.answer = .ok ()) ∧
      (one.answer = .ok () → ∃ after again left right,
        one.session.documents[index]? = some after ∧
        other.session.documents[index]? = some again ∧
        (∃ wider, (one.session.sceneOf after).Ready reliance (Collecting bindings) wider left) ∧
        (∃ wider, (other.session.sceneOf again).Ready reliance (Collecting bindings) wider right) ∧
        (∀ key, left.get? key = right.get? key) ∧
        live.properties.keys <+: after.properties.keys ∧
        live.properties.keys <+: again.properties.keys ∧
        left.tags = document.tags ∧ right.tags = document.tags ∧
        one.output.reports.length = reports ∧ other.output.reports.length = reports) := by
  intro one other reports
  have apart : ∀ first ∈ bindings, ∀ second ∈ bindings, first.target = second.target →
      first.definition.multi = second.definition.multi := by
    intro first here second there same
    rw [List.inj_on_of_nodup_map distinct here there same]
  have collects := collects_of_apart apart
  obtain ⟨⟨after, wider, there, left⟩, ends, reported⟩ :=
    Session.extractWith_portrayed present ready ⟨bindings, .record⟩ implements collects thread
  obtain ⟨⟨again, widest, here, right⟩, otherEnds, otherReported⟩ :=
    Session.extractWith_portrayed present ready ⟨others, .record⟩
      (fun binding inside => implements binding (permuted.mem_iff.mpr inside))
      (fun binding inside => collects binding (permuted.mem_iff.mpr inside)) thread
  obtain ⟨alike, same⟩ := extractPass_of_perm document permuted distinct steady
  refine ⟨ends.trans (alike.trans otherEnds.symm), fun succeeded => ?_⟩
  obtain ⟨values, keys, otherKeys, tags, otherTags, count, otherCount⟩ :=
    same (ends.mp succeeded)
  have bad : live.bad.isEmpty = document.tags.bad.isEmpty := by
    have each := ready.bad
    change List.Forall₂ _ live.bad _ at each
    generalize live.bad = tags at each
    generalize document.tags.bad = shown at each
    cases each <;> rfl
  refine ⟨after, again, _, _, there, here, ⟨wider, left⟩, ⟨widest, right⟩, values, ?_, ?_, tags,
    otherTags, ?_, ?_⟩
  · rw [show live.properties.keys = _ from ready.keys,
      show after.properties.keys = _ from left.keys]
    exact keys
  · rw [show live.properties.keys = _ from ready.keys,
      show again.properties.keys = _ from right.keys]
    exact otherKeys
  · rw [show one.output.reports.length = _ from reported rfl, count, ← bad]
  · rw [show other.output.reports.length = _ from otherReported rfl, otherCount, ← bad]

/-- A function that trims a text and refuses anything else, and one that counts tags. -/
def counting : Behaviour Bool Unit
  | true, scene, _, .text content => scene.give (.text (Text.trim content))
  | true, scene, _, _ => ⟨scene.memory, [], .error "no text"⟩
  | false, scene, _, _ => scene.give (.int scene.document.wellFormed.length)

/-- The same functions for plain documents. -/
def plainCounting : TagBinding.Behaviour Bool
  | true, _, _, .text content => .value (.text (Text.trim content))
  | true, _, _, _ => ⟨[], .error "no text"⟩
  | false, document, _, _ => .value (.int document.tags.size)

/-- An author, whose name is trimmed, references, and the count of the tags. -/
def shelf : List (Binding Bool) :=
  [⟨.plain "author", .single true, .identity⟩,
    ⟨((Definition.plain "see").onto "links").collecting, .identity, .identity⟩,
    ⟨{ Definition.plain "count" with defaultFn := some false }, .identity, .identity⟩]

/-- A document with an author, a reference and a bad tag. -/
def shelved : TagBinding.Document Bool :=
  ⟨none, none, .ofList .empty
    [⟨"see", .text "s", 1, none, none, []⟩, ⟨"author", .text " A ", 2, none, none, []⟩,
      ⟨"see", .null, 3, none, none, ["unclear"]⟩],
    .ofList [("links", .null)]⟩

/-- The live functions implement the plain ones, if the first one is used for tags and the second one
without. -/
theorem implements_counting {reliance : Reliance Bool Unit} {collecting : String → Prop}
    {binding : Binding Bool} (transforms : ∀ function ∈ binding.transforms, function = true)
    (defaults : ∀ function ∈ binding.definition.defaultFn, function = false) :
    Binding.Implements reliance collecting counting plainCounting binding := by
  have trims : (counting true).Implements reliance collecting (plainCounting true) := by
    intro kept scene document ready tag shownTag _ value shown depicts
    by_cases text : ∃ content, value = .text content
    · obtain ⟨content, rfl⟩ := text
      obtain rfl := (depicts.shows.text_iff content).mp rfl
      exact ⟨kept, .give ready (.of_forall rfl fun _ => rfl)⟩
    · have refused : counting true scene (some tag) value =
          ⟨scene.memory, [], .error "no text"⟩ := by
        cases value with
        | text content => exact absurd ⟨content, rfl⟩ text
        | _ => rfl
      have plain : plainCounting true document (some shownTag) shown = ⟨[], .error "no text"⟩ := by
        cases shown with
        | text content => exact absurd ⟨content, (depicts.shows.text_iff content).mpr rfl⟩ text
        | _ => rfl
      rw [refused, plain]
      exact ⟨kept, .fail ready "no text"⟩
  have counts : (counting false).ImplementsDefault reliance collecting (plainCounting false) := by
    intro kept scene document ready
    have count : scene.document.wellFormed.length = document.tags.size :=
      ready.wellFormed.length_eq
    refine ⟨kept, .give ready (.of_forall rfl fun _ => ?_)⟩
    rw [count]
    rfl
  exact ⟨fun function used => transforms function used ▸ trims,
    fun function given => defaults function given ▸ counts⟩

/-- The plain functions read tags alone, if they are used like that. -/
theorem steady_plainCounting {binding : Binding Bool}
    (transforms : ∀ function ∈ binding.transforms, function = true)
    (defaults : ∀ function ∈ binding.definition.defaultFn, function = false) :
    binding.Steady plainCounting := by
  have detached : (plainCounting true).Detached := by
    refine ⟨fun document tag value => ?_, fun first second => ?_⟩
    · unfold plainCounting
      split <;> rfl
    · funext tag value
      cases value <;> rfl
  have passive : (plainCounting false).Passive := fun _ _ _ => rfl
  have sized : ∀ first second : TagBinding.Document Bool, first.tags = second.tags →
      plainCounting false first = plainCounting false second := by
    intro first second tags
    funext tag value
    simp only [plainCounting, tags]
  exact ⟨fun function used => transforms function used ▸ detached,
    fun function used => defaults function used ▸ passive,
    fun function used => defaults function used ▸ sized⟩

/-- A session with that document. -/
def Session.shelving : Session Bool Unit := .ofPlain () ⟨[shelved], [], []⟩

/-- The other way round, the count is written first, and the author last. -/
theorem extractWith_shelf_reversed :
    let one := Session.shelving.extractWith counting .main ⟨shelf, .record⟩ 0
    let other := Session.shelving.extractWith counting .main ⟨shelf.reverse, .record⟩ 0
    one.answer = .ok () ∧ other.answer = .ok () ∧
      ∃ after again left right, one.session.documents[0]? = some after ∧
        other.session.documents[0]? = some again ∧
        (∃ wider, (one.session.sceneOf after).Ready .nothing (Collecting shelf) wider left) ∧
        (∃ wider, (other.session.sceneOf again).Ready .nothing (Collecting shelf) wider right) ∧
        (∀ key, left.get? key = right.get? key) ∧ one.output.reports.length = 3 ∧
        other.output.reports.length = 3 := by
  intro one other
  obtain ⟨live, kept, present, ready⟩ :=
    Session.ready_ofPlain () ⟨[shelved], [], []⟩ (Collecting shelf)
      (show [shelved][0]? = _ from rfl)
  have marred : live.bad.isEmpty = false := by
    have count : live.bad.length = 1 := ready.bad.length_eq
    cases bad : live.bad with
    | nil =>
      rw [bad] at count
      cases count
    | cons => rfl
  have transforms : ∀ binding ∈ shelf, ∀ function ∈ binding.transforms, function = true := by
    decide
  have defaults : ∀ binding ∈ shelf, ∀ function ∈ binding.definition.defaultFn,
      function = false := by decide
  obtain ⟨alike, same⟩ := Session.shelving.extractWith_of_perm .main present
    (List.reverse_perm shelf).symm (by decide)
    (fun binding inside => steady_plainCounting (transforms binding inside) (defaults binding inside))
    (fun binding inside => implements_counting (transforms binding inside) (defaults binding inside))
    ready
  have succeeded : one.answer = .ok () := rfl
  obtain ⟨after, again, left, right, there, here, first, second, values, -, -, -, -, reports,
    otherReports⟩ := same succeeded
  rw [marred] at reports otherReports
  exact ⟨succeeded, alike.mp succeeded, after, again, left, right, there, here, first, second,
    values, reports, otherReports⟩

/-- A session with the document in which two properties hold one list. -/
def Session.shared : Session Empty Unit := ⟨(), Live.shared.heap, [Live.shared.document], [], []⟩

/-- The bindings that collect in these properties have different targets, and both orders are
extracted. The properties show the values in the order of the bindings. -/
theorem extractWith_pairing_reversed :
    let one := Session.shared.extractWith functionless .main ⟨pairing, .record⟩ 0
    let other := Session.shared.extractWith functionless .main ⟨pairing.reverse, .record⟩ 0
    (pairing.map Binding.target).Nodup ∧ one.answer = .ok () ∧ other.answer = .ok () ∧
      (∀ key ∈ ["x", "y"], (one.session.documents[0]?.bind (Document.get? · key)).map
        one.session.heap.read = some (.list [.text "q", .text "B", .text "C"])) ∧
      ∀ key ∈ ["x", "y"], (other.session.documents[0]?.bind (Document.get? · key)).map
        other.session.heap.read = some (.list [.text "q", .text "C", .text "B"]) := by
  refine ⟨by decide, rfl, rfl, ?_, ?_⟩
  · simp only [List.forall_mem_cons]
    exact ⟨rfl, rfl, fun _ inside => absurd inside List.not_mem_nil⟩
  · simp only [List.forall_mem_cons]
    exact ⟨rfl, rfl, fun _ inside => absurd inside List.not_mem_nil⟩

end TagBinding.Live
