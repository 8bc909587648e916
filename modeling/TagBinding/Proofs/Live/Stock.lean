import TagBinding.Live.Stock
import TagBinding.Proofs.Live.Homes

/-!
# Stock functions are confined

The functions of the library act on the document that they are given only. The built-in ones hand on
what they are given, or make a list for the document (`confined_builtin`). Actions take and give
copies, and a copy has lists of its own in the region of the document (`Scene.inRegion_copy`), so
they hand no list from one document to another (`confined_action`).
-/
namespace TagBinding.Live

variable {F M : Type}

/-- That edits that are found from a scene are confined: they depend on the region of the document
only, and are edits of that region. -/
def ConfinedEdits (edits : Scene F M → List (Edit F)) : Prop :=
  ∀ {region : Nat} {first second : Scene F M}, first.Alike region second →
    edits second = edits first ∧ ∀ edit ∈ edits first, edit.InRegion region

namespace Scene

variable {region : Nat} {first second : Scene F M}

/-- A copy of a value is the same in scenes that are the same in the region of their document. -/
theorem Alike.copy_eq (alike : first.Alike region second) (value : TagBinding.Value F) :
    second.copy value = first.copy value := by
  have home : second.document.home = first.document.home := by rw [alike.document]
  have used : second.heap.used first.document.home = first.heap.used first.document.home := by
    rw [alike.home]
    exact alike.used
  simp only [copy, home, used]

/-- A copy of a tag is the same in scenes that are the same in the region of their document. -/
theorem Alike.copyTag_eq (alike : first.Alike region second) (tag : TagBinding.Tag F) :
    second.copyTag tag = first.copyTag tag := by
  have home : second.document.home = first.document.home := by rw [alike.document]
  have used : second.heap.used first.document.home = first.heap.used first.document.home := by
    rw [alike.home]
    exact alike.used
  simp only [copyTag, home, used]

/-- Making lists of a region whose items are of the region are edits of the region. -/
theorem inRegion_make {home : Nat} {lists : List (List (Value F))}
    (within : ∀ made ∈ lists, ∀ item ∈ made, item.Within (InRegion home)) :
    ∀ edit ∈ lists.map (Edit.make home), edit.InRegion home := by
  intro edit among
  obtain ⟨made, found, rfl⟩ := List.mem_map.mp among
  exact ⟨rfl, within made found⟩

/-- A copy of a value is of the region of the document, and so are the edits that make its lists. -/
theorem inRegion_copy (scene : Scene F M) (value : TagBinding.Value F) :
    (scene.copy value).1.Within (InRegion scene.document.home) ∧
      ∀ edit ∈ (scene.copy value).2, edit.InRegion scene.document.home := by
  obtain ⟨held, lists⟩ := hold_within scene.document.home value
    (scene.heap.used scene.document.home)
  exact ⟨held, inRegion_make lists⟩

/-- A copy of a tag is of the region of the document, and so are the edits that make its lists. -/
theorem inRegion_copyTag (scene : Scene F M) (tag : TagBinding.Tag F) :
    (scene.copyTag tag).1.Within (InRegion scene.document.home) ∧
      ∀ edit ∈ (scene.copyTag tag).2, edit.InRegion scene.document.home := by
  obtain ⟨held, lists⟩ := holdTag_within scene.document.home tag
    (scene.heap.used scene.document.home)
  exact ⟨held, inRegion_make lists⟩

/-- A reply of a copy after edits of the region is the same in scenes that are the same there, and is
one of the region. -/
theorem Alike.giveCopy_eq (alike : first.Alike region second) {edits : List (Edit F)}
    (inside : ∀ edit ∈ edits, edit.InRegion region) (value : TagBinding.Value F) :
    (second.giveCopy edits value).edits = (first.giveCopy edits value).edits ∧
      (second.giveCopy edits value).outcome = (first.giveCopy edits value).outcome ∧
      (∀ edit ∈ (first.giveCopy edits value).edits, edit.InRegion region) ∧
      ∀ given, (first.giveCopy edits value).outcome = .ok given →
        given.Within (InRegion region) := by
  have edited := (alike.beside.editAll edits inside).toAlike
  obtain ⟨held, made⟩ := (first.editAll edits).inRegion_copy value
  rw [edited.home] at held made
  simp only [giveCopy, edited.copy_eq]
  refine ⟨trivial, trivial, List.forall_mem_append.mpr ⟨inside, made⟩, ?_⟩
  rintro given ⟨⟩
  exact held

end Scene

/-- Assigning a copy of a value is confined. -/
theorem confinedEdits_assign (key : String) (value : TagBinding.Value F) :
    ConfinedEdits fun scene : Scene F M =>
      (scene.copy value).2 ++ [.assign key (scene.copy value).1] := by
  intro region first second alike
  obtain ⟨held, made⟩ := first.inRegion_copy value
  dsimp only
  rw [alike.copy_eq]
  rw [alike.home] at held made
  exact ⟨rfl, List.forall_mem_append.mpr ⟨made, List.forall_mem_singleton.mpr held⟩⟩

/-- Attaching a copy of a tag is confined. -/
theorem confinedEdits_attach (tag : TagBinding.Tag F) :
    ConfinedEdits fun scene : Scene F M =>
      (scene.copyTag tag).2 ++ [.attach (scene.copyTag tag).1] := by
  intro region first second alike
  obtain ⟨held, made⟩ := first.inRegion_copyTag tag
  dsimp only
  rw [alike.copyTag_eq]
  rw [alike.home] at held made
  exact ⟨rfl, List.forall_mem_append.mpr ⟨made, List.forall_mem_singleton.mpr held⟩⟩

/-- A routine is confined if in scenes that are the same in the region of their document it makes the
same edits and has the same outcome, and both are of the region. -/
theorem Routine.Confined.of_alike {routine : Routine F M}
    (same : ∀ {region first second}, Scene.Alike region first second → ∀ tag value,
      Tag.Given (InRegion region) tag → value.Within (InRegion region) →
      (routine second tag value).edits = (routine first tag value).edits ∧
        (routine second tag value).outcome = (routine first tag value).outcome ∧
        (∀ edit ∈ (routine first tag value).edits, edit.InRegion region) ∧
        ∀ given, (routine first tag value).outcome = .ok given →
          given.Within (InRegion region)) : routine.Confined where
  same alike tag value given within := by
    obtain ⟨edits, outcome, -⟩ := same alike tag value given within
    exact ⟨edits, outcome⟩
  inside alike tag value given within := by
    obtain ⟨-, -, inside⟩ := same alike tag value given within
    exact inside

/-- A routine is confined if it makes no edits and gives a value of the region, the same in scenes
that are the same there. -/
theorem Routine.Confined.of_give {routine : Routine F M}
    (answer : Scene F M → Option (Tag F) → Value F → Value F)
    (gives : ∀ scene tag value, routine scene tag value = scene.give (answer scene tag value))
    (same : ∀ {region first second}, Scene.Alike region first second → ∀ tag value,
      Tag.Given (InRegion region) tag → value.Within (InRegion region) →
      answer second tag value = answer first tag value ∧
        (answer first tag value).Within (InRegion region)) : routine.Confined := by
  refine .of_alike fun alike tag value given within => ?_
  obtain ⟨equal, inside⟩ := same alike tag value given within
  rw [gives, gives, equal]
  refine ⟨rfl, rfl, fun edit made => absurd made List.not_mem_nil, ?_⟩
  rintro found ⟨⟩
  exact inside

/-- The built-in functions are confined. -/
theorem confined_builtin (function : Builtin) :
    (builtin function : Routine F M).Confined := by
  cases function with
  | identity => exact Routine.confined_identity
  | trimWhitespace =>
    refine .of_give (fun _ _ value => value.trimmed) (fun _ _ _ => rfl) ?_
    intro region first second alike tag value given within
    refine ⟨rfl, ?_⟩
    cases value <;> exact within
  | wholeTag =>
    refine .of_give (fun _ tag _ => tag.elim .null .tag) (fun _ _ _ => rfl) ?_
    intro region first second alike tag value given within
    refine ⟨rfl, ?_⟩
    cases tag with
    | none => exact Value.within_of_nil rfl
    | some found => exact Value.within_tag.mpr (given found rfl)
  | toBool =>
    refine .of_give (fun _ _ _ => .bool true) (fun _ _ _ => rfl) ?_
    exact fun _ _ _ _ _ => ⟨rfl, Value.within_of_nil rfl⟩
  | splitLines =>
    refine .of_alike fun {region first second} alike tag value given within => ?_
    cases value with
    | text content =>
      have home : second.document.home = first.document.home := by rw [alike.document]
      have place : second.heap.next first.document.home = first.heap.next first.document.home := by
        rw [alike.home]
        exact alike.next_eq
      simp only [builtin, home, place]
      refine ⟨trivial, trivial, List.forall_mem_singleton.mpr ⟨alike.home, ?_⟩, ?_⟩
      · intro item listed
        obtain ⟨line, -, rfl⟩ := List.mem_map.mp listed
        exact Value.within_of_nil rfl
      · rintro found ⟨⟩
        exact Value.within_list.mpr alike.home
    | _ =>
      refine ⟨rfl, rfl, fun edit made => absurd made List.not_mem_nil, ?_⟩
      rintro found ⟨⟩
      exact within
  | defaultKind =>
    refine .of_give (fun scene _ _ =>
      if (scene.document.named "module").isEmpty then .null else .text "module")
      (fun _ _ _ => rfl) ?_
    intro region first second alike tag value given within
    rw [alike.document]
    refine ⟨rfl, ?_⟩
    split <;> exact Value.within_of_nil rfl

/-- Actions are confined. -/
theorem confined_action (function : Action F) : (action function : Routine F M).Confined := by
  refine .of_alike fun {region first second} alike tag value given within => ?_
  obtain ⟨closed, document⟩ := alike.atHome
  rw [alike.home] at closed document
  have read : ∀ held : Value F, held.Within (InRegion region) →
      second.heap.read held = first.heap.read held :=
    fun held inside => (Heap.read_congr closed alike.items inside).symm
  have nothing : ∀ edit ∈ ([] : List (Edit F)), edit.InRegion region :=
    fun edit made => absurd made List.not_mem_nil
  cases function with
  | suffix ending =>
    simp only [action, read value within]
    exact alike.giveCopy_eq nothing _
  | const constant => exact alike.giveCopy_eq nothing constant
  | property key =>
    have same : (second.document.get? key).elim .null second.heap.read =
        (first.document.get? key).elim .null first.heap.read := by
      rw [alike.document]
      cases found : first.document.get? key with
      | none => rw [Option.elim_none, Option.elim_none]
      | some held =>
        rw [Option.elim_some, Option.elim_some, read held (document.properties key held found)]
    simp only [action, same]
    exact alike.giveCopy_eq nothing _
  | tagPart part =>
    have same : (tag.elim .null fun found => second.heap.read (found.part second.heap part)) =
        tag.elim .null fun found => first.heap.read (found.part first.heap part) := by
      cases tag with
      | none => rw [Option.elim_none, Option.elim_none]
      | some found =>
        have inside := given found rfl
        rw [Option.elim_some, Option.elim_some, ← inside.part_eq alike.items,
          read _ (inside.part first.heap part)]
    simp only [action, same]
    exact alike.giveCopy_eq nothing _
  | setProperty key stored result =>
    simp only [action, read value within, alike.copy_eq]
    exact alike.giveCopy_eq (confinedEdits_assign key _ alike).2 _
  | addTag added result =>
    simp only [action, read value within, alike.copyTag_eq]
    exact alike.giveCopy_eq (confinedEdits_attach added alike).2 _
  | tagCount =>
    simp only [action, alike.document]
    refine ⟨rfl, rfl, nothing, ?_⟩
    rintro found ⟨⟩
    exact Value.within_of_nil rfl
  | fail message =>
    refine ⟨rfl, rfl, nothing, ?_⟩
    rintro found ⟨⟩

end TagBinding.Live
