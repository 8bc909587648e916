import Mathlib.Data.List.Forall2
import TagBinding.Proofs.Cases
import TagBinding.Proofs.Live.Cases
import TagBinding.Proofs.Live.Frame

/-!
# Portraits of scenes

A plain document has values where a scene has lists. It is the portrait of a scene
(`Scene.Portrays`) when every property and every tag is read as what the plain document has there,
and when no list that may grow is held in a second place. For the latter, lists are divided. A set of
lists that is closed may be held anywhere and by anyone, tags and functions included, and none of
them grows. A list outside of the set belongs to one property alone. A property in which values are
collected holds such a list, or no list at all.

So a value that is put into the list of one property is seen in that property and nowhere else
(`Scene.Portrays.grow`), which is how plain documents change. Where two properties, or a property and
a tag, hold the list that grows, a scene has no portrait.
-/
namespace TagBinding.Live

variable {F M : Type}

/-- The kind of what a value is read as does not depend on what the lists hold. -/
theorem Value.kind_unfold_eq (follow other : Address → List (TagBinding.Value F))
    (value : Value F) : (value.unfold follow).kind = (value.unfold other).kind := by
  cases value <;> rfl

namespace Heap

/-- That a value is read as a plain value, from some depth on. -/
def Shows (heap : Heap F) (value : Value F) (shown : TagBinding.Value F) : Prop :=
  ∃ enough, ∀ depth, enough ≤ depth → value.unfold (heap.follow depth) = shown

/-- That a value holds lists of a set only, and is read as a plain value. -/
structure Depicts (heap : Heap F) (kept : Address → Prop) (value : Value F)
    (shown : TagBinding.Value F) : Prop where
  /-- It holds lists of the set only. -/
  within : value.Within kept
  /-- It is read as the plain value. -/
  shows : heap.Shows value shown

/-- That a tag holds lists of a set only, and is read as a plain tag, with texts for errors. -/
structure DepictsTag (heap : Heap F) (kept : Address → Prop) (tag : Tag F)
    (shown : TagBinding.Tag F) : Prop where
  /-- It holds lists of the set only. -/
  within : tag.Within kept
  /-- It is spelled the same. -/
  tagName : tag.tagName = shown.tagName
  /-- Its description is read as that of the plain tag. -/
  description : heap.Shows tag.description shown.description
  /-- It starts on the same line. -/
  startingLine : tag.startingLine = shown.startingLine
  /-- It names the same. -/
  name : tag.name = shown.name
  /-- It states the same type. -/
  typeExpression : tag.typeExpression = shown.typeExpression
  /-- The list of its errors holds those of the plain tag. -/
  errors : heap.items tag.errors = shown.errors.map .text

/-- How what a property holds is read as what the property of a plain document holds. -/
inductive Holds (heap : Heap F) (kept : Address → Prop) (collects : Prop) :
    Option (Value F) → Option (TagBinding.Value F) → Prop where
  /-- There is no such property in both. -/
  | absent : Holds heap kept collects none none
  /-- It holds a value within the set, which is no list if values are collected in the property. -/
  | given {value : Value F} {shown : TagBinding.Value F} (depicts : heap.Depicts kept value shown)
      (single : collects → ∀ address, value ≠ .list address) :
      Holds heap kept collects (some value) (some shown)
  /-- It holds a list that is not of the set, and whose items are within the set. -/
  | own {address : Address} {items : List (TagBinding.Value F)} (apart : ¬ kept address)
      (known : heap.Knows address)
      (depicts : List.Forall₂ (heap.Depicts kept) (heap.items address) items) :
      Holds heap kept collects (some (.list address)) (some (.list items))

section Shows

variable {heap other : Heap F} {kept wider : Address → Prop} {value : Value F}
  {shown : TagBinding.Value F}

/-- A value that is read alike at every depth is read as that plain value. -/
theorem Shows.of_forall (read : ∀ follow, value.unfold follow = shown) : heap.Shows value shown :=
  ⟨0, fun _ _ => read _⟩

/-- A value that is read as no value is none, and the other way round. -/
theorem Shows.null_iff (shows : heap.Shows value shown) : value = .null ↔ shown = .null := by
  obtain ⟨enough, read⟩ := shows
  rw [← read enough (Nat.le_refl _)]
  cases value <;> simp [Value.unfold]

/-- A value that is read as a list is one, and the other way round. -/
theorem Shows.list_iff (shows : heap.Shows value shown) :
    (∃ address, value = .list address) ↔ ∃ items, shown = .list items := by
  obtain ⟨enough, read⟩ := shows
  rw [← read enough (Nat.le_refl _)]
  cases value <;> simp [Value.unfold]

/-- A value that is read as a text is that text, and the other way round. -/
theorem Shows.text_iff (shows : heap.Shows value shown) (content : String) :
    value = .text content ↔ shown = .text content := by
  obtain ⟨enough, read⟩ := shows
  rw [← read enough (Nat.le_refl _)]
  cases value <;> simp [Value.unfold]

/-- What a value is read as at any depth is of the kind of the plain value that it is read as. -/
theorem Shows.kind_eq (shows : heap.Shows value shown) : (heap.read value).kind = shown.kind := by
  obtain ⟨enough, read⟩ := shows
  rw [← read enough (Nat.le_refl _), Heap.read]
  exact value.kind_unfold_eq _ _

/-- Values that are read one by one as plain values are read as these at every depth from some one
on. -/
theorem exists_forall_unfoldAll {items : List (Value F)} {shown : List (TagBinding.Value F)}
    (each : List.Forall₂ heap.Shows items shown) :
    ∃ enough, ∀ depth, enough ≤ depth → unfoldAll (heap.follow depth) items = shown := by
  induction each with
  | nil => exact ⟨0, fun _ _ => rfl⟩
  | cons head _ ih =>
    obtain ⟨first, read⟩ := head
    obtain ⟨others, rest⟩ := ih
    refine ⟨max first others, fun depth deep => ?_⟩
    rw [unfoldAll, read depth (by omega), rest depth (by omega)]

/-- A list is read as the list of what its items are read as. -/
theorem shows_list {address : Address} {shown : List (TagBinding.Value F)}
    (each : List.Forall₂ heap.Shows (heap.items address) shown) :
    heap.Shows (.list address) (.list shown) := by
  obtain ⟨enough, read⟩ := exists_forall_unfoldAll each
  refine ⟨enough + 1, fun depth deep => ?_⟩
  obtain ⟨less, rfl⟩ := Nat.exists_eq_add_of_le' (show 1 ≤ depth by omega)
  rw [Value.unfold, follow, read less (by omega)]

/-- A value within a closed set is read the same when the lists of the set hold the same. -/
theorem Depicts.transfer (depicts : heap.Depicts kept value shown) (closed : heap.Closed kept)
    (same : SameOn kept heap other) (more : ∀ address, kept address → wider address) :
    other.Depicts wider value shown := by
  obtain ⟨within, enough, read⟩ := depicts
  refine ⟨within.mono more, enough, fun depth deep => ?_⟩
  rw [← unfold_congr closed same depth within, read depth deep]

/-- A value that holds no list is read as itself, whatever lists there are. -/
theorem Depicts.of_forall (none : value.addresses = [])
    (read : ∀ follow, value.unfold follow = shown) : heap.Depicts kept value shown :=
  ⟨Value.within_of_nil none, .of_forall read⟩

/-- Values that are read one by one within a set are within the set, and read as the plain values at
every depth from some one on. -/
theorem depicts_all {kept : Address → Prop} {items : List (Value F)}
    {shown : List (TagBinding.Value F)} (each : List.Forall₂ (heap.Depicts kept) items shown) :
    (∀ address ∈ addressesAll items, kept address) ∧
      ∃ enough, ∀ depth, enough ≤ depth → unfoldAll (heap.follow depth) items = shown := by
  refine ⟨?_, exists_forall_unfoldAll (each.imp fun _ _ depicts => depicts.shows)⟩
  induction each with
  | nil => exact fun _ held => absurd held List.not_mem_nil
  | cons head _ ih =>
    exact fun address held =>
      (List.mem_append.mp held).elim (head.within address) (ih address)

/-- Texts are read as themselves. -/
theorem depicts_texts (texts : List String) :
    List.Forall₂ (heap.Depicts kept) (texts.map .text) (texts.map .text) := by
  induction texts with
  | nil => exact .nil
  | cons text rest ih => exact .cons (.of_forall rfl fun _ => rfl) ih

/-- A list of a set is read as the list of what its items are read as. -/
theorem depicts_list {address : Address} {items : List (TagBinding.Value F)} (mine : kept address)
    (each : List.Forall₂ (heap.Depicts kept) (heap.items address) items) :
    heap.Depicts kept (.list address) (.list items) :=
  ⟨Value.within_list.mpr mine, shows_list (each.imp fun _ _ depicts => depicts.shows)⟩

end Shows

section Tags

variable {heap other : Heap F} {kept wider : Address → Prop} {tag : Tag F}
  {shown : TagBinding.Tag F}

/-- A tag within a closed set is read the same when the lists of the set hold the same. -/
theorem DepictsTag.transfer (depicts : heap.DepictsTag kept tag shown) (closed : heap.Closed kept)
    (same : SameOn kept heap other) (more : ∀ address, kept address → wider address) :
    other.DepictsTag wider tag shown where
  within := depicts.within.mono more
  tagName := depicts.tagName
  description :=
    (Depicts.transfer ⟨depicts.within.description, depicts.description⟩ closed same more).shows
  startingLine := depicts.startingLine
  name := depicts.name
  typeExpression := depicts.typeExpression
  errors := (same tag.errors depicts.within.errors).symm.trans depicts.errors

/-- A tag and the plain tag that it is read as are bad together. -/
theorem DepictsTag.isBad_eq (depicts : heap.DepictsTag kept tag shown) :
    tag.isBad heap = shown.isBad := by
  rw [Tag.isBad, TagBinding.Tag.isBad, depicts.errors, List.isEmpty_map]

/-- The list of the errors of a tag is read as the errors. -/
theorem DepictsTag.shows_errors (depicts : heap.DepictsTag kept tag shown) :
    heap.Shows (.list tag.errors) (.list (shown.errors.map .text)) := by
  have texts : List.Forall₂ (heap.Depicts kept) (shown.errors.map .text)
      (shown.errors.map .text) := depicts_texts shown.errors
  refine shows_list ?_
  rw [depicts.errors]
  exact texts.imp fun _ _ text => text.shows

/-- A text, or no value, is read as itself. -/
theorem depicts_ofText? (content : Option String) :
    heap.Depicts kept (Value.ofText? content) (TagBinding.Value.ofText? content) := by
  cases content <;> exact .of_forall rfl fun _ => rfl

/-- Every part of a tag is read as that part of the plain tag. -/
theorem DepictsTag.part (depicts : heap.DepictsTag kept tag shown) (property : String) :
    heap.Depicts kept (tag.part heap property) (shown.part property) := by
  have optional (content : Option String) : heap.Depicts kept (Value.ofText? content)
      (TagBinding.Value.ofText? content) := depicts_ofText? content
  refine ⟨depicts.within.part heap property, ?_⟩
  unfold Tag.part
  rw [depicts.tagName, depicts.startingLine, depicts.name, depicts.typeExpression, depicts.isBad_eq]
  split
  · exact .of_forall fun _ => rfl
  · exact depicts.description
  · exact .of_forall fun _ => rfl
  · exact (optional shown.name).shows
  · exact (optional shown.typeExpression).shows
  · exact depicts.shows_errors
  · exact .of_forall fun _ => rfl
  · have unnamed : shown.part property = .null := by
      unfold TagBinding.Tag.part
      split <;> first | contradiction | rfl
    rw [unnamed]
    exact .of_forall fun _ => rfl

/-- A tag as a value is read as the plain tag. -/
theorem DepictsTag.value (depicts : heap.DepictsTag kept tag shown) :
    heap.Depicts kept (.tag tag) (.tag shown) := by
  refine ⟨depicts.within, ?_⟩
  obtain ⟨enough, read⟩ := depicts.description
  obtain ⟨deeper, listed⟩ := depicts.shows_errors
  refine ⟨max enough deeper, fun depth deep => ?_⟩
  have errors : heap.follow depth tag.errors = shown.errors.map .text :=
    TagBinding.Value.list.inj (listed depth (by omega))
  have texts : TagBinding.Value.display ∘ (.text : String → TagBinding.Value F) = id := rfl
  obtain ⟨tagName, description, line, name, type, list⟩ := tag
  obtain ⟨otherName, content, otherLine, documented, stated, flaws⟩ := shown
  obtain rfl : tagName = otherName := depicts.tagName
  obtain rfl : line = otherLine := depicts.startingLine
  obtain rfl : name = documented := depicts.name
  obtain rfl : type = stated := depicts.typeExpression
  have value : description.unfold (heap.follow depth) = content := read depth (by omega)
  rw [Value.unfold, Tag.unfold, value, errors, List.map_map, texts, List.map_id]

end Tags

/-- What a property holds is read the same when the lists of the set hold the same, and the list that
belongs to the property alone does. -/
theorem Holds.transfer {heap other : Heap F} {kept wider : Address → Prop} {collects : Prop}
    {held : Option (Value F)} {shown : Option (TagBinding.Value F)}
    (holds : heap.Holds kept collects held shown) (closed : heap.Closed kept)
    (same : SameOn kept heap other) (more : ∀ address, kept address → wider address)
    (owned : ∀ address, held = some (.list address) → ¬ kept address → heap.Knows address →
      ¬ wider address ∧ other.Knows address ∧ other.items address = heap.items address) :
    other.Holds wider collects held shown := by
  cases holds with
  | absent => exact .absent
  | given depicts single => exact .given (depicts.transfer closed same more) single
  | own apart known depicts =>
    obtain ⟨outside, there, items⟩ := owned _ rfl apart known
    refine .own outside there ?_
    rw [items]
    exact depicts.imp fun _ _ each => each.transfer closed same more

end Heap

/-- That a scene is read as a plain document, and that of the lists outside of a set each belongs to
one property alone; properties in which values are collected hold no other lists. -/
structure Scene.Portrays (collecting : String → Prop) (kept : Address → Prop) (scene : Scene F M)
    (document : TagBinding.Document F) : Prop where
  /-- The lists of the set hold lists of the set only. -/
  closed : scene.heap.Closed kept
  /-- The lists of the set are there. -/
  known : ∀ address, kept address → scene.heap.Knows address
  /-- The file is the same. -/
  file : scene.document.file = document.file
  /-- The line is the same. -/
  startingLine : scene.document.startingLine = document.startingLine
  /-- The alias table is the same. -/
  aliases : scene.document.aliases = document.tags.aliases
  /-- The well-formed tags are read as those of the plain document. -/
  wellFormed : List.Forall₂ (scene.heap.DepictsTag kept) scene.document.wellFormed
    document.tags.wellFormed
  /-- The bad tags are read as those of the plain document. -/
  bad : List.Forall₂ (scene.heap.DepictsTag kept) scene.document.bad document.tags.bad
  /-- The properties are the same, in the same places. -/
  keys : scene.document.properties.keys = document.properties.keys
  /-- What a property holds is read as what the property of the plain document holds. -/
  property : ∀ key, scene.heap.Holds kept (collecting key) (scene.document.get? key)
    (document.get? key)
  /-- A list that two properties hold is of the set. -/
  apart : ∀ key other address, key ≠ other → scene.document.get? key = some (.list address) →
    scene.document.get? other = some (.list address) → kept address

namespace Scene.Portrays

variable {collecting : String → Prop} {kept wider : Address → Prop} {scene other : Scene F M}
  {document : TagBinding.Document F} {key : String}

/-- A name finds the tags that are read as those that it finds in the portrait. -/
theorem named (portrays : scene.Portrays collecting kept document) (name : String) :
    List.Forall₂ (scene.heap.DepictsTag kept) (scene.document.named name)
      (document.tags.named name) := by
  rw [TagSet.named_eq_filter, Document.named]
  refine List.rel_filter (fun tag shown depicts => ?_) portrays.wellFormed
  have canonical : ∀ name, scene.document.canonical name = document.tags.canonical name := by
    intro name
    rw [Document.canonical, TagSet.canonical, portrays.aliases]
  simp only [canonical, depicts.tagName]

/-- The portrait stays when the lists of the set and those that belong to one property hold the
same. -/
theorem transfer (portrays : scene.Portrays collecting kept document)
    (unchanged : other.document = scene.document) (closed : other.heap.Closed wider)
    (known : ∀ address, wider address → other.heap.Knows address)
    (same : Heap.SameOn kept scene.heap other.heap)
    (more : ∀ address, kept address → wider address)
    (owned : ∀ key address, scene.document.get? key = some (.list address) → ¬ kept address →
      scene.heap.Knows address → ¬ wider address ∧ other.heap.Knows address ∧
        other.heap.items address = scene.heap.items address) :
    other.Portrays collecting wider document where
  closed := closed
  known := known
  file := by rw [unchanged, portrays.file]
  startingLine := by rw [unchanged, portrays.startingLine]
  aliases := by rw [unchanged, portrays.aliases]
  wellFormed := by
    rw [unchanged]
    exact portrays.wellFormed.imp fun _ _ depicts => depicts.transfer portrays.closed same more
  bad := by
    rw [unchanged]
    exact portrays.bad.imp fun _ _ depicts => depicts.transfer portrays.closed same more
  keys := by rw [unchanged, portrays.keys]
  property key := by
    rw [unchanged]
    exact (portrays.property key).transfer portrays.closed same more (owned key)
  apart := by
    rw [unchanged]
    exact fun key other address different one two =>
      more address (portrays.apart key other address different one two)

/-- The portrait stays when only lists that are not there yet are made, some of them for the set. -/
theorem extend (portrays : scene.Portrays collecting kept document)
    (unchanged : other.document = scene.document) (closed : other.heap.Closed wider)
    (known : ∀ address, wider address → other.heap.Knows address)
    (larger : scene.heap.Extends other.heap)
    (more : ∀ address, kept address → wider address)
    (fresh : ∀ address, wider address → kept address ∨ ¬ scene.heap.Knows address) :
    other.Portrays collecting wider document :=
  portrays.transfer unchanged closed known
    (fun address inside => (larger.items address (portrays.known address inside)).symm) more
    fun _ address _ outside there =>
      ⟨fun inside => (fresh address inside).elim outside fun unknown => unknown there,
        larger.knows there, larger.items address there⟩

/-- The portrait stays when only lists that are not there yet are made. -/
theorem of_extends (portrays : scene.Portrays collecting kept document)
    (unchanged : other.document = scene.document) (larger : scene.heap.Extends other.heap) :
    other.Portrays collecting kept document := by
  have same : Heap.SameOn kept scene.heap other.heap :=
    fun address inside => (larger.items address (portrays.known address inside)).symm
  exact portrays.extend unchanged (portrays.closed.of_sameOn same)
    (fun address inside => larger.knows (portrays.known address inside)) larger
    (fun _ inside => inside) fun _ inside => .inl inside

/-- A property that is assigned in the scene is assigned in the portrait. A list outside of the set
that it is given must not be held by another property. -/
theorem assign (portrays : scene.Portrays collecting kept document) {value : Value F}
    {shown : TagBinding.Value F}
    (holds : scene.heap.Holds kept (collecting key) (some value) (some shown))
    (alone : ∀ address, value = .list address → ¬ kept address →
      ∀ other ≠ key, scene.document.get? other ≠ some (.list address)) :
    (scene.assign key value).Portrays collecting kept (document.assign key shown) where
  closed := portrays.closed
  known := portrays.known
  file := portrays.file
  startingLine := portrays.startingLine
  aliases := portrays.aliases
  wellFormed := portrays.wellFormed
  bad := portrays.bad
  keys := by
    show (scene.document.properties.insert key value).keys =
      (document.properties.insert key shown).keys
    rw [Table.keys_insert, Table.keys_insert, portrays.keys]
  property name := by
    have read : (scene.assign key value).document.get? name = _ :=
      scene.document.get?_assign key value name
    rw [read, TagBinding.Document.get?_assign]
    by_cases same : name = key
    · subst same
      rw [if_pos rfl, if_pos rfl]
      exact holds
    · rw [if_neg same, if_neg same]
      exact portrays.property name
  apart := by
    intro first second address different one two
    have read : ∀ name, (scene.assign key value).document.get? name =
        if name = key then some value else scene.document.get? name :=
      scene.document.get?_assign key value
    rw [read] at one two
    by_contra outside
    split at one
    · rename_i same
      have others : second ≠ key := fun equal => different (same.trans equal.symm)
      rw [if_neg others] at two
      exact alone address (Option.some.inj one) outside second others two
    · rename_i others
      split at two
      · exact alone address (Option.some.inj two) outside first others one
      · exact outside (portrays.apart first second address different one two)

/-- A value within the set may be assigned where no values are collected. -/
theorem assign_given (portrays : scene.Portrays collecting kept document)
    (single : ¬ collecting key) {value : Value F} {shown : TagBinding.Value F}
    (depicts : scene.heap.Depicts kept value shown) :
    (scene.assign key value).Portrays collecting kept (document.assign key shown) := by
  refine portrays.assign (.given depicts fun collects => absurd collects single) ?_
  rintro address rfl outside
  exact absurd (Value.within_list.mp depicts.within) outside

/-- A list that a property holds is there. -/
theorem knows_held (portrays : scene.Portrays collecting kept document) {address : Address}
    (found : scene.document.get? key = some (.list address)) : scene.heap.Knows address := by
  have holds := portrays.property key
  rw [found] at holds
  generalize document.get? key = shown at holds
  cases holds with
  | given depicts single => exact portrays.known address (Value.within_list.mp depicts.within)
  | own apart known depicts => exact known

/-- Values can be collected in a property when they can be in the portrait, and only then. -/
theorem canCollect_iff (portrays : scene.Portrays collecting kept document) :
    scene.CanCollect key ↔ document.CanCollect key := by
  have holds := portrays.property key
  unfold Scene.CanCollect TagBinding.Document.CanCollect
  generalize scene.document.get? key = held at holds
  generalize document.get? key = shown at holds
  cases holds with
  | absent => simp
  | given depicts single =>
    simp only [Option.some.injEq, forall_eq', depicts.shows.null_iff, depicts.shows.list_iff]
  | own apart known depicts => simp

/-- The list that is made for a property is empty in the portrait as well. -/
theorem opened (portrays : scene.Portrays collecting kept document) :
    (scene.opened key).Portrays collecting kept (document.assign key (.list [])) := by
  let next := scene.heap.next scene.document.home
  let made : Scene F M := { scene with heap := scene.heap.make scene.document.home [] }
  have there : made.Portrays collecting kept document :=
    portrays.of_extends rfl (scene.heap.extends_make scene.document.home [])
  have unknown := scene.heap.not_knows_next scene.document.home
  have empty : made.heap.items next = [] := by
    show (scene.heap.make scene.document.home []).items next = []
    rw [Heap.items_make, if_pos rfl]
  have known : made.heap.Knows next :=
    (scene.heap.knows_make_iff scene.document.home [] next).mpr (.inr rfl)
  refine there.assign (.own (fun inside => unknown (portrays.known next inside)) known ?_) ?_
  · rw [empty]
    exact .nil
  · rintro address held - other - found
    obtain rfl := Value.list.inj held
    exact unknown (portrays.knows_held found)

/-- A list that is not of the set and that no property holds may grow. -/
theorem push_stray (portrays : scene.Portrays collecting kept document) {address : Address}
    (outside : ¬ kept address) (stray : ∀ key, scene.document.get? key ≠ some (.list address))
    (value : Value F) : (scene.push address value).Portrays collecting kept document := by
  have same : Heap.SameOn kept scene.heap (scene.push address value).heap :=
    Heap.sameOn_put outside _
  refine portrays.transfer rfl (portrays.closed.of_sameOn same) portrays.known same
    (fun _ inside => inside) fun key held found apart known => ⟨apart, known, ?_⟩
  have items : (scene.push address value).heap.items held = _ :=
    scene.heap.items_push address value held
  rw [items, if_neg]
  rintro rfl
  exact stray key found

/-- A property that the portrait has keeps its place when the portrait is assigned something there. -/
theorem keys_assign (portrays : scene.Portrays collecting kept document)
    {held : TagBinding.Value F} (read : document.get? key = some held)
    (shown : TagBinding.Value F) :
    scene.document.properties.keys = (document.assign key shown).properties.keys := by
  have there : key ∈ document.properties.keys := by
    rw [Table.mem_keys_iff]
    exact congrArg Option.isSome read
  show scene.document.properties.keys = (document.properties.insert key shown).keys
  rw [Table.keys_insert, if_pos there, portrays.keys]

/-- It makes no difference to be assigned what the portrait has already. -/
theorem assign_held (portrays : scene.Portrays collecting kept document)
    {shown : TagBinding.Value F} (read : document.get? key = some shown) :
    scene.Portrays collecting kept (document.assign key shown) := by
  refine ⟨portrays.closed, portrays.known, portrays.file, portrays.startingLine, portrays.aliases,
    portrays.wellFormed, portrays.bad, portrays.keys_assign read shown, fun name => ?_,
    portrays.apart⟩
  rw [TagBinding.Document.get?_assign]
  by_cases same : name = key
  · rw [if_pos same, ← read, same]
    exact portrays.property key
  · rw [if_neg same]
    exact portrays.property name

/-- A list that belongs to one property grows in the portrait of that property. -/
theorem grow (portrays : scene.Portrays collecting kept document) {address : Address}
    (outside : ¬ kept address) (held : scene.document.get? key = some (.list address))
    {items : List (TagBinding.Value F)} (read : document.get? key = some (.list items))
    {value : Value F} {shown : TagBinding.Value F}
    (depicts : scene.heap.Depicts kept value shown) :
    (scene.push address value).Portrays collecting kept
      (document.assign key (.list (items ++ [shown]))) := by
  have same : Heap.SameOn kept scene.heap (scene.push address value).heap :=
    Heap.sameOn_put outside _
  have grown : ∀ other, (scene.push address value).heap.items other = _ :=
    scene.heap.items_push address value
  have stays : ∀ {item : Value F} {shown}, scene.heap.Depicts kept item shown →
      (scene.push address value).heap.Depicts kept item shown :=
    fun depicts => depicts.transfer portrays.closed same fun _ inside => inside
  refine ⟨portrays.closed.of_sameOn same, portrays.known, portrays.file, portrays.startingLine,
    portrays.aliases, ?_, ?_, ?_, ?_, portrays.apart⟩
  · exact portrays.wellFormed.imp fun _ _ tag =>
      tag.transfer portrays.closed same fun _ inside => inside
  · exact portrays.bad.imp fun _ _ tag =>
      tag.transfer portrays.closed same fun _ inside => inside
  · exact portrays.keys_assign read _
  · intro name
    show (scene.push address value).heap.Holds kept (collecting name) (scene.document.get? name) _
    rw [TagBinding.Document.get?_assign]
    have holds := portrays.property name
    by_cases own : name = key
    · subst own
      rw [if_pos rfl]
      rw [held, read] at holds
      rw [held]
      cases holds with
      | given depicts single => exact absurd (Value.within_list.mp depicts.within) outside
      | own apart known former =>
        refine .own outside known ?_
        rw [grown, if_pos rfl]
        refine List.rel_append (former.imp fun _ _ each => stays each) ?_
        exact .cons (stays depicts) .nil
    · rw [if_neg own]
      refine holds.transfer portrays.closed same (fun _ inside => inside) ?_
      intro other found apart known
      refine ⟨apart, known, ?_⟩
      rw [grown, if_neg]
      rintro rfl
      exact outside (portrays.apart name key other own found held)

/-- A property in which values are collected is collected in the portrait as well: what it holds is
no list and is refused in both, or it gets or has a list of its own, with the items that the portrait
has. -/
theorem collected (portrays : scene.Portrays collecting kept document)
    (collects : collecting key) :
    (∃ held shown, (scene.collected key : Except (Fault F) _) =
        .error (.notAList (scene.heap.read held)) ∧
        (document.collected key : Except (Fault F) _) = .error (.notAList shown) ∧
        (scene.heap.read held).kind = shown.kind) ∨
      ∃ address start items, (scene.collected key : Except (Fault F) _) = .ok (address, start) ∧
        (document.collected key : Except (Fault F) _) = .ok items ∧ ¬ kept address ∧
        start.heap.Knows address ∧ start.document.get? key = some (.list address) ∧
        scene.heap.Extends start.heap ∧ start.memory = scene.memory ∧
        start.Portrays collecting kept (document.assign key (.list items)) := by
  have fresh : scene.document.get? key = none ∨ scene.document.get? key = some .null →
      ¬ kept (scene.heap.next scene.document.home) ∧
        (scene.opened key).heap.Knows (scene.heap.next scene.document.home) ∧
        (scene.opened key).document.get? key =
          some (.list (scene.heap.next scene.document.home)) ∧
        scene.heap.Extends (scene.opened key).heap := by
    intro absent
    have made := CollectsIn.made absent
    exact ⟨fun inside => scene.heap.not_knows_next _ (portrays.known _ inside),
      (scene.heap.knows_make_iff scene.document.home [] _).mpr (.inr rfl), made.get?_start,
      made.extends_start⟩
  have holds := portrays.property key
  revert holds
  cases live : scene.document.get? key with
  | none =>
    intro holds
    cases plain : document.get? key with
    | some shown =>
      rw [plain] at holds
      cases holds
    | none =>
      obtain ⟨outside, known, found, wider⟩ := fresh (.inl live)
      refine .inr ⟨_, _, [], collected_of_absent (.inl live), ?_, outside, known, found, wider,
        rfl, portrays.opened⟩
      simp only [TagBinding.Document.collected, plain]
  | some held =>
    intro holds
    cases plain : document.get? key with
    | none =>
      rw [plain] at holds
      cases holds
    | some shown =>
      rw [plain] at holds
      cases holds with
      | given depicts single =>
        by_cases null : held = .null
        · have none := depicts.shows.null_iff.mp null
          subst none
          obtain ⟨outside, known, found, wider⟩ := fresh (.inr (null ▸ live))
          refine .inr ⟨_, _, [], collected_of_absent (.inr (null ▸ live)), ?_, outside, known,
            found, wider, rfl, portrays.opened⟩
          simp only [TagBinding.Document.collected, plain]
        · have notList : ¬ ∃ items, shown = .list items := by
            rw [← depicts.shows.list_iff, not_exists]
            exact single collects
          refine .inl ⟨held, shown, collected_of_fixed live null (single collects), ?_,
            depicts.shows.kind_eq⟩
          unfold TagBinding.Document.collected
          rw [plain]
          cases shown with
          | null => exact absurd (depicts.shows.null_iff.mpr rfl) null
          | list items => exact absurd ⟨items, rfl⟩ notList
          | _ => rfl
      | own apart known depicts =>
        rename_i address items
        refine .inr ⟨address, scene, items, collected_of_list live, ?_, apart, known, live,
          .refl _, rfl, ?_⟩
        · simp only [TagBinding.Document.collected, plain]
        · exact portrays.assign_held plain

end Scene.Portrays

end TagBinding.Live
