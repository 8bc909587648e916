import TagBinding.Proofs.Live.Edits

/-!
# What reading depends on

What a value is read as depends on the lists that can be reached from it, and on no others. To say
so, lists are kept apart by a set of addresses that is closed: whatever a list of the set holds,
holds lists of the set only (`Heap.Closed`). Two heaps in which the lists of such a set are the
same read every value within the set alike (`Heap.unfold_congr`). So a list that is outside of the
set may grow, and nothing within the set is read differently.
-/
namespace TagBinding.Live

variable {F M : Type}

/-- That a value holds lists of a set only. -/
def Value.Within (kept : Address → Prop) (value : Value F) : Prop :=
  ∀ address ∈ value.addresses, kept address

/-- That a tag holds lists of a set only. -/
def Tag.Within (kept : Address → Prop) (tag : Tag F) : Prop :=
  ∀ address ∈ tag.addresses, kept address

/-- The lists that a value holds are among those that a list of named values holds which it is
in. -/
theorem mem_addressesEach {entries : List (String × Value F)} {key : String} {value : Value F}
    (among : (key, value) ∈ entries) {address : Address} (held : address ∈ value.addresses) :
    address ∈ addressesEach entries := by
  induction entries with
  | nil => exact absurd among List.not_mem_nil
  | cons entry rest ih =>
    rcases List.mem_cons.mp among with rfl | later
    · exact List.mem_append_left _ held
    · exact List.mem_append_right _ (ih later)

section Within

variable {kept : Address → Prop}

/-- A value that holds no list is within every set. -/
theorem Value.within_of_nil {value : Value F} (none : value.addresses = []) :
    value.Within kept := by
  intro address held
  rw [none] at held
  simp at held

/-- A list is within a set that it belongs to. -/
@[simp] theorem Value.within_list {address : Address} :
    (Value.list address : Value F).Within kept ↔ kept address := by
  simp [Value.Within, Value.addresses]

/-- A tag as a value is within the sets that the tag is within. -/
@[simp] theorem Value.within_tag {tag : Tag F} :
    (Value.tag tag).Within kept ↔ tag.Within kept := Iff.rfl

/-- A text, or no value, is within every set. -/
theorem Value.within_ofText? (content : Option String) :
    (Value.ofText? content : Value F).Within kept := by
  cases content <;> exact Value.within_of_nil rfl

/-- What is within a set is within every larger one. -/
theorem Value.Within.mono {larger : Address → Prop} {value : Value F} (inside : value.Within kept)
    (more : ∀ address, kept address → larger address) : value.Within larger :=
  fun address held => more address (inside address held)

/-- A tag that is within a set is within every larger one. -/
theorem Tag.Within.mono {larger : Address → Prop} {tag : Tag F} (inside : tag.Within kept)
    (more : ∀ address, kept address → larger address) : tag.Within larger :=
  fun address held => more address (inside address held)

/-- The description of a tag is within the sets that the tag is within. -/
theorem Tag.Within.description {tag : Tag F} (inside : tag.Within kept) :
    tag.description.Within kept :=
  fun address held => inside address (by
    rw [tag.addresses_eq]
    exact List.mem_cons_of_mem _ held)

/-- The errors of a tag are a list of the sets that the tag is within. -/
theorem Tag.Within.errors {tag : Tag F} (inside : tag.Within kept) : kept tag.errors :=
  inside tag.errors (by
    rw [tag.addresses_eq]
    exact List.mem_cons_self)

/-- Every part of a tag is within the sets that the tag is within. -/
theorem Tag.Within.part {tag : Tag F} (inside : tag.Within kept) (heap : Heap F)
    (property : String) : (tag.part heap property).Within kept := by
  unfold Tag.part
  split
  · exact Value.within_of_nil rfl
  · exact inside.description
  · exact Value.within_of_nil rfl
  · exact Value.within_ofText? tag.name
  · exact Value.within_ofText? tag.typeExpression
  · exact Value.within_list.mpr inside.errors
  · exact Value.within_of_nil rfl
  · exact Value.within_of_nil rfl

end Within

namespace Heap

/-- That the lists of a set hold lists of the set only. -/
def Closed (heap : Heap F) (kept : Address → Prop) : Prop :=
  ∀ address, kept address → ∀ item ∈ heap.items address, item.Within kept

/-- That the lists of a set hold the same in two heaps. -/
def SameOn (kept : Address → Prop) (heap other : Heap F) : Prop :=
  ∀ address, kept address → heap.items address = other.items address

variable {kept : Address → Prop} {heap other : Heap F}

/-- The order of two heaps makes no difference. -/
theorem SameOn.symm (same : SameOn kept heap other) : SameOn kept other heap :=
  fun address inside => (same address inside).symm

/-- A closed set on which two heaps are the same is closed in both. -/
theorem Closed.of_sameOn (closed : heap.Closed kept) (same : SameOn kept heap other) :
    other.Closed kept := by
  intro address inside item held
  exact closed address inside item (same address inside ▸ held)

/-- A list outside of a set may hold other items, and the set stays as it is. -/
theorem sameOn_put {address : Address} (outside : ¬ kept address) (items : List (Value F)) :
    SameOn kept heap (heap.put address items) := by
  intro found inside
  rw [items_put, if_neg]
  rintro rfl
  exact outside inside

/-- The lists of a closed set are read alike in heaps in which they hold the same. -/
theorem follow_congr (closed : heap.Closed kept) (same : SameOn kept heap other) (depth : Nat)
    {address : Address} (inside : kept address) :
    heap.follow depth address = other.follow depth address := by
  induction depth generalizing address with
  | zero => rfl
  | succ depth ih =>
    rw [follow, follow, ← same address inside]
    refine unfoldAll_congr _ fun found held => ?_
    obtain ⟨item, among, there⟩ := mem_addressesAll.mp held
    exact ih (closed address inside item among found there)

/-- A value within a closed set is read alike in heaps in which the lists of the set hold the
same. -/
theorem unfold_congr (closed : heap.Closed kept) (same : SameOn kept heap other) (depth : Nat)
    {value : Value F} (inside : value.Within kept) :
    value.unfold (heap.follow depth) = value.unfold (other.follow depth) :=
  value.unfold_congr fun address held => follow_congr closed same depth (inside address held)

/-- A value within a closed set is read alike in heaps in which the lists of the set hold the
same. -/
theorem read_congr (closed : heap.Closed kept) (same : SameOn kept heap other) {value : Value F}
    (inside : value.Within kept) : heap.read value = other.read value :=
  unfold_congr closed same depth inside

/-- A tag within a closed set is read alike in heaps in which the lists of the set hold the
same. -/
theorem readTag_congr (closed : heap.Closed kept) (same : SameOn kept heap other) {tag : Tag F}
    (inside : tag.Within kept) : heap.readTag tag = other.readTag tag :=
  tag.unfold_congr fun address held => follow_congr closed same depth (inside address held)

end Heap

/-- Whether a tag within a set is bad is the same in heaps in which the lists of the set hold the
same. -/
theorem Tag.Within.isBad_eq {kept : Address → Prop} {tag : Tag F} (inside : tag.Within kept)
    {heap other : Heap F} (same : Heap.SameOn kept heap other) :
    tag.isBad heap = tag.isBad other := by
  rw [Tag.isBad, Tag.isBad, same tag.errors inside.errors]

/-- Every part of a tag within a set is the same in heaps in which the lists of the set hold the
same. -/
theorem Tag.Within.part_eq {kept : Address → Prop} {tag : Tag F} (inside : tag.Within kept)
    {heap other : Heap F} (same : Heap.SameOn kept heap other) (property : String) :
    tag.part heap property = tag.part other property := by
  unfold Tag.part
  rw [inside.isBad_eq same]

/-- What a document is called depends on its identifier and its name. -/
theorem label?_congr {document other : TagBinding.Document F}
    (identifier : document.id? = other.id?) (name : document.name? = other.name?) :
    document.label? = other.label? := by
  unfold TagBinding.Document.label?
  rw [identifier, name]

/-- The header of a report depends on the place of the document, and on what it is called. -/
theorem reportHeader_congr {document other : TagBinding.Document F}
    (file : document.file = other.file) (line : document.startingLine = other.startingLine)
    (label : document.label? = other.label?) : document.reportHeader = other.reportHeader := by
  unfold TagBinding.Document.reportHeader
  rw [file, line, label]

/-- The report on bad tags depends on the place of the document, on what its identifier and its
name are read as, and on what its bad tags are read as. -/
theorem Scene.badTagReport_congr {scene other : Scene F M}
    (file : scene.document.file = other.document.file)
    (line : scene.document.startingLine = other.document.startingLine)
    (label : ∀ key, key = "id" ∨ key = "name" →
      (scene.document.get? key).map scene.heap.read =
        (other.document.get? key).map other.heap.read)
    (bad : scene.document.bad.map scene.heap.readTag =
      other.document.bad.map other.heap.readTag) :
    scene.badTagReport = other.badTagReport := by
  have read : ∀ (found : Scene F M) (key : String),
      found.shown.get? key = (found.document.get? key).map found.heap.read :=
    fun found key => Table.get?_map found.heap.read found.document.properties key
  have labels : scene.shown.label? = other.shown.label? :=
    label?_congr ((read scene "id").trans ((label "id" (.inl rfl)).trans (read other "id").symm))
      ((read scene "name").trans ((label "name" (.inr rfl)).trans (read other "name").symm))
  have header : scene.shown.reportHeader = other.shown.reportHeader :=
    reportHeader_congr file line labels
  have lines : ∀ found : Scene F M, found.reportLines =
      found.shown.reportHeader ::
        (found.document.bad.map found.heap.readTag).flatMap TagBinding.Tag.reportLines := by
    intro found
    rw [List.flatMap_map, reportLines]
  rw [badTagReport, badTagReport, lines, lines, header, bad]

end TagBinding.Live
