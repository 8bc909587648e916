import TagBinding.Live.Scene

/-!
# What edits of a scene leave behind

Edits run over a scene one after the other. A property is left with the value that was assigned to
it last (`Scene.get?_editAll`), whatever happens to lists meanwhile. Edits that give no list other
items leave what every list holds that is there already (`Scene.extends_editAll`): the lists that
they make are new ones.
-/
namespace TagBinding.Live

variable {F M : Type}

/-- The value that edits leave in a property, if they assign it at all. -/
def lastAssigned (key : String) : List (Edit F) → Option (Value F)
  | [] => none
  | .assign assigned value :: rest =>
    (lastAssigned key rest).or (if assigned = key then some value else none)
  | .attach _ :: rest | .make _ _ :: rest | .put _ _ :: rest => lastAssigned key rest

/-- Edits leave no value in a property exactly when none of them assigns it. -/
theorem lastAssigned_eq_none_iff (key : String) (edits : List (Edit F)) :
    lastAssigned key edits = none ↔ edits.any (Edit.assigns key) = false := by
  induction edits with
  | nil => simp [lastAssigned]
  | cons edit rest ih =>
    cases edit with
    | assign assigned value =>
      by_cases same : assigned = key
      · simp [lastAssigned, Edit.assigns, same]
      · simpa [lastAssigned, Edit.assigns, same] using ih
    | attach tag => simpa [lastAssigned, Edit.assigns] using ih
    | make region items => simpa [lastAssigned, Edit.assigns] using ih
    | put address items => simpa [lastAssigned, Edit.assigns] using ih

/-- The last value that is assigned by edits in a row is that of the second ones, if they assign
the property, and else that of the first ones. -/
theorem lastAssigned_append (key : String) (first second : List (Edit F)) :
    lastAssigned key (first ++ second) = (lastAssigned key second).or (lastAssigned key first) := by
  induction first with
  | nil => simp [lastAssigned]
  | cons edit rest ih =>
    cases edit with
    | assign assigned value => simp [lastAssigned, ih, Option.or_assoc]
    | attach tag => simpa [lastAssigned] using ih
    | make region items => simpa [lastAssigned] using ih
    | put address items => simpa [lastAssigned] using ih

/-- Whether an edit gives other items to a list that is there. -/
def Edit.rewrites : Edit F → Bool
  | .put _ _ => true
  | .assign _ _ | .attach _ | .make _ _ => false

namespace Heap

/-- That a heap has all lists of another one, with what they hold, and perhaps more. -/
structure Extends (heap grown : Heap F) : Prop where
  /-- No region loses a list. -/
  used : ∀ region, heap.used region ≤ grown.used region
  /-- Every list that is there holds what it held. -/
  items : ∀ address, heap.Knows address → grown.items address = heap.items address

/-- A heap has its own lists. -/
theorem Extends.refl (heap : Heap F) : heap.Extends heap := ⟨fun _ => Nat.le_refl _, fun _ _ => rfl⟩

/-- A list that is there stays there. -/
theorem Extends.knows {heap grown : Heap F} (wider : heap.Extends grown) {address : Address}
    (known : heap.Knows address) : grown.Knows address :=
  Nat.lt_of_lt_of_le known (wider.used address.region)

/-- What has all lists of a heap that has all lists of a third one has all lists of that one. -/
theorem Extends.trans {heap middle grown : Heap F} (former : heap.Extends middle)
    (latter : middle.Extends grown) : heap.Extends grown where
  used region := Nat.le_trans (former.used region) (latter.used region)
  items address known :=
    (latter.items address (former.knows known)).trans (former.items address known)

/-- The next list of a region is not there yet. -/
theorem not_knows_next (heap : Heap F) (region : Nat) : ¬ heap.Knows (heap.next region) :=
  Nat.lt_irrefl _

/-- A list that is made is there, as are all that were there before, and no other one. -/
theorem knows_make_iff (heap : Heap F) (region : Nat) (items : List (Value F))
    (address : Address) :
    (heap.make region items).Knows address ↔
      heap.Knows address ∨ address = heap.next region := by
  obtain ⟨other, place⟩ := address
  by_cases same : other = region
  · subst same
    simp only [Knows, make, put, next, if_true, Address.mk.injEq, true_and]
    omega
  · simp [Knows, make, put, next, same]

/-- Making a list leaves those that are there as they are. -/
theorem extends_make (heap : Heap F) (region : Nat) (items : List (Value F)) :
    heap.Extends (heap.make region items) where
  used other := by
    show heap.used other ≤ if other = region then heap.used region + 1 else heap.used other
    split
    · rename_i same
      rw [same]
      exact Nat.le_succ _
    · exact Nat.le_refl _
  items address known := by
    rw [items_make, if_neg]
    rintro rfl
    exact heap.not_knows_next region known

/-- What an edit does to the lists. -/
def edit (heap : Heap F) : Edit F → Heap F
  | .assign _ _ | .attach _ => heap
  | .make region items => heap.make region items
  | .put address items => heap.put address items

/-- What edits do to the lists, one after another. -/
def editAll (heap : Heap F) (edits : List (Edit F)) : Heap F := edits.foldl edit heap

/-- The first edit comes before the others. -/
@[simp] theorem editAll_cons (heap : Heap F) (first : Edit F) (rest : List (Edit F)) :
    heap.editAll (first :: rest) = (heap.edit first).editAll rest := rfl

/-- Edits in two runs are edits in one. -/
theorem editAll_append (heap : Heap F) (first second : List (Edit F)) :
    heap.editAll (first ++ second) = (heap.editAll first).editAll second :=
  List.foldl_append

/-- Heaps with the same lists that hold the same are equal. -/
theorem ext {heap other : Heap F} (items : ∀ address, heap.items address = other.items address)
    (used : heap.used = other.used) : heap = other := by
  cases heap
  cases other
  cases used
  exact congrArg (Heap.mk · _) (funext items)

/-- Of two contents that a list is given, the second one stays. -/
theorem put_put (heap : Heap F) (address : Address) (first second : List (Value F)) :
    (heap.put address first).put address second = heap.put address second := by
  refine ext (fun other => ?_) rfl
  simp only [items_put]
  split <;> rfl

/-- A list that is given what it holds already stays as it is. -/
theorem put_items (heap : Heap F) (address : Address) :
    heap.put address (heap.items address) = heap := by
  refine ext (fun other => ?_) rfl
  rw [items_put]
  split
  · rename_i same
    rw [same]
  · rfl

/-- It makes no difference whether a list that is there is given a content before or after another
one is made. -/
theorem make_put (heap : Heap F) {address : Address} (known : heap.Knows address)
    (items : List (Value F)) (region : Nat) (made : List (Value F)) :
    (heap.put address items).make region made = (heap.make region made).put address items := by
  refine ext (fun other => ?_) rfl
  have same : (heap.put address items).next region = heap.next region := rfl
  rw [items_make, items_put, items_put, items_make, same]
  by_cases mine : other = address
  · subst mine
    have apart : other ≠ heap.next region := by
      rintro rfl
      exact heap.not_knows_next region known
    rw [if_neg apart, if_pos rfl, if_pos rfl]
  · rw [if_neg mine, if_neg mine]

/-- It makes no difference whether a list that is there is given a content before or after edits
that give none a content. -/
theorem editAll_put (heap : Heap F) {address : Address} (known : heap.Knows address)
    (items : List (Value F)) (edits : List (Edit F))
    (keeping : ∀ edit ∈ edits, edit.rewrites = false) :
    (heap.put address items).editAll edits = (heap.editAll edits).put address items := by
  induction edits generalizing heap with
  | nil => rfl
  | cons first rest ih =>
    obtain ⟨head, tail⟩ := List.forall_mem_cons.mp keeping
    rw [editAll_cons, editAll_cons]
    cases first with
    | assign key value => exact ih heap known tail
    | attach tag => exact ih heap known tail
    | make region made =>
      have later := ih (heap.make region made) ((heap.extends_make region made).knows known) tail
      rw [edit, edit, make_put heap known, later]
    | put other made => simp [Edit.rewrites] at head

end Heap

namespace Document

/-- An attached tag changes no property, nor anything else but the tags. -/
theorem rest_attach (document : Document F) (heap : Heap F) (tag : Tag F) :
    (document.attach heap tag).properties = document.properties ∧
      (document.attach heap tag).aliases = document.aliases ∧
      (document.attach heap tag).file = document.file ∧
      (document.attach heap tag).startingLine = document.startingLine ∧
      (document.attach heap tag).home = document.home := by
  unfold attach
  split <;> exact ⟨rfl, rfl, rfl, rfl, rfl⟩

end Document

namespace Scene

/-- After edits a property holds the value that they leave in it, or else what it held before. -/
theorem get?_editAll (scene : Scene F M) (edits : List (Edit F)) (key : String) :
    (scene.editAll edits).document.get? key =
      (lastAssigned key edits).or (scene.document.get? key) := by
  induction edits generalizing scene with
  | nil => rfl
  | cons edit rest ih =>
    rw [editAll_cons, ih]
    cases edit with
    | assign assigned value =>
      have read : (scene.edit (.assign assigned value)).document.get? key =
          if key = assigned then some value else scene.document.get? key :=
        Document.get?_assign scene.document assigned value key
      rw [read, lastAssigned, Option.or_assoc]
      by_cases same : assigned = key
      · simp [same]
      · have other : ¬ key = assigned := fun equal => same equal.symm
        simp [same, other]
    | attach tag =>
      have read : (scene.edit (.attach tag)).document.get? key = scene.document.get? key := by
        rw [Document.get?, Document.get?]
        exact congrArg (Table.get? · key) (scene.document.rest_attach scene.heap tag).1
      rw [read, lastAssigned]
    | make region items => rfl
    | put address items => rfl

/-- Edits that assign no property leave all properties as they are, with their places. -/
theorem properties_editAll_of_free (scene : Scene F M) (edits : List (Edit F))
    (free : ∀ edit ∈ edits, ∀ key, edit.assigns key = false) :
    (scene.editAll edits).document.properties = scene.document.properties := by
  induction edits generalizing scene with
  | nil => rfl
  | cons edit rest ih =>
    obtain ⟨head, tail⟩ := List.forall_mem_cons.mp free
    rw [editAll_cons, ih _ tail]
    cases edit with
    | assign assigned value => simp [Edit.assigns] at head
    | attach tag => exact (scene.document.rest_attach scene.heap tag).1
    | make region items => rfl
    | put address items => rfl

/-- What edits of a scene do to the lists does not depend on anything else. -/
theorem heap_editAll (scene : Scene F M) (edits : List (Edit F)) :
    (scene.editAll edits).heap = scene.heap.editAll edits := by
  induction edits generalizing scene with
  | nil => rfl
  | cons edit rest ih =>
    rw [editAll_cons, ih, Heap.editAll_cons]
    cases edit <;> rfl

/-- Edits that give no list other items leave those that are there as they are. -/
theorem extends_editAll (scene : Scene F M) (edits : List (Edit F))
    (keeping : ∀ edit ∈ edits, edit.rewrites = false) :
    scene.heap.Extends (scene.editAll edits).heap := by
  induction edits generalizing scene with
  | nil => exact .refl scene.heap
  | cons edit rest ih =>
    obtain ⟨head, tail⟩ := List.forall_mem_cons.mp keeping
    rw [editAll_cons]
    refine Heap.Extends.trans ?_ (ih (scene.edit edit) tail)
    cases edit with
    | assign assigned value => exact .refl scene.heap
    | attach tag => exact .refl scene.heap
    | make region items => exact scene.heap.extends_make region items
    | put address items => simp [Edit.rewrites] at head

/-- Edits do the same whatever the functions remember. -/
theorem editAll_remember (scene : Scene F M) (memory : M) (edits : List (Edit F)) :
    ({ scene with memory := memory } : Scene F M).editAll edits =
      { scene.editAll edits with memory := memory } := by
  induction edits generalizing scene with
  | nil => rfl
  | cons edit rest ih =>
    have first : ({ scene with memory := memory } : Scene F M).edit edit =
        { scene.edit edit with memory := memory } := by
      cases edit <;> rfl
    rw [editAll_cons, editAll_cons, first, ih]

end Scene

end TagBinding.Live
