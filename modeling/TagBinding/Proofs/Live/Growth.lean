import TagBinding.Proofs.Live.Preservation

/-!
# What a pass leaves of a scene

The engine appends. It adds properties behind those that there are, attaches tags behind those that
there are, and puts values at the ends of lists (`Scene.Grown`). As long as no function gives a list
other items, this holds of a pass as a whole (`Scene.grown_extractPass`), whether or not it comes to
its end. A tag that is attached is the same tag from then on; but the list of its errors, and the
lists in its description, are lists like all others, and may grow if something else holds them.
-/
namespace TagBinding.Live

variable {F M : Type}

/-- That a document has become another one by properties and tags that were added. The properties
and tags that there were are in their places; the properties may have got new values. -/
structure Document.Grown (before after : Document F) : Prop where
  /-- The properties that there were come first, in their order. -/
  keys : before.properties.keys <+: after.properties.keys
  /-- The well-formed tags that there were come first. -/
  wellFormed : before.wellFormed <+: after.wellFormed
  /-- The bad tags that there were come first. -/
  bad : before.bad <+: after.bad
  /-- The aliases are the same. -/
  aliases : after.aliases = before.aliases
  /-- The file is the same. -/
  file : after.file = before.file
  /-- The line is the same. -/
  startingLine : after.startingLine = before.startingLine
  /-- The region is the same. -/
  home : after.home = before.home

/-- That a heap has become another one by lists that were made, and by items at the ends of lists. -/
structure Heap.Grown (before after : Heap F) : Prop where
  /-- No list is lost. -/
  used : ∀ region, before.used region ≤ after.used region
  /-- What a list held comes first. -/
  items : ∀ address, before.Knows address → before.items address <+: after.items address

namespace Document.Grown

variable {first second third : Document F}

/-- Every document has grown from itself. -/
@[refl] theorem refl (document : Document F) : document.Grown document :=
  ⟨List.prefix_refl _, List.prefix_refl _, List.prefix_refl _, rfl, rfl, rfl, rfl⟩

/-- What has grown from what has grown from a document has grown from that document. -/
theorem trans (former : first.Grown second) (latter : second.Grown third) : first.Grown third where
  keys := former.keys.trans latter.keys
  wellFormed := former.wellFormed.trans latter.wellFormed
  bad := former.bad.trans latter.bad
  aliases := latter.aliases.trans former.aliases
  file := latter.file.trans former.file
  startingLine := latter.startingLine.trans former.startingLine
  home := latter.home.trans former.home

/-- A document grows by an assignment. -/
theorem assign (document : Document F) (key : String) (value : Value F) :
    document.Grown (document.assign key value) :=
  ⟨document.properties.keys_prefix_insert key value, List.prefix_refl _, List.prefix_refl _, rfl,
    rfl, rfl, rfl⟩

/-- A document grows by a tag that is attached. -/
theorem attach (document : Document F) (heap : Heap F) (tag : Tag F) :
    document.Grown (document.attach heap tag) := by
  unfold Document.attach
  split
  · exact ⟨List.prefix_refl _, List.prefix_refl _, List.prefix_append _ _, rfl, rfl, rfl, rfl⟩
  · exact ⟨List.prefix_refl _, List.prefix_append _ _, List.prefix_refl _, rfl, rfl, rfl, rfl⟩

/-- The document of a scene grows by all edits. -/
theorem editAll {M : Type} (scene : Scene F M) (edits : List (Edit F)) :
    scene.document.Grown (scene.editAll edits).document := by
  induction edits generalizing scene with
  | nil => rfl
  | cons edit rest ih =>
    refine trans ?_ (ih (scene.edit edit))
    cases edit with
    | assign key value => exact assign scene.document key value
    | attach tag => exact attach scene.document scene.heap tag
    | make region items => rfl
    | put address items => rfl

end Document.Grown

namespace Heap.Grown

variable {first second third : Heap F}

/-- Every heap has grown from itself. -/
@[refl] theorem refl (heap : Heap F) : heap.Grown heap :=
  ⟨fun _ => Nat.le_refl _, fun _ _ => List.prefix_refl _⟩

/-- What has grown from what has grown from a heap has grown from that heap. -/
theorem trans (former : first.Grown second) (latter : second.Grown third) : first.Grown third where
  used region := Nat.le_trans (former.used region) (latter.used region)
  items address known := (former.items address known).trans
    (latter.items address (Nat.lt_of_lt_of_le known (former.used address.region)))

/-- A heap grows to every heap that has all of its lists as they are. -/
theorem of_extends (wider : first.Extends second) : first.Grown second where
  used := wider.used
  items address known := by
    have same := wider.items address known
    exact same ▸ List.prefix_refl _

/-- A heap grows by an item at the end of a list. -/
theorem push (heap : Heap F) (address : Address) (item : Value F) :
    heap.Grown (heap.push address item) where
  used _ := Nat.le_refl _
  items other _ := by
    rw [Heap.items_push]
    split
    · rename_i same
      rw [same]
      exact List.prefix_append _ _
    · exact List.prefix_refl _

/-- A heap grows by lists that are made. -/
theorem makeAll (heap : Heap F) (region : Nat) (lists : List (List (Value F))) :
    heap.Grown (heap.makeAll region lists) := by
  induction lists generalizing heap with
  | nil => rfl
  | cons first rest ih =>
    exact (of_extends (heap.extends_make region first)).trans (ih (heap.make region first))

end Heap.Grown

namespace Scene

/-- That the lists and the document of a scene have grown to those of another one. -/
structure Grown (before after : Scene F M) : Prop where
  /-- The lists have. -/
  heap : before.heap.Grown after.heap
  /-- The document has. -/
  document : before.document.Grown after.document

namespace Grown

variable {first second third : Scene F M}

/-- Every scene has grown from itself. -/
@[refl] theorem refl (scene : Scene F M) : scene.Grown scene := ⟨.refl _, .refl _⟩

/-- What has grown from what has grown from a scene has grown from that scene. -/
theorem trans (former : first.Grown second) (latter : second.Grown third) : first.Grown third :=
  ⟨former.heap.trans latter.heap, former.document.trans latter.document⟩

/-- A scene grows by edits that give no list other items. -/
theorem editAll (scene : Scene F M) (edits : List (Edit F))
    (keeping : ∀ edit ∈ edits, edit.rewrites = false) : scene.Grown (scene.editAll edits) :=
  ⟨.of_extends (scene.extends_editAll edits keeping), .editAll scene edits⟩

/-- A scene grows by a reply that gives no list other items. -/
theorem after (scene : Scene F M) {reply : Reply F M}
    (keeping : ∀ edit ∈ reply.edits, edit.rewrites = false) : scene.Grown (scene.after reply) :=
  ⟨(editAll scene reply.edits keeping).heap, (editAll scene reply.edits keeping).document⟩

end Grown

end Scene

/-- That the functions of a binding give no list other items. -/
structure Binding.Keeps (behaviour : Behaviour F M) (binding : Binding F) : Prop where
  /-- No transform does. -/
  transforms : ∀ function ∈ binding.transforms, (behaviour function).Keeps
  /-- No default function does. -/
  default : ∀ function ∈ binding.definition.defaultFn, (behaviour function).Keeps

/-- The steps of a binding whose functions give no list other items let a scene grow. -/
theorem Binding.Keeps.respects {behaviour : Behaviour F M} {binding : Binding F}
    (keeps : Binding.Keeps behaviour binding) : Respects behaviour Scene.Grown binding where
  opened scene :=
    ⟨.of_extends (scene.heap.extends_make scene.document.home []), .assign scene.document _ _⟩
  evaluated scene tag := .after scene (keeps_evaluate keeps.transforms tag scene)
  defaulted scene function default := .after scene (keeps.default function default scene none .null)
  pushed scene address value := ⟨.push scene.heap address value, .refl _⟩
  assigned scene value := ⟨.refl _, .assign scene.document binding.target value⟩

/-- A scene grows by a pass whose functions give no list other items, whether or not the pass comes
to its end. -/
theorem Scene.grown_extractPass {behaviour : Behaviour F M} {bindings : List (Binding F)}
    (keeps : ∀ binding ∈ bindings, Binding.Keeps behaviour binding) (scene : Scene F M) :
    scene.Grown (extractPass behaviour bindings scene).scene :=
  related_extractPass (fun _ _ _ => .trans) .refl (fun binding inside => (keeps binding inside).respects) scene

/-- The document of a scene grows by the extraction of a binding, whatever the functions do. -/
theorem Document.grown_extract (behaviour : Behaviour F M) (binding : Binding F)
    (scene : Scene F M) : scene.document.Grown (extract behaviour binding scene).scene.document := by
  have respects : Respects behaviour
      (fun before after : Scene F M => before.document.Grown after.document) binding :=
    { opened := fun scene => .assign scene.document _ _
      evaluated := fun scene tag => .editAll scene _
      defaulted := fun scene function _ => .editAll scene _
      pushed := fun scene _ _ => .refl scene.document
      assigned := fun scene _ => .assign scene.document _ _ }
  exact respects.extract (fun _ _ _ => .trans) (fun scene => .refl scene.document) scene

end TagBinding.Live
