import TagBinding.Live.Heap
import TagBinding.Report.Message

/-!
# Scenes

A scene is what a function finds when it is run: the document that it is run on, the lists that
there are, and what the functions remember from earlier runs. A scene changes by edits: a property
of the document is assigned, a tag is attached to it, a list is made, or a list is given other
items. An attached tag is bad when it has errors at that moment; whatever becomes of its errors
later, it is not moved.
-/
namespace TagBinding.Live

variable {F M : Type}

/-- A documented item in use. -/
structure Document (F : Type) where
  /-- The region of the lists that are made for the document. -/
  home : Nat
  /-- The file that holds the comment, if it is known. -/
  file : Option String
  /-- The line on which the comment starts, if it is known. -/
  startingLine : Option Int
  /-- The canonical names of the spellings that are aliases. -/
  aliases : Table String
  /-- The tags that were well-formed when they were attached, in order. -/
  wellFormed : List (Tag F)
  /-- The tags that were bad when they were attached, in order. -/
  bad : List (Tag F)
  /-- The properties of the item. -/
  properties : Table (Value F)

namespace Document

/-- The canonical name of a spelling. -/
def canonical (document : Document F) (name : String) : String :=
  canonicalName document.aliases name

/-- The well-formed tags whose canonical name is that of a spelling, in order. -/
def named (document : Document F) (name : String) : List (Tag F) :=
  document.wellFormed.filter fun tag => document.canonical tag.tagName == document.canonical name

/-- The value of a property. -/
def get? (document : Document F) (key : String) : Option (Value F) := document.properties.get? key

/-- Assign a value to a property. -/
def assign (document : Document F) (key : String) (value : Value F) : Document F :=
  { document with properties := document.properties.insert key value }

/-- Attach a tag, which is bad when it has errors. -/
def attach (document : Document F) (heap : Heap F) (tag : Tag F) : Document F :=
  if tag.isBad heap then { document with bad := document.bad ++ [tag] }
  else { document with wellFormed := document.wellFormed ++ [tag] }

/-- An assigned property reads as its value, and every other one as before. -/
theorem get?_assign (document : Document F) (key : String) (value : Value F) (name : String) :
    (document.assign key value).get? name = if name = key then some value else document.get? name :=
  Table.get?_insert _ key value name

end Document

/-- What a function finds when it is run. -/
structure Scene (F M : Type) where
  /-- What the functions remember. -/
  memory : M
  /-- The lists. -/
  heap : Heap F
  /-- The document. -/
  document : Document F

/-- One change of a scene. -/
inductive Edit (F : Type) where
  /-- Assign a value to a property. -/
  | assign (key : String) (value : Value F)
  /-- Attach a tag. -/
  | attach (tag : Tag F)
  /-- Make a list in a region. -/
  | make (region : Nat) (items : List (Value F))
  /-- Let a list hold other items. -/
  | put (address : Address) (items : List (Value F))

/-- Whether an edit assigns a property. -/
def Edit.assigns (key : String) : Edit F → Bool
  | .assign assigned _ => assigned == key
  | .attach _ | .make _ _ | .put _ _ => false

namespace Scene

/-- Assign a value to a property of the document. -/
def assign (scene : Scene F M) (key : String) (value : Value F) : Scene F M :=
  { scene with document := scene.document.assign key value }

/-- Put an item at the end of a list. -/
def push (scene : Scene F M) (address : Address) (item : Value F) : Scene F M :=
  { scene with heap := scene.heap.push address item }

/-- Change a scene by one edit. -/
def edit (scene : Scene F M) : Edit F → Scene F M
  | .assign key value => scene.assign key value
  | .attach tag => { scene with document := scene.document.attach scene.heap tag }
  | .make region items => { scene with heap := scene.heap.make region items }
  | .put address items => { scene with heap := scene.heap.put address items }

/-- Change a scene by edits in order. -/
def editAll (scene : Scene F M) (edits : List (Edit F)) : Scene F M := edits.foldl edit scene

/-- The first edit comes before the others. -/
@[simp] theorem editAll_cons (scene : Scene F M) (first : Edit F) (rest : List (Edit F)) :
    scene.editAll (first :: rest) = (scene.edit first).editAll rest := rfl

/-- Edits in two runs are edits in one. -/
theorem editAll_append (scene : Scene F M) (first second : List (Edit F)) :
    scene.editAll (first ++ second) = (scene.editAll first).editAll second := by
  simp [editAll, List.foldl_append]

/-- The document as it is read, without its tags. -/
def shown (scene : Scene F M) : TagBinding.Document F :=
  ⟨scene.document.file, scene.document.startingLine, .empty scene.document.aliases,
    scene.document.properties.map scene.heap.read⟩

/-- The lines of the report on the document's bad tags: the header of the document with the
properties that it has, then the lines of each bad tag. -/
def reportLines (scene : Scene F M) : List String :=
  scene.shown.reportHeader ::
    scene.document.bad.flatMap fun tag => (scene.heap.readTag tag).reportLines

/-- The report on the document's bad tags. -/
def badTagReport (scene : Scene F M) : String := joinTexts "\n" scene.reportLines ++ "\n\n"

end Scene

end TagBinding.Live
