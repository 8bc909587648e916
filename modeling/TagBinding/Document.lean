import TagBinding.TagSet.Basic

/-!
# Documents

A document is a documented item with its tags and with the properties that are extracted from
them. It changes by edits of two kinds only: a property is assigned, or a tag is attached. So
whatever runs on a document leaves its place in the source and its alias table alone, drops no
property and no tag, and moves none.
-/
namespace TagBinding

variable {F : Type}

/-- A documented item. -/
structure Document (F : Type) where
  /-- The file that holds the comment, if it is known. -/
  file : Option String
  /-- The line on which the comment starts, if it is known. -/
  startingLine : Option Int
  /-- The tags of the comment. -/
  tags : TagSet F
  /-- The properties of the item. -/
  properties : Table (Value F)

/-- One change of a document. -/
inductive Edit (F : Type) where
  /-- Assign a value to a property. -/
  | assign (key : String) (value : Value F)
  /-- Attach a tag. -/
  | attach (tag : Tag F)

/-- Whether an edit assigns a property. -/
def Edit.assigns (key : String) : Edit F → Bool
  | .assign assigned _ => assigned == key
  | .attach _ => false

namespace Document

/-- The document without file, tags and properties. -/
def empty : Document F := ⟨none, none, .empty .empty, .empty⟩

instance : Inhabited (Document F) := ⟨empty⟩

/-- The value of a property. -/
def get? (document : Document F) (key : String) : Option (Value F) := document.properties.get? key

/-- Assign a value to a property. -/
def assign (document : Document F) (key : String) (value : Value F) : Document F :=
  { document with properties := document.properties.insert key value }

/-- Attach a tag. -/
def attach (document : Document F) (tag : Tag F) : Document F :=
  { document with tags := document.tags.add tag }

/-- Change a document by one edit. -/
def edit (document : Document F) : Edit F → Document F
  | .assign key value => document.assign key value
  | .attach tag => document.attach tag

/-- Change a document by edits in order. -/
def editAll (document : Document F) (edits : List (Edit F)) : Document F :=
  edits.foldl edit document

/-- The identifier of the item: its property of that name. -/
def id? (document : Document F) : Option (Value F) := document.get? "id"

/-- The name of the item: its property of that name. -/
def name? (document : Document F) : Option (Value F) := document.get? "name"

/-- No edits change nothing. -/
@[simp] theorem editAll_nil (document : Document F) : document.editAll [] = document := rfl

/-- The first edit comes before the others. -/
@[simp] theorem editAll_cons (document : Document F) (first : Edit F) (rest : List (Edit F)) :
    document.editAll (first :: rest) = (document.edit first).editAll rest := rfl

/-- Edits in two runs are edits in one. -/
theorem editAll_append (document : Document F) (first second : List (Edit F)) :
    document.editAll (first ++ second) = (document.editAll first).editAll second := by
  simp [editAll, List.foldl_append]

/-- An assigned property reads as its value, and every other one as before. -/
theorem get?_assign (document : Document F) (key : String) (value : Value F) (name : String) :
    (document.assign key value).get? name = if name = key then some value else document.get? name :=
  Table.get?_insert _ key value name

end Document

end TagBinding
