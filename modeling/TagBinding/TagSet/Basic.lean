import TagBinding.Table
import TagBinding.Value.Basic

/-!
# The tags of a document

A tag set keeps the well-formed tags of a document in order, and the bad ones apart. Well-formed
tags are also filed under their canonical names, so that the tags of one name are found at once.
An alias table gives the canonical name of a spelling; it is consulted once, both when a tag is
filed and when a name is looked up, so an alias of an alias is not followed.

The buckets repeat what the list of well-formed tags says. That they agree with it is part of the
type (`TagSet.filed`), and every lookup is therefore a selection from the list
(`TagSet.named_eq_filter`).
-/
namespace TagBinding

variable {F : Type}

/-- The canonical name of a spelling: what the alias table gives for it, or itself. -/
def canonicalName (aliases : Table String) (name : String) : String :=
  (aliases.get? name).getD name

/-- Buckets that agree with a list of tags still agree with it when a tag comes after the list and
after the bucket of its canonical name. -/
theorem filed_insert (aliases : Table String) (wellFormed : List (Tag F))
    (buckets : Table (List (Tag F))) (tag : Tag F)
    (filed : ∀ name, (buckets.get? name).getD [] =
      wellFormed.filter fun tag => canonicalName aliases tag.tagName == name) (name : String) :
    ((buckets.insert (canonicalName aliases tag.tagName)
      ((buckets.get? (canonicalName aliases tag.tagName)).getD [] ++ [tag])).get? name).getD [] =
      (wellFormed ++ [tag]).filter fun tag => canonicalName aliases tag.tagName == name := by
  rw [Table.get?_insert, List.filter_append, ← filed name]
  by_cases same : canonicalName aliases tag.tagName = name
  · subst same
    simp
  · have other : ¬ name = canonicalName aliases tag.tagName := fun equal => same equal.symm
    simp [same, other]

/-- The tags of one document. -/
structure TagSet (F : Type) where
  /-- The canonical names of the spellings that are aliases. -/
  aliases : Table String
  /-- The well-formed tags, in the order in which they were added. -/
  wellFormed : List (Tag F)
  /-- The bad tags, in the order in which they were added. -/
  bad : List (Tag F)
  /-- The well-formed tags by canonical name. -/
  buckets : Table (List (Tag F))
  /-- Each bucket holds the well-formed tags of its name, in order. -/
  filed : ∀ name, (buckets.get? name).getD [] =
    wellFormed.filter fun tag => canonicalName aliases tag.tagName == name
  /-- No well-formed tag has errors. -/
  sound : ∀ tag ∈ wellFormed, tag.isBad = false
  /-- Every bad tag has errors. -/
  flawed : ∀ tag ∈ bad, tag.isBad = true

namespace TagSet

/-- The tag set without tags. -/
def empty (aliases : Table String) : TagSet F where
  aliases := aliases
  wellFormed := []
  bad := []
  buckets := .empty
  filed _ := rfl
  sound := by simp
  flawed := by simp

instance : Inhabited (TagSet F) := ⟨empty .empty⟩

/-- The canonical name of a spelling. -/
def canonical (tags : TagSet F) (name : String) : String := canonicalName tags.aliases name

/-- The well-formed tags whose canonical name is that of a spelling, in order. -/
def named (tags : TagSet F) (name : String) : List (Tag F) :=
  (tags.buckets.get? (tags.canonical name)).getD []

/-- The count of the well-formed tags. -/
def size (tags : TagSet F) : Nat := tags.wellFormed.length

/-- Add a tag: a bad one to the bad tags, any other one to the well-formed tags and to the bucket
of its canonical name. -/
def add (tags : TagSet F) (tag : Tag F) : TagSet F :=
  if marred : tag.isBad = true then
    { tags with
      bad := tags.bad ++ [tag]
      flawed := by
        intro other found
        rcases List.mem_append.mp found with old | new
        · exact tags.flawed other old
        · exact List.mem_singleton.mp new ▸ marred }
  else
    { tags with
      wellFormed := tags.wellFormed ++ [tag]
      buckets := tags.buckets.insert (tags.canonical tag.tagName) (tags.named tag.tagName ++ [tag])
      filed := filed_insert tags.aliases tags.wellFormed tags.buckets tag tags.filed
      sound := by
        intro other found
        rcases List.mem_append.mp found with old | new
        · exact tags.sound other old
        · simpa [List.mem_singleton.mp new] using marred }

/-- Add tags in order. -/
def addAll (tags : TagSet F) (more : List (Tag F)) : TagSet F := more.foldl add tags

/-- The tag set of a list of tags, added in order. -/
def ofList (aliases : Table String) (tags : List (Tag F)) : TagSet F := (empty aliases).addAll tags

/-- A lookup is a selection from the well-formed tags. -/
theorem named_eq_filter (tags : TagSet F) (name : String) :
    tags.named name =
      tags.wellFormed.filter fun tag => tags.canonical tag.tagName == tags.canonical name :=
  tags.filed (tags.canonical name)

/-- Adding a tag leaves the alias table alone. -/
@[simp] theorem aliases_add (tags : TagSet F) (tag : Tag F) :
    (tags.add tag).aliases = tags.aliases := by
  unfold add
  split <;> rfl

/-- Adding a tag leaves the canonical names alone. -/
@[simp] theorem canonical_add (tags : TagSet F) (tag : Tag F) (name : String) :
    (tags.add tag).canonical name = tags.canonical name := by
  simp [canonical]

/-- A well-formed tag comes after the well-formed tags that are there; a bad one is not among
them. -/
theorem wellFormed_add (tags : TagSet F) (tag : Tag F) :
    (tags.add tag).wellFormed = tags.wellFormed ++ if tag.isBad then [] else [tag] := by
  unfold add
  split <;> simp_all

/-- A bad tag comes after the bad tags that are there; a well-formed one is not among them. -/
theorem bad_add (tags : TagSet F) (tag : Tag F) :
    (tags.add tag).bad = tags.bad ++ if tag.isBad then [tag] else [] := by
  unfold add
  split <;> simp_all

/-- Adding tags leaves the alias table alone. -/
@[simp] theorem aliases_addAll (tags : TagSet F) (more : List (Tag F)) :
    (tags.addAll more).aliases = tags.aliases := by
  induction more generalizing tags with
  | nil => rfl
  | cons tag rest ih => exact (ih (tags.add tag)).trans (aliases_add tags tag)

/-- Of the tags that are added, the well-formed ones come after those that are there. -/
theorem wellFormed_addAll (tags : TagSet F) (more : List (Tag F)) :
    (tags.addAll more).wellFormed = tags.wellFormed ++ more.filter fun tag => !tag.isBad := by
  induction more generalizing tags with
  | nil => exact (List.append_nil _).symm
  | cons tag rest ih =>
    have first : tags.addAll (tag :: rest) = (tags.add tag).addAll rest := rfl
    rw [first, ih, wellFormed_add, List.append_assoc, List.filter_cons]
    cases tag.isBad <;> rfl

/-- Of the tags that are added, the bad ones come after those that are there. -/
theorem bad_addAll (tags : TagSet F) (more : List (Tag F)) :
    (tags.addAll more).bad = tags.bad ++ more.filter Tag.isBad := by
  induction more generalizing tags with
  | nil => exact (List.append_nil _).symm
  | cons tag rest ih =>
    have first : tags.addAll (tag :: rest) = (tags.add tag).addAll rest := rfl
    rw [first, ih, bad_add, List.append_assoc, List.filter_cons]
    cases tag.isBad <;> rfl

/-- The well-formed tags of a tag set are those among the tags that it is made of. -/
theorem wellFormed_ofList (aliases : Table String) (tags : List (Tag F)) :
    (ofList aliases tags).wellFormed = tags.filter fun tag => !tag.isBad :=
  wellFormed_addAll (empty aliases) tags

/-- A tag set that is made of tags keeps the alias table that it is given. -/
@[simp] theorem aliases_ofList (aliases : Table String) (tags : List (Tag F)) :
    (ofList aliases tags).aliases = aliases :=
  aliases_addAll (empty aliases) tags

end TagSet

end TagBinding
