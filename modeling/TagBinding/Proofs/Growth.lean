import TagBinding.Proofs.Edits
import TagBinding.Proofs.Passes

/-!
# Documents only grow

Nothing that can be done with a document takes a property or a tag away from it, or moves one. A
document is grown by tags (`Document.GrownBy`) when these tags, and nothing else, have come after
the tags that it had, and when no property has been dropped or moved. An edit grows its document,
and so a pass grows its document by exactly the tags that its functions attach, whether or not it
comes to its end (`grownBy_extractPass`).
-/
namespace TagBinding

variable {F : Type}

/-- Whether a look-up of a name finds a tag, once the tag has been added. -/
def TagSet.finds (tags : TagSet F) (name : String) (tag : Tag F) : Bool :=
  !tag.isBad && tags.canonical tag.tagName == tags.canonical name

namespace Document

/-- That a document has become another one to which tags have been added. It may have new properties
and new values, but all properties that there were are in their places. -/
structure GrownBy (added : List (Tag F)) (before after : Document F) : Prop where
  /-- The properties that there were come first, in their order. -/
  keys : before.properties.keys <+: after.properties.keys
  /-- The well-formed tags that there were come first, then those that have been added. -/
  wellFormed : after.tags.wellFormed =
    before.tags.wellFormed ++ added.filter fun tag => !tag.isBad
  /-- The bad tags that there were come first, then those that have been added. -/
  bad : after.tags.bad = before.tags.bad ++ added.filter fun tag => tag.isBad
  /-- Every spelling has the same canonical name. -/
  canonical : ∀ name, after.tags.canonical name = before.tags.canonical name
  /-- The file is the same. -/
  file : after.file = before.file
  /-- The line is the same. -/
  startingLine : after.startingLine = before.startingLine

namespace GrownBy

/-- A document is grown by nothing to itself. -/
@[refl] theorem refl (document : Document F) : GrownBy [] document document where
  keys := List.prefix_refl _
  wellFormed := (List.append_nil _).symm
  bad := (List.append_nil _).symm
  canonical _ := rfl
  file := rfl
  startingLine := rfl

/-- What is added later comes last. -/
theorem trans {first second : List (Tag F)} {one other third : Document F}
    (former : GrownBy first one other) (latter : GrownBy second other third) :
    GrownBy (first ++ second) one third where
  keys := former.keys.trans latter.keys
  wellFormed := by
    rw [latter.wellFormed, former.wellFormed, List.filter_append, List.append_assoc]
  bad := by
    rw [latter.bad, former.bad, List.filter_append, List.append_assoc]
  canonical name := (latter.canonical name).trans (former.canonical name)
  file := latter.file.trans former.file
  startingLine := latter.startingLine.trans former.startingLine

variable {added : List (Tag F)} {before after : Document F} (grown : GrownBy added before after)
  {tag : Tag F}

include grown

omit tag in
/-- A look-up finds what it found before, and behind that the added tags that it can find. -/
theorem named (name : String) :
    after.tags.named name = before.tags.named name ++ added.filter (before.tags.finds name) := by
  rw [TagSet.named_eq_filter, TagSet.named_eq_filter, grown.wellFormed, List.filter_append,
    List.filter_filter]
  simp only [grown.canonical, Bool.and_comm]
  rfl

omit tag in
/-- Without bad tags now there were none before. -/
theorem bad_eq_nil (clean : after.tags.bad = []) : before.tags.bad = [] := by
  rw [grown.bad] at clean
  exact (List.append_eq_nil_iff.mp clean).1

end GrownBy

variable (document : Document F)

/-- An assignment adds no tag. -/
theorem grownBy_assign (key : String) (value : Value F) :
    GrownBy [] document (document.assign key value) where
  keys := Table.keys_prefix_insert document.properties key value
  wellFormed := (List.append_nil _).symm
  bad := (List.append_nil _).symm
  canonical _ := rfl
  file := rfl
  startingLine := rfl

/-- A tag that is attached is added. -/
theorem grownBy_attach (tag : Tag F) : GrownBy [tag] document (document.attach tag) where
  keys := List.prefix_refl _
  wellFormed := by
    rw [attach, TagSet.wellFormed_add]
    cases marred : tag.isBad <;> simp [marred]
  bad := by
    rw [attach, TagSet.bad_add]
    cases marred : tag.isBad <;> simp [marred]
  canonical := TagSet.canonical_add document.tags tag
  file := rfl
  startingLine := rfl

/-- Edits add the tags that they attach. -/
theorem grownBy_editAll (edits : List (Edit F)) :
    GrownBy (attached edits) document (document.editAll edits) := by
  induction edits generalizing document with
  | nil => exact .refl document
  | cons edit rest ih =>
    cases edit with
    | assign key value => exact (document.grownBy_assign key value).trans (ih _)
    | attach tag => exact (document.grownBy_attach tag).trans (ih _)

end Document

/-- The tags that a function attaches when an event happens. -/
def Event.attached : Event F → List (Tag F)
  | .defaulted _ reply => TagBinding.attached reply.edits
  | .evaluated call => TagBinding.attached call.reply.edits
  | .began _ _ | .reported _ => []

/-- The tags that functions attach in a part of a pass, in order. -/
def Pass.attached (pass : Pass F) : List (Tag F) := pass.events.flatMap Event.attached

/-- That a part of a pass grows a document by the tags that functions attach in it. -/
def Pass.Grows (document : Document F) (pass : Pass F) : Prop :=
  document.GrownBy pass.attached pass.document

namespace Pass

variable {document middle : Document F} {pass : Pass F}

/-- A part in which nothing happens grows the document. -/
theorem grows_still (document : Document F) : (still document).Grows document := .refl document

/-- A part that fails at once grows the document. -/
theorem grows_failed (document : Document F) (fault : Fault F) :
    (failed document fault).Grows document := .refl document

/-- A part grows a document if it grows what an assignment makes of it. -/
theorem Grows.assigned {key : String} {value : Value F}
    (rest : pass.Grows (document.assign key value)) : pass.Grows document :=
  (document.grownBy_assign key value).trans rest

/-- An event that attaches tags may come before a part that grows the document as it is then. -/
theorem Grows.after (rest : pass.Grows middle) (event : Event F)
    (first : document.GrownBy event.attached middle) : (pass.after event).Grows document :=
  first.trans rest

/-- A part that grows every document may come after another one. -/
theorem Grows.andThen (first : pass.Grows document) {next : Document F → Pass F}
    (rest : ∀ document, (next document).Grows document) : (pass.andThen next).Grows document := by
  cases ended : pass.fault? with
  | some fault =>
    rw [andThen_of_fault next ended]
    exact first
  | none =>
    have whole := first.trans (rest pass.document)
    rw [andThen_of_none next ended, Grows, attached, List.flatMap_append]
    exact whole

end Pass

section Extraction

variable (behaviour : Behaviour F) (binding : Binding F)

/-- Collecting values grows the document, whether or not the list that is collected is lost. -/
theorem Binding.grows_collect (held : Option (List (Value F))) (tags : List (Tag F))
    (document : Document F) : (binding.collect behaviour held tags document).Grows document := by
  induction tags generalizing held document with
  | nil => exact Pass.grows_still document
  | cons tag rest ih =>
    simp only [collect]
    refine Pass.Grows.after ?_ _ (document.grownBy_editAll _)
    cases (binding.evaluate behaviour tag document).outcome with
    | error message => exact Pass.grows_failed _ _
    | ok value =>
      cases if (binding.evaluate behaviour tag document).assigns binding.target then none
          else held with
      | none => exact ih none _
      | some values => exact (ih _ _).assigned

/-- The values of all tags grow the document. -/
theorem Binding.grows_extractAll (tags : List (Tag F)) (document : Document F) :
    (binding.extractAll behaviour tags document).Grows document := by
  unfold extractAll
  cases document.collected binding.target with
  | error fault => exact Pass.grows_failed document fault
  | ok values => exact (binding.grows_collect behaviour _ tags _).assigned

/-- The value of the only tag grows the document. -/
theorem Binding.grows_extractOnly (tag : Tag F) (document : Document F) :
    (binding.extractOnly behaviour tag document).Grows document := by
  refine Pass.Grows.after ?_ _ (document.grownBy_editAll _)
  cases (binding.evaluate behaviour tag document).outcome with
  | error message => exact Pass.grows_failed _ _
  | ok value => exact (Pass.grows_still _).assigned

/-- A default that is written grows the document. -/
theorem Binding.grows_writeDefault (value : Value F) (document : Document F) :
    (binding.writeDefault value document).Grows document := by
  unfold writeDefault
  split
  · cases document.collected binding.target with
    | error fault => exact Pass.grows_failed document fault
    | ok values => exact (Pass.grows_still _).assigned
  · exact (Pass.grows_still _).assigned

/-- What is done without tags grows the document. -/
theorem Binding.grows_extractDefault (document : Document F) :
    (binding.extractDefault behaviour document).Grows document := by
  unfold extractDefault
  split
  · exact Pass.grows_failed _ _
  · cases binding.definition.defaultFn with
    | none => exact Pass.grows_still document
    | some function =>
      refine Pass.Grows.after ?_ _ (document.grownBy_editAll _)
      cases (behaviour function document none .null).outcome with
      | error message => exact Pass.grows_failed _ _
      | ok value =>
        cases value with
        | null => exact Pass.grows_still _
        | _ => exact binding.grows_writeDefault _ _

/-- The extraction of a binding grows the document. -/
theorem Binding.grows_extract (document : Document F) :
    (binding.extract behaviour document).Grows document := by
  refine Pass.Grows.after ?_ _ (.refl document)
  cases document.tags.named binding.name with
  | nil => exact binding.grows_extractDefault behaviour document
  | cons tag rest =>
    dsimp only
    split
    · exact binding.grows_extractAll behaviour _ document
    · split
      · exact binding.grows_extractOnly behaviour tag document
      · exact Pass.grows_failed _ _

/-- A report adds nothing. -/
theorem Document.grows_report (document : Document F) : document.report.Grows document := by
  unfold report
  split
  · exact Pass.grows_still document
  · exact (Pass.grows_still document).after _ (.refl document)

/-- A pass grows its document by the tags that its functions attach, and by no others, whether or
not it comes to its end. -/
theorem grownBy_extractPass (bindings : List (Binding F)) (document : Document F) :
    document.GrownBy (extractPass behaviour bindings document).attached
      (extractPass behaviour bindings document).document := by
  induction bindings generalizing document with
  | nil => exact .refl document
  | cons binding rest ih =>
    exact ((binding.grows_extract behaviour document).andThen Document.grows_report).andThen ih

end Extraction

end TagBinding
