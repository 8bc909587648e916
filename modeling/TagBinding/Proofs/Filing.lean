import Mathlib.Algebra.GroupWithZero.Nat
import Mathlib.Data.List.Pairwise
import TagBinding.Proofs.Routing

/-!
# How tags are filed

A tag set is made of tags that come one after another. Whatever aliases there are, the bad tags are
those with errors and the well-formed ones all others, each kind in the order in which it came, and
the tags of a name are the well-formed ones whose spelling stands for the same canonical name. So
the canonical names divide the well-formed tags among them: names that stand for all canonical
names, each of them once (`TagSet.Represented`), have together as many tags as the set
(`TagSet.sum_length_named`).
-/
namespace TagBinding

variable {F : Type}

/-- A tag is bad if it has errors. -/
theorem Tag.isBad_eq_decide (tag : Tag F) : tag.isBad = decide (tag.errors ≠ []) := by
  rw [Bool.eq_iff_iff, isBad_iff, decide_eq_true_iff]

namespace TagSet

/-- That names stand for the canonical names of all well-formed tags, no two for the same one. -/
structure Represented (tags : TagSet F) (names : List String) : Prop where
  /-- No two stand for the same canonical name. -/
  distinct : names.Pairwise fun first second => tags.canonical first ≠ tags.canonical second
  /-- The canonical name of each well-formed tag has a name that stands for it. -/
  complete : ∀ tag ∈ tags.wellFormed, ∃ name ∈ names,
    tags.canonical name = tags.canonical tag.tagName

/-- Of the spellings of the well-formed tags, one for each canonical name. -/
def representatives (tags : TagSet F) : List String :=
  (tags.wellFormed.map Tag.tagName).pwFilter fun first second =>
    tags.canonical first ≠ tags.canonical second

variable (tags : TagSet F)

/-- Each canonical name has a spelling that stands for it. -/
theorem represented_representatives : tags.Represented tags.representatives := by
  refine ⟨List.pairwise_pwFilter _, fun tag present => ?_⟩
  by_contra missing
  have apart : ∀ name ∈ tags.representatives,
      tags.canonical tag.tagName ≠ tags.canonical name :=
    fun name inside same => missing ⟨name, inside, same.symm⟩
  -- A spelling that differs from what is kept differs from all spellings, and so from itself.
  have differs := (List.forall_mem_pwFilter (fun {first second third} other => ?_) tag.tagName
    (tags.wellFormed.map Tag.tagName)).mp apart
  · exact differs tag.tagName (List.mem_map_of_mem present) rfl
  · by_cases same : tags.canonical first = tags.canonical second
    · exact .inr (same ▸ other)
    · exact .inl same

/-- Representatives are spellings of well-formed tags. -/
theorem exists_of_mem_representatives {name : String} (inside : name ∈ tags.representatives) :
    ∃ tag ∈ tags.wellFormed, tag.tagName = name :=
  List.mem_map.mp (List.pwFilter_subset _ inside)

/-- A well-formed tag is found under the spellings of its canonical name. -/
theorem mem_named_iff (tag : Tag F) (name : String) :
    tag ∈ tags.named name ↔
      tag ∈ tags.wellFormed ∧ tags.canonical tag.tagName = tags.canonical name := by
  rw [named_eq_filter, List.mem_filter, beq_iff_eq]

/-- Two spellings of one canonical name have the same tags. -/
theorem named_congr {first second : String}
    (same : tags.canonical first = tags.canonical second) :
    tags.named first = tags.named second := by
  rw [named, named, same]

/-- Names that represent the canonical names have together all well-formed tags, each once. -/
theorem flatMap_named_perm_wellFormed {names : List String} (represented : tags.Represented names) :
    (names.flatMap tags.named).Perm tags.wellFormed := by
  have whole := flatMap_filter_append_perm
    (fun name (tag : Tag F) => tags.canonical tag.tagName == tags.canonical name) names
    tags.wellFormed (represented.distinct.imp fun apart tag _ own => by
      rw [beq_iff_eq] at own
      rwa [beq_eq_false_iff_ne, own])
  have unclaimed : tags.wellFormed.filter (fun tag => names.all fun name =>
      !(tags.canonical tag.tagName == tags.canonical name)) = [] := by
    refine List.filter_eq_nil_iff.mpr fun tag present free => ?_
    obtain ⟨name, inside, same⟩ := represented.complete tag present
    have apart := List.all_eq_true.mp free name inside
    simp [same] at apart
  rw [unclaimed, List.append_nil] at whole
  have each : ∀ name ∈ names, (tags.wellFormed.filter fun tag =>
      tags.canonical tag.tagName == tags.canonical name) = tags.named name :=
    fun name _ => (tags.named_eq_filter name).symm
  rwa [List.flatMap_congr each] at whole

/-- Names that represent the canonical names have together as many tags as the set. -/
theorem sum_length_named {names : List String} (represented : tags.Represented names) :
    (names.map fun name => (tags.named name).length).sum = tags.size := by
  rw [← List.length_flatMap]
  exact (tags.flatMap_named_perm_wellFormed represented).length_eq

/-- What a tag set comes to that is given tags first and more of them later, with any aliases. The
bad tags are those with errors, the well-formed ones the others, and both stand in the order in
which they came. The tags of a name are the well-formed ones with its canonical name, which is looked up
once for the name and once for the spelling of the tag. So spellings of one canonical name have the
same tags, those of different ones have none in common, and a well-formed tag is found under its own
spelling. Names that represent the canonical names have together as many tags as the set, and the
spellings of the tags include such names. -/
theorem filing_of_added (aliases : Table String) (initial more : List (Tag F)) :
    let tags := (ofList aliases initial).addAll more
    let canon := fun name => (aliases.get? name).getD name
    tags.bad = (initial ++ more).filter (fun tag => tag.errors ≠ []) ∧
    tags.wellFormed = (initial ++ more).filter (fun tag => tag.errors = []) ∧
    tags.size = (initial ++ more).countP (fun tag => tag.errors = []) ∧
    (∀ name, tags.canonical name = canon name) ∧
    (∀ name, tags.named name =
      (initial ++ more).filter fun tag => tag.errors = [] ∧ canon tag.tagName = canon name) ∧
    (∀ first second, canon first = canon second → tags.named first = tags.named second) ∧
    (∀ first second, canon first ≠ canon second →
      ∀ tag ∈ initial ++ more, tag ∈ tags.named first → tag ∉ tags.named second) ∧
    (∀ tag ∈ tags.wellFormed, tag ∈ tags.named tag.tagName) ∧
    (∀ names, tags.Represented names →
      (names.map fun name => (tags.named name).length).sum = tags.size) ∧
    ∃ names, tags.Represented names ∧ ∀ name ∈ names, ∃ tag ∈ tags.wellFormed,
      tag.tagName = name := by
  intro tags canon
  have canonical : ∀ name, tags.canonical name = canon name := by
    intro name
    rw [TagSet.canonical, aliases_addAll, aliases_ofList]
    rfl
  have marred : tags.bad = (initial ++ more).filter fun tag => tag.errors ≠ [] := by
    rw [bad_addAll, ofList, bad_addAll, List.append_assoc, ← List.filter_append]
    exact List.filter_congr fun tag _ => tag.isBad_eq_decide
  have sound : tags.wellFormed = (initial ++ more).filter fun tag => tag.errors = [] := by
    rw [wellFormed_addAll, wellFormed_ofList, ← List.filter_append]
    refine List.filter_congr fun tag _ => ?_
    rw [tag.isBad_eq_decide, decide_not, Bool.not_not]
  have named : ∀ name, tags.named name =
      (initial ++ more).filter fun tag => tag.errors = [] ∧ canon tag.tagName = canon name := by
    intro name
    rw [named_eq_filter, sound, List.filter_filter]
    refine List.filter_congr fun tag _ => ?_
    rw [canonical, canonical, beq_eq_decide, Bool.and_comm, Bool.decide_and]
  refine ⟨marred, sound, ?_, canonical, named, ?_, ?_, ?_, ?_, ?_⟩
  · rw [size, sound, List.countP_eq_length_filter]
  · intro first second same
    exact tags.named_congr (by rw [canonical, canonical, same])
  · intro first second apart tag _ one other
    have former := ((tags.mem_named_iff tag first).mp one).2
    have latter := ((tags.mem_named_iff tag second).mp other).2
    rw [former, canonical, canonical] at latter
    exact apart latter
  · exact fun tag present => (tags.mem_named_iff tag tag.tagName).mpr ⟨present, rfl⟩
  · exact fun names represented => tags.sum_length_named represented
  · exact ⟨tags.representatives, tags.represented_representatives,
      fun name inside => tags.exists_of_mem_representatives inside⟩

/-- Aliases that form a chain, a cycle and a loop. -/
def tangled : Table String :=
  .ofList [("x", "y"), ("y", "z"), ("a", "b"), ("b", "a"), ("c", "c")]

/-- A tag of a spelling without anything else. -/
def bare (spelling : String) : Tag Unit := ⟨spelling, .null, 1, none, none, []⟩

/-- Along the chain a name does not have the tags of its own aliases, and around the cycle the two
names change their places. The tags of four names are all five well-formed ones. -/
theorem filing_of_tangled :
    let tags := (ofList tangled [bare "x", bare "y", bare "a"]).addAll
      [bare "z", { bare "y" with errors := [""] }, bare "b"]
    tags.named "y" = [bare "y", bare "z"] ∧ tags.named "x" = [bare "x"] ∧
      tags.named "a" = [bare "a"] ∧ tags.canonical "a" = "b" ∧ tags.canonical "b" = "a" ∧
      tags.Represented ["x", "y", "a", "b"] ∧
      (["x", "y", "a", "b"].map fun name => (tags.named name).length).sum = tags.size := by
  intro tags
  obtain ⟨-, sound, -, canonical, named, -, -, -, sums, -⟩ := filing_of_added tangled
    [bare "x", bare "y", bare "a"] [bare "z", { bare "y" with errors := [""] }, bare "b"]
  have represented : tags.Represented ["x", "y", "a", "b"] := by
    refine ⟨by decide, ?_⟩
    have spelled : tags.wellFormed = ["x", "y", "a", "z", "b"].map bare := rfl
    rw [spelled]
    decide
  exact ⟨(named "y").trans rfl, (named "x").trans rfl, (named "a").trans rfl,
    (canonical "a").trans rfl, (canonical "b").trans rfl, represented, sums _ represented⟩

end TagSet

end TagBinding
