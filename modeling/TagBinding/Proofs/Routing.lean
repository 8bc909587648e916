import Mathlib.Data.List.Basic
import Mathlib.Data.List.Pairwise
import TagBinding.Stock.Standard

/-!
# Which definition receives a tag

The definitions of a list declare aliases, and the tags of a document are filed and looked up under
the names that these aliases stand for. One level of aliases is resolved on each side, and of two
definitions that declare the same alias the last one has it. So a definition receives exactly the
tags whose spelling is routed to the same name as its own (`TagSet.named_ofList_aliasMap`), however
the aliases of the list are tangled. If no two definitions share a spelling, nothing is tangled: a
definition receives the tags spelled with one of its own spellings
(`TagSet.named_of_separate`), and the well-formed tags fall apart into what the definitions receive
and what no definition claims (`TagSet.routing_of_declared_aliases`).
-/
namespace TagBinding

variable {F : Type}

/-- Items that belong to different classes, taken class by class, and the items that belong to
none, are all the items. -/
theorem flatMap_filter_append_perm {α β : Type} (belongs : β → α → Bool) (classes : List β)
    (items : List α)
    (apart : classes.Pairwise fun first second =>
      ∀ item ∈ items, belongs first item = true → belongs second item = false) :
    ((classes.flatMap fun class' => items.filter (belongs class')) ++
      items.filter fun item => classes.all fun class' => !belongs class' item).Perm items := by
  induction classes generalizing items with
  | nil => simp
  | cons first rest ih =>
    obtain ⟨head, tail⟩ := List.pairwise_cons.mp apart
    -- The later classes lose nothing when the items of the first one are taken away.
    have others := ih (items.filter fun item => !belongs first item)
      (tail.imp fun separate item inside => separate item (List.mem_of_mem_filter inside))
    have same : ∀ class' ∈ rest,
        (items.filter fun item => !belongs first item).filter (belongs class') =
          items.filter (belongs class') := by
      intro class' later
      rw [List.filter_filter]
      refine List.filter_congr fun item inside => ?_
      cases owned : belongs first item with
      | false => simp
      | true => simp [head class' later item inside owned]
    have unclaimed : (items.filter fun item => !belongs first item).filter
        (fun item => rest.all fun class' => !belongs class' item) =
          items.filter (fun item => (first :: rest).all fun class' => !belongs class' item) := by
      rw [List.filter_filter]
      refine List.filter_congr fun item _ => ?_
      rw [List.all_cons, Bool.and_comm]
    rw [List.flatMap_congr same, unclaimed] at others
    rw [List.flatMap_cons, List.append_assoc]
    exact (others.append_left _).trans (List.filter_append_perm (belongs first) items)

namespace Definition

/-- The spellings of the tags of a definition: its name and its aliases. -/
def spellings (definition : Definition F) : List String := definition.name :: definition.aliases

/-- The name to which definitions route a spelling: that of the last one that declares the spelling
as an alias, or the spelling itself when none does. -/
def route (definitions : List (Definition F)) (spelling : String) : String :=
  ((definitions.filter fun definition => spelling ∈ definition.aliases).getLast?.map name).getD
    spelling

/-- The aliases of one definition, each with its name, give its name to those and to no others. -/
theorem getLast?_declared (definition : Definition F) (spelling : String) :
    (((definition.aliases.map fun other => (other, definition.name)).filter
      fun entry => entry.1 = spelling).getLast?).map Prod.snd =
      if spelling ∈ definition.aliases then some definition.name else none := by
  rw [List.filter_map, List.getLast?_map, Option.map_map]
  by_cases declared : spelling ∈ definition.aliases
  · have inside : spelling ∈ definition.aliases.filter
        ((fun entry : String × String => decide (entry.1 = spelling)) ∘
          fun other => (other, definition.name)) := by
      simpa using declared
    rw [if_pos declared, List.getLast?_eq_some_getLast (List.ne_nil_of_mem inside)]
    rfl
  · have none : definition.aliases.filter
        ((fun entry : String × String => decide (entry.1 = spelling)) ∘
          fun other => (other, definition.name)) = [] := by
      refine List.filter_eq_nil_iff.mpr fun other inside => ?_
      have different : other ≠ spelling := fun same => declared (same ▸ inside)
      simpa using different
    rw [if_neg declared, none]
    rfl

/-- The alias table of definitions gives a spelling the name to which they route it. -/
theorem canonicalName_aliasMap (definitions : List (Definition F)) (spelling : String) :
    canonicalName (aliasMap definitions) spelling = route definitions spelling := by
  have last : (((definitions.flatMap fun definition =>
      definition.aliases.map fun other => (other, definition.name)).filter
        fun entry => entry.1 = spelling).getLast?).map Prod.snd =
      (definitions.filter fun definition => spelling ∈ definition.aliases).getLast?.map name := by
    induction definitions with
    | nil => rfl
    | cons definition rest ih =>
      rw [List.flatMap_cons, List.filter_append, List.getLast?_append, Option.map_or, ih,
        getLast?_declared, List.filter_cons]
      by_cases declared : spelling ∈ definition.aliases
      · rw [if_pos declared, if_pos (by simpa using declared), List.getLast?_cons]
        cases (rest.filter fun definition => spelling ∈ definition.aliases).getLast? <;> rfl
      · rw [if_neg declared, if_neg (by simpa using declared), Option.or_none]
  rw [canonicalName, aliasMap, Table.ofList, Table.get?_insertMany, last, Table.get?_empty,
    Option.or_none, route]

section Separate

/-- That no two definitions of a list share a spelling. -/
def Separate (definitions : List (Definition F)) : Prop :=
  definitions.Pairwise fun first second => ∀ spelling ∈ first.spellings,
    spelling ∉ second.spellings

/-- Definitions are separate when their names are different, no alias is declared by two of them,
and none is the name of another one. -/
theorem separate_of_distinct {definitions : List (Definition F)}
    (names : (definitions.map name).Nodup)
    (aliases : definitions.Pairwise fun first second => ∀ spelling ∈ first.aliases,
      spelling ∉ second.aliases)
    (others : ∀ first ∈ definitions, ∀ second ∈ definitions, first.name ∈ second.aliases →
      first.name = second.name) :
    Separate definitions := by
  have different : definitions.Pairwise fun first second => first.name ≠ second.name :=
    List.pairwise_map.mp names
  refine (different.and aliases).imp_of_mem ?_
  rintro first second one two ⟨unlike, disjoint⟩ spelling former latter
  rcases List.mem_cons.mp former with rfl | declared
  · rcases List.mem_cons.mp latter with same | other
    · exact unlike same
    · exact unlike (others first one second two other)
  · rcases List.mem_cons.mp latter with rfl | other
    · exact unlike (others second two first one declared).symm
    · exact disjoint spelling declared other

variable {definitions : List (Definition F)} (separate : Separate definitions)

include separate

/-- Of separate definitions only one has a given spelling. -/
theorem eq_of_mem_spellings {first second : Definition F} (one : first ∈ definitions)
    (two : second ∈ definitions) {spelling : String} (former : spelling ∈ first.spellings)
    (latter : spelling ∈ second.spellings) : first = second := by
  have symmetric : Std.Symm fun first second : Definition F => ∀ spelling ∈ first.spellings,
      spelling ∉ second.spellings :=
    ⟨fun _ _ disjoint spelling latter former => disjoint spelling former latter⟩
  by_contra different
  have disjoint := List.Pairwise.forall separate one two different
  exact disjoint spelling former latter

/-- Separate definitions route the spellings of each to its name. -/
theorem route_of_mem_spellings {definition : Definition F} (inside : definition ∈ definitions)
    {spelling : String} (spelled : spelling ∈ definition.spellings) :
    route definitions spelling = definition.name := by
  unfold route
  cases last : (definitions.filter fun other => spelling ∈ other.aliases).getLast? with
  | none =>
    have undeclared : ¬ spelling ∈ definition.aliases := by
      have none := List.getLast?_eq_none_iff.mp last
      simpa using List.filter_eq_nil_iff.mp none definition inside
    rcases List.mem_cons.mp spelled with rfl | declared
    · rfl
    · exact absurd declared undeclared
  | some declarer =>
    obtain ⟨there, declared⟩ := List.mem_filter.mp (List.mem_of_getLast? last)
    have shared : spelling ∈ declarer.spellings :=
      List.mem_cons_of_mem _ (by simpa using declared)
    have same : declarer = definition :=
      eq_of_mem_spellings separate there inside shared spelled
    rw [Option.map_some, Option.getD_some, same]

/-- A spelling is routed to the name of one of separate definitions exactly when it is one of its
spellings. -/
theorem route_eq_route_iff {definition : Definition F} (inside : definition ∈ definitions)
    (spelling : String) :
    route definitions spelling = route definitions definition.name ↔
      spelling ∈ definition.spellings := by
  have own : route definitions definition.name = definition.name :=
    route_of_mem_spellings separate inside List.mem_cons_self
  rw [own]
  constructor
  · intro routed
    by_cases claimed : ∃ other ∈ definitions, spelling ∈ other.spellings
    · obtain ⟨other, there, spelled⟩ := claimed
      have named : other.name = definition.name :=
        (route_of_mem_spellings separate there spelled).symm.trans routed
      have shared : other.name ∈ definition.spellings := named ▸ List.mem_cons_self
      have same : other = definition :=
        eq_of_mem_spellings separate there inside List.mem_cons_self shared
      exact same ▸ spelled
    · have undeclared : definitions.filter (fun other => spelling ∈ other.aliases) = [] := by
        refine List.filter_eq_nil_iff.mpr fun other there => ?_
        have free : ¬ spelling ∈ other.aliases := fun declared =>
          claimed ⟨other, there, List.mem_cons_of_mem _ declared⟩
        simpa using free
      have self : route definitions spelling = spelling := by
        rw [route, undeclared]
        rfl
      exact (self.symm.trans routed) ▸ List.mem_cons_self
  · exact route_of_mem_spellings separate inside

end Separate

end Definition

open Definition

namespace TagSet

variable (definitions : List (Definition F)) (added : List (Tag F))

/-- With the aliases of definitions, the tags of a name are the well-formed ones that are routed
where the name is routed. -/
theorem named_ofList_aliasMap (name : String) :
    (ofList (aliasMap definitions) added).named name =
      (added.filter fun tag => !tag.isBad).filter fun tag =>
        route definitions tag.tagName = route definitions name := by
  have canonical : ∀ spelling, (ofList (aliasMap definitions) added).canonical spelling =
      route definitions spelling := by
    intro spelling
    rw [TagSet.canonical, aliases_ofList, canonicalName_aliasMap]
  rw [named_eq_filter, wellFormed_ofList]
  refine List.filter_congr fun tag _ => ?_
  rw [canonical, canonical]
  exact beq_eq_decide _ _

variable {definitions}

/-- One of separate definitions receives the well-formed tags with one of its spellings. -/
theorem named_of_separate (separate : Separate definitions) {definition : Definition F}
    (inside : definition ∈ definitions) :
    (ofList (aliasMap definitions) added).named definition.name =
      (added.filter fun tag => !tag.isBad).filter fun tag =>
        tag.tagName ∈ definition.spellings := by
  rw [named_ofList_aliasMap]
  refine List.filter_congr fun tag _ => ?_
  exact decide_eq_decide.mpr (route_eq_route_iff separate inside tag.tagName)

/-- What separate definitions receive, and what has a spelling of none of them, are the well-formed
tags. -/
theorem flatMap_named_perm (separate : Separate definitions) :
    ((definitions.flatMap fun definition =>
          (ofList (aliasMap definitions) added).named definition.name) ++
        (added.filter fun tag => !tag.isBad).filter fun tag =>
          definitions.all fun definition => tag.tagName ∉ definition.spellings).Perm
      (added.filter fun tag => !tag.isBad) := by
  have received : ∀ definition ∈ definitions,
      (ofList (aliasMap definitions) added).named definition.name =
        (added.filter fun tag => !tag.isBad).filter fun tag =>
          tag.tagName ∈ definition.spellings :=
    fun definition inside => named_of_separate added separate inside
  have whole := flatMap_filter_append_perm
    (fun (definition : Definition F) (tag : Tag F) => decide (tag.tagName ∈ definition.spellings))
    definitions (added.filter fun tag => !tag.isBad)
    (separate.imp fun disjoint tag _ spelled => by
      simpa using disjoint tag.tagName (by simpa using spelled))
  simpa only [List.flatMap_congr received, decide_not] using whole

end TagSet

/-- With the aliases of definitions a definition receives a well-formed tag, wherever it was added,
exactly when the spelling of the tag and the name of the definition are routed to the same name; so
it receives every tag that is spelled with its name. If no two definitions have a name or an alias
in common, a tag with a name or alias of some definition goes to that definition alone, any other
tag to none, and no tag to two: what the definitions receive and what no definition claims are the
well-formed tags, each of them once. -/
theorem routing_of_declared_aliases (definitions : List (Definition F)) (added : List (Tag F)) :
    let wellFormed := added.filter fun tag => !tag.isBad
    let received := fun definition : Definition F =>
      (TagSet.ofList (aliasMap definitions) added).named definition.name
    (∀ definition ∈ definitions, ∀ tag ∈ wellFormed, tag ∈ received definition ↔
      route definitions tag.tagName = route definitions definition.name) ∧
    (∀ definition ∈ definitions, ∀ tag ∈ wellFormed, tag.tagName = definition.name →
      tag ∈ received definition) ∧
    ((definitions.map Definition.name).Nodup →
      (definitions.Pairwise fun first second => ∀ spelling ∈ first.aliases,
        spelling ∉ second.aliases) →
      (∀ first ∈ definitions, ∀ second ∈ definitions, first.name ∈ second.aliases →
        first.name = second.name) →
      (∀ definition ∈ definitions, ∀ tag ∈ wellFormed,
        tag.tagName = definition.name ∨ tag.tagName ∈ definition.aliases →
          ∀ other ∈ definitions, tag ∈ received other ↔ other = definition) ∧
      (∀ tag ∈ wellFormed,
        (∀ definition ∈ definitions, tag.tagName ≠ definition.name ∧
          tag.tagName ∉ definition.aliases) →
          ∀ definition ∈ definitions, tag ∉ received definition) ∧
      (definitions.Pairwise fun first second => ∀ tag ∈ received first, tag ∉ received second) ∧
      (definitions.flatMap received ++ wellFormed.filter fun tag =>
        definitions.all fun definition => tag.tagName ∉ definition.spellings).Perm wellFormed) := by
  intro wellFormed received
  have routed : ∀ definition ∈ definitions, ∀ tag ∈ wellFormed, tag ∈ received definition ↔
      route definitions tag.tagName = route definitions definition.name := by
    intro definition _ tag present
    simp only [received, TagSet.named_ofList_aliasMap, List.mem_filter, decide_eq_true_eq]
    exact and_iff_right (List.mem_filter.mp present)
  refine ⟨routed, ?_, ?_⟩
  · intro definition inside tag present spelled
    exact (routed definition inside tag present).mpr (congrArg (route definitions) spelled)
  · intro names aliases others
    have separate := separate_of_distinct names aliases others
    have claimed : ∀ definition ∈ definitions, ∀ tag ∈ wellFormed,
        tag ∈ received definition ↔ tag.tagName ∈ definition.spellings := by
      intro definition inside tag present
      rw [routed definition inside tag present, route_eq_route_iff separate inside]
    have present : ∀ definition, ∀ tag ∈ received definition, tag ∈ wellFormed := by
      intro definition tag found
      simp only [received, TagSet.named_ofList_aliasMap] at found
      exact List.mem_of_mem_filter found
    refine ⟨?_, ?_, ?_, TagSet.flatMap_named_perm added separate⟩
    · intro definition inside tag well spelled other there
      have own : tag.tagName ∈ definition.spellings := List.mem_cons.mpr spelled
      rw [claimed other there tag well]
      constructor
      · exact fun same => eq_of_mem_spellings separate there inside same own
      · exact fun same => same ▸ own
    · intro tag well free definition inside found
      obtain ⟨unlike, undeclared⟩ := free definition inside
      rcases List.mem_cons.mp ((claimed definition inside tag well).mp found) with same | declared
      · exact unlike same
      · exact undeclared declared
    · refine separate.imp_of_mem fun {first second} one two disjoint tag former latter => ?_
      have well := present first tag former
      exact disjoint tag.tagName ((claimed first one tag well).mp former)
        ((claimed second two tag well).mp latter)

/-- The tags of a comment: a result, an argument, a note, and another result that is marred. -/
def remarked : List (Tag Builtin) :=
  [⟨"return", .text "the sum", 1, none, none, []⟩, ⟨"arg", .text "left", 2, none, none, []⟩,
    ⟨"todo", .text "check", 3, none, none, []⟩, ⟨"returns", .null, 4, none, none, ["no type"]⟩]

/-- The standard definitions have no name and no alias in common. Of the well-formed tags of a
comment one goes to the definition of results, under an alias, and the note to none. -/
theorem routing_of_standard_aliases :
    let definitions := standard (id : Builtin → Builtin)
    let received := fun definition : Definition Builtin =>
      (TagSet.ofList (aliasMap definitions) remarked).named definition.name
    let results := ((plain "returns").alsoNamed ["return"]).through Builtin.wholeTag
    (definitions.map Definition.name).Nodup ∧
    (definitions.Pairwise fun first second => ∀ spelling ∈ first.aliases,
      spelling ∉ second.aliases) ∧
    (∀ first ∈ definitions, ∀ second ∈ definitions, first.name ∈ second.aliases →
      first.name = second.name) ∧
    (∀ other ∈ definitions,
      ⟨"return", .text "the sum", 1, none, none, []⟩ ∈ received other ↔ other = results) ∧
    (∀ definition ∈ definitions,
      ⟨"todo", .text "check", 3, none, none, []⟩ ∉ received definition) := by
  intro definitions received results
  have names : (definitions.map Definition.name).Nodup := by decide
  have aliases : definitions.Pairwise fun first second => ∀ spelling ∈ first.aliases,
      spelling ∉ second.aliases := by decide
  have others : ∀ first ∈ definitions, ∀ second ∈ definitions, first.name ∈ second.aliases →
      first.name = second.name := by decide
  obtain ⟨-, -, separate⟩ := routing_of_declared_aliases definitions remarked
  obtain ⟨claimed, unclaimed, -, -⟩ := separate names aliases others
  refine ⟨names, aliases, others, ?_, ?_⟩
  · apply claimed results
    · simp [definitions, standard, results]
    · simp [remarked, Tag.isBad]
    · exact .inr (by decide)
  · apply unclaimed
    · simp [remarked, Tag.isBad]
    · decide

end TagBinding
