import Mathlib.Data.List.Nodup
import Mathlib.Data.List.TakeWhile
import TagBinding.Proofs.ClosedForm
import TagBinding.Proofs.Routing
import TagBinding.Stock.Standard

/-!
# What the standard definitions extract

The standard definitions share no spelling and write different properties, and their functions leave
documents alone. So what a pass over them does can be said in a table (`standardProperty`): for each
property, what the tags of a comment leave in it. The pass writes the whole table when every tag
that may occur once does so (`extractPass_standard`). Otherwise it stops at the first definition, in
their order, that finds several tags where one is allowed, and has written the table up to there.
-/
namespace TagBinding

variable {F : Type}

open Definition

/-- A definition made ready without shared transforms. -/
def Binding.alone (definition : Definition F) : Binding F :=
  ⟨definition, (Pipeline.ofValue? definition.transforms).getD .identity, .identity⟩

/-- The standard definitions made ready. -/
def standardBindings (known : Builtin → F) : List (Binding F) := (standard known).map Binding.alone

/-- The spellings of the tags that the standard definition of a name receives. -/
def standardSpellings : String → List String
  | "description" => ["description", "desc"]
  | "param" => ["param", "arg", "argument"]
  | "returns" => ["returns", "return"]
  | name => [name]

/-- The list of a property with values at the end, unless there are no values. -/
def Document.grown (document : Document F) (key : String) (values : List (Value F)) :
    Option (Value F) :=
  if values.isEmpty then none else some (.list (document.items key ++ values))

/-- What the standard definitions write to a property, if anything, given the tags that are found
of each name. -/
def standardProperty (found : String → List (Tag F)) (document : Document F) (key : String) :
    Option (Value F) :=
  match key with
  | "name" | "module" => (found key).head?.map fun tag => tag.description.trimmed
  | "kind" =>
    ((found key).head?.map fun tag => tag.description.trimmed).or
      ((found "module").head?.map fun _ => .text "module")
  | "description" | "deprecated" => (found key).head?.map Tag.description
  | "params" => document.grown key ((found "param").map .tag)
  | "returns" => (found key).head?.map .tag
  | "examples" => document.grown key ((found "example").map Tag.description)
  | "see" => document.grown key ((found key).map fun tag => tag.description.trimmed.lines)
  | "private" => (found key).head?.map fun _ => .bool true
  | _ => none

/-- A document after the standard definitions of a list have written to it. -/
def Document.standardized (document : Document F) (found : String → List (Tag F))
    (definitions : List (Definition F)) : Document F :=
  { document with
    properties := document.properties.insertMany ((definitions.map target).filterMap fun key =>
      (standardProperty found document key).map (key, ·)) }

namespace Definition

/-- Making the standard definitions ready succeeds. -/
theorem resolveAll_standard (known : Builtin → F) :
    Binding.resolveAll ((standard known).map .definition) .null = .ok (standardBindings known) :=
  rfl

/-- The names of functions have no part in the aliases of the standard definitions. -/
theorem aliasMap_standard (known : Builtin → F) : aliasMap (standard known) = standardAliases := rfl

/-- No two standard definitions share a spelling. -/
theorem separate_standard (known : Builtin → F) : Separate (standard known) := by
  have literal : (standard known).map spellings =
      [["name"], ["module"], ["kind"], ["description", "desc"], ["param", "arg", "argument"],
        ["returns", "return"], ["example"], ["see"], ["deprecated"], ["private"]] := rfl
  have apart : ((standard known).map spellings).Pairwise fun first second =>
      ∀ spelling ∈ first, spelling ∉ second := by
    rw [literal]
    decide
  exact List.pairwise_map.mp apart

/-- The spellings of the standard definitions. -/
theorem spellings_standard (known : Builtin → F) :
    ∀ definition ∈ standard known, definition.spellings = standardSpellings definition.name := by
  simp only [standard, List.forall_mem_cons]
  exact ⟨rfl, rfl, rfl, rfl, rfl, rfl, rfl, rfl, rfl, rfl, by simp⟩

/-- A standard definition finds the well-formed tags with one of its spellings. -/
theorem named_standard (known : Builtin → F) (added : List (Tag F)) :
    ∀ definition ∈ standard known,
      (TagSet.ofList standardAliases added).named definition.name =
        (added.filter fun tag => !tag.isBad).filter fun tag =>
          tag.tagName ∈ standardSpellings definition.name := by
  intro definition inside
  have found := TagSet.named_of_separate added (separate_standard known) inside
  rw [aliasMap_standard] at found
  rw [found, spellings_standard known definition inside]

end Definition

/-- The value that a reply gives, and no value if it fails. -/
def Reply.result (reply : Reply F) : Value F := reply.outcome.toOption.getD .null

/-- The value that a function gives for a tag and a value when there is nothing in the document. -/
def transformOf (behaviour : Behaviour F) (function : F) (tag : Tag F) (value : Value F) :
    Value F :=
  (behaviour function .empty (some tag) value).result

/-- The value that a function gives when there are only tags in the document. -/
def fallbackOf (behaviour : Behaviour F) (function : F) (tags : TagSet F) : Value F :=
  (behaviour function { Document.empty with tags := tags } none .null).result

namespace Binding

section Leaves

variable (transform : F → Tag F → Value F → Value F) {fallback : F → TagSet F → Value F}
  {binding : Binding F} {tags : TagSet F} (document : Document F) {found : List (Tag F)}
  {value : Tag F → Value F}

/-- A binding that allows one tag leaves the value of the tag that it finds, or else the default
value, if there is one. -/
theorem leaves_of_single (single : binding.definition.multi = false) (few : binding.Met tags)
    (named : tags.named binding.name = found)
    (values : ∀ tag, binding.settledValue transform tag = value tag) :
    binding.leaves (binding.yield transform fallback tags) document =
      (found.head?.map value).or
        (match binding.definition.defaultFn.map (fallback · tags) with
        | none | some .null => none
        | some given => some given) := by
  have atMostOne : found.length ≤ 1 := named ▸ few.2.resolve_left (by simp [single])
  unfold leaves yield
  rw [named]
  match found with
  | [] =>
    cases binding.definition.defaultFn with
    | none => rfl
    | some function => cases given : fallback function tags <;> simp [given, single]
  | [tag] => simp [single, values]
  | _ :: _ :: _ => simp at atMostOne

/-- A binding that allows several tags and has no default leaves their values at the end of the
list. -/
theorem leaves_of_multi (multi : binding.definition.multi = true)
    (without : binding.definition.defaultFn = none) (named : tags.named binding.name = found)
    (values : ∀ tag, binding.settledValue transform tag = value tag) :
    binding.leaves (binding.yield transform fallback tags) document =
      document.grown binding.target (found.map value) := by
  have each : binding.settledValue transform = value := funext values
  unfold leaves yield Document.grown
  rw [named, each]
  match found with
  | [] => simp [without]
  | tag :: rest => simp [multi, List.getLast?_cons]

end Leaves

end Binding

section Known

variable {behaviour : Behaviour F} {known : Builtin → F}
  (knows : ∀ builtin, behaviour (known builtin) = builtin.routine)

/-- The transforms of the standard definitions are built-in functions of a tag and a value. -/
theorem transforms_standard (known : Builtin → F) : ∀ binding ∈ standardBindings known,
    ∀ function ∈ binding.transforms,
      ∃ builtin, builtin ≠ .defaultKind ∧ function = known builtin := by
  let used : List (List Builtin) :=
    [[.trimWhitespace], [.trimWhitespace], [.trimWhitespace], [], [.wholeTag], [.wholeTag], [],
      [.trimWhitespace, .splitLines], [], [.toBool]]
  have literal : (standardBindings known).map Binding.transforms = used.map (List.map known) := rfl
  have others : ∀ builtins ∈ used, ∀ builtin ∈ builtins, builtin ≠ .defaultKind := by decide
  intro binding inside function applied
  have listed : binding.transforms ∈ used.map (List.map known) :=
    literal ▸ List.mem_map_of_mem inside
  obtain ⟨builtins, there, same⟩ := List.mem_map.mp listed
  rw [← same] at applied
  obtain ⟨builtin, one, rfl⟩ := List.mem_map.mp applied
  exact ⟨builtin, others builtins there builtin one, rfl⟩

/-- The only default function of the standard definitions is the one for the kind. -/
theorem default_standard (known : Builtin → F) : ∀ binding ∈ standardBindings known,
    ∀ function ∈ binding.definition.defaultFn, function = known .defaultKind := by
  simp [standardBindings, standard, Binding.alone, plain, through, onto, collecting, alsoNamed]

include knows

/-- What a built-in function gives by itself. -/
theorem transformOf_known (builtin : Builtin) (tag : Tag F) (value : Value F) :
    transformOf behaviour (known builtin) tag value =
      (builtin.routine .empty (some tag) value).result := by
  rw [transformOf, knows]

/-- The functions of the standard definitions leave documents alone and give their values for a tag
and a value, or for the tags of the document. -/
theorem settled_standard : ∀ binding ∈ standardBindings known,
    binding.Settled behaviour (transformOf behaviour) (fallbackOf behaviour) := by
  intro binding inside
  constructor
  · intro function used document tag value
    obtain ⟨builtin, other, rfl⟩ := transforms_standard known binding inside function used
    rw [transformOf_known knows, knows]
    cases builtin with
    | defaultKind => exact absurd rfl other
    | _ => rfl
  · intro function given document
    rw [default_standard known binding inside function given, fallbackOf, knows]
    rfl

/-- What the bindings of the standard definitions leave is what the table says, for each binding
that is met. -/
theorem leaves_standard {tags : TagSet F} (document : Document F) {found : String → List (Tag F)}
    (named : ∀ definition ∈ standard known, tags.named definition.name = found definition.name) :
    ∀ binding ∈ standardBindings known, binding.Met tags →
      binding.leaves (binding.yield (transformOf behaviour) (fallbackOf behaviour) tags) document =
        standardProperty found document binding.target := by
  simp only [standard, List.forall_mem_cons] at named
  obtain ⟨name, module, kind, description, param, returns, example', see, deprecated, private',
    -⟩ := named
  let transform := transformOf behaviour
  have trimmed : ∀ tag : Tag F,
      transform (known .trimWhitespace) tag tag.description = tag.description.trimmed :=
    fun tag => transformOf_known knows .trimWhitespace tag tag.description
  have whole : ∀ tag : Tag F, transform (known .wholeTag) tag tag.description = .tag tag :=
    fun tag => transformOf_known knows .wholeTag tag tag.description
  have lines : ∀ tag : Tag F,
      transform (known .splitLines) tag (transform (known .trimWhitespace) tag tag.description) =
        tag.description.trimmed.lines :=
    fun tag =>
      (transformOf_known knows .splitLines tag _).trans (congrArg Value.lines (trimmed tag))
  have flag : ∀ tag : Tag F, transform (known .toBool) tag tag.description = .bool true :=
    fun tag => transformOf_known knows .toBool tag tag.description
  have fallback : fallbackOf behaviour (known .defaultKind) tags =
      if (found "module").isEmpty then .null else .text "module" := by
    have same : tags.named "module" = found "module" := module
    rw [fallbackOf, knows, ← same]
    rfl
  simp only [standardBindings, standard, List.map_cons, List.forall_mem_cons]
  refine ⟨?_, ?_, ?_, ?_, ?_, ?_, ?_, ?_, ?_, ?_, by simp⟩
  · exact fun few => (Binding.leaves_of_single transform document rfl few name trimmed).trans
      Option.or_none
  · exact fun few => (Binding.leaves_of_single transform document rfl few module trimmed).trans
      Option.or_none
  · intro few
    refine (Binding.leaves_of_single transform document rfl few kind trimmed).trans ?_
    refine congrArg (Option.or _) ?_
    show (match some (fallbackOf behaviour (known .defaultKind) tags) with
      | none | some .null => none
      | some given => some given) = _
    rw [fallback]
    cases found "module" <;> rfl
  · exact fun few => (Binding.leaves_of_single transform document rfl few description
      fun _ => rfl).trans Option.or_none
  · exact fun _ => Binding.leaves_of_multi transform document rfl rfl param whole
  · exact fun few => (Binding.leaves_of_single transform document rfl few returns whole).trans
      Option.or_none
  · exact fun _ => Binding.leaves_of_multi transform document rfl rfl example' fun _ => rfl
  · exact fun _ => Binding.leaves_of_multi transform document rfl rfl see lines
  · exact fun few => (Binding.leaves_of_single transform document rfl few deprecated
      fun _ => rfl).trans Option.or_none
  · exact fun few => (Binding.leaves_of_single transform document rfl few private' flag).trans
      Option.or_none

omit knows

/-- The standard definitions write different properties. -/
theorem targets_standard (known : Builtin → F) :
    ((standardBindings known).map Binding.target).Nodup := by
  have literal : (standardBindings known).map Binding.target =
      ["name", "module", "kind", "description", "params", "returns", "examples", "see",
        "deprecated", "private"] := rfl
  rw [literal]
  decide

/-- No standard definition requires a tag. -/
theorem required_standard (known : Builtin → F) :
    ∀ definition ∈ standard known, definition.required = false := by
  simp only [standard, List.forall_mem_cons]
  exact ⟨rfl, rfl, rfl, rfl, rfl, rfl, rfl, rfl, rfl, rfl, by simp⟩

/-- The standard definitions that collect values write three properties. -/
theorem target_of_multi_standard (known : Builtin → F) :
    ∀ definition ∈ standard known, definition.multi = true →
      definition.target ∈ ["params", "examples", "see"] := by
  simp [standard, plain, through, onto, collecting, alsoNamed, Definition.target]

/-- The table is empty for a property that no standard definition writes. -/
theorem standardProperty_of_free (known : Builtin → F) (found : String → List (Tag F))
    (document : Document F) {key : String} (free : key ∉ (standard known).map Definition.target) :
    standardProperty found document key = none := by
  have literal : (standard known).map Definition.target =
      ["name", "module", "kind", "description", "params", "returns", "examples", "see",
        "deprecated", "private"] := rfl
  rw [literal] at free
  unfold standardProperty
  split
  all_goals first | rfl | simp at free

section Pass

variable (document : Document F) {found : String → List (Tag F)}
  (named : ∀ definition ∈ standard known,
    document.tags.named definition.name = found definition.name)

include named

/-- The tags of a document meet a standard definition when it allows several, or finds at most
one. -/
theorem met_standard : ∀ definition ∈ standard known,
    (Binding.alone definition).Met document.tags ↔
      definition.multi = true ∨ (found definition.name).length ≤ 1 := by
  intro definition inside
  have optional := required_standard known definition inside
  rw [← named definition inside]
  exact and_iff_right (.inr optional)

/-- A standard definition that is not met finds several tags. -/
theorem breach_standard : ∀ definition ∈ standard known, 2 ≤ (found definition.name).length →
    (Binding.alone definition).breach document =
      .duplicateTag definition.name (found definition.name).length document.file
        document.startingLine := by
  intro definition inside several
  have same : document.tags.named (Binding.alone definition).name = found definition.name :=
    named definition inside
  have present : found definition.name ≠ [] := fun none => by simp [none] at several
  rw [Binding.breach, same, if_neg present]
  rfl

include knows

/-- Standard definitions that are met write the table. -/
theorem depositAll_standard (definitions : List (Definition F))
    (some : definitions.Sublist (standard known))
    (met : ∀ definition ∈ definitions, (Binding.alone definition).Met document.tags) :
    depositAll (Binding.yield (transformOf behaviour) (fallbackOf behaviour) document.tags)
        (definitions.map Binding.alone) document =
      document.standardized found definitions := by
  have distinct : ((definitions.map Binding.alone).map Binding.target).Nodup :=
    ((some.map Binding.alone).map Binding.target).nodup (targets_standard known)
  rw [depositAll_of_distinct _ _ document distinct, Document.standardized, List.filterMap_map,
    List.filterMap_map]
  congr 2
  refine List.filterMap_congr fun definition inside => ?_
  have there : Binding.alone definition ∈ standardBindings known :=
    List.mem_map_of_mem (some.subset inside)
  exact congrArg (Option.map _)
    (leaves_standard knows document named _ there (met definition inside))

/-- The pass with the standard definitions stops at the first one that is not met, and those before
it write the table. -/
theorem extractPass_standardBindings
    (growable : ∀ key ∈ ["params", "examples", "see"], document.CanCollect key) :
    (extractPass behaviour (standardBindings known) document).fault? =
        ((standard known).find? fun definition =>
          !decide ((Binding.alone definition).Met document.tags)).map
            (fun definition => (Binding.alone definition).breach document) ∧
      (extractPass behaviour (standardBindings known) document).document =
        document.standardized found ((standard known).takeWhile fun definition =>
          decide ((Binding.alone definition).Met document.tags)) := by
  have apart : ∀ first ∈ standardBindings known, ∀ second ∈ standardBindings known,
      first.target = second.target → first.definition.multi = second.definition.multi := by
    intro first one second two same
    rw [List.inj_on_of_nodup_map (targets_standard known) one two same]
  have collects : ∀ binding ∈ standardBindings known, binding.definition.multi = true →
      document.CanCollect binding.target := by
    intro binding inside multi
    obtain ⟨definition, there, rfl⟩ := List.mem_map.mp inside
    exact growable _ (target_of_multi_standard known definition there multi)
  obtain ⟨fault, left⟩ := extractPass_of_settled (standardBindings known) document
    (settled_standard knows) apart collects
  constructor
  · rw [fault, standardBindings, List.find?_map, Option.map_map]
    rfl
  · have reached : ∀ definition ∈ (standard known).takeWhile fun definition =>
        decide ((Binding.alone definition).Met document.tags),
        (Binding.alone definition).Met document.tags :=
      fun definition inside => by simpa using List.mem_takeWhile_imp inside
    rw [left, standardBindings, List.takeWhile_map]
    exact depositAll_standard knows document named _ (List.takeWhile_sublist _) reached

end Pass

/-- After all standard definitions have written, a property holds what the table says, or what it
held before. -/
theorem get?_standardized (known : Builtin → F) (found : String → List (Tag F))
    (document : Document F) (key : String) :
    (document.standardized found (standard known)).get? key =
      (standardProperty found document key).or (document.get? key) := by
  refine (Table.get?_insertMany_filterMap document.properties _ _ key).trans ?_
  by_cases target : key ∈ (standard known).map Definition.target
  · exact if_pos target
  · rw [if_neg target, standardProperty_of_free known found document target, Option.none_or]
    rfl

end Known

/-- What a pass with the standard definitions comes to, for a comment whose tags are filed under
the standard aliases. It succeeds exactly when each of the seven tags that may occur once does so at
most; it stops otherwise at the first of these, in the order of the definitions, that occurs more
often, with a complaint on how often it does, after the writes of the definitions before. When it
succeeds, all definitions have written: each property holds what the table says, and any other one
what it held before. -/
theorem extractPass_standard (behaviour : Behaviour F) (known : Builtin → F)
    (knows : ∀ builtin, behaviour (known builtin) = builtin.routine) (document : Document F)
    (added : List (Tag F)) (filed : document.tags = .ofList standardAliases added)
    (growable : ∀ key ∈ ["params", "examples", "see"], document.CanCollect key) :
    let found := fun name => (added.filter fun tag => !tag.isBad).filter fun tag =>
      tag.tagName ∈ standardSpellings name
    let pass := extractPass behaviour (standardBindings known) document
    Binding.resolveAll ((standard known).map .definition) .null = .ok (standardBindings known) ∧
    (pass.fault? = none ↔
      ∀ name ∈ ["name", "module", "kind", "description", "returns", "deprecated", "private"],
        (found name).length ≤ 1) ∧
    (∀ before definition after, standard known = before ++ definition :: after →
      (∀ former ∈ before, former.multi = true ∨ (found former.name).length ≤ 1) →
      definition.multi = false → 2 ≤ (found definition.name).length →
      pass.fault? = some (.duplicateTag definition.name (found definition.name).length
        document.file document.startingLine) ∧
      pass.document = document.standardized found before) ∧
    (pass.fault? = none →
      pass.document = document.standardized found (standard known) ∧
      ∀ key, pass.document.get? key =
        (standardProperty found document key).or (document.get? key)) := by
  intro found pass
  have named : ∀ definition ∈ standard known,
      document.tags.named definition.name = found definition.name := by
    rw [filed]
    exact named_standard known added
  have met := met_standard document named
  obtain ⟨fault, left⟩ :=
    extractPass_standardBindings knows document named growable
  have succeeds : pass.fault? = none ↔
      ∀ definition ∈ standard known, definition.multi = true ∨
        (found definition.name).length ≤ 1 := by
    simp only [pass, fault, Option.map_eq_none_iff, List.find?_eq_none, Bool.not_eq_true',
      decide_eq_false_iff_not, Decidable.not_not]
    exact forall₂_congr met
  refine ⟨resolveAll_standard known, ?_, ?_, ?_⟩
  · have singles : ((standard known).filter fun definition => !definition.multi).map name =
        ["name", "module", "kind", "description", "returns", "deprecated", "private"] := rfl
    rw [succeeds, ← singles, List.forall_mem_map]
    constructor
    · intro all definition inside
      obtain ⟨there, single⟩ := List.mem_filter.mp inside
      exact (all definition there).resolve_left (by simpa using single)
    · intro few definition there
      cases multi : definition.multi with
      | true => exact .inl rfl
      | false => exact .inr (few definition (List.mem_filter.mpr ⟨there, by simp [multi]⟩))
  · intro before definition after split former single several
    have there : definition ∈ standard known := by simp [split]
    have prior : ∀ other ∈ before, (Binding.alone other).Met document.tags := by
      intro other inside
      exact (met other (by simp [split, inside])).mpr (former other inside)
    have broken : ¬ (Binding.alone definition).Met document.tags := by
      rw [met definition there]
      simp only [single, Bool.false_eq_true, false_or]
      omega
    constructor
    · have reached : before.find? (fun other =>
          !decide ((Binding.alone other).Met document.tags)) = none := by
        simpa [List.find?_eq_none] using prior
      rw [← breach_standard document named definition there several]
      refine fault.trans ?_
      rw [split, List.find?_append, reached, Option.none_or,
        List.find?_cons_of_pos (by simpa using broken), Option.map_some]
    · refine left.trans (congrArg (document.standardized found) ?_)
      rw [split, List.takeWhile_append_of_pos (by simpa using prior),
        List.takeWhile_cons_of_neg (by simpa using broken), List.append_nil]
  · intro succeeded
    have all : ∀ definition ∈ standard known, (Binding.alone definition).Met document.tags :=
      fun definition inside => (met definition inside).mpr (succeeds.mp succeeded definition inside)
    have whole : pass.document = document.standardized found (standard known) := by
      refine left.trans (congrArg (document.standardized found) ?_)
      exact List.takeWhile_eq_self_iff.mpr (by simpa using all)
    refine ⟨whole, fun key => ?_⟩
    rw [whole, get?_standardized]

end TagBinding
