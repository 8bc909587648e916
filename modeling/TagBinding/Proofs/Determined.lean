import TagBinding.Proofs.Deposits

/-!
# Functions that read tags alone

If the functions of a binding leave documents alone, and what they come to depends on tags only,
then it can be said beforehand whether the binding is done with a document (`Binding.Suits`) and
which values it deposits there (`Binding.offer`). The functions may fail. A binding is done exactly
with the documents that suit it (`Binding.Determined.suits_of_extract`,
`Binding.Determined.extract_of_suits`), and whether a document suits it does not change when other
bindings write other properties. So a pass over bindings with different targets is done exactly if
the document at its start suits them all, and then it is one deposit after another
(`extractPass_of_suits`, `suits_of_extractPass`).
-/
namespace TagBinding

variable {F : Type}

namespace Binding

/-- That the functions of a binding leave documents alone, and that what they come to is given: for
a transform by the tag and the incoming value, for a default function by the tags of the
document. -/
structure Determined (behaviour : Behaviour F)
    (transform : F → Tag F → Value F → Except String (Value F))
    (fallback : F → TagSet F → Except String (Value F)) (binding : Binding F) : Prop where
  /-- A transform comes to something for a tag and a value. -/
  transforms : ∀ function ∈ binding.transforms, ∀ document tag value,
    behaviour function document (some tag) value = ⟨[], transform function tag value⟩
  /-- A default function comes to something for the tags of a document. -/
  default : ∀ function ∈ binding.definition.defaultFn, ∀ document,
    behaviour function document none .null = ⟨[], fallback function document.tags⟩

variable (transform : F → Tag F → Value F → Except String (Value F))
  (fallback : F → TagSet F → Except String (Value F))

/-- What a tag comes to: the part that the definition asks for, passed through the transforms up to
the first one that fails. -/
def outcome (binding : Binding F) (tag : Tag F) : Except String (Value F) :=
  binding.transforms.foldlM (fun value function => transform function tag value)
    (tag.part binding.definition.tagProperty)

/-- What a binding comes to without tags; without a default function there is no value. -/
def defaultOutcome (tags : TagSet F) (binding : Binding F) : Except String (Value F) :=
  match binding.definition.defaultFn with
  | none => .ok .null
  | some function => fallback function tags

/-- The values that a binding has for a document with given tags: those of its tags, in order, or
the default value, if there is one, when it has no tags. -/
def offer (tags : TagSet F) (binding : Binding F) : List (Value F) :=
  match tags.named binding.name with
  | [] =>
    match binding.defaultOutcome fallback tags with
    | .error _ | .ok .null => []
    | .ok value => [value]
  | found => found.filterMap fun tag => (binding.outcome transform tag).toOption

/-- That a document has what a binding needs: tags in the right number, a value for each of them or
a default value, and a place for the values. -/
structure Suits (binding : Binding F) (document : Document F) : Prop where
  /-- There is a tag if one is required. -/
  present : document.tags.named binding.name ≠ [] ∨ binding.definition.required = false
  /-- There is one tag at most unless several are allowed. -/
  few : binding.definition.multi = true ∨ (document.tags.named binding.name).length ≤ 1
  /-- Every tag comes to a value. -/
  values : ∀ tag ∈ document.tags.named binding.name,
    ∃ value, binding.outcome transform tag = .ok value
  /-- Without tags the default does. -/
  default : document.tags.named binding.name = [] →
    ∃ value, binding.defaultOutcome fallback document.tags = .ok value
  /-- If there are values to collect, they can be collected in the target. -/
  growable : binding.definition.multi = true →
    binding.offer transform fallback document.tags ≠ [] → document.CanCollect binding.target

section Offer

variable {transform fallback} {binding : Binding F} {tags : TagSet F}

/-- A binding that has tags offers their values. -/
theorem offer_of_ne_nil (present : tags.named binding.name ≠ []) :
    binding.offer transform fallback tags =
      (tags.named binding.name).filterMap fun tag => (binding.outcome transform tag).toOption := by
  unfold offer
  split
  · contradiction
  · rfl

/-- When all tags come to values, these are what is offered, one for each. -/
theorem map_outcome_eq_offer (present : tags.named binding.name ≠ [])
    (values : ∀ tag ∈ tags.named binding.name, ∃ value, binding.outcome transform tag = .ok value) :
    (tags.named binding.name).map (binding.outcome transform) =
      (binding.offer transform fallback tags).map .ok := by
  rw [offer_of_ne_nil present, List.map_filterMap]
  have each : ∀ tag ∈ tags.named binding.name,
      ((binding.outcome transform tag).toOption.map Except.ok : Option (Except String (Value F))) =
        some (binding.outcome transform tag) := by
    intro tag inside
    obtain ⟨value, given⟩ := values tag inside
    rw [given]
    rfl
  rw [List.filterMap_congr each, ← List.filterMap_eq_map']

/-- Without tags, no value is offered if the default is null. -/
theorem offer_of_null (absent : tags.named binding.name = [])
    (null : binding.defaultOutcome fallback tags = .ok .null) :
    binding.offer transform fallback tags = [] := by
  simp only [offer, absent, null]

/-- Without tags, the default value is offered if it is not null. -/
theorem offer_of_value (absent : tags.named binding.name = []) {value : Value F}
    (given : binding.defaultOutcome fallback tags = .ok value) (some : value ≠ .null) :
    binding.offer transform fallback tags = [value] := by
  simp only [offer, absent, given]

end Offer

variable {transform fallback} {behaviour : Behaviour F} {binding : Binding F}
  {document : Document F}

/-- Routines that edit nothing pass a value on from one to the next, up to the first that fails. -/
theorem sequence_of_outcomes {functions : List F} {tag : Tag F}
    (given : ∀ function ∈ functions, ∀ document value,
      behaviour function document (some tag) value = ⟨[], transform function tag value⟩)
    (document : Document F) (value : Value F) :
    Routine.sequence (functions.map behaviour) document (some tag) value =
      ⟨[], functions.foldlM (fun value function => transform function tag value) value⟩ := by
  induction functions generalizing value with
  | nil => rfl
  | cons function rest ih =>
    obtain ⟨head, tail⟩ := List.forall_mem_cons.mp given
    have next := ih tail
    simp only [Routine.sequence] at next
    simp only [List.map_cons, Routine.sequence, List.foldr_cons, Routine.andThen, head,
      List.foldlM_cons]
    cases transform function tag value with
    | error message => rfl
    | ok middle =>
      simp only [Document.editAll_nil, List.nil_append, next]
      rfl

namespace Determined

variable (determined : binding.Determined behaviour transform fallback)

include determined

/-- What a tag comes to is given, and evaluating it edits nothing. -/
theorem evaluate (tag : Tag F) (document : Document F) :
    binding.evaluate behaviour tag document = ⟨[], binding.outcome transform tag⟩ := by
  rw [Binding.evaluate, routine_eq_sequence]
  exact sequence_of_outcomes
    (fun function used document value => determined.transforms function used document tag value)
    document _

/-- What the default function comes to is given, and it edits nothing. -/
theorem reply_of_default {function : F} (default : binding.definition.defaultFn = some function)
    (document : Document F) :
    behaviour function document none .null =
      ⟨[], binding.defaultOutcome fallback document.tags⟩ := by
  rw [determined.default function default document, defaultOutcome, default]

/-- The calls of a loop over tags come to what is given, and edit nothing. -/
theorem reply_of_loop {held : List (Value F)} {past : List (Call F)} {tags : List (Tag F)}
    {pass : Pass F} (loop : binding.CollectsFrom behaviour document held past tags pass) :
    ∀ call ∈ pass.calls, call.reply = ⟨[], binding.outcome transform call.tag⟩ := by
  intro call called
  obtain ⟨before, after, split⟩ := List.append_of_mem called
  rw [(loop.faithful before call after split).2, determined.evaluate]

/-- Collecting the values of tags that all have one puts them at the end of the list. -/
theorem extractAll_of_values (growable : document.CanCollect binding.target)
    {tags : List (Tag F)}
    (values : ∀ tag ∈ tags, ∃ value, binding.outcome transform tag = .ok value) :
    (binding.extractAll behaviour tags document).fault? = none ∧
      (binding.extractAll behaviour tags document).document =
        document.assign binding.target (.list (document.items binding.target ++
          tags.filterMap fun tag => (binding.outcome transform tag).toOption)) := by
  have loop := extractAll_collectsFrom behaviour binding growable tags
  have replies := determined.reply_of_loop loop
  rcases loop.ending with ⟨finished, all, -⟩ | ⟨done, call, message, rest, made, found, -, failed, -⟩
  · have edits : editsOf (binding.extractAll behaviour tags document).calls = [] := by
      refine List.flatMap_eq_nil_iff.mpr fun call called => ?_
      rw [replies call called]
    have given : results (binding.extractAll behaviour tags document).calls =
        ((binding.extractAll behaviour tags document).calls.map Call.tag).filterMap
          fun tag => (binding.outcome transform tag).toOption := by
      rw [List.filterMap_map]
      refine List.filterMap_congr fun call called => ?_
      rw [replies call called]
      rfl
    refine ⟨finished, ?_⟩
    rw [loop.left, List.nil_append, Document.collecting, edits, given, all, Document.editAll_nil]
  · have last : call ∈ (binding.extractAll behaviour tags document).calls := by simp [made]
    have among : call.tag ∈ tags := by simp [found]
    obtain ⟨value, given⟩ := values call.tag among
    rw [replies call last, given] at failed
    cases failed

/-- Collecting comes to its end only if every tag has a value. -/
theorem values_of_extractAll {tags : List (Tag F)}
    (done : (binding.extractAll behaviour tags document).fault? = none) :
    document.CanCollect binding.target ∧
      ∀ tag ∈ tags, ∃ value, binding.outcome transform tag = .ok value := by
  by_cases growable : document.CanCollect binding.target
  · have loop := extractAll_collectsFrom behaviour binding growable tags
    have replies := determined.reply_of_loop loop
    rcases loop.ending with ⟨-, all, good⟩ | ⟨_, _, message, _, -, -, -, -, failed⟩
    · refine ⟨growable, fun tag among => ?_⟩
      rw [← all] at among
      obtain ⟨call, called, rfl⟩ := List.mem_map.mp among
      obtain ⟨value, given⟩ := good call called
      exact ⟨value, by rw [← given, replies call called]⟩
    · rw [done] at failed
      cases failed
  · obtain ⟨held, -, -, -, refused⟩ := extractAll_of_fixed behaviour binding growable tags
    rw [refused] at done
    cases done

/-- A binding without tags deposits its default value in a document that suits it. -/
theorem extract_of_suits_of_nil (suits : binding.Suits transform fallback document)
    (absent : document.tags.named binding.name = []) :
    (binding.extract behaviour document).fault? = none ∧
      (binding.extract behaviour document).document =
        binding.deposit (binding.offer transform fallback document.tags) document := by
  have optional : binding.definition.required = false := by
    simpa [absent] using suits.present
  obtain ⟨value, given⟩ := suits.default absent
  rw [Binding.extract_of_nil behaviour binding absent]
  cases default : binding.definition.defaultFn with
  | none =>
    have null : binding.defaultOutcome fallback document.tags = .ok .null := by
      simp only [defaultOutcome, default]
    rw [extractDefault_of_none behaviour binding optional default, offer_of_null absent null]
    exact ⟨rfl, rfl⟩
  | some function =>
    have reply := determined.reply_of_default default document
    have outcome := (congrArg Reply.outcome reply).trans given
    have unedited : document.editAll (behaviour function document none .null).edits = document := by
      rw [reply, Document.editAll_nil]
    by_cases null : value = .null
    · subst null
      rw [extractDefault_of_null behaviour binding optional default outcome, unedited,
        offer_of_null absent given]
      exact ⟨rfl, rfl⟩
    · have one : binding.offer transform fallback document.tags = [value] :=
        offer_of_value absent given null
      rw [extractDefault_of_value behaviour binding optional default outcome null, unedited, one]
      cases allowed : binding.definition.multi with
      | false => simp [writeDefault_of_single binding allowed, deposit, allowed]
      | true =>
        have growable := suits.growable allowed (by simp [one])
        simp [writeDefault_of_growable binding allowed growable, deposit, allowed]

/-- A binding with tags deposits their values in a document that suits it. -/
theorem extract_of_suits_of_ne_nil (suits : binding.Suits transform fallback document)
    (present : document.tags.named binding.name ≠ []) :
    (binding.extract behaviour document).fault? = none ∧
      (binding.extract behaviour document).document =
        binding.deposit (binding.offer transform fallback document.tags) document := by
  have mapped : (document.tags.named binding.name).map (binding.outcome transform) =
      (binding.offer transform fallback document.tags).map .ok :=
    map_outcome_eq_offer present suits.values
  have some : binding.offer transform fallback document.tags ≠ [] := by
    intro empty
    rw [empty, List.map_nil, List.map_eq_nil_iff] at mapped
    exact present mapped
  cases allowed : binding.definition.multi with
  | true =>
    have growable := suits.growable allowed some
    have collected := determined.extractAll_of_values growable suits.values
    rw [extract_of_multi behaviour binding present allowed, deposit_of_ne_nil binding document some,
      if_pos allowed]
    refine ⟨collected.1, collected.2.trans ?_⟩
    rw [offer_of_ne_nil present]
  | false =>
    obtain ⟨tag, only⟩ : ∃ tag, document.tags.named binding.name = [tag] := by
      refine List.length_eq_one_iff.mp (Nat.le_antisymm ?_ (List.length_pos_iff.mpr present))
      simpa [allowed] using suits.few
    obtain ⟨value, given⟩ := suits.values tag (by simp [only])
    have reply := determined.evaluate tag document
    have one : binding.offer transform fallback document.tags = [value] := by
      rw [offer_of_ne_nil present, only]
      simp [given, Except.toOption]
    rw [extract_of_only behaviour binding only allowed,
      extractOnly_of_ok behaviour binding ((congrArg Reply.outcome reply).trans given), reply, one]
    simp [deposit, allowed]

/-- A binding is done with a document that suits it, and deposits its values. -/
theorem extract_of_suits (suits : binding.Suits transform fallback document) :
    (binding.extract behaviour document).fault? = none ∧
      (binding.extract behaviour document).document =
        binding.deposit (binding.offer transform fallback document.tags) document := by
  by_cases absent : document.tags.named binding.name = []
  · exact determined.extract_of_suits_of_nil suits absent
  · exact determined.extract_of_suits_of_ne_nil suits absent

/-- What is offered without tags is the value of the default function, unless there is no such
function, or it gives none. -/
theorem offer_of_nil (suits : binding.Suits transform fallback document)
    (absent : document.tags.named binding.name = []) :
    (binding.offer transform fallback document.tags = [] ∧
        ∀ function ∈ binding.definition.defaultFn,
          (behaviour function document none .null).outcome = .ok .null) ∨
      ∃ function ∈ binding.definition.defaultFn, ∃ value, value ≠ .null ∧
        (behaviour function document none .null).outcome = .ok value ∧
        binding.offer transform fallback document.tags = [value] := by
  obtain ⟨value, given⟩ := suits.default absent
  by_cases null : value = .null
  · subst null
    refine .inl ⟨offer_of_null absent given, fun function default => ?_⟩
    rw [determined.reply_of_default default document, given]
  · cases default : binding.definition.defaultFn with
    | none =>
      rw [defaultOutcome, default] at given
      exact absurd (Except.ok.inj given).symm null
    | some function =>
      refine .inr ⟨function, rfl, value, null, ?_, offer_of_value absent given null⟩
      rw [determined.reply_of_default default document, given]

/-- A document with which a binding without tags is done suits it. -/
theorem suits_of_extract_of_nil (done : (binding.extract behaviour document).fault? = none)
    (absent : document.tags.named binding.name = []) :
    binding.Suits transform fallback document := by
  rw [Binding.extract_of_nil behaviour binding absent, Pass.fault?_after] at done
  have optional : binding.definition.required = false := by
    cases required : binding.definition.required with
    | false => rfl
    | true =>
      rw [extractDefault_of_required behaviour binding required] at done
      cases done
  have given : ∃ value, binding.defaultOutcome fallback document.tags = .ok value := by
    cases default : binding.definition.defaultFn with
    | none => exact ⟨.null, by simp only [defaultOutcome, default]⟩
    | some function =>
      have outcome := congrArg Reply.outcome (determined.reply_of_default default document)
      cases came : binding.defaultOutcome fallback document.tags with
      | ok value => exact ⟨value, rfl⟩
      | error message =>
        rw [extractDefault_of_error behaviour binding optional default (outcome.trans came)] at done
        cases done
  refine ⟨.inr optional, .inr (by simp [absent]), by simp [absent], fun _ => given, ?_⟩
  intro allowed offered
  obtain ⟨value, came⟩ := given
  have some : value ≠ .null := fun null => offered (offer_of_null absent (null ▸ came))
  cases default : binding.definition.defaultFn with
  | none =>
    rw [defaultOutcome, default] at came
    exact absurd (Except.ok.inj came).symm some
  | some function =>
    have reply := determined.reply_of_default default document
    rw [extractDefault_of_value behaviour binding optional default
      ((congrArg Reply.outcome reply).trans came) some, reply] at done
    by_contra fixed
    obtain ⟨held, -, -, -, refused⟩ := writeDefault_of_fixed binding allowed fixed value
    simp [refused] at done

/-- A document with which a binding with tags is done suits it. -/
theorem suits_of_extract_of_ne_nil (done : (binding.extract behaviour document).fault? = none)
    (present : document.tags.named binding.name ≠ []) :
    binding.Suits transform fallback document := by
  cases allowed : binding.definition.multi with
  | true =>
    rw [extract_of_multi behaviour binding present allowed, Pass.fault?_after] at done
    obtain ⟨growable, values⟩ := determined.values_of_extractAll done
    exact ⟨.inl present, .inl allowed, values, fun absent => absurd absent present,
      fun _ _ => growable⟩
  | false =>
    have few : (document.tags.named binding.name).length ≤ 1 := by
      by_contra several
      rw [extract_of_several behaviour binding (Nat.lt_of_not_le several) allowed] at done
      cases done
    obtain ⟨tag, only⟩ := List.length_eq_one_iff.mp
      (Nat.le_antisymm few (List.length_pos_iff.mpr present))
    have value : ∃ value, binding.outcome transform tag = .ok value := by
      have outcome := congrArg Reply.outcome (determined.evaluate tag document)
      cases came : binding.outcome transform tag with
      | ok value => exact ⟨value, rfl⟩
      | error message =>
        rw [extract_of_only behaviour binding only allowed,
          extractOnly_of_error behaviour binding (outcome.trans came)] at done
        cases done
    refine ⟨.inl present, .inr few, ?_, fun absent => absurd absent present, ?_⟩
    · simpa [only] using value
    · simp [allowed]

/-- A document with which a binding is done suits it. -/
theorem suits_of_extract (done : (binding.extract behaviour document).fault? = none) :
    binding.Suits transform fallback document := by
  by_cases absent : document.tags.named binding.name = []
  · exact determined.suits_of_extract_of_nil done absent
  · exact determined.suits_of_extract_of_ne_nil done absent

end Determined

/-- Whether a document suits a binding depends on its tags and on its target only. -/
theorem Suits.transfer {other : Document F} (suits : binding.Suits transform fallback document)
    (tags : other.tags = document.tags)
    (growable : binding.definition.multi = true → document.CanCollect binding.target →
      other.CanCollect binding.target) :
    binding.Suits transform fallback other where
  present := by
    rw [tags]
    exact suits.present
  few := by
    rw [tags]
    exact suits.few
  values := by
    rw [tags]
    exact suits.values
  default := by
    rw [tags]
    exact suits.default
  growable := by
    rw [tags]
    exact fun multi offered => growable multi (suits.growable multi offered)

/-- A document suits a binding after a deposit in another property if and only if it does before. -/
theorem suits_deposit_iff {other : Binding F} (different : other.target ≠ binding.target)
    (values : List (Value F)) :
    binding.Suits transform fallback (other.deposit values document) ↔
      binding.Suits transform fallback document := by
  have tags := (other.rest_deposit document values).1
  have same : (other.deposit values document).CanCollect binding.target ↔
      document.CanCollect binding.target := by
    simp only [Document.CanCollect, other.get?_deposit_of_ne document values different]
  exact ⟨fun suits => suits.transfer tags.symm fun _ => same.mp,
    fun suits => suits.transfer tags fun _ => same.mpr⟩

/-- A document that suits a binding still does after deposits in other properties, or in lists. -/
theorem Suits.depositAll (suits : binding.Suits transform fallback document)
    (yield : Binding F → List (Value F)) {bindings : List (Binding F)}
    (apart : ∀ other ∈ bindings, other.target = binding.target →
      other.definition.multi = binding.definition.multi) :
    binding.Suits transform fallback (TagBinding.depositAll yield bindings document) := by
  induction bindings generalizing document with
  | nil => exact suits
  | cons other rest ih =>
    obtain ⟨head, tail⟩ := List.forall_mem_cons.mp apart
    refine ih (suits.transfer (other.rest_deposit document (yield other)).1 ?_) tail
    intro multi growable
    exact other.canCollect_deposit document _ growable fun same => (head same).trans multi

end Binding

section Pass

variable {behaviour : Behaviour F} {transform : F → Tag F → Value F → Except String (Value F)}
  {fallback : F → TagSet F → Except String (Value F)}

/-- The pass over bindings all of which a document suits is one deposit after another. -/
theorem extractPass_of_suits (bindings : List (Binding F)) (document : Document F)
    (determined : ∀ binding ∈ bindings, binding.Determined behaviour transform fallback)
    (distinct : (bindings.map Binding.target).Nodup)
    (suits : ∀ binding ∈ bindings, binding.Suits transform fallback document) :
    (extractPass behaviour bindings document).fault? = none ∧
      (extractPass behaviour bindings document).document =
        depositAll (Binding.offer transform fallback document.tags) bindings document := by
  induction bindings generalizing document with
  | nil => exact ⟨rfl, rfl⟩
  | cons binding rest ih =>
    obtain ⟨head, tail⟩ := List.forall_mem_cons.mp determined
    obtain ⟨first, others⟩ := List.forall_mem_cons.mp suits
    have later := (List.nodup_cons.mp distinct).2
    obtain ⟨done, left⟩ := head.extract_of_suits first
    obtain ⟨sameDocument, sameFault⟩ :=
      extractPass_cons_of_none behaviour binding rest document done
    have tags := (binding.rest_deposit document
      (binding.offer transform fallback document.tags)).1
    have still : ∀ other ∈ rest, other.Suits transform fallback
        (binding.deposit (binding.offer transform fallback document.tags) document) := by
      intro other inside
      have different := (forall_target_ne distinct other inside).symm
      exact (Binding.suits_deposit_iff different _).mpr (others other inside)
    have result := ih _ tail later still
    rw [tags] at result
    rw [sameDocument, sameFault, left]
    exact result

/-- If the pass over bindings is done with a document, the document suits them all from the
start. -/
theorem suits_of_extractPass (bindings : List (Binding F)) (document : Document F)
    (determined : ∀ binding ∈ bindings, binding.Determined behaviour transform fallback)
    (distinct : (bindings.map Binding.target).Nodup)
    (done : (extractPass behaviour bindings document).fault? = none) :
    ∀ binding ∈ bindings, binding.Suits transform fallback document := by
  induction bindings generalizing document with
  | nil => simp
  | cons binding rest ih =>
    obtain ⟨head, tail⟩ := List.forall_mem_cons.mp determined
    have later := (List.nodup_cons.mp distinct).2
    cases first : (binding.extract behaviour document).fault? with
    | some fault =>
      rw [extractPass_cons_of_fault behaviour binding rest document first, first] at done
      cases done
    | none =>
      have suits := head.suits_of_extract first
      rw [(extractPass_cons_of_none behaviour binding rest document first).2,
        (head.extract_of_suits suits).2] at done
      have others := ih _ tail later done
      refine List.forall_mem_cons.mpr ⟨suits, fun other inside => ?_⟩
      have different := (forall_target_ne distinct other inside).symm
      exact (Binding.suits_deposit_iff different _).mp (others other inside)

end Pass

end TagBinding
