import TagBinding.Proofs.Determined

/-!
# A pass in closed form

When the functions of all bindings leave the document alone, and their values depend only on the
tag and the value that they are given, or on the tags of the document, everything that a pass does
can be read off from the document as it is at the start (`extractPass_closed_form`): whether the
pass comes to its end, with which fault it stops if not, and what each property holds afterwards.
The pass stops at the first binding that the document does not meet, and up to there every binding
deposits its values.
-/
namespace TagBinding

variable {F : Type}

namespace Binding

/-- That the functions of a binding leave documents alone and do not fail, and that their values
are given: those of a transform by the tag and the incoming value, those of a default function by
the tags of the document. -/
structure Settled (behaviour : Behaviour F) (transform : F → Tag F → Value F → Value F)
    (fallback : F → TagSet F → Value F) (binding : Binding F) : Prop where
  /-- A transform gives a value for a tag and a value. -/
  transforms : ∀ function ∈ binding.transforms, ∀ document tag value,
    behaviour function document (some tag) value = .value (transform function tag value)
  /-- A default function gives a value for the tags of a document. -/
  default : ∀ function ∈ binding.definition.defaultFn, ∀ document,
    behaviour function document none .null = .value (fallback function document.tags)

/-- The value of a tag: the part that the definition asks for, passed through all transforms. -/
def settledValue (transform : F → Tag F → Value F → Value F) (binding : Binding F)
    (tag : Tag F) : Value F :=
  binding.transforms.foldl (fun value function => transform function tag value)
    (tag.part binding.definition.tagProperty)

/-- The values that a binding writes to a document with given tags: one for each of its tags, or
the default value, if there is one, when there are none. -/
def yield (transform : F → Tag F → Value F → Value F) (fallback : F → TagSet F → Value F)
    (tags : TagSet F) (binding : Binding F) : List (Value F) :=
  match tags.named binding.name with
  | [] =>
    match binding.definition.defaultFn.map fun function => fallback function tags with
    | none | some .null => []
    | some value => [value]
  | found => found.map (binding.settledValue transform)

/-- Whether tags meet a binding: there is a tag if one is required, and at most one unless several
are allowed. -/
def Met (tags : TagSet F) (binding : Binding F) : Prop :=
  (tags.named binding.name ≠ [] ∨ binding.definition.required = false) ∧
    (binding.definition.multi = true ∨ (tags.named binding.name).length ≤ 1)

instance (tags : TagSet F) (binding : Binding F) : Decidable (binding.Met tags) :=
  inferInstanceAs (Decidable ((¬ _ ∨ _) ∧ (_ ∨ _)))

/-- The fault for a binding that the tags of a document do not meet. -/
def breach (document : Document F) (binding : Binding F) : Fault F :=
  if document.tags.named binding.name = [] then
    .missingTag binding.name document.file document.startingLine
  else
    .duplicateTag binding.name (document.tags.named binding.name).length document.file
      document.startingLine

section Single

variable (behaviour : Behaviour F) {transform : F → Tag F → Value F → Value F}
  {fallback : F → TagSet F → Value F} (binding : Binding F) {document : Document F}

/-- A binding that is not met fails before anything is run, and changes nothing. -/
theorem extract_of_not_met (broken : ¬ binding.Met document.tags) :
    (binding.extract behaviour document).fault? = some (binding.breach document) ∧
      (binding.extract behaviour document).document = document := by
  by_cases absent : document.tags.named binding.name = []
  · have required : binding.definition.required = true := by
      simpa [Met, absent] using broken
    rw [extract_of_nil behaviour binding absent,
      extractDefault_of_required behaviour binding required]
    simp [breach, absent]
  · obtain ⟨single, several⟩ : binding.definition.multi = false ∧
        1 < (document.tags.named binding.name).length := by
      simpa [Met, absent] using broken
    rw [extract_of_several behaviour binding several single]
    simp [breach, absent]

/-- What is settled is determined, and never fails. -/
theorem Settled.toDetermined {binding : Binding F}
    (settled : binding.Settled behaviour transform fallback) :
    binding.Determined behaviour (fun function tag value => .ok (transform function tag value))
      (fun function tags => .ok (fallback function tags)) :=
  ⟨settled.transforms, settled.default⟩

/-- Transforms that do not fail come to the settled value. -/
theorem outcome_of_values (tag : Tag F) :
    binding.outcome (fun function tag value => .ok (transform function tag value)) tag =
      .ok (binding.settledValue transform tag) :=
  List.foldlM_pure

/-- What is offered when nothing fails are the values that the binding writes. -/
theorem offer_of_values (tags : TagSet F) :
    binding.offer (fun function tag value => .ok (transform function tag value))
        (fun function tags => .ok (fallback function tags)) tags =
      binding.yield transform fallback tags := by
  unfold offer yield
  cases tags.named binding.name with
  | nil =>
    unfold defaultOutcome
    cases binding.definition.defaultFn with
    | none => rfl
    | some function =>
      simp only [Option.map_some]
      cases fallback function tags <;> rfl
  | cons tag rest =>
    simp only [outcome_of_values, Except.toOption]
    exact congrFun List.filterMap_eq_map' (tag :: rest)

variable {behaviour binding}

/-- A binding that is met deposits its values, and nothing else happens to the document. -/
theorem Settled.extract_of_met (settled : binding.Settled behaviour transform fallback)
    (met : binding.Met document.tags)
    (growable : binding.definition.multi = true → document.CanCollect binding.target) :
    (binding.extract behaviour document).fault? = none ∧
      (binding.extract behaviour document).document =
        binding.deposit (binding.yield transform fallback document.tags) document := by
  rw [← offer_of_values]
  refine settled.toDetermined.extract_of_suits ⟨met.1, met.2, ?_, ?_, fun multi _ => growable multi⟩
  · exact fun tag _ => ⟨_, binding.outcome_of_values tag⟩
  · intro _
    unfold defaultOutcome
    cases binding.definition.defaultFn with
    | none => exact ⟨_, rfl⟩
    | some function => exact ⟨_, rfl⟩

end Single

/-- A deposit does not change the fault for a binding that is not met. -/
theorem breach_deposit (binding other : Binding F) (values : List (Value F))
    (document : Document F) :
    other.breach (binding.deposit values document) = other.breach document := by
  obtain ⟨tags, file, line⟩ := binding.rest_deposit document values
  simp only [breach, tags, file, line]

end Binding

section Pass

variable {behaviour : Behaviour F} {transform : F → Tag F → Value F → Value F}
  {fallback : F → TagSet F → Value F}

/-- The pass stops at the first binding that is not met, and before it every binding deposits its
values. -/
theorem extractPass_of_settled (bindings : List (Binding F)) (document : Document F)
    (settled : ∀ binding ∈ bindings, binding.Settled behaviour transform fallback)
    (apart : ∀ first ∈ bindings, ∀ second ∈ bindings, first.target = second.target →
      first.definition.multi = second.definition.multi)
    (growable : ∀ binding ∈ bindings, binding.definition.multi = true →
      document.CanCollect binding.target) :
    (extractPass behaviour bindings document).fault? =
        (bindings.find? fun binding => !decide (binding.Met document.tags)).map
          (Binding.breach document) ∧
      (extractPass behaviour bindings document).document =
        depositAll (Binding.yield transform fallback document.tags)
          (bindings.takeWhile fun binding => decide (binding.Met document.tags)) document := by
  induction bindings generalizing document with
  | nil => exact ⟨rfl, rfl⟩
  | cons binding rest ih =>
    obtain ⟨head, tail⟩ := List.forall_mem_cons.mp settled
    obtain ⟨first, others⟩ := List.forall_mem_cons.mp growable
    by_cases met : binding.Met document.tags
    · obtain ⟨done, left⟩ := head.extract_of_met met first
      obtain ⟨sameDocument, sameFault⟩ :=
        extractPass_cons_of_none behaviour binding rest document done
      have tags := (binding.rest_deposit document
        (binding.yield transform fallback document.tags)).1
      have later := ih (binding.deposit (binding.yield transform fallback document.tags) document)
        tail
        (fun one found other there => apart one (List.mem_cons_of_mem _ found) other
          (List.mem_cons_of_mem _ there))
        (fun other found multi => binding.canCollect_deposit document _ (others other found multi)
          (fun same => (apart binding List.mem_cons_self other (List.mem_cons_of_mem _ found)
            same).trans multi))
      have faults : Binding.breach (binding.deposit
          (binding.yield transform fallback document.tags) document) =
          Binding.breach document :=
        funext fun other => binding.breach_deposit other _ document
      rw [tags, faults] at later
      rw [sameDocument, sameFault, left, List.find?_cons_of_neg (by simpa using met),
        List.takeWhile_cons_of_pos (by simpa using met)]
      exact ⟨later.1, later.2⟩
    · obtain ⟨failed, same⟩ := binding.extract_of_not_met behaviour met
      rw [extractPass_cons_of_fault behaviour binding rest document failed,
        List.find?_cons_of_pos (by simpa using met),
        List.takeWhile_cons_of_neg (by simpa using met)]
      exact ⟨failed, same⟩

/-- What a pass with settled functions comes to, said of the document at the start. It succeeds
exactly when the document meets every binding, and stops with the fault for the first one that it
does not meet otherwise. Of the document only properties change: the bindings up to there leave
their values in them, collected behind what a collecting property held, or with the last value
alone in any other one, and new properties come in the order of the bindings. -/
theorem extractPass_closed_form (bindings : List (Binding F)) (document : Document F)
    (settled : ∀ binding ∈ bindings, binding.Settled behaviour transform fallback)
    (apart : ∀ first ∈ bindings, ∀ second ∈ bindings, first.target = second.target →
      first.definition.multi = second.definition.multi)
    (growable : ∀ binding ∈ bindings, binding.definition.multi = true →
      document.CanCollect binding.target) :
    let pass := extractPass behaviour bindings document
    let found := fun binding : Binding F => document.tags.named binding.name
    let completed := bindings.takeWhile fun binding => decide (binding.Met document.tags)
    let yield := Binding.yield transform fallback document.tags
    (pass.fault? = none ↔ ∀ binding ∈ bindings,
      (found binding ≠ [] ∨ binding.definition.required = false) ∧
        (binding.definition.multi = true ∨ (found binding).length ≤ 1)) ∧
    (∀ done binding rest, bindings = done ++ binding :: rest →
      (∀ former ∈ done, former.Met document.tags) → ¬ binding.Met document.tags →
      pass.fault? = some (if found binding = []
        then .missingTag binding.name document.file document.startingLine
        else .duplicateTag binding.name (found binding).length document.file
          document.startingLine)) ∧
    pass.document.tags = document.tags ∧ pass.document.file = document.file ∧
    pass.document.startingLine = document.startingLine ∧
    (∀ key, (∀ binding ∈ bindings, binding.target = key → binding.definition.multi = true) →
      pass.document.get? key =
        if gathered yield completed key = [] then document.get? key
        else some (.list (document.items key ++ gathered yield completed key))) ∧
    (∀ key, (∀ binding ∈ bindings, binding.target = key → binding.definition.multi = false) →
      pass.document.get? key =
        ((gathered yield completed key).getLast?).or (document.get? key)) ∧
    pass.document.properties.keys = document.properties.keys ++
      ((written yield completed).filter fun key =>
        !document.properties.keys.contains key).eraseDups := by
  intro pass found completed yield
  obtain ⟨fault, left⟩ := extractPass_of_settled bindings document settled apart growable
  obtain ⟨tags, file, line⟩ := rest_depositAll yield completed document
  have among : ∀ binding ∈ completed, binding ∈ bindings := fun binding inside =>
    (List.takeWhile_sublist _).subset inside
  refine ⟨?_, ?_, ?_, ?_, ?_, ?_, ?_, ?_⟩
  · simp only [pass, fault, Option.map_eq_none_iff, List.find?_eq_none, Bool.not_eq_true',
      decide_eq_false_iff_not, Decidable.not_not]
    rfl
  · intro done binding rest split former broken
    have before : done.find? (fun binding => !decide (binding.Met document.tags)) = none := by
      simpa [List.find?_eq_none] using former
    have stopped : bindings.find? (fun binding => !decide (binding.Met document.tags)) =
        some binding := by
      rw [split, List.find?_append, before, Option.none_or,
        List.find?_cons_of_pos (by simpa using broken)]
    exact fault.trans (congrArg (Option.map (Binding.breach document)) stopped)
  · rw [left]
    exact tags
  · rw [left]
    exact file
  · rw [left]
    exact line
  · intro key collects
    rw [left]
    exact get?_depositAll_of_multi yield completed document
      fun binding inside => collects binding (among binding inside)
  · intro key single
    rw [left]
    exact get?_depositAll_of_single yield completed document
      fun binding inside => single binding (among binding inside)
  · rw [left]
    exact keys_depositAll yield completed document

end Pass

end TagBinding
