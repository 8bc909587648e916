import Mathlib.Data.List.Nodup
import TagBinding.Proofs.Determined

/-!
# Extracting again

A document from which the tags have been extracted may have them extracted again. If the functions
read tags alone and the bindings write different properties, the second pass takes the same way as
the first one, and deposits the same values once more. Deposits of one binding that follow each
other are one deposit of all the values, and may change places with those of other bindings as soon
as the properties are there (`depositAll_depositAll`). So any number of passes comes to one pass
that deposits as many copies of the values (`Session.extracting_again`): a property with one value
does not notice, and a list grows by the same values each time (`Session.repeated_extraction`).
-/
namespace TagBinding

variable {F : Type}

namespace Binding

variable (binding : Binding F) {values : List (Value F)} (document : Document F)

/-- A deposit drops no property and moves none. -/
theorem keys_prefix_deposit (values : List (Value F)) :
    document.properties.keys <+: (binding.deposit values document).properties.keys := by
  unfold deposit
  split
  · exact List.prefix_refl _
  · exact Table.keys_prefix_insert document.properties _ _

/-- A deposit of values leaves the target among the properties. -/
theorem mem_keys_deposit (some : values ≠ []) :
    binding.target ∈ (binding.deposit values document).properties.keys := by
  rw [deposit_of_ne_nil binding document some]
  exact document.mem_keys_assign binding.target _

/-- Two deposits of a binding are one deposit of the values of both. -/
theorem deposit_deposit (first second : List (Value F)) :
    binding.deposit second (binding.deposit first document) =
      binding.deposit (first ++ second) document := by
  by_cases last : second = []
  · rw [last, deposit_nil, List.append_nil]
  by_cases former : first = []
  · rw [former, deposit_nil, List.nil_append]
  have both : first ++ second ≠ [] := fun empty => last (List.append_eq_nil_iff.mp empty).2
  have found := binding.get?_deposit_self document former
  rw [deposit_of_ne_nil binding _ last, deposit_of_ne_nil binding document both,
    List.getLast_append_of_ne_nil both last]
  cases allowed : binding.definition.multi with
  | false =>
    rw [deposit_of_ne_nil binding document former]
    exact document.assign_assign binding.target _ _
  | true =>
    have items : (binding.deposit first document).items binding.target =
        document.items binding.target ++ first := by
      rw [if_pos allowed] at found
      simp only [Document.items, found]
    simp only [if_pos, items, List.append_assoc]
    rw [deposit_of_ne_nil binding document former]
    exact document.assign_assign binding.target _ _

/-- Deposits in different properties may change places if the property that then comes second is
there already. -/
theorem deposit_comm {other : Binding F} (different : other.target ≠ binding.target)
    (former : List (Value F))
    (present : values ≠ [] → binding.target ∈ document.properties.keys) :
    binding.deposit values (other.deposit former document) =
      other.deposit former (binding.deposit values document) := by
  by_cases empty : values = []
  · rw [empty, deposit_nil, deposit_nil]
  have mine := binding.leaves_deposit_of_ne other values former document different
  have others := other.leaves_deposit_of_ne binding former values document different.symm
  rw [binding.deposit_eq_leaves values (other.deposit former document), mine,
    other.deposit_eq_leaves former (binding.deposit values document), others,
    binding.deposit_eq_leaves values document, other.deposit_eq_leaves former document]
  cases binding.leaves values document with
  | none => rfl
  | some value =>
    cases other.leaves former document with
    | none => rfl
    | some given =>
      have free : (Edit.assign other.target given).assigns binding.target = false := by
        simpa [Edit.assigns] using different
      exact (document.edit_assign_comm (.assign other.target given) value (present empty) free).symm

/-- A deposit in a property that is there may be moved behind deposits in other properties. -/
theorem deposit_depositAll_comm (yield : Binding F → List (Value F)) {bindings : List (Binding F)}
    (different : ∀ other ∈ bindings, other.target ≠ binding.target)
    (present : values ≠ [] → binding.target ∈ document.properties.keys) :
    binding.deposit values (depositAll yield bindings document) =
      depositAll yield bindings (binding.deposit values document) := by
  induction bindings generalizing document with
  | nil => rfl
  | cons other rest ih =>
    obtain ⟨head, tail⟩ := List.forall_mem_cons.mp different
    have still := (other.keys_prefix_deposit document (yield other)).subset
    rw [depositAll_cons, depositAll_cons, ih _ tail fun some => still (present some),
      binding.deposit_comm document head _ present]

end Binding

/-- After deposits in different properties, more deposits in properties that are there by then come
to deposits of the values of both. -/
theorem depositAll_depositAll (first second : Binding F → List (Value F))
    (bindings : List (Binding F)) (document : Document F)
    (distinct : (bindings.map Binding.target).Nodup)
    (alike : ∀ binding ∈ bindings, first binding = [] → second binding = []) :
    depositAll second bindings (depositAll first bindings document) =
      depositAll (fun binding => first binding ++ second binding) bindings document := by
  induction bindings generalizing document with
  | nil => rfl
  | cons binding rest ih =>
    have later := (List.nodup_cons.mp distinct).2
    have different := forall_target_ne distinct
    obtain ⟨head, tail⟩ := List.forall_mem_cons.mp alike
    -- The second deposit of this binding is moved forward, next to the first one. Its property is
    -- there by then, so that no property changes its place.
    have present : second binding ≠ [] →
        binding.target ∈ (binding.deposit (first binding) document).properties.keys :=
      fun some => binding.mem_keys_deposit document (mt head some)
    rw [depositAll_cons, depositAll_cons, depositAll_cons,
      binding.deposit_depositAll_comm _ first different present, binding.deposit_deposit document,
      ih _ later tail]

/-- Copies of the values of a binding, one after another. -/
def copies (count : Nat) (yield : Binding F → List (Value F)) (binding : Binding F) :
    List (Value F) :=
  (List.replicate count (yield binding)).flatten

section Copies

variable (count : Nat) (yield : Binding F → List (Value F))

/-- One copy is the values themselves. -/
@[simp] theorem copies_one : copies 1 yield = yield := by
  funext binding
  exact List.append_nil _

/-- The last copy comes last. -/
theorem copies_succ (binding : Binding F) :
    copies (count + 1) yield binding = copies count yield binding ++ yield binding := by
  rw [copies, List.replicate_succ', List.flatten_append, List.flatten_singleton, copies]

/-- There are copies of a value unless there is none. -/
theorem copies_succ_eq_nil_iff (binding : Binding F) :
    copies (count + 1) yield binding = [] ↔ yield binding = [] := by
  rw [copies_succ, List.append_eq_nil_iff]
  constructor
  · exact And.right
  · intro empty
    refine ⟨?_, empty⟩
    rw [copies, empty]
    simp

/-- The last of all copies is the last of the values. -/
theorem getLast?_copies_succ (binding : Binding F) :
    (copies (count + 1) yield binding).getLast? = (yield binding).getLast? := by
  by_cases empty : yield binding = []
  · rw [empty, (copies_succ_eq_nil_iff count yield binding).mpr empty]
  · rw [copies_succ, List.getLast?_append_of_ne_nil _ empty]

/-- A binding with one value does not notice copies. -/
theorem deposit_copies_succ {binding : Binding F} (single : binding.definition.multi = false)
    (document : Document F) :
    binding.deposit (copies (count + 1) yield binding) document =
      binding.deposit (yield binding) document := by
  simp only [Binding.deposit, getLast?_copies_succ, single, Bool.false_eq_true, if_false]

end Copies

/-- Nothing is gathered for a property that is no target. -/
theorem gathered_of_not_mem (yield : Binding F → List (Value F)) {bindings : List (Binding F)}
    {key : String} (outside : key ∉ bindings.map Binding.target) :
    gathered yield bindings key = [] := by
  refine List.flatMap_eq_nil_iff.mpr fun binding found => absurd ?_ outside
  obtain ⟨member, same⟩ := List.mem_filter.mp found
  exact beq_iff_eq.mp same ▸ List.mem_map_of_mem member

/-- When the targets are different, what is gathered for a target is what its binding has. -/
theorem gathered_of_distinct (yield : Binding F → List (Value F)) {bindings : List (Binding F)}
    (distinct : (bindings.map Binding.target).Nodup) {binding : Binding F}
    (inside : binding ∈ bindings) : gathered yield bindings binding.target = yield binding := by
  induction bindings with
  | nil => cases inside
  | cons first rest ih =>
    obtain ⟨fresh, later⟩ := List.nodup_cons.mp distinct
    rw [gathered_cons]
    rcases List.mem_cons.mp inside with rfl | among
    · rw [if_pos rfl, gathered_of_not_mem yield fresh, List.append_nil]
    · have different := (forall_target_ne distinct binding among).symm
      rw [if_neg different, List.nil_append, ih later among]

section Repeated

variable (yield : Binding F → List (Value F)) {bindings : List (Binding F)}
  (document : Document F)

/-- Copies of the values leave the properties in the same places. -/
theorem keys_depositAll_copies (count : Nat) :
    (depositAll (copies (count + 1) yield) bindings document).properties.keys =
      (depositAll yield bindings document).properties.keys := by
  have same : written (copies (count + 1) yield) bindings = written yield bindings := by
    refine congrArg (List.map Binding.target) (List.filter_congr fun binding _ => ?_)
    rw [Bool.eq_iff_iff]
    simp [copies_succ_eq_nil_iff]
  rw [keys_depositAll, keys_depositAll, same]

/-- Bindings that write one value each do not notice copies. -/
theorem depositAll_copies_of_single (count : Nat)
    (single : ∀ binding ∈ bindings, binding.definition.multi = false) :
    depositAll (copies (count + 1) yield) bindings document = depositAll yield bindings document := by
  induction bindings generalizing document with
  | nil => rfl
  | cons binding rest ih =>
    obtain ⟨head, tail⟩ := List.forall_mem_cons.mp single
    rw [depositAll_cons, depositAll_cons, deposit_copies_succ count yield head, ih _ tail]

variable (distinct : (bindings.map Binding.target).Nodup)

include distinct

/-- A property in which nothing is collected does not notice copies. -/
theorem get?_depositAll_copies_of_single (count : Nat) {key : String}
    (single : ∀ binding ∈ bindings, binding.target = key → binding.definition.multi = false) :
    (depositAll (copies (count + 1) yield) bindings document).get? key =
      (depositAll yield bindings document).get? key := by
  rw [get?_depositAll_of_single _ bindings document single,
    get?_depositAll_of_single _ bindings document single]
  by_cases target : key ∈ bindings.map Binding.target
  · obtain ⟨binding, inside, rfl⟩ := List.mem_map.mp target
    rw [gathered_of_distinct _ distinct inside, gathered_of_distinct _ distinct inside,
      getLast?_copies_succ]
  · rw [gathered_of_not_mem _ target, gathered_of_not_mem _ target]

/-- A property in which a binding collects holds the list that it held before, with the values of
that binding at the end, if there are any. -/
theorem get?_depositAll_of_collecting {binding : Binding F} (inside : binding ∈ bindings)
    (multi : binding.definition.multi = true) :
    (depositAll yield bindings document).get? binding.target =
      if yield binding = [] then document.get? binding.target
      else some (.list (document.items binding.target ++ yield binding)) := by
  rw [get?_depositAll_of_multi yield bindings document, gathered_of_distinct yield distinct inside]
  intro other there same
  rw [List.inj_on_of_nodup_map distinct there inside same]
  exact multi

end Repeated

section Passes

variable {behaviour : Behaviour F} {transform : F → Tag F → Value F → Except String (Value F)}
  {fallback : F → TagSet F → Except String (Value F)} {bindings : List (Binding F)}
  {document : Document F}
  (determined : ∀ binding ∈ bindings, binding.Determined behaviour transform fallback)
  (distinct : (bindings.map Binding.target).Nodup)
  (suits : ∀ binding ∈ bindings, binding.Suits transform fallback document)

include determined distinct suits

/-- A document that suits all bindings still does after any passes, and one more pass deposits one
more copy of the values. -/
theorem extractPass_of_copies (count : Nat) :
    let offer := Binding.offer transform fallback document.tags
    let again := extractPass behaviour bindings
      (depositAll (copies (count + 1) offer) bindings document)
    again.fault? = none ∧
      again.document = depositAll (copies (count + 2) offer) bindings document := by
  intro offer again
  have apart : ∀ binding ∈ bindings, ∀ other ∈ bindings, other.target = binding.target →
      other.definition.multi = binding.definition.multi := by
    intro binding inside other there same
    rw [List.inj_on_of_nodup_map distinct there inside same]
  have still : ∀ binding ∈ bindings, binding.Suits transform fallback
      (depositAll (copies (count + 1) offer) bindings document) := fun binding inside =>
    (suits binding inside).depositAll _ (apart binding inside)
  have tags := (rest_depositAll (copies (count + 1) offer) bindings document).1
  obtain ⟨done, left⟩ := extractPass_of_suits bindings _ determined distinct still
  refine ⟨done, left.trans ?_⟩
  rw [tags, depositAll_depositAll _ _ _ _ distinct fun binding _ =>
    (copies_succ_eq_nil_iff count offer binding).mp]
  refine congrArg (depositAll · bindings document) ?_
  funext binding
  exact (copies_succ (count + 1) offer binding).symm

end Passes

end TagBinding
