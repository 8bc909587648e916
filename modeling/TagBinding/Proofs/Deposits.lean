import Mathlib.Data.List.Basic
import TagBinding.Proofs.Cases

/-!
# Values written in a row

When no function interferes, all that a binding does to a document is to deposit values in its
target: a collecting one puts them at the end of the list that is there, any other one replaces
what is there. This module says what a row of such deposits comes to, for values that are given
for each binding: what each property reads as (`get?_depositAll_of_multi`,
`get?_depositAll_of_single`) and in which order the properties stand (`keys_depositAll`). When the
targets are all different, the deposits are one write each (`depositAll_of_distinct`).
-/
namespace TagBinding

variable {F : Type}

/-- Put values in the target of a binding. -/
def Binding.deposit (binding : Binding F) (values : List (Value F)) (document : Document F) :
    Document F :=
  match values.getLast? with
  | none => document
  | some last =>
    document.assign binding.target
      (if binding.definition.multi then .list (document.items binding.target ++ values) else last)

/-- Put the values of bindings in their targets, one binding after the other. -/
def depositAll (yield : Binding F → List (Value F)) (bindings : List (Binding F))
    (document : Document F) : Document F :=
  bindings.foldl (fun filled binding => binding.deposit (yield binding) filled) document

/-- The values of the bindings that write a property, in order. -/
def gathered (yield : Binding F → List (Value F)) (bindings : List (Binding F)) (key : String) :
    List (Value F) :=
  (bindings.filter fun binding => binding.target == key).flatMap yield

/-- The properties that bindings with values write, in order. -/
def written (yield : Binding F → List (Value F)) (bindings : List (Binding F)) : List String :=
  (bindings.filter fun binding => !(yield binding).isEmpty).map Binding.target

namespace Binding

variable (binding : Binding F) {values : List (Value F)} (document : Document F)

/-- Without values nothing is written. -/
@[simp] theorem deposit_nil : binding.deposit [] document = document := rfl

/-- A deposit of values assigns the target. -/
theorem deposit_of_ne_nil (some : values ≠ []) :
    binding.deposit values document =
      document.assign binding.target
        (if binding.definition.multi then .list (document.items binding.target ++ values)
          else values.getLast some) := by
  simp only [deposit, List.getLast?_eq_some_getLast some]

/-- A deposit changes properties only. -/
theorem rest_deposit (values : List (Value F)) :
    (binding.deposit values document).tags = document.tags ∧
      (binding.deposit values document).file = document.file ∧
      (binding.deposit values document).startingLine = document.startingLine := by
  unfold deposit
  split <;> exact ⟨rfl, rfl, rfl⟩

/-- A deposit leaves every other property as it was. -/
theorem get?_deposit_of_ne (values : List (Value F)) {key : String}
    (other : binding.target ≠ key) :
    (binding.deposit values document).get? key = document.get? key := by
  unfold deposit
  split
  · rfl
  · rw [Document.get?_assign, if_neg fun same => other same.symm]

/-- A deposit of values is found in the target. -/
theorem get?_deposit_self (some : values ≠ []) :
    (binding.deposit values document).get? binding.target =
      .some (if binding.definition.multi then .list (document.items binding.target ++ values)
        else values.getLast some) := by
  rw [deposit_of_ne_nil binding document some, Document.get?_assign, if_pos rfl]

/-- Values are still collected in a property after a deposit by a binding that collects, or that
writes another property. -/
theorem canCollect_deposit (values : List (Value F)) {key : String}
    (growable : document.CanCollect key)
    (collects : binding.target = key → binding.definition.multi = true) :
    (binding.deposit values document).CanCollect key := by
  by_cases empty : values = []
  · rw [empty, deposit_nil]
    exact growable
  · intro held found
    by_cases same : binding.target = key
    · subst same
      rw [get?_deposit_self binding document empty, if_pos (collects rfl)] at found
      exact .inr ⟨_, (Option.some.inj found).symm⟩
    · rw [get?_deposit_of_ne binding document values same] at found
      exact growable held found

end Binding

variable (yield : Binding F → List (Value F))

omit yield in
/-- When the targets are all different, the first one is none of the others. -/
theorem forall_target_ne {binding : Binding F} {rest : List (Binding F)}
    (distinct : ((binding :: rest).map Binding.target).Nodup) :
    ∀ other ∈ rest, other.target ≠ binding.target := by
  intro other inside same
  have fresh := (List.nodup_cons.mp distinct).1
  exact fresh (same ▸ List.mem_map_of_mem inside)

/-- The first deposit comes before the others. -/
@[simp] theorem depositAll_cons (binding : Binding F) (rest : List (Binding F))
    (document : Document F) :
    depositAll yield (binding :: rest) document =
      depositAll yield rest (binding.deposit (yield binding) document) := rfl

/-- Deposits change properties only. -/
theorem rest_depositAll (bindings : List (Binding F)) (document : Document F) :
    (depositAll yield bindings document).tags = document.tags ∧
      (depositAll yield bindings document).file = document.file ∧
      (depositAll yield bindings document).startingLine = document.startingLine := by
  induction bindings generalizing document with
  | nil => exact ⟨rfl, rfl, rfl⟩
  | cons binding rest ih =>
    obtain ⟨tags, file, line⟩ := ih (binding.deposit (yield binding) document)
    obtain ⟨sameTags, sameFile, sameLine⟩ := binding.rest_deposit document (yield binding)
    exact ⟨tags.trans sameTags, file.trans sameFile, line.trans sameLine⟩

/-- The values gathered for a property start with those of the first binding, if it writes the
property. -/
theorem gathered_cons (binding : Binding F) (rest : List (Binding F)) (key : String) :
    gathered yield (binding :: rest) key =
      (if binding.target = key then yield binding else []) ++ gathered yield rest key := by
  by_cases same : binding.target = key
  · simp [gathered, same]
  · simp [gathered, same]

/-- A property that collects holds what it held before, with all gathered values at the end. -/
theorem get?_depositAll_of_multi (bindings : List (Binding F)) (document : Document F)
    {key : String}
    (collects : ∀ binding ∈ bindings, binding.target = key → binding.definition.multi = true) :
    (depositAll yield bindings document).get? key =
      if gathered yield bindings key = [] then document.get? key
      else some (.list (document.items key ++ gathered yield bindings key)) := by
  induction bindings generalizing document with
  | nil => rfl
  | cons binding rest ih =>
    obtain ⟨head, tail⟩ := List.forall_mem_cons.mp collects
    rw [depositAll_cons, ih _ tail, gathered_cons]
    by_cases same : binding.target = key
    · subst same
      by_cases empty : yield binding = []
      · simp [empty]
      · have grown := binding.get?_deposit_self document empty
        rw [if_pos (head rfl)] at grown
        have items : (binding.deposit (yield binding) document).items binding.target =
            document.items binding.target ++ yield binding := by
          simp only [Document.items, grown]
        by_cases last : gathered yield rest binding.target = []
        · simp [last, empty, grown]
        · simp [last, empty, items]
    · have kept := binding.get?_deposit_of_ne document (yield binding) same
      have items : (binding.deposit (yield binding) document).items key =
          document.items key := by
        simp only [Document.items, kept]
      simp [same, kept, items]

/-- A property that does not collect holds the last of the gathered values, or what it held
before if there are none. -/
theorem get?_depositAll_of_single (bindings : List (Binding F)) (document : Document F)
    {key : String}
    (single : ∀ binding ∈ bindings, binding.target = key → binding.definition.multi = false) :
    (depositAll yield bindings document).get? key =
      ((gathered yield bindings key).getLast?).or (document.get? key) := by
  induction bindings generalizing document with
  | nil => rfl
  | cons binding rest ih =>
    obtain ⟨head, tail⟩ := List.forall_mem_cons.mp single
    rw [depositAll_cons, ih _ tail, gathered_cons, List.getLast?_append]
    by_cases same : binding.target = key
    · subst same
      by_cases empty : yield binding = []
      · simp [empty]
      · have replaced := binding.get?_deposit_self document empty
        rw [if_neg (by simp [head rfl])] at replaced
        simp [replaced, List.getLast?_eq_some_getLast empty]
    · simp [same, binding.get?_deposit_of_ne document (yield binding) same]

/-- The properties that were there keep their places, and the new ones come after them in the
order in which they are first written. -/
theorem keys_depositAll (bindings : List (Binding F)) (document : Document F) :
    (depositAll yield bindings document).properties.keys =
      document.properties.keys ++
        ((written yield bindings).filter fun key =>
          !document.properties.keys.contains key).eraseDups := by
  induction bindings generalizing document with
  | nil => simp [depositAll, written]
  | cons binding rest ih =>
    rw [depositAll_cons, ih]
    by_cases empty : yield binding = []
    · simp [written, empty]
    · have first : written yield (binding :: rest) = binding.target :: written yield rest := by
        simp [written, empty]
      have keys : (binding.deposit (yield binding) document).properties.keys =
          if binding.target ∈ document.properties.keys then document.properties.keys
          else document.properties.keys ++ [binding.target] := by
        rw [binding.deposit_of_ne_nil document empty]
        exact Table.keys_insert document.properties binding.target _
      by_cases present : binding.target ∈ document.properties.keys
      · simp [first, keys, present]
      · have later : (written yield rest).filter (fun key =>
            !(document.properties.keys ++ [binding.target]).contains key) =
              ((written yield rest).filter fun key =>
                !document.properties.keys.contains key).filter
                  fun key => !key == binding.target := by
          rw [List.filter_filter]
          congr 1
          funext key
          rw [Bool.eq_iff_iff]
          simp [and_comm]
        rw [keys, if_neg present, first, later, List.filter_cons_of_pos (by simpa using present),
          List.eraseDups_cons, List.append_assoc, List.singleton_append]

/-- What values of a binding leave in its target: one more list, or the last of them. Without values
it is left alone. -/
def Binding.leaves (binding : Binding F) (values : List (Value F)) (document : Document F) :
    Option (Value F) :=
  values.getLast?.map fun last =>
    if binding.definition.multi then .list (document.items binding.target ++ values) else last

/-- A deposit assigns what the values leave in the target, if they leave anything. -/
theorem Binding.deposit_eq_leaves (binding : Binding F) (values : List (Value F))
    (document : Document F) :
    binding.deposit values document =
      ((binding.leaves values document).elim document (document.assign binding.target)) := by
  unfold deposit leaves
  cases values.getLast? <;> rfl

/-- What values leave in a target depends on what the target holds only. -/
theorem Binding.leaves_deposit_of_ne (binding other : Binding F) (values former : List (Value F))
    (document : Document F) (different : other.target ≠ binding.target) :
    binding.leaves values (other.deposit former document) = binding.leaves values document := by
  have kept := other.get?_deposit_of_ne document former different
  have items : (other.deposit former document).items binding.target =
      document.items binding.target := by
    simp only [Document.items, kept]
  rw [leaves, leaves, items]

/-- Deposits in different targets are one write each, of what the values leave in the target as it
was at the start. -/
theorem depositAll_of_distinct (bindings : List (Binding F)) (document : Document F)
    (distinct : (bindings.map Binding.target).Nodup) :
    depositAll yield bindings document =
      { document with
        properties := document.properties.insertMany (bindings.filterMap fun binding =>
          (binding.leaves (yield binding) document).map (binding.target, ·)) } := by
  induction bindings generalizing document with
  | nil => rfl
  | cons binding rest ih =>
    have later := (List.nodup_cons.mp distinct).2
    have same : rest.filterMap (fun other =>
        (other.leaves (yield other) (binding.deposit (yield binding) document)).map
          (other.target, ·)) =
        rest.filterMap fun other =>
          (other.leaves (yield other) document).map (other.target, ·) := by
      refine List.filterMap_congr fun other inside => ?_
      have different := (forall_target_ne distinct other inside).symm
      rw [other.leaves_deposit_of_ne binding _ _ document different]
    rw [depositAll_cons, ih _ later, same, binding.deposit_eq_leaves, List.filterMap_cons]
    cases binding.leaves (yield binding) document <;> rfl

end TagBinding
