import TagBinding.Proofs.Deduplication

/-!
# Messages on one document

What a reporter writes for messages on one document on one thread, one after another. If it keeps
repetitions, it writes them all (`Reporter.writtenOn_of_keeps`). If it drops them, and does not
remember the document on the thread, it writes those that differ from the one before
(`Reporter.writtenOn_of_dedupe`): one for the first message, and one for each change
(`length_destutter`).
-/
namespace TagBinding

namespace Reporter

/-- Behind a report of a thread, those of its further reports are fresh that differ from the one
before. -/
theorem cons_fresh (former : Report) (reports : List Report) :
    former :: fresh (some former) (reports.map some) = reports.destutter' (· ≠ ·) former := by
  induction reports generalizing former with
  | nil => rfl
  | cons report rest ih =>
    rw [List.map_cons, fresh, List.destutter'_cons]
    by_cases repeated : former = report
    · subst repeated
      rw [if_pos rfl, if_neg (fun different => different rfl), ih]
    · have unequal : some former ≠ some report := fun same => repeated (Option.some.inj same)
      rw [if_neg unequal, if_pos repeated, ih]

/-- If a thread does not remember the first of its reports, those are fresh that differ from the one
before. -/
theorem fresh_eq_destutter (last : Option Report) (reports : List Report)
    (new : ∀ report ∈ reports.head?, last ≠ some report) :
    fresh last (reports.map some) = reports.destutter (· ≠ ·) := by
  cases reports with
  | nil => rfl
  | cons report rest =>
    rw [List.map_cons, fresh, if_neg (new report rfl), cons_fresh, List.destutter_cons']

end Reporter

/-- What a single thread reports on a document is all of the history. -/
theorem Notice.ofThread_map (thread : Thread) (index : Nat) (messages : List String) :
    ofThread thread (messages.map fun message => ⟨thread, some ⟨index, message⟩⟩) =
      (messages.map (Report.mk index)).map some := by
  induction messages with
  | nil => rfl
  | cons message rest ih =>
    rw [List.map_cons, ofThread_cons_of_eq thread _ _ rfl, ih, List.map_cons, List.map_cons]

namespace Reporter

variable (reporter : Reporter) (thread : Thread) (index : Nat) (messages : List String)

/-- Of messages on one document, a reporter that drops repetitions writes those that differ from the
one before, if it does not remember this document on the thread. -/
theorem writtenOn_of_dedupe (dedupe : reporter.dedupe = true)
    (other : ∀ report, reporter.last thread = some report → report.document ≠ index) :
    reporter.writtenOn thread
        (messages.map fun message => ⟨thread, some ⟨index, message⟩⟩) =
      (messages.destutter (· ≠ ·)).map (LogLine.mk reporter.logger) := by
  have new : ∀ report ∈ (messages.map (Report.mk index)).head?,
      reporter.last thread ≠ some report := by
    intro report first remembered
    rw [List.head?_map] at first
    obtain ⟨message, -, rfl⟩ := Option.map_eq_some_iff.mp first
    exact other _ remembered rfl
  have injective : Function.Injective (Report.mk index) := fun _ _ same => (Report.mk.inj same).2
  rw [writtenOn_fresh reporter thread _ dedupe, Notice.ofThread_map, fresh_eq_destutter _ _ new,
    ← List.map_destutter_ne messages injective, List.map_map]
  rfl

/-- Of messages on one document, a reporter that keeps repetitions writes all. -/
theorem writtenOn_of_keeps (keeps : reporter.dedupe = false) :
    reporter.writtenOn thread
        (messages.map fun message => ⟨thread, some ⟨index, message⟩⟩) =
      messages.map (LogLine.mk reporter.logger) := by
  have all : ((messages.map (Report.mk index)).map some).reduceOption =
      messages.map (Report.mk index) := by
    rw [List.reduceOption, List.filterMap_map]
    exact List.filterMap_some
  rw [writtenOn_all reporter thread _ keeps, Notice.ofThread_map, all, List.map_map]
  rfl

end Reporter

/-- What is left of a list without repetitions has an item for the first one and for every other one
that differs from the one before it. -/
theorem length_destutter' {α : Type} [DecidableEq α] (former : α) (items : List α) :
    (items.destutter' (· ≠ ·) former).length =
      1 + (List.range items.length).countP fun i => items[i]? ≠ (former :: items)[i]? := by
  induction items generalizing former with
  | nil => rfl
  | cons item rest ih =>
    -- Behind the first comparison come those of a list that begins one place later.
    have later : (List.range rest.length).countP
        ((fun i => decide ((item :: rest)[i]? ≠ (former :: item :: rest)[i]?)) ∘ Nat.succ) =
          (List.range rest.length).countP fun i => rest[i]? ≠ (item :: rest)[i]? := rfl
    rw [List.destutter'_cons, List.length_cons, List.range_succ_eq_map, List.countP_cons,
      List.countP_map, later]
    by_cases repeated : former = item
    · subst repeated
      simp [ih]
    · have different : item ≠ former := fun same => repeated same.symm
      simp [repeated, different, ih]
      omega

/-- Each item of a list without repetitions is the first one of the list, or one that differs from
the one before it. -/
theorem length_destutter {α : Type} [DecidableEq α] (items : List α) :
    (items.destutter (· ≠ ·)).length =
      (List.range items.length).countP fun i => i = 0 ∨ items[i]? ≠ items[i - 1]? := by
  cases items with
  | nil => rfl
  | cons first rest =>
    have later : (List.range rest.length).countP
        ((fun i => decide (i = 0 ∨ (first :: rest)[i]? ≠ (first :: rest)[i - 1]?)) ∘ Nat.succ) =
          (List.range rest.length).countP fun i => rest[i]? ≠ (first :: rest)[i]? := by
      congr 1
      funext i
      simp
    rw [List.destutter_cons', length_destutter', List.length_cons, List.range_succ_eq_map,
      List.countP_cons, List.countP_map, later]
    simp [Nat.add_comm]

/-- Of items that are all the same one is left. -/
theorem destutter'_eq_singleton {α : Type} [DecidableEq α] (former : α) (items : List α)
    (same : ∀ item ∈ items, item = former) : items.destutter' (· ≠ ·) former = [former] := by
  induction items with
  | nil => rfl
  | cons item rest ih =>
    obtain ⟨head, tail⟩ := List.forall_mem_cons.mp same
    rw [List.destutter'_cons, if_neg (fun different => different head.symm), ih tail]

end TagBinding
