import TagBinding.Report.Reporter
import Mathlib.Data.List.Destutter
import Mathlib.Data.List.ReduceOption

/-!
# What a shared reporter writes

Several threads report to one reporter, and the calls and resets of all of them reach it in some
order. `Reporter.written` is what a reporter writes over such a history. The memory of a thread is
always the last entry of that thread's own history (`Reporter.last_heedAll`), so what is written
for a thread is decided by its own history alone: the reports between two resets, without those
that repeat the report just before them (`Reporter.written_by_thread`).
-/
namespace TagBinding

/-- A call or a reset that reaches a reporter. -/
structure Notice where
  /-- The thread that it comes from. -/
  thread : Thread
  /-- The report of a call. A reset has none. -/
  report : Option Report

namespace Notice

/-- The calls and resets of one thread, in order. -/
def ofThread (thread : Thread) (history : List Notice) : List (Option Report) :=
  (history.filter (·.thread = thread)).map Notice.report

variable (thread : Thread) (notice : Notice) (history : List Notice)

/-- A call or reset of a thread is the first of its history. -/
theorem ofThread_cons_of_eq (same : notice.thread = thread) :
    ofThread thread (notice :: history) = notice.report :: ofThread thread history := by
  simp [ofThread, same]

/-- A call or reset of another thread is not in the history of a thread. -/
theorem ofThread_cons_of_ne (other : notice.thread ≠ thread) :
    ofThread thread (notice :: history) = ofThread thread history := by
  simp [ofThread, other]

end Notice

open Notice

namespace Reporter

/-- A reporter after a call or a reset. -/
def heed (reporter : Reporter) (notice : Notice) : Reporter :=
  match notice.report with
  | some report => reporter.receive notice.thread report
  | none => reporter.reset notice.thread

/-- A reporter after a history. -/
def heedAll (reporter : Reporter) (history : List Notice) : Reporter := history.foldl heed reporter

/-- The warning that a call or a reset causes, with its thread. A reset causes none. -/
def writtenFor (reporter : Reporter) (notice : Notice) : List (Thread × LogLine) :=
  ((notice.report.bind (reporter.warning? notice.thread)).map (notice.thread, ·)).toList

/-- The warnings that a history causes, each with its thread. -/
def written (reporter : Reporter) : List Notice → List (Thread × LogLine)
  | [] => []
  | notice :: history => reporter.writtenFor notice ++ (reporter.heed notice).written history

/-- The warnings among them that one thread causes. -/
def writtenOn (reporter : Reporter) (thread : Thread) (history : List Notice) : List LogLine :=
  ((reporter.written history).filter (·.1 = thread)).map Prod.snd

/-- The warning for a report that is not dropped. -/
def lineFor (reporter : Reporter) (report : Report) : LogLine := ⟨reporter.logger, report.message⟩

variable (reporter : Reporter) (thread : Thread) (notice : Notice)

/-- A call or a reset leaves the logger as it is. -/
theorem logger_heed : (reporter.heed notice).logger = reporter.logger := by
  unfold heed receive reset remember
  split
  · split <;> rfl
  · rfl

/-- A call or a reset leaves it as it is whether repetitions are dropped. -/
theorem dedupe_heed : (reporter.heed notice).dedupe = reporter.dedupe := by
  unfold heed receive reset remember
  split
  · split <;> rfl
  · rfl

/-- A reporter writes the same line for a report after a call or a reset. -/
theorem lineFor_heed : (reporter.heed notice).lineFor = reporter.lineFor := by
  funext report
  rw [lineFor, lineFor, logger_heed]

/-- A reporter that drops repetitions remembers, on a thread, the call or reset that it heeds
there, and on every other thread what it remembered before. -/
theorem last_heed (dedupe : reporter.dedupe = true) :
    (reporter.heed notice).last thread =
      if thread = notice.thread then notice.report else reporter.last thread := by
  unfold heed
  split
  case h_1 report present =>
    rw [receive, if_pos dedupe, last_remember, present]
  case h_2 absent =>
    rw [reset, last_remember, absent]

/-- The memory of a thread is the last entry of its own history: nothing, if that is a reset. -/
theorem last_heedAll (history : List Notice) (dedupe : reporter.dedupe = true) :
    (reporter.heedAll history).last thread =
      ((ofThread thread history).getLast?).getD (reporter.last thread) := by
  induction history generalizing reporter with
  | nil => rfl
  | cons notice history ih =>
    have step := ih (reporter.heed notice) ((dedupe_heed reporter notice).trans dedupe)
    rw [last_heed reporter thread notice dedupe] at step
    rw [heedAll, List.foldl_cons, ← heedAll, step]
    by_cases same : notice.thread = thread
    · rw [ofThread_cons_of_eq thread notice history same, if_pos same.symm,
        List.getLast?_cons, Option.getD_some]
    · rw [ofThread_cons_of_ne thread notice history same, if_neg (Ne.symm same)]

/-- A history leaves the logger as it is. -/
theorem logger_heedAll (history : List Notice) :
    (reporter.heedAll history).logger = reporter.logger := by
  induction history generalizing reporter with
  | nil => rfl
  | cons notice history ih => exact (ih (reporter.heed notice)).trans (logger_heed reporter notice)

/-- A history leaves it as it is whether repetitions are dropped. -/
theorem dedupe_heedAll (history : List Notice) :
    (reporter.heedAll history).dedupe = reporter.dedupe := by
  induction history generalizing reporter with
  | nil => rfl
  | cons notice history ih => exact (ih (reporter.heed notice)).trans (dedupe_heed reporter notice)

/-- What is written over a history in two parts is written over the first, and then over the
second by the reporter that the first leaves. -/
theorem written_append (before after : List Notice) :
    reporter.written (before ++ after) =
      reporter.written before ++ (reporter.heedAll before).written after := by
  induction before generalizing reporter with
  | nil => rfl
  | cons notice before ih =>
    rw [List.cons_append, written, written, ih (reporter.heed notice), List.append_assoc,
      heedAll, heedAll, List.foldl_cons]

/-- A reporter warns of a report unless it drops repetitions and the report is the one that it
remembers on the thread. -/
theorem warning?_eq (report : Report) :
    reporter.warning? thread report =
      if reporter.dedupe = true ∧ reporter.last thread = some report then none
      else some (reporter.lineFor report) := by
  simp only [warning?, drops, Bool.and_eq_true, beq_iff_eq, lineFor]

/-- The last call or reset of a history adds the warning of its report, and nothing if it is a
reset. -/
theorem written_concat (before : List Notice) :
    reporter.written (before ++ [notice]) =
      reporter.written before ++ (reporter.heedAll before).writtenFor notice := by
  rw [written_append, written, written, List.append_nil]

/-- The reports of a thread that differ from what the thread has last received. -/
def fresh : Option Report → List (Option Report) → List Report
  | _, [] => []
  | _, none :: events => fresh none events
  | last, some report :: events =>
    if last = some report then fresh last events else report :: fresh (some report) events

/-- The reports between two resets, without those that repeat the one before them. -/
def distinct (run : List (Option Report)) : List Report := run.reduceOption.destutter (· ≠ ·)

/-- The reports that are fresh are those between the resets, without repetitions. The report that
is remembered at the start belongs to the first run. -/
theorem fresh_runs (last : Option Report) (events : List (Option Report))
    (first : List (Option Report)) (later : List (List (Option Report)))
    (runs : events.splitOn none = first :: later) :
    last.toList ++ fresh last events = distinct (last :: first) ++ later.flatMap distinct := by
  induction events generalizing last first later with
  | nil =>
    obtain ⟨rfl, rfl⟩ : [] = first ∧ [] = later := by simpa using runs
    cases last <;> rfl
  | cons event events ih =>
    obtain ⟨next, others, split⟩ := List.exists_cons_of_ne_nil (List.splitOn_ne_nil none events)
    rw [List.splitOn_cons_eq_if_modifyHead, split] at runs
    cases event with
    | none =>
      obtain ⟨rfl, rfl⟩ : [] = first ∧ next :: others = later := by simpa using runs
      have rest : fresh none events = distinct next ++ others.flatMap distinct := by
        simpa [distinct] using ih none next others split
      rw [fresh, rest, List.flatMap_cons]
      cases last <;> rfl
    | some report =>
      obtain ⟨rfl, rfl⟩ : some report :: next = first ∧ others = later := by simpa using runs
      have rest := ih (some report) next others split
      simp only [Option.toList_some, List.singleton_append] at rest
      cases last with
      | none => simpa [fresh, distinct] using rest
      | some former =>
        by_cases same : former = report
        · subst same
          simpa [fresh, distinct, List.destutter_cons_cons, List.destutter_cons'] using rest
        · simp only [fresh, Option.some.injEq, same, if_false, rest]
          simp [distinct, List.destutter_cons', same]

/-- A call or reset of a thread causes its warning before those of the rest. -/
theorem writtenOn_cons_of_eq (history : List Notice) (same : notice.thread = thread) :
    reporter.writtenOn thread (notice :: history) =
      (notice.report.bind (reporter.warning? thread)).toList ++
        (reporter.heed notice).writtenOn thread history := by
  rw [writtenOn, writtenOn, written, List.filter_append, List.map_append, writtenFor, same]
  cases notice.report.bind (reporter.warning? thread) <;> simp

/-- A call or reset of another thread causes no warning of a thread. -/
theorem writtenOn_cons_of_ne (history : List Notice) (other : notice.thread ≠ thread) :
    reporter.writtenOn thread (notice :: history) =
      (reporter.heed notice).writtenOn thread history := by
  rw [writtenOn, writtenOn, written, List.filter_append, List.map_append, writtenFor]
  cases notice.report.bind (reporter.warning? notice.thread) <;> simp [other]

/-- A reporter that drops repetitions writes the fresh reports of a thread. -/
theorem writtenOn_fresh (history : List Notice) (dedupe : reporter.dedupe = true) :
    reporter.writtenOn thread history =
      (fresh (reporter.last thread) (ofThread thread history)).map reporter.lineFor := by
  induction history generalizing reporter with
  | nil => rfl
  | cons notice history ih =>
    have rest := ih (reporter.heed notice) ((dedupe_heed reporter notice).trans dedupe)
    rw [last_heed reporter thread notice dedupe, lineFor_heed] at rest
    by_cases same : notice.thread = thread
    · rw [writtenOn_cons_of_eq reporter thread notice history same, rest, if_pos same.symm,
        ofThread_cons_of_eq thread notice history same]
      cases notice.report with
      | none => rfl
      | some report =>
        rw [Option.bind_some, warning?_eq, fresh]
        by_cases repeated : reporter.last thread = some report
        · rw [if_pos ⟨dedupe, repeated⟩, if_pos repeated, repeated, Option.toList_none,
            List.nil_append]
        · rw [if_neg (fun both => repeated both.2), if_neg repeated, Option.toList_some,
            List.singleton_append, List.map_cons]
    · rw [writtenOn_cons_of_ne reporter thread notice history same, rest,
        if_neg (Ne.symm same), ofThread_cons_of_ne thread notice history same]

/-- A reporter that keeps repetitions writes every report of a thread. -/
theorem writtenOn_all (history : List Notice) (keeps : reporter.dedupe = false) :
    reporter.writtenOn thread history =
      (ofThread thread history).reduceOption.map reporter.lineFor := by
  induction history generalizing reporter with
  | nil => rfl
  | cons notice history ih =>
    have rest := ih (reporter.heed notice) ((dedupe_heed reporter notice).trans keeps)
    rw [lineFor_heed] at rest
    by_cases same : notice.thread = thread
    · rw [writtenOn_cons_of_eq reporter thread notice history same, rest,
        ofThread_cons_of_eq thread notice history same]
      cases notice.report with
      | none => rfl
      | some report => simp [warning?_eq, keeps]
    · rw [writtenOn_cons_of_ne reporter thread notice history same, rest,
        ofThread_cons_of_ne thread notice history same]

/-- Over every history, a reporter writes a report unless it drops repetitions and the last call or
reset of the same thread was a call with this very report. A reset writes nothing. So the warnings
of a thread are its own reports, cut at its own resets and with each run freed of repetitions, or
all of its reports if repetitions are kept: what other threads do has no part in them. -/
theorem written_by_thread (logger : String) (dedupe : Bool) :
    (∀ (before : List Notice) (thread : Thread) (report : Report),
      (new logger dedupe).written (before ++ [⟨thread, some report⟩]) =
        (new logger dedupe).written before ++
          if dedupe = true ∧ (ofThread thread before).getLast? = some (some report) then []
          else [(thread, ⟨logger, report.message⟩)]) ∧
      (∀ (before : List Notice) (thread : Thread),
        (new logger dedupe).written (before ++ [⟨thread, none⟩]) =
          (new logger dedupe).written before) ∧
      ∀ (history : List Notice) (thread : Thread),
        (new logger dedupe).writtenOn thread history =
          (if dedupe = true then
              ((ofThread thread history).splitOn none).flatMap fun run =>
                run.reduceOption.destutter (· ≠ ·)
            else (ofThread thread history).reduceOption).map
            fun report => ⟨logger, report.message⟩ := by
  refine ⟨fun before thread report => ?_, fun before thread => ?_, fun history thread => ?_⟩
  · have sameLogger := logger_heedAll (new logger dedupe) before
    have sameDedupe := dedupe_heedAll (new logger dedupe) before
    rw [written_concat, writtenFor, Option.bind_some, warning?_eq, sameDedupe, lineFor, sameLogger]
    cases dedupe with
    | false => rfl
    | true =>
      have remembered := last_heedAll (new logger true) thread before rfl
      rw [remembered]
      cases (ofThread thread before).getLast? with
      | none => simp [new]
      | some last =>
        by_cases repeated : last = some report <;> simp [new, repeated]
  · rw [written_concat, writtenFor, Option.bind_none, Option.map_none, Option.toList_none,
      List.append_nil]
  · cases dedupe with
    | false => exact writtenOn_all (new logger false) thread history rfl
    | true =>
      obtain ⟨first, later, runs⟩ :=
        List.exists_cons_of_ne_nil (List.splitOn_ne_nil none (ofThread thread history))
      have lines := writtenOn_fresh (new logger true) thread history rfl
      have reports := fresh_runs none (ofThread thread history) first later runs
      rw [lines, if_pos rfl, runs, List.flatMap_cons]
      exact congrArg (List.map fun report => LogLine.mk logger report.message) reports

example :
    (new "log" true).written
        [⟨.main, some ⟨0, "a"⟩⟩, ⟨.labelled "w", some ⟨0, "a"⟩⟩, ⟨.main, some ⟨0, "a"⟩⟩,
          ⟨.labelled "w", none⟩, ⟨.main, some ⟨1, "a"⟩⟩, ⟨.labelled "w", some ⟨0, "a"⟩⟩] =
      [(.main, ⟨"log", "a"⟩), (.labelled "w", ⟨"log", "a"⟩), (.main, ⟨"log", "a"⟩),
        (.labelled "w", ⟨"log", "a"⟩)] := by
  decide

end Reporter

end TagBinding
