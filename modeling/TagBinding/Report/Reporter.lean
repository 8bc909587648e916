import TagBinding.Report.Log

/-!
# Reporters

A reporter writes the reports that it receives to a log as warnings. A document with bad tags is
reported again after every definition, so a reporter that drops repetitions writes a report only
if it differs, in its document or in its text, from the last one that it received on the same
thread. Every thread has a memory of its own, and no thread sees that of another.
-/
namespace TagBinding

/-- A thread on which reports are made. -/
inductive Thread where
  /-- The main thread. -/
  | main
  /-- Another thread, by its label. -/
  | labelled (label : String)
  deriving DecidableEq, Repr

/-- A report as it is remembered: the document, by its place in the session, and the message. -/
structure Report where
  /-- The place of the document. -/
  document : Nat
  /-- The message. -/
  message : String
  deriving DecidableEq, Repr

/-- A sink for reports that writes them to a log. -/
structure Reporter where
  /-- The logger that writes the warnings. -/
  logger : String
  /-- Whether repetitions are dropped. -/
  dedupe : Bool
  /-- The last report received on each thread. -/
  last : Thread → Option Report

namespace Reporter

/-- The logger of a reporter that is given none. -/
def defaultLogger : String := "doctags.diagnostics"

/-- A reporter that has received nothing. -/
def new (logger : String) (dedupe : Bool) : Reporter := ⟨logger, dedupe, fun _ => none⟩

/-- The reporter that stands in where none is given. -/
def standard : Reporter := new defaultLogger true

instance : Inhabited Reporter := ⟨standard⟩

/-- Set what a reporter remembers on one thread. -/
def remember (reporter : Reporter) (thread : Thread) (report : Option Report) : Reporter :=
  { reporter with
    last := fun other => if other = thread then report else reporter.last other }

/-- Whether a reporter drops a report on a thread. -/
def drops (reporter : Reporter) (thread : Thread) (report : Report) : Bool :=
  reporter.dedupe && reporter.last thread == some report

/-- The warning for a report, unless it is dropped. -/
def warning? (reporter : Reporter) (thread : Thread) (report : Report) : Option LogLine :=
  if reporter.drops thread report then none else some ⟨reporter.logger, report.message⟩

/-- A reporter after a report on a thread. -/
def receive (reporter : Reporter) (thread : Thread) (report : Report) : Reporter :=
  if reporter.dedupe then reporter.remember thread (some report) else reporter

/-- A reporter that has forgotten the last report on a thread. -/
def reset (reporter : Reporter) (thread : Thread) : Reporter := reporter.remember thread none

/-- A thread remembers what was set on it, and every other thread what it remembered before. -/
theorem last_remember (reporter : Reporter) (thread : Thread) (report : Option Report)
    (other : Thread) :
    (reporter.remember thread report).last other =
      if other = thread then report else reporter.last other := rfl

end Reporter

end TagBinding
