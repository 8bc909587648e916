import TagBinding.Report.Reporter

/-!
# Sessions

A session holds documents, extractors and reporters, each known by its place. An extractor is a
list of bindings with a sink for its reports; extractors keep nothing from one document to the
next, and what a session remembers between steps is in its documents and its reporters.
-/
namespace TagBinding

variable {F : Type}

/-- Where the reports of an extractor go. -/
inductive Sink where
  /-- They are recorded as they come. -/
  | record
  /-- They go to a reporter of the session. -/
  | reporter (index : Nat)
  deriving DecidableEq, Repr

/-- Bindings and the sink for the reports that they cause. -/
structure Extractor (F : Type) where
  /-- The bindings in order. -/
  bindings : List (Binding F)
  /-- Where the reports go. -/
  sink : Sink

/-- Documents, extractors and reporters. -/
structure Session (F : Type) where
  /-- The documents. -/
  documents : List (Document F)
  /-- The extractors. -/
  extractors : List (Extractor F)
  /-- The reporters, those of extractors without a given sink included. -/
  reporters : List Reporter

/-- What a step puts out besides its answer. -/
structure Output where
  /-- The reports that are recorded. -/
  reports : List Report
  /-- The warnings. -/
  warnings : List LogLine
  /-- The debug lines. -/
  debug : List LogLine

namespace Output

/-- No output. -/
def empty : Output := ⟨[], [], []⟩

/-- One output after another, on every channel. -/
def append (first second : Output) : Output :=
  ⟨first.reports ++ second.reports, first.warnings ++ second.warnings,
    first.debug ++ second.debug⟩

instance : EmptyCollection Output := ⟨empty⟩

instance : Append Output := ⟨append⟩

/-- Debug lines alone. -/
def ofDebug (lines : List LogLine) : Output := ⟨[], [], lines⟩

end Output

/-- What comes of something that is done in a session. -/
structure Step (F α : Type) where
  /-- The session afterwards. -/
  session : Session F
  /-- What was put out. -/
  output : Output
  /-- The answer, or the fault that stands in for it. -/
  answer : Except (Fault F) α

/-- A step with another answer in place of its own. -/
def Step.map {α β : Type} (step : Step F α) (change : α → β) : Step F β :=
  ⟨step.session, step.output, step.answer.map change⟩

namespace Session

/-- The session that holds nothing. -/
def empty : Session F := ⟨[], [], []⟩

instance : Inhabited (Session F) := ⟨empty⟩

/-- A session with another document in a place. -/
def putDocument (session : Session F) (index : Nat) (document : Document F) : Session F :=
  { session with documents := session.documents.set index document }

/-- A session with another reporter in a place. -/
def putReporter (session : Session F) (index : Nat) (reporter : Reporter) : Session F :=
  { session with reporters := session.reporters.set index reporter }

/-- A session with one more document, in the last place. -/
def addDocument (session : Session F) (document : Document F) : Session F :=
  { session with documents := session.documents ++ [document] }

/-- A session with one more reporter, in the last place. -/
def addReporter (session : Session F) (reporter : Reporter) : Session F :=
  { session with reporters := session.reporters ++ [reporter] }

/-- A session with one more extractor, in the last place. An extractor without a sink reports to
a reporter of its own. -/
def addExtractor (session : Session F) (bindings : List (Binding F)) (sink : Option Sink) :
    Session F :=
  match sink with
  | some given => { session with extractors := session.extractors ++ [⟨bindings, given⟩] }
  | none =>
    { session.addReporter .standard with
      extractors := session.extractors ++ [⟨bindings, .reporter session.reporters.length⟩] }

/-- Make declared definitions ready and add an extractor of them. -/
def declareExtractor (session : Session F) (declared : List (Value F)) (shared : Value F)
    (sink : Option Sink) : Step F Unit :=
  match Binding.resolveAll declared shared with
  | .error fault => ⟨session, .empty, .error fault⟩
  | .ok bindings =>
    ⟨session.addExtractor bindings sink, .ofDebug [.resolved bindings.length], .ok ()⟩

/-- Hand a report to a sink. -/
def deliver (session : Session F) (thread : Thread) (sink : Sink) (report : Report) :
    Session F × Output :=
  match sink with
  | .record => (session, ⟨[report], [], []⟩)
  | .reporter index =>
    match session.reporters[index]? with
    | none => (session, .empty)
    | some reporter =>
      (session.putReporter index (reporter.receive thread report),
        ⟨[], (reporter.warning? thread report).toList, []⟩)

/-- Hand reports to a sink in order. -/
def deliverAll (session : Session F) (thread : Thread) (sink : Sink) :
    List Report → Session F × Output
  | [] => (session, .empty)
  | report :: rest =>
    let first := session.deliver thread sink report
    let others := first.1.deliverAll thread sink rest
    (others.1, first.2 ++ others.2)

end Session

end TagBinding
