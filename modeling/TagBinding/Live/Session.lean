import TagBinding.Live.Reporting
import TagBinding.Session.Command

/-!
# Live sessions

A live session holds documents whose lists are kept in one heap, beside extractors and reporters,
and what the functions remember from one run to the next. Documents come in as plain values, each
with lists of its own in its own region, and what a command answers is read from the heap at that
moment. `Live.Session.perform` carries out a command on a thread; what was written before a fault
stays.
-/
namespace TagBinding.Live

variable {F M : Type}

/-- Documents and their lists, what functions remember, extractors and reporters. -/
structure Session (F M : Type) where
  /-- What the functions remember. -/
  memory : M
  /-- The lists. -/
  heap : Heap F
  /-- The documents. -/
  documents : List (Document F)
  /-- The extractors. -/
  extractors : List (Extractor F)
  /-- The reporters, those of extractors without a given sink included. -/
  reporters : List Reporter

/-- What comes of something that is done in a live session. -/
structure Step (F M α : Type) where
  /-- The session afterwards. -/
  session : Session F M
  /-- What was put out. -/
  output : Output
  /-- The answer, or the fault that stands in for it. -/
  answer : Except (Fault F) α

/-- A step with another answer in place of its own. -/
def Step.map {α β : Type} (step : Step F M α) (change : α → β) : Step F M β :=
  ⟨step.session, step.output, step.answer.map change⟩

/-- Hand a report to a sink: the reporters afterwards, and what is put out. -/
def deliver (reporters : List Reporter) (thread : Thread) (sink : Sink) (report : Report) :
    List Reporter × Output :=
  match sink with
  | .record => (reporters, ⟨[report], [], []⟩)
  | .reporter index =>
    match reporters[index]? with
    | none => (reporters, .empty)
    | some reporter =>
      (reporters.set index (reporter.receive thread report),
        ⟨[], (reporter.warning? thread report).toList, []⟩)

/-- Hand one more message on a document to a sink, after what has been put out before. -/
def deliverNext (thread : Thread) (sink : Sink) (index : Nat) (kept : List Reporter × Output)
    (message : String) : List Reporter × Output :=
  let delivered := deliver kept.1 thread sink ⟨index, message⟩
  (delivered.1, kept.2 ++ delivered.2)

/-- The receiver of reports on a document that hands them to a sink. It keeps the reporters and
what has been put out, changes no scene, and never fails. -/
def receiverOf (thread : Thread) (sink : Sink) (index : Nat) :
    Receiver F M (List Reporter × Output) :=
  fun kept scene message => ⟨deliverNext thread sink index kept message, scene, none⟩

namespace Session

/-- The scene of a document of the session. -/
def sceneOf (session : Session F M) (document : Document F) : Scene F M :=
  ⟨session.memory, session.heap, document⟩

/-- A session with a scene in the place of a document. -/
def putScene (session : Session F M) (index : Nat) (scene : Scene F M) : Session F M :=
  { session with
    memory := scene.memory
    heap := scene.heap
    documents := session.documents.set index scene.document }

/-- A session with one more document, in the last place and in the region of that number. Its
lists are made anew. -/
def addDocument (session : Session F M) (document : TagBinding.Document F) : Session F M :=
  let home := session.documents.length
  let place := session.heap.used home
  let wellFormed := holdTags home document.tags.wellFormed place
  let bad := holdTags home document.tags.bad (place + wellFormed.2.length)
  let held := holdEach home document.properties.entries
    (place + wellFormed.2.length + bad.2.length)
  { session with
    heap := session.heap.makeAll home (wellFormed.2 ++ bad.2 ++ held.2)
    documents := session.documents ++
      [⟨home, document.file, document.startingLine, document.tags.aliases, wellFormed.1, bad.1,
        .ofList held.1⟩] }

/-- The live session of a session, with every document brought to life. -/
def ofPlain (memory : M) (session : TagBinding.Session F) : Session F M :=
  session.documents.foldl addDocument
    ⟨memory, .empty, [], session.extractors, session.reporters⟩

/-- Extract the tags of a document with an extractor, and hand the reports to its sink. -/
def extractWith (behaviour : Behaviour F M) (session : Session F M) (thread : Thread)
    (extractor : Extractor F) (index : Nat) : Step F M Unit :=
  match session.documents[index]? with
  | none => ⟨session, .empty, .error (.absentPart .documents)⟩
  | some document =>
    let attended := attend behaviour (receiverOf thread extractor.sink index) extractor.bindings
      (session.reporters, .empty) (session.sceneOf document)
    ⟨{ session.putScene index attended.pass.scene with reporters := attended.kept.1 },
      attended.kept.2 ++ .ofDebug attended.pass.debugLines,
      match attended.pass.fault? with
      | none => .ok ()
      | some fault => .error fault⟩

/-- Extract the tags of documents in order, up to the first fault. -/
def extractEachWith (behaviour : Behaviour F M) (session : Session F M) (thread : Thread)
    (extractor : Extractor F) : List Nat → Step F M Unit
  | [] => ⟨session, .empty, .ok ()⟩
  | index :: rest =>
    let first := session.extractWith behaviour thread extractor index
    match first.answer with
    | .error fault => ⟨first.session, first.output, .error fault⟩
    | .ok () =>
      let others := first.session.extractEachWith behaviour thread extractor rest
      ⟨others.session, first.output ++ others.output, others.answer⟩

/-- Use an extractor of the session. -/
def useExtractor (session : Session F M) (index : Nat)
    (run : Extractor F → Step F M (Answer F)) : Step F M (Answer F) :=
  match session.extractors[index]? with
  | none => ⟨session, .empty, .error (.absentPart .extractors)⟩
  | some extractor => run extractor

/-- Change a document of the session by edits that are found from its scene. -/
def changeDocument (session : Session F M) (index : Nat)
    (edits : Scene F M → List (Edit F)) : Step F M (Answer F) :=
  match session.documents[index]? with
  | none => ⟨session, .empty, .error (.absentPart .documents)⟩
  | some document =>
    let scene := session.sceneOf document
    ⟨session.putScene index (scene.editAll (edits scene)), .empty, .ok .done⟩

/-- Read something from a document of the session. -/
def readDocument (session : Session F M) (index : Nat)
    (answer : Document F → Except (Fault F) (Answer F)) : Step F M (Answer F) :=
  match session.documents[index]? with
  | none => ⟨session, .empty, .error (.absentPart .documents)⟩
  | some document => ⟨session, .empty, answer document⟩

/-- Use a reporter of the session. -/
def useReporter (session : Session F M) (index : Nat)
    (run : Reporter → Step F M (Answer F)) : Step F M (Answer F) :=
  match session.reporters[index]? with
  | none => ⟨session, .empty, .error (.absentPart .reporters)⟩
  | some reporter => run reporter

end Session

end TagBinding.Live
