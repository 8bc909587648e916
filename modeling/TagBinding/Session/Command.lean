import TagBinding.Session.Basic

/-!
# Commands

A command is one thing done in a session: a document comes in, tags are extracted, a tag or a
property is written, something is read, or a reporter is used directly. `Session.perform` carries
out a command on a thread. What was written before a fault stays.
-/
namespace TagBinding

variable {F : Type}

/-- One thing to do in a session; documents, extractors and reporters are given by place. -/
inductive Command (F : Type) where
  /-- Take in a document. -/
  | newDocument (document : Document F)
  /-- Extract the tags of a document. -/
  | extract (extractor document : Nat)
  /-- Extract the tags of documents in order, up to the first fault. -/
  | extractEach (extractor : Nat) (documents : List Nat)
  /-- Attach a tag. -/
  | addTag (document : Nat) (tag : Tag F)
  /-- Find the well-formed tags of a name. -/
  | findTags (document : Nat) (name : String)
  /-- Find the canonical name of a spelling. -/
  | canonicalName (document : Nat) (name : String)
  /-- List the tags. -/
  | listTags (document : Nat)
  /-- Assign a property. -/
  | assign (document : Nat) (key : String) (value : Value F)
  /-- Read a property, or a given value when there is no such property. -/
  | read (document : Nat) (key : String) (otherwise : Value F)
  /-- Read a property that has to be there. -/
  | demand (document : Nat) (key : String)
  /-- Ask whether there is a property. -/
  | contains (document : Nat) (key : String)
  /-- Read the identifier. -/
  | readId (document : Nat)
  /-- Read the name. -/
  | readName (document : Nat)
  /-- Put the bad tags into words. -/
  | describeBadTags (document : Nat)
  /-- Hand a message on a document to a reporter. -/
  | report (reporter document : Nat) (message : String)
  /-- Let a reporter forget the last report on the thread. -/
  | reset (reporter : Nat)

/-- The answer to a command. -/
inductive Answer (F : Type) where
  /-- There is nothing to say. -/
  | done
  /-- The place of a document. -/
  | place (index : Nat)
  /-- The places of documents. -/
  | places (indices : List Nat)
  /-- A text. -/
  | text (content : String)
  /-- A truth value. -/
  | flag (holds : Bool)
  /-- A value. -/
  | value (found : Value F)
  /-- Tags of one name. -/
  | tags (found : List (Tag F))
  /-- The well-formed tags and the bad ones. -/
  | allTags (wellFormed bad : List (Tag F))

namespace Session

/-- Extract the tags of a document with an extractor, and hand the reports to its sink. -/
def extractWith (behaviour : Behaviour F) (session : Session F) (thread : Thread)
    (extractor : Extractor F) (index : Nat) : Step F Unit :=
  match session.documents[index]? with
  | none => ⟨session, .empty, .error (.absentPart .documents)⟩
  | some document =>
    let pass := extractPass behaviour extractor.bindings document
    let delivered := (session.putDocument index pass.document).deliverAll thread extractor.sink
      (pass.messages.map fun message => ⟨index, message⟩)
    ⟨delivered.1, delivered.2 ++ .ofDebug pass.debugLines,
      match pass.fault? with
      | none => .ok ()
      | some fault => .error fault⟩

/-- Extract the tags of documents in order, up to the first fault. -/
def extractEachWith (behaviour : Behaviour F) (session : Session F) (thread : Thread)
    (extractor : Extractor F) : List Nat → Step F Unit
  | [] => ⟨session, .empty, .ok ()⟩
  | index :: rest =>
    let first := session.extractWith behaviour thread extractor index
    match first.answer with
    | .error fault => ⟨first.session, first.output, .error fault⟩
    | .ok () =>
      let others := first.session.extractEachWith behaviour thread extractor rest
      ⟨others.session, first.output ++ others.output, others.answer⟩

/-- Use an extractor of the session. -/
def useExtractor (session : Session F) (index : Nat) (run : Extractor F → Step F (Answer F)) :
    Step F (Answer F) :=
  match session.extractors[index]? with
  | none => ⟨session, .empty, .error (.absentPart .extractors)⟩
  | some extractor => run extractor

/-- Change a document of the session. -/
def changeDocument (session : Session F) (index : Nat) (change : Document F → Document F) :
    Step F (Answer F) :=
  match session.documents[index]? with
  | none => ⟨session, .empty, .error (.absentPart .documents)⟩
  | some document => ⟨session.putDocument index (change document), .empty, .ok .done⟩

/-- Read something from a document of the session. -/
def readDocument (session : Session F) (index : Nat)
    (answer : Document F → Except (Fault F) (Answer F)) : Step F (Answer F) :=
  match session.documents[index]? with
  | none => ⟨session, .empty, .error (.absentPart .documents)⟩
  | some document => ⟨session, .empty, answer document⟩

/-- Use a reporter of the session. -/
def useReporter (session : Session F) (index : Nat) (run : Reporter → Step F (Answer F)) :
    Step F (Answer F) :=
  match session.reporters[index]? with
  | none => ⟨session, .empty, .error (.absentPart .reporters)⟩
  | some reporter => run reporter

/-- Carry out a command on a thread. -/
def perform (behaviour : Behaviour F) (session : Session F) (thread : Thread) :
    Command F → Step F (Answer F)
  | .newDocument document =>
    ⟨session.addDocument document, .empty, .ok (.place session.documents.length)⟩
  | .extract extractor document =>
    session.useExtractor extractor fun found =>
      (session.extractWith behaviour thread found document).map fun _ => .done
  | .extractEach extractor documents =>
    session.useExtractor extractor fun found =>
      let step := session.extractEachWith behaviour thread found documents
      match step.answer with
      | .error fault => ⟨step.session, step.output, .error fault⟩
      | .ok () =>
        ⟨step.session, step.output ++ .ofDebug [.extracted documents.length],
          .ok (.places documents)⟩
  | .addTag document tag => session.changeDocument document fun found => found.attach tag
  | .findTags document name =>
    session.readDocument document fun found => .ok (.tags (found.tags.named name))
  | .canonicalName document name =>
    session.readDocument document fun found => .ok (.text (found.tags.canonical name))
  | .listTags document =>
    session.readDocument document fun found =>
      .ok (.allTags found.tags.wellFormed found.tags.bad)
  | .assign document key value =>
    session.changeDocument document fun found => found.assign key value
  | .read document key otherwise =>
    session.readDocument document fun found => .ok (.value ((found.get? key).getD otherwise))
  | .demand document key =>
    session.readDocument document fun found =>
      match found.get? key with
      | some value => .ok (.value value)
      | none => .error (.absentProperty key)
  | .contains document key =>
    session.readDocument document fun found => .ok (.flag (found.properties.contains key))
  | .readId document =>
    session.readDocument document fun found => .ok (.value (found.id?.getD .null))
  | .readName document =>
    session.readDocument document fun found => .ok (.value (found.name?.getD .null))
  | .describeBadTags document =>
    session.readDocument document fun found => .ok (.text found.badTagReport)
  | .report reporter document message =>
    session.useReporter reporter fun _ =>
      let delivered := session.deliver thread (.reporter reporter) ⟨document, message⟩
      ⟨delivered.1, delivered.2, .ok .done⟩
  | .reset reporter =>
    session.useReporter reporter fun found =>
      ⟨session.putReporter reporter (found.reset thread), .empty, .ok .done⟩

end Session

end TagBinding
