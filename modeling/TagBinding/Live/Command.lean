import TagBinding.Live.Session
import TagBinding.Live.Stock

/-!
# Live commands

The commands of a session, carried out in a live one. Tags and values come in as plain values and
are brought to life in the region of their document; answers are read from the heap.
-/
namespace TagBinding.Live.Session

variable {F M : Type}

/-- Read a property of a document of the session, or a given value when there is none. -/
def property (session : Session F M) (document : Document F) (key : String)
    (otherwise : TagBinding.Value F) : TagBinding.Value F :=
  (document.get? key).elim otherwise session.heap.read

/-- Carry out a command on a thread. -/
def perform (behaviour : Behaviour F M) (session : Session F M) (thread : Thread) :
    Command F → Step F M (Answer F)
  | .newDocument document =>
    ⟨session.addDocument document, .empty, .ok (.place session.documents.length)⟩
  | .extract extractor document =>
    session.useExtractor extractor fun found =>
      (session.extractWith behaviour thread found document).map fun _ => .done
  | .extractEach extractor documents =>
    session.useExtractor extractor fun found =>
      let step := session.extractEachWith behaviour thread found documents
      match step.answer with
      | .error fault => ⟨step.session, step.output, .error fault⟩
      | .ok () =>
        ⟨step.session, step.output ++ .ofDebug [.extracted documents.length],
          .ok (.places documents)⟩
  | .addTag document tag =>
    session.changeDocument document fun scene =>
      let copied := scene.copyTag tag
      copied.2 ++ [.attach copied.1]
  | .findTags document name =>
    session.readDocument document fun found =>
      .ok (.tags ((found.named name).map session.heap.readTag))
  | .canonicalName document name =>
    session.readDocument document fun found => .ok (.text (found.canonical name))
  | .listTags document =>
    session.readDocument document fun found =>
      .ok (.allTags (found.wellFormed.map session.heap.readTag)
        (found.bad.map session.heap.readTag))
  | .assign document key value =>
    session.changeDocument document fun scene =>
      let copied := scene.copy value
      copied.2 ++ [.assign key copied.1]
  | .read document key otherwise =>
    session.readDocument document fun found =>
      .ok (.value (session.property found key otherwise))
  | .demand document key =>
    session.readDocument document fun found =>
      match found.get? key with
      | some value => .ok (.value (session.heap.read value))
      | none => .error (.absentProperty key)
  | .contains document key =>
    session.readDocument document fun found => .ok (.flag (found.properties.contains key))
  | .readId document =>
    session.readDocument document fun found => .ok (.value (session.property found "id" .null))
  | .readName document =>
    session.readDocument document fun found => .ok (.value (session.property found "name" .null))
  | .describeBadTags document =>
    session.readDocument document fun found => .ok (.text (session.sceneOf found).badTagReport)
  | .report reporter document message =>
    session.useReporter reporter fun _ =>
      let delivered := deliver session.reporters thread (.reporter reporter) ⟨document, message⟩
      ⟨{ session with reporters := delivered.1 }, delivered.2, .ok .done⟩
  | .reset reporter =>
    session.useReporter reporter fun found =>
      ⟨{ session with reporters := session.reporters.set reporter (found.reset thread) }, .empty,
        .ok .done⟩

end TagBinding.Live.Session
