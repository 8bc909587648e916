import TagBinding.Session.Command

/-!
# What deliveries leave alone

A report that is handed to a sink is recorded, or changes the memory of a reporter. Neither touches
a document, an extractor or the debug lines, so what an extraction does to its document and how it
ends is decided by the pass alone (`Session.extractWith_of_some`).
-/
namespace TagBinding

variable {F : Type}

namespace Session

variable (session : Session F) (thread : Thread)

/-- The extraction of a document that is there puts the document as the pass leaves it in its place,
delivers the reports of the pass and answers with its fault, if it has one. -/
theorem extractWith_of_some (behaviour : Behaviour F) (extractor : Extractor F) {index : Nat}
    {document : Document F} (present : session.documents[index]? = some document) :
    session.extractWith behaviour thread extractor index =
      let pass := extractPass behaviour extractor.bindings document
      let delivered := (session.putDocument index pass.document).deliverAll thread extractor.sink
        (pass.messages.map fun message => ⟨index, message⟩)
      ⟨delivered.1, delivered.2 ++ .ofDebug pass.debugLines,
        pass.fault?.elim (.ok ()) .error⟩ := by
  simp only [extractWith, present]
  cases (extractPass behaviour extractor.bindings document).fault? <;> rfl

/-- A sink that records keeps every report, and nothing else happens. -/
theorem deliverAll_record (reports : List Report) :
    session.deliverAll thread .record reports = (session, ⟨reports, [], []⟩) := by
  induction reports with
  | nil => rfl
  | cons report rest ih =>
    have first : session.deliver thread .record report = (session, ⟨[report], [], []⟩) := rfl
    simp only [deliverAll, first, ih]
    rfl

end Session

end TagBinding
