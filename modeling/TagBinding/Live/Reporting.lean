import TagBinding.Live.Extraction

/-!
# Passes with a receiver of reports

While a pass runs, each report is handed to a receiver as soon as it is made, and before the next
binding is taken up. A receiver may keep something from one report to the next. It may be anything
that takes a report: it is given the scene as well, which it might change, and it may fail, which
ends the pass at that point.
-/
namespace TagBinding.Live

variable {F M S : Type}

/-- What a receiver makes of a report. -/
structure Receipt (F M S : Type) where
  /-- What it keeps. -/
  kept : S
  /-- The scene as it leaves it. -/
  scene : Scene F M
  /-- The message of its failure, if it fails. -/
  failure? : Option String

/-- Something that takes reports: a function of what it has kept, the scene and the message. -/
abbrev Receiver (F M S : Type) := S → Scene F M → String → Receipt F M S

/-- A pass together with what has become of the receiver of its reports at the end. -/
structure Attended (F M S : Type) where
  /-- What the receiver keeps. -/
  kept : S
  /-- The pass. -/
  pass : Pass F M
  /-- The message of the receiver's failure, if it is that which has ended the pass. -/
  refusal? : Option String

/-- A pass before which events have happened. -/
def Attended.afterAll (events : List (Event F M)) (attended : Attended F M S) : Attended F M S :=
  { attended with
    pass := { attended.pass with events := events ++ attended.pass.events } }

/-- Extract the tags of bindings in order, and hand the report after each to a receiver. -/
def attend (behaviour : Behaviour F M) (receiver : Receiver F M S) :
    List (Binding F) → S → Scene F M → Attended F M S
  | [], kept, scene => ⟨kept, .still scene, none⟩
  | binding :: rest, kept, scene =>
    let own := extract behaviour binding scene
    match own.fault? with
    | some _ => ⟨kept, own, none⟩
    | none =>
      if own.scene.document.bad.isEmpty then
        (attend behaviour receiver rest kept own.scene).afterAll own.events
      else
        let message := own.scene.badTagReport
        let receipt := receiver kept own.scene message
        let events := own.events ++ [.reported message]
        match receipt.failure? with
        | some failure =>
          ⟨receipt.kept, ⟨receipt.scene, events, some (.functionFailed failure)⟩, some failure⟩
        | none => (attend behaviour receiver rest receipt.kept receipt.scene).afterAll events

end TagBinding.Live
