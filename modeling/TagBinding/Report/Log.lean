import TagBinding.Extraction

/-!
# Log lines

What is written to a log is a text under the name of a logger. A pass leaves debug lines on what
it takes up, and a set-up leaves one on what it has made ready.
-/
namespace TagBinding

variable {F : Type}

/-- A line of a log. -/
structure LogLine where
  /-- The logger that writes it. -/
  logger : String
  /-- What it says. -/
  message : String
  deriving DecidableEq, Repr, Inhabited

namespace LogLine

/-- A line on the preparation of definitions. -/
def ofDefinitions (message : String) : LogLine := ⟨"doctags.definitions", message⟩

/-- A line on extraction. -/
def ofExtractor (message : String) : LogLine := ⟨"doctags.extractor", message⟩

/-- The line on definitions that have been made ready. -/
def resolved (count : Nat) : LogLine :=
  .ofDefinitions ("normalized " ++ toString count ++ " tag definitions")

/-- The line on documents whose tags have all been extracted. -/
def extracted (count : Nat) : LogLine :=
  .ofExtractor ("extracted tags from " ++ toString count ++ " documents")

end LogLine

namespace Event

/-- The debug lines of an event. -/
def debugLines : Event F → List LogLine
  | .began name target =>
    [.ofExtractor ("extracting tags for: " ++ name),
      .ofExtractor (" - to be attached to doc." ++ target)]
  | .defaulted _ _ => [.ofExtractor " - tag not found, applying default value function"]
  | .evaluated _ => []
  | .reported _ => []

/-- The message of an event that is a report. -/
def message? : Event F → Option String
  | .reported message => some message
  | _ => none

/-- The call of an event that asks for the value of a tag. -/
def call? : Event F → Option (Call F)
  | .evaluated call => some call
  | _ => none

end Event

namespace Pass

/-- The debug lines of a pass, in order. -/
def debugLines (pass : Pass F) : List LogLine := pass.events.flatMap Event.debugLines

/-- The reports of a pass, in order. -/
def messages (pass : Pass F) : List String := pass.events.filterMap Event.message?

/-- The calls for the values of tags in a pass, in order. -/
def calls (pass : Pass F) : List (Call F) := pass.events.filterMap Event.call?

end Pass

end TagBinding
