import TagBinding.Document
import TagBinding.Text.Blank
import TagBinding.Value.Render

/-!
# The report on bad tags

The bad tags of a document are reported in one message: a line that says which document it is,
then for each bad tag a line that shows it and a line for each of its errors, and at the end an
empty line.
-/
namespace TagBinding

variable {F : Type}

/-- How many characters of a description a report shows. -/
def previewLength : Nat := 20

/-- The start of a description that is a text, and nothing of any other. -/
def Value.preview : Value F → String
  | .text content => String.ofList (content.toList.take previewLength) ++ "..."
  | _ => ""

/-- A text with something before it and a space between, or the text alone. -/
def precede (before : Option String) (text : String) : String :=
  match before with
  | some shown => shown ++ " " ++ text
  | none => text

/-- A text that is not missing and not empty. -/
def filled? (text : Option String) : Option String := text.filter fun content => !content.isEmpty

namespace Tag

/-- What a report shows of a tag after its name: type, documented name and description, as far
as it has them. -/
def summary (tag : Tag F) : String :=
  precede ((filled? tag.typeExpression).map fun shown => "\x7b" ++ shown ++ "\x7d")
    (precede (filled? tag.name) tag.description.preview)

/-- The line that shows a bad tag, without blanks at its end. -/
def reportLine (tag : Tag F) : String :=
  Text.trimEnd ("Line: " ++ toString tag.startingLine ++ ": @" ++ tag.tagName ++ " " ++ tag.summary)

/-- The line of an error. -/
def errorLine (error : String) : String := "    * " ++ error

/-- The lines of a bad tag: the tag, then its errors. -/
def reportLines (tag : Tag F) : List String := tag.reportLine :: tag.errors.map errorLine

end Tag

namespace Document

/-- What a document is called in a report: its identifier, or else its name, or else nothing;
a property that counts as not given is passed over. -/
def label? (document : Document F) : Option String :=
  ((document.id?.filter fun value => !value.isVacant).or
    (document.name?.filter fun value => !value.isVacant)).map Value.display

/-- The line that says which document is reported. -/
def reportHeader (document : Document F) : String :=
  let label := document.label?.elim "" fun shown => " \"" ++ shown ++ "\""
  "Invalid tags found in doc" ++ label ++ ", starting at line " ++
    displayInt? document.startingLine ++ ", from file \"" ++ displayText? document.file ++ "\""

/-- The lines of the report on a document's bad tags. -/
def reportLines (document : Document F) : List String :=
  document.reportHeader :: document.tags.bad.flatMap Tag.reportLines

/-- The report on a document's bad tags. -/
def badTagReport (document : Document F) : String :=
  joinTexts "\n" document.reportLines ++ "\n\n"

end Document

end TagBinding
