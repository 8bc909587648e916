import TagBinding.Routine
import TagBinding.Text.Line

/-!
# Built-in functions

The transforms and the default function that the standard definitions use. Each is a routine
that edits nothing, whatever the names of functions are.
-/
namespace TagBinding

variable {F : Type}

/-- A function that comes with the library. -/
inductive Builtin where
  /-- Keeps the value. -/
  | identity
  /-- Trims a text. -/
  | trimWhitespace
  /-- Gives the tag itself. -/
  | wholeTag
  /-- Gives true: the tag is there. -/
  | toBool
  /-- Gives the trimmed lines of a text, without empty ones. -/
  | splitLines
  /-- Gives the kind of a document that declares a module. -/
  | defaultKind
  deriving DecidableEq, Repr

/-- A text without the blanks at its ends; any other value as it is. -/
def Value.trimmed : Value F → Value F
  | .text content => .text (Text.trim content)
  | value => value

/-- The trimmed lines of a text that are not empty; any other value as it is. -/
def Value.lines : Value F → Value F
  | .text content => .list ((Text.cleanLines content).map .text)
  | value => value

/-- The kind of a document: a module if it has a tag that says so, and else nothing. -/
def Document.defaultKind (document : Document F) : Value F :=
  if (document.tags.named "module").isEmpty then .null else .text "module"

/-- What a built-in function does. -/
def Builtin.routine : Builtin → Routine F
  | .identity, _, _, value => .value value
  | .trimWhitespace, _, _, value => .value value.trimmed
  | .wholeTag, _, tag, _ => .value (tag.elim .null .tag)
  | .toBool, _, _, _ => .value (.bool true)
  | .splitLines, _, _, value => .value value.lines
  | .defaultKind, document, _, _ => .value document.defaultKind

end TagBinding
