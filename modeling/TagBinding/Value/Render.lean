import TagBinding.Number.Shortest
import TagBinding.Text.Quoted
import TagBinding.Value.Basic

/-!
# Text of values

A value has a literal text, in which texts are quoted, and a displayed text, in which a text
stands for itself and everything else is literal. Inside a list, a record or a tag every value
is literal.
-/
namespace TagBinding

variable {F : Type}

/-- Texts with a separator between neighbours. -/
def joinTexts (separator : String) : List String → String
  | [] => ""
  | [last] => last
  | first :: rest => first ++ separator ++ joinTexts separator rest

/-- The literal text of a truth value. -/
def boolLiteral (flag : Bool) : String := if flag then "True" else "False"

/-- The literal text of a text that may be missing. -/
def textLiteral? (text : Option String) : String := text.elim "None" Text.quote

/-- Literal texts between square brackets. -/
def bracketed (items : List String) : String := "[" ++ joinTexts ", " items ++ "]"

/-- Literal texts between parentheses; a single one is followed by a comma. -/
def parenthesized : List String → String
  | [only] => "(" ++ only ++ ",)"
  | items => "(" ++ joinTexts ", " items ++ ")"

/-- Literal texts between braces. -/
def braced (items : List String) : String := "\x7b" ++ joinTexts ", " items ++ "\x7d"

mutual

/-- The literal text of a value. -/
def Value.literal : Value F → String
  | .null => "None"
  | .bool flag => boolLiteral flag
  | .int number => toString number
  | .float number => number.text
  | .text content => Text.quote content
  | .list items => bracketed (literals items)
  | .tuple items => parenthesized (literals items)
  | .set [] => "set()"
  | .set (first :: rest) => braced (first.literal :: literals rest)
  | .record entries => braced (entryLiterals entries)
  | .tag found => found.literal
  | .function _ => "<function>"
  | .definition loaded => "TagDefinition(" ++ joinTexts ", " loaded.fieldLiterals ++ ")"

/-- The literal text of a tag. -/
def Tag.literal : Tag F → String
  | ⟨tagName, description, startingLine, name, typeExpression, errors⟩ =>
    "Tag(" ++ joinTexts ", " [
      "tag_name=" ++ Text.quote tagName,
      "description=" ++ description.literal,
      "starting_line=" ++ toString startingLine,
      "name=" ++ textLiteral? name,
      "type_expression=" ++ textLiteral? typeExpression,
      "errors=" ++ bracketed (errors.map Text.quote)] ++ ")"

/-- The fields of a definition, each with its literal text. -/
def Definition.fieldLiterals : Definition F → List String
  | ⟨name, docProperty, tagProperty, required, multi, defaultFn, transforms, aliases⟩ => [
      "name=" ++ Text.quote name,
      "doc_property=" ++ textLiteral? docProperty,
      "tag_property=" ++ Text.quote tagProperty,
      "required=" ++ boolLiteral required,
      "multi=" ++ boolLiteral multi,
      "default_fn=" ++ (if defaultFn.isSome then "<function>" else "None"),
      "transforms=" ++ transforms.literal,
      "aliases=" ++ parenthesized (aliases.map Text.quote)]

/-- The literal texts of several values. -/
def literals : List (Value F) → List String
  | [] => []
  | first :: rest => first.literal :: literals rest

/-- The literal texts of named values, each after its quoted name. -/
def entryLiterals : List (String × Value F) → List String
  | [] => []
  | (name, value) :: rest => (Text.quote name ++ ": " ++ value.literal) :: entryLiterals rest

end

/-- The displayed text of a value: a text stands for itself. -/
def Value.display : Value F → String
  | .text content => content
  | .definition loaded => joinTexts " " loaded.fieldLiterals
  | value => value.literal

/-- The displayed text of a text that may be missing. -/
def displayText? (text : Option String) : String := text.getD "None"

/-- The displayed text of an integer that may be missing. -/
def displayInt? (number : Option Int) : String := number.elim "None" toString

end TagBinding
