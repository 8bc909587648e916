import TagBinding.Number.Binary64

/-!
# Values, tags and tag definitions

A documentation comment is parsed into tags, and a tag definition says how the tags of one name
become a property of the documented item. What a tag describes and what a property holds is a
value of any shape, so the three types refer to each other: a tag has a value as its
description, a definition has a value as the declaration of its transforms, and a tag, a
definition or a function may itself stand as a value.

Functions occur in values by name only. The names are taken from a type `F`, and what a name
does is a matter of the code that runs it.
-/
namespace TagBinding

mutual

/-- What a tag describes, a property holds or a declaration declares. -/
inductive Value (F : Type) where
  /-- No value. -/
  | null
  /-- A truth value. -/
  | bool (flag : Bool)
  /-- An integer of any size. -/
  | int (number : Int)
  /-- A floating-point number. -/
  | float (number : Binary64)
  /-- A text. -/
  | text (content : String)
  /-- A list, which can grow. -/
  | list (items : List (Value F))
  /-- A sequence of fixed length. -/
  | tuple (items : List (Value F))
  /-- A set, in the order in which it lists its members. -/
  | set (members : List (Value F))
  /-- Named values in order. -/
  | record (entries : List (String × Value F))
  /-- A tag. -/
  | tag (tag : Tag F)
  /-- A function, by its name. -/
  | function (name : F)
  /-- A tag definition that has been loaded. -/
  | definition (definition : Definition F)

/-- One tag of a documentation comment. -/
structure Tag (F : Type) where
  /-- The word after the at sign, as it is spelled in the comment. -/
  tagName : String
  /-- What follows, usually a text. -/
  description : Value F
  /-- The line on which the tag starts. -/
  startingLine : Int
  /-- The name that the tag documents, if it names one. -/
  name : Option String
  /-- The type that the tag states, if it states one. -/
  typeExpression : Option String
  /-- What the parser found wrong with the tag. -/
  errors : List String

/-- How the tags of one name are extracted onto a document. -/
structure Definition (F : Type) where
  /-- The name of the tags. -/
  name : String
  /-- The document property to write, when it is not the name. -/
  docProperty : Option String
  /-- The part of a tag that is extracted. -/
  tagProperty : String
  /-- Whether a document without such a tag is invalid. -/
  required : Bool
  /-- Whether a document may have several such tags, whose values form a list. -/
  multi : Bool
  /-- The function that gives the value of a document without such a tag. -/
  defaultFn : Option F
  /-- The declaration of the functions that an extracted value passes through. -/
  transforms : Value F
  /-- Other names of the same tags. -/
  aliases : List String

end

variable {F : Type}

instance : Inhabited (Value F) := ⟨.null⟩

namespace Value

/-- Whether a value counts as not given: no value, false, a zero, or anything empty. -/
def isVacant : Value F → Bool
  | .null => true
  | .bool flag => !flag
  | .int number => number == 0
  | .float number => number.isZero
  | .text content => content.isEmpty
  | .list items | .tuple items | .set items => items.isEmpty
  | .record entries => entries.isEmpty
  | .tag _ | .function _ | .definition _ => false

/-- A text, or no value. -/
def ofText? (content : Option String) : Value F := content.elim .null .text

/-- The word for the kind of a value. -/
def kind : Value F → String
  | .null => "NoneType"
  | .bool _ => "bool"
  | .int _ => "int"
  | .float _ => "float"
  | .text _ => "str"
  | .list _ => "list"
  | .tuple _ => "tuple"
  | .set _ => "set"
  | .record _ => "dict"
  | .tag _ => "Tag"
  | .function _ => "function"
  | .definition _ => "TagDefinition"

end Value

namespace Tag

/-- Whether the parser found something wrong with the tag. -/
def isBad (tag : Tag F) : Bool := !tag.errors.isEmpty

/-- The part of a tag under a name, or no value when a tag has no such part. Only what a tag is made
of counts: names to which an object answers whatever it is, such as `__doc__`, `__module__` and
`__class__`, have no value here either. -/
def part (tag : Tag F) (property : String) : Value F :=
  match property with
  | "tag_name" => .text tag.tagName
  | "description" => tag.description
  | "starting_line" => .int tag.startingLine
  | "name" => .ofText? tag.name
  | "type_expression" => .ofText? tag.typeExpression
  | "errors" => .list (tag.errors.map .text)
  | "is_bad" => .bool tag.isBad
  | _ => .null

/-- A tag is bad exactly when it has errors, an empty one included. -/
theorem isBad_iff (tag : Tag F) : tag.isBad = true ↔ tag.errors ≠ [] := by
  simp [isBad]

end Tag

/-- The document property that a definition writes: the one it states, unless that is missing or
empty, and else the one of its own name. -/
def Definition.target (definition : Definition F) : String :=
  match definition.docProperty with
  | some property => if property.isEmpty then definition.name else property
  | none => definition.name

end TagBinding
