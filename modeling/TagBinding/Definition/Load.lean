import TagBinding.Definition.Reading
import TagBinding.Fault
import TagBinding.Table

/-!
# Loading tag definitions

A definition is written down as a record. Three of its fields have two spellings, of which the
first one listed wins when a record has both. Loading reads the fields in a fixed order and
collects what is wrong with each; then every entry that gave no field is a problem of its own,
in the order of the record. A definition that has been loaded before is taken as it is.
-/
namespace TagBinding

variable {F : Type}

/-- A field of a definition. -/
inductive Field where
  /-- The name of the tags. -/
  | name
  /-- The document property. -/
  | docProperty
  /-- The part of a tag. -/
  | tagProperty
  /-- Whether a tag is required. -/
  | required
  /-- Whether several tags are allowed. -/
  | multi
  /-- The default function. -/
  | defaultFn
  /-- The declaration of the transforms. -/
  | transforms
  /-- Other names of the tags. -/
  | aliases
  deriving DecidableEq, Repr

namespace Field

/-- The fields in the order in which they are read. -/
def all : List Field :=
  [.name, .docProperty, .tagProperty, .required, .multi, .defaultFn, .transforms, .aliases]

/-- The spelling of a field that wins, and that is used to speak of a missing field. -/
def spelling : Field → String
  | .name => "name"
  | .docProperty => "docProperty"
  | .tagProperty => "tagProperty"
  | .required => "required"
  | .multi => "multi"
  | .defaultFn => "defaultFn"
  | .transforms => "transforms"
  | .aliases => "aliases"

/-- The other spelling of a field, if it has one. -/
def otherSpelling : Field → Option String
  | .docProperty => some "doc_property"
  | .tagProperty => some "tag_property"
  | .defaultFn => some "default_fn"
  | _ => none

/-- The spellings of a field, the winning one first. -/
def spellings (field : Field) : List String := field.spelling :: field.otherSpelling.toList

/-- The entry of a record that gives a field: the one with the first spelling that occurs. -/
def entry? (field : Field) (entries : List (String × Value F)) : Option (String × Value F) :=
  field.spellings.findSome? fun spelling =>
    (lookupEntry spelling entries).map fun value => (spelling, value)

/-- Whether a key of a record gives one of the fields. -/
def isGivenBy (entries : List (String × Value F)) (key : String) : Bool :=
  all.any fun field => (field.entry? entries).any fun entry => entry.1 == key

/-- Read a field from its entry, or give its value when there is no entry. -/
def read {α : Type} (field : Field) (missing : Reading α) (value : String → Value F → Reading α)
    (entries : List (String × Value F)) : Reading α :=
  match field.entry? entries with
  | some (key, found) => value key found
  | none => missing

end Field

/-- Read a text. -/
def Value.readText (location : Location) : Value F → Reading String
  | .text content => .accepted content
  | _ => .refuse location .notAText

/-- Read a text that is not empty. -/
def Value.readFilledText (location : Location) : Value F → Reading String
  | .text content =>
    if content.isEmpty then .refuse location .emptyText else .accepted content
  | _ => .refuse location .notAText

/-- Read a text or no value. -/
def Value.readText? (location : Location) : Value F → Reading (Option String)
  | .null => .accepted none
  | .text content => .accepted (some content)
  | _ => .refuse location .notAText

/-- The words for true. -/
def trueWords : List String := ["1", "t", "y", "on", "yes", "true"]

/-- The words for false. -/
def falseWords : List String := ["0", "f", "n", "no", "off", "false"]

/-- The truth value of a word, whatever the case of its ASCII letters. -/
def flagOfWord? (word : String) : Option Bool :=
  let lower := word.toList.map Char.toLower
  if trueWords.any (fun known => known.toList == lower) then some true
  else if falseWords.any (fun known => known.toList == lower) then some false
  else none

/-- Read a truth value. One and zero stand for the two, as integers, as floating-point numbers
and among the words. Other texts are unclear, and so are integers of sixty-four bits and
floating-point integers of a size below the sixty-third power of two. -/
def Value.readFlag (location : Location) : Value F → Reading Bool
  | .bool flag => .accepted flag
  | .text content =>
    match flagOfWord? content with
    | some flag => .accepted flag
    | none => .refuse location .unclearFlag
  | .int number =>
    if number = 0 then .accepted false
    else if number = 1 then .accepted true
    else if -(Nat.pow 2 63 : Int) ≤ number ∧ number < Nat.pow 2 63 then
      .refuse location .unclearFlag
    else .refuse location .notAFlag
  | .float number =>
    match number.toInt? with
    | none => .refuse location .notAFlag
    | some whole =>
      if whole = 0 then .accepted false
      else if whole = 1 then .accepted true
      else if whole.natAbs < Nat.pow 2 63 then .refuse location .unclearFlag
      else .refuse location .notAFlag
  | _ => .refuse location .notAFlag

/-- Read a function or no value. -/
def Value.readFunction? (location : Location) : Value F → Reading (Option F)
  | .null => .accepted none
  | .function symbol => .accepted (some symbol)
  | _ => .refuse location .notAFunction

/-- Read a list, a tuple or a set of texts. -/
def Value.readTexts (key : String) : Value F → Reading (List String)
  | .list items | .tuple items | .set items =>
    Reading.ofItems (fun index => Value.readText (.item key index)) 0 items
  | _ => .refuse (.entry key) .notASequence

namespace Definition

/-- The entries of a record that give no field, as problems in the order of the record. -/
def unknownKeys (entries : List (String × Value F)) : List Problem :=
  (entries.filter fun entry => !Field.isGivenBy entries entry.1).map fun entry =>
    ⟨.entry entry.1, .unknownKey⟩

/-- Read the fields of a definition from a record. -/
def readFields (entries : List (String × Value F)) : Reading (Definition F) :=
  (Field.name.read (.refuse (.entry Field.name.spelling) .missing)
      (fun key => Value.readFilledText (.entry key)) entries).map Definition.mk
    |>.also (Field.docProperty.read (.accepted none)
      (fun key => Value.readText? (.entry key)) entries)
    |>.also (Field.tagProperty.read (.accepted "description")
      (fun key => Value.readText (.entry key)) entries)
    |>.also (Field.required.read (.accepted false)
      (fun key => Value.readFlag (.entry key)) entries)
    |>.also (Field.multi.read (.accepted false)
      (fun key => Value.readFlag (.entry key)) entries)
    |>.also (Field.defaultFn.read (.accepted none)
      (fun key => Value.readFunction? (.entry key)) entries)
    |>.also (Field.transforms.read (.accepted .null) (fun _ => .accepted) entries)
    |>.also (Field.aliases.read (.accepted []) Value.readTexts entries)

/-- Read a definition from a record: all its fields, and no other entries. -/
def read (entries : List (String × Value F)) : Reading (Definition F) :=
  (readFields entries).noting (unknownKeys entries)

/-- The name that a record states, which may be of any shape, or no value. -/
def statedName (entries : List (String × Value F)) : Value F :=
  (lookupEntry Field.name.spelling entries).getD .null

/-- Load a definition from a value. -/
def load : Value F → Except (Fault F) (Definition F)
  | .definition loaded => .ok loaded
  | .record entries =>
    match read entries with
    | .accepted loaded => .ok loaded
    | .refused problems => .error (.invalidDefinition (statedName entries) problems)
  | _ => .error (.invalidDefinition .null [⟨.whole, .notARecord⟩])

/-- Load definitions in order, up to the first that is invalid. -/
def loadAll (declared : List (Value F)) : Except (Fault F) (List (Definition F)) :=
  declared.mapM load

/-- The aliases of definitions, each with the name of the definition that declares it; the last
definition to declare an alias has it. -/
def aliasMap (definitions : List (Definition F)) : Table String :=
  Table.ofList (definitions.flatMap fun definition =>
    definition.aliases.map fun other => (other, definition.name))

end Definition

end TagBinding
