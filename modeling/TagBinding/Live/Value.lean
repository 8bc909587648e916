import TagBinding.Value.Render

/-!
# Live values

Lists are not copied while tags are extracted. A property, a tag and a function may hold the same
list, and what is put at its end is then seen by all of them. So a value that is in use holds a
list by its address only, and what the lists hold is kept apart from the values, in a heap. A tag
holds its errors by such an address too, since the list of its errors may be handed on like any
other list.

With the contents of the lists a live value unfolds to the value that it is read as
(`Live.Value.unfold`). Addresses name the lists of a region one after another, and every document
has a region of its own for the lists that are made on its behalf.
-/
namespace TagBinding

/-- Where a list is kept. -/
structure Address where
  /-- The region of the heap. -/
  region : Nat
  /-- The place of the list in its region. -/
  place : Nat
  deriving DecidableEq, Repr

namespace Live

mutual

/-- A value in use: a value whose lists are held by address. -/
inductive Value (F : Type) where
  /-- No value. -/
  | null
  /-- A truth value. -/
  | bool (flag : Bool)
  /-- An integer of any size. -/
  | int (number : Int)
  /-- A floating-point number. -/
  | float (number : Binary64)
  /-- A text. -/
  | text (content : String)
  /-- A list, by its address. -/
  | list (address : Address)
  /-- A sequence of fixed length. -/
  | tuple (items : List (Value F))
  /-- A set, in the order in which it lists its members. -/
  | set (members : List (Value F))
  /-- Named values in order. -/
  | record (entries : List (String × Value F))
  /-- A tag. -/
  | tag (tag : Tag F)
  /-- A function, by its name. -/
  | function (name : F)
  /-- A tag definition that has been loaded. -/
  | definition (definition : Definition F)

/-- One tag of a documentation comment, in use. -/
structure Tag (F : Type) where
  /-- The word after the at sign, as it is spelled in the comment. -/
  tagName : String
  /-- What follows, usually a text. -/
  description : Value F
  /-- The line on which the tag starts. -/
  startingLine : Int
  /-- The name that the tag documents, if it names one. -/
  name : Option String
  /-- The type that the tag states, if it states one. -/
  typeExpression : Option String
  /-- The address of the list of what the parser found wrong with the tag. -/
  errors : Address

end

variable {F : Type}

instance : Inhabited (Value F) := ⟨.null⟩

/-- A text, or no value. -/
def Value.ofText? (content : Option String) : Value F := content.elim .null .text

mutual

/-- The lists that a value holds without going through another list. -/
def Value.addresses : Value F → List Address
  | .null | .bool _ | .int _ | .float _ | .text _ | .function _ | .definition _ => []
  | .list address => [address]
  | .tuple items => addressesAll items
  | .set members => addressesAll members
  | .record entries => addressesEach entries
  | .tag tag => tag.addresses

/-- The lists that a tag holds without going through another list. -/
def Tag.addresses : Tag F → List Address
  | ⟨_, description, _, _, _, errors⟩ => errors :: description.addresses

/-- The lists that values hold. -/
def addressesAll : List (Value F) → List Address
  | [] => []
  | first :: rest => first.addresses ++ addressesAll rest

/-- The lists that named values hold. -/
def addressesEach : List (String × Value F) → List Address
  | [] => []
  | (_, value) :: rest => value.addresses ++ addressesEach rest

end

/-- A tag holds the list of its errors and the lists that its description holds. -/
theorem Tag.addresses_eq (tag : Tag F) :
    tag.addresses = tag.errors :: tag.description.addresses := by
  cases tag
  rfl

mutual

/-- The value that a live value is read as, given what its lists are read as. -/
def Value.unfold (follow : Address → List (TagBinding.Value F)) : Value F → TagBinding.Value F
  | .null => .null
  | .bool flag => .bool flag
  | .int number => .int number
  | .float number => .float number
  | .text content => .text content
  | .list address => .list (follow address)
  | .tuple items => .tuple (unfoldAll follow items)
  | .set members => .set (unfoldAll follow members)
  | .record entries => .record (unfoldEach follow entries)
  | .tag tag => .tag (tag.unfold follow)
  | .function name => .function name
  | .definition loaded => .definition loaded

/-- The tag that a live tag is read as. An error that is no text is read as its displayed text. -/
def Tag.unfold (follow : Address → List (TagBinding.Value F)) : Tag F → TagBinding.Tag F
  | ⟨tagName, description, startingLine, name, typeExpression, errors⟩ =>
    ⟨tagName, description.unfold follow, startingLine, name, typeExpression,
      (follow errors).map TagBinding.Value.display⟩

/-- What several live values are read as. -/
def unfoldAll (follow : Address → List (TagBinding.Value F)) :
    List (Value F) → List (TagBinding.Value F)
  | [] => []
  | first :: rest => first.unfold follow :: unfoldAll follow rest

/-- What named live values are read as. -/
def unfoldEach (follow : Address → List (TagBinding.Value F)) :
    List (String × Value F) → List (String × TagBinding.Value F)
  | [] => []
  | (name, value) :: rest => (name, value.unfold follow) :: unfoldEach follow rest

end

/-- The lists that values hold are those that one of them holds. -/
theorem mem_addressesAll {address : Address} {items : List (Value F)} :
    address ∈ addressesAll items ↔ ∃ item ∈ items, address ∈ item.addresses := by
  induction items with
  | nil => simp [addressesAll]
  | cons first rest ih => simp [addressesAll, ih]

mutual

/-- What a value is read as depends on the lists that it holds only. -/
theorem Value.unfold_congr {follow other : Address → List (TagBinding.Value F)} :
    (value : Value F) → (∀ address ∈ value.addresses, follow address = other address) →
      value.unfold follow = value.unfold other
  | .null, _ | .bool _, _ | .int _, _ | .float _, _ | .text _, _ | .function _, _
  | .definition _, _ => rfl
  | .list address, same => congrArg TagBinding.Value.list (same address List.mem_cons_self)
  | .tuple items, same => congrArg TagBinding.Value.tuple (unfoldAll_congr items same)
  | .set members, same => congrArg TagBinding.Value.set (unfoldAll_congr members same)
  | .record entries, same => congrArg TagBinding.Value.record (unfoldEach_congr entries same)
  | .tag tag, same => congrArg TagBinding.Value.tag (tag.unfold_congr same)

/-- What a tag is read as depends on the lists that it holds only. -/
theorem Tag.unfold_congr {follow other : Address → List (TagBinding.Value F)} :
    (tag : Tag F) → (∀ address ∈ tag.addresses, follow address = other address) →
      tag.unfold follow = tag.unfold other
  | ⟨tagName, description, startingLine, name, typeExpression, errors⟩, same => by
    have read := description.unfold_congr fun address held => same address (.tail _ held)
    have found := same errors List.mem_cons_self
    rw [Tag.unfold, Tag.unfold, read, found]

/-- What several values are read as depends on the lists that they hold only. -/
theorem unfoldAll_congr {follow other : Address → List (TagBinding.Value F)} :
    (items : List (Value F)) → (∀ address ∈ addressesAll items, follow address = other address) →
      unfoldAll follow items = unfoldAll other items
  | [], _ => rfl
  | first :: rest, same => by
    have head := first.unfold_congr fun address held => same address (List.mem_append_left _ held)
    have tail := unfoldAll_congr rest fun address held => same address (List.mem_append_right _ held)
    rw [unfoldAll, unfoldAll, head, tail]

/-- What named values are read as depends on the lists that they hold only. -/
theorem unfoldEach_congr {follow other : Address → List (TagBinding.Value F)} :
    (entries : List (String × Value F)) →
      (∀ address ∈ addressesEach entries, follow address = other address) →
      unfoldEach follow entries = unfoldEach other entries
  | [], _ => rfl
  | (name, value) :: rest, same => by
    have head := value.unfold_congr fun address held => same address (List.mem_append_left _ held)
    have tail := unfoldEach_congr rest fun address held =>
      same address (List.mem_append_right _ held)
    rw [unfoldEach, unfoldEach, head, tail]

end

end Live

end TagBinding
