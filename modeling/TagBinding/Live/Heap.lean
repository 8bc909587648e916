import TagBinding.Live.Value

/-!
# Heaps

A heap keeps what every list holds, under the address of the list. A list is made once, with a
first content, and can then only grow at its end; making a list or letting one grow leaves all
others as they are (`Heap.items_make`, `Heap.items_push`).

Reading a live value follows the addresses that it holds through the heap, down to a depth that is
given. A value that has lists inside lists up to some depth is read alike from that depth on.
-/
namespace TagBinding.Live

variable {F : Type}

/-- The lists that there are, with what they hold. -/
structure Heap (F : Type) where
  /-- What a list holds. -/
  items : Address → List (Value F)
  /-- How many lists a region has. -/
  used : Nat → Nat

namespace Heap

/-- The heap without lists. -/
def empty : Heap F := ⟨fun _ => [], fun _ => 0⟩

instance : Inhabited (Heap F) := ⟨empty⟩

/-- Whether there is a list of an address. -/
def Knows (heap : Heap F) (address : Address) : Prop := address.place < heap.used address.region

/-- The address of the next list of a region. -/
def next (heap : Heap F) (region : Nat) : Address := ⟨region, heap.used region⟩

/-- A heap in which a list holds other items. -/
def put (heap : Heap F) (address : Address) (items : List (Value F)) : Heap F :=
  { heap with items := fun other => if other = address then items else heap.items other }

/-- A heap with one more list in a region, of which `Heap.next` is the address. -/
def make (heap : Heap F) (region : Nat) (items : List (Value F)) : Heap F :=
  { heap.put (heap.next region) items with
    used := fun other => if other = region then heap.used region + 1 else heap.used other }

/-- A heap with more lists in a region, made one after another. -/
def makeAll (heap : Heap F) (region : Nat) (lists : List (List (Value F))) : Heap F :=
  lists.foldl (fun grown items => grown.make region items) heap

/-- A heap in which a list has one more item at its end. -/
def push (heap : Heap F) (address : Address) (item : Value F) : Heap F :=
  heap.put address (heap.items address ++ [item])

/-- What a list is read as, down to a depth; below it every list is read as empty. -/
def follow (heap : Heap F) : Nat → Address → List (TagBinding.Value F)
  | 0, _ => []
  | depth + 1, address => unfoldAll (heap.follow depth) (heap.items address)

/-- How deep values are read that are put into words or handed out. -/
def depth : Nat := 1000

/-- What a value is read as. -/
def read (heap : Heap F) (value : Value F) : TagBinding.Value F :=
  value.unfold (heap.follow depth)

/-- What a tag is read as. -/
def readTag (heap : Heap F) (tag : Tag F) : TagBinding.Tag F := tag.unfold (heap.follow depth)

/-- A list that is given other items holds them, and every other list what it held before. -/
theorem items_put (heap : Heap F) (address : Address) (items : List (Value F)) (other : Address) :
    (heap.put address items).items other = if other = address then items else heap.items other :=
  rfl

/-- A list that is made holds its first content, and every other list what it held before. -/
theorem items_make (heap : Heap F) (region : Nat) (items : List (Value F)) (other : Address) :
    (heap.make region items).items other =
      if other = heap.next region then items else heap.items other := rfl

/-- A list that grows holds the new item last, and every other list what it held before. -/
theorem items_push (heap : Heap F) (address : Address) (item : Value F) (other : Address) :
    (heap.push address item).items other =
      if other = address then heap.items address ++ [item] else heap.items other := rfl

end Heap

/-- Whether a tag has errors. -/
def Tag.isBad (heap : Heap F) (tag : Tag F) : Bool := !(heap.items tag.errors).isEmpty

/-- The part of a tag under a name, or no value when a tag has no such part. The description and
the list of errors are handed on as they are, and not copied. As for a plain tag, only what it is
made of counts, and no name to which an object answers whatever it is (`__doc__`, `__module__`,
`__class__` and the like). -/
def Tag.part (heap : Heap F) (tag : Tag F) (property : String) : Value F :=
  match property with
  | "tag_name" => .text tag.tagName
  | "description" => tag.description
  | "starting_line" => .int tag.startingLine
  | "name" => .ofText? tag.name
  | "type_expression" => .ofText? tag.typeExpression
  | "errors" => .list tag.errors
  | "is_bad" => .bool (tag.isBad heap)
  | _ => .null

mutual

/-- Bring a value to life in a region, in which the lists from a place on are still free: the live
value, and what the lists hold that have to be made for it, in order. -/
def hold (region : Nat) : TagBinding.Value F → Nat → Value F × List (List (Value F))
  | .null, _ => (.null, [])
  | .bool flag, _ => (.bool flag, [])
  | .int number, _ => (.int number, [])
  | .float number, _ => (.float number, [])
  | .text content, _ => (.text content, [])
  | .list items, place =>
    let held := holdAll region items place
    (.list ⟨region, place + held.2.length⟩, held.2 ++ [held.1])
  | .tuple items, place =>
    let held := holdAll region items place
    (.tuple held.1, held.2)
  | .set members, place =>
    let held := holdAll region members place
    (.set held.1, held.2)
  | .record entries, place =>
    let held := holdEach region entries place
    (.record held.1, held.2)
  | .tag tag, place =>
    let held := holdTag region tag place
    (.tag held.1, held.2)
  | .function name, _ => (.function name, [])
  | .definition loaded, _ => (.definition loaded, [])

/-- Bring a tag to life, with a list of errors of its own. -/
def holdTag (region : Nat) : TagBinding.Tag F → Nat → Tag F × List (List (Value F))
  | ⟨tagName, description, startingLine, name, typeExpression, errors⟩, place =>
    let held := hold region description place
    (⟨tagName, held.1, startingLine, name, typeExpression, ⟨region, place + held.2.length⟩⟩,
      held.2 ++ [errors.map .text])

/-- Bring several values to life, one after another. -/
def holdAll (region : Nat) :
    List (TagBinding.Value F) → Nat → List (Value F) × List (List (Value F))
  | [], _ => ([], [])
  | first :: rest, place =>
    let held := hold region first place
    let others := holdAll region rest (place + held.2.length)
    (held.1 :: others.1, held.2 ++ others.2)

/-- Bring named values to life, one after another. -/
def holdEach (region : Nat) :
    List (String × TagBinding.Value F) → Nat → List (String × Value F) × List (List (Value F))
  | [], _ => ([], [])
  | (name, value) :: rest, place =>
    let held := hold region value place
    let others := holdEach region rest (place + held.2.length)
    ((name, held.1) :: others.1, held.2 ++ others.2)

end

/-- Bring several tags to life, one after another. -/
def holdTags (region : Nat) :
    List (TagBinding.Tag F) → Nat → List (Tag F) × List (List (Value F))
  | [], _ => ([], [])
  | first :: rest, place =>
    let held := holdTag region first place
    let others := holdTags region rest (place + held.2.length)
    (held.1 :: others.1, held.2 ++ others.2)

end TagBinding.Live
