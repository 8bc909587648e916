import TagBinding.Proofs.Live.Preservation

/-!
# Documents at home

A document is at home in its region when it holds lists of its region only, and these hold lists of
the region only (`Scene.AtHome`). What is brought to life in a region holds lists of that region, so
documents that come in as plain values are at home.

A function is confined to the document that it is given (`Routine.Confined`) when its edits and its
value depend on the document and on the lists of its region only, and hold lists of the region only.
Such functions take no notice of other documents, nor of what other runs have left in their memory,
and they leave the lists of all other regions alone. Extraction with such functions is extraction of
one document alone: it comes to the same whatever is in the other regions, and leaves these as they
are (`extractPass_beside`).
-/
namespace TagBinding.Live

variable {F M S : Type}

/-- That a list belongs to a region. -/
def InRegion (region : Nat) (address : Address) : Prop := address.region = region

/-- The next list of a region belongs to the region. -/
theorem inRegion_next (heap : Heap F) (region : Nat) : InRegion region (heap.next region) := rfl

section Holding

variable (region : Nat)

mutual

/-- A value that is brought to life in a region holds lists of the region, and so do its lists. -/
theorem hold_within : (value : TagBinding.Value F) → (place : Nat) →
    (hold region value place).1.Within (InRegion region) ∧
      ∀ items ∈ (hold region value place).2, ∀ item ∈ items, item.Within (InRegion region)
  | .null, _ | .bool _, _ | .int _, _ | .float _, _ | .text _, _ | .function _, _
  | .definition _, _ => ⟨Value.within_of_nil rfl, fun _ made => absurd made List.not_mem_nil⟩
  | .list items, place => by
    obtain ⟨held, lists⟩ := holdAll_within items place
    refine ⟨Value.within_list.mpr rfl, fun made among => ?_⟩
    rcases List.mem_append.mp among with inner | own
    · exact lists made inner
    · rw [List.mem_singleton.mp own]
      exact held
  | .tuple items, place => by
    obtain ⟨held, lists⟩ := holdAll_within items place
    refine ⟨fun address found => ?_, lists⟩
    obtain ⟨item, among, there⟩ := mem_addressesAll.mp found
    exact held item among address there
  | .set members, place => by
    obtain ⟨held, lists⟩ := holdAll_within members place
    refine ⟨fun address found => ?_, lists⟩
    obtain ⟨item, among, there⟩ := mem_addressesAll.mp found
    exact held item among address there
  | .record entries, place => holdEach_within entries place
  | .tag tag, place => holdTag_within tag place

/-- A tag that is brought to life in a region holds lists of the region, and so do its lists. -/
theorem holdTag_within : (tag : TagBinding.Tag F) → (place : Nat) →
    (holdTag region tag place).1.Within (InRegion region) ∧
      ∀ items ∈ (holdTag region tag place).2, ∀ item ∈ items, item.Within (InRegion region)
  | ⟨tagName, description, startingLine, name, typeExpression, errors⟩, place => by
    obtain ⟨held, lists⟩ := hold_within description place
    refine ⟨fun address found => ?_, fun made among => ?_⟩
    · rcases List.mem_cons.mp found with rfl | there
      · rfl
      · exact held address there
    · rcases List.mem_append.mp among with inner | own
      · exact lists made inner
      · rw [List.mem_singleton.mp own]
        intro item listed
        obtain ⟨error, -, rfl⟩ := List.mem_map.mp listed
        exact Value.within_of_nil rfl

/-- Values that are brought to life in a region hold lists of the region, and so do their lists. -/
theorem holdAll_within : (items : List (TagBinding.Value F)) → (place : Nat) →
    (∀ item ∈ (holdAll region items place).1, item.Within (InRegion region)) ∧
      ∀ made ∈ (holdAll region items place).2, ∀ item ∈ made, item.Within (InRegion region)
  | [], _ => ⟨fun _ among => absurd among List.not_mem_nil,
      fun _ made => absurd made List.not_mem_nil⟩
  | first :: rest, place => by
    obtain ⟨held, lists⟩ := hold_within first place
    obtain ⟨others, more⟩ := holdAll_within rest (place + (hold region first place).2.length)
    refine ⟨List.forall_mem_cons.mpr ⟨held, others⟩, fun made among => ?_⟩
    rcases List.mem_append.mp among with own | other
    · exact lists made own
    · exact more made other

/-- Named values that are brought to life in a region hold lists of the region, and so do their
lists. -/
theorem holdEach_within : (entries : List (String × TagBinding.Value F)) → (place : Nat) →
    (∀ address ∈ addressesEach (holdEach region entries place).1, InRegion region address) ∧
      ∀ made ∈ (holdEach region entries place).2, ∀ item ∈ made, item.Within (InRegion region)
  | [], _ => ⟨fun _ among => absurd among List.not_mem_nil,
      fun _ made => absurd made List.not_mem_nil⟩
  | (name, value) :: rest, place => by
    obtain ⟨held, lists⟩ := hold_within value place
    obtain ⟨others, more⟩ := holdEach_within rest (place + (hold region value place).2.length)
    refine ⟨fun address found => ?_, fun made among => ?_⟩
    · rcases List.mem_append.mp found with own | other
      · exact held address own
      · exact others address other
    · rcases List.mem_append.mp among with own | other
      · exact lists made own
      · exact more made other

end

/-- Tags that are brought to life in a region hold lists of the region, and so do their lists. -/
theorem holdTags_within (tags : List (TagBinding.Tag F)) (place : Nat) :
    (∀ tag ∈ (holdTags region tags place).1, tag.Within (InRegion region)) ∧
      ∀ made ∈ (holdTags region tags place).2, ∀ item ∈ made, item.Within (InRegion region) := by
  induction tags generalizing place with
  | nil =>
    exact ⟨fun _ among => absurd among List.not_mem_nil,
      fun _ made => absurd made List.not_mem_nil⟩
  | cons first rest ih =>
    obtain ⟨held, lists⟩ := holdTag_within region first place
    obtain ⟨others, more⟩ := ih (place + (holdTag region first place).2.length)
    refine ⟨List.forall_mem_cons.mpr ⟨held, others⟩, fun made among => ?_⟩
    rcases List.mem_append.mp among with own | other
    · exact lists made own
    · exact more made other

end Holding

/-- That a document holds lists of a set only. -/
structure Document.Within (kept : Address → Prop) (document : Document F) : Prop where
  /-- Its well-formed tags do. -/
  wellFormed : ∀ tag ∈ document.wellFormed, tag.Within kept
  /-- Its bad tags do. -/
  bad : ∀ tag ∈ document.bad, tag.Within kept
  /-- Its properties do. -/
  properties : ∀ key value, document.get? key = some value → value.Within kept

/-- That an edit holds lists of a region only, makes lists in that region only and gives only lists
of that region other items. -/
def Edit.InRegion (region : Nat) : Edit F → Prop
  | .assign _ value => value.Within (Live.InRegion region)
  | .attach tag => tag.Within (Live.InRegion region)
  | .make other items => other = region ∧ ∀ item ∈ items, item.Within (Live.InRegion region)
  | .put address items =>
    address.region = region ∧ ∀ item ∈ items, item.Within (Live.InRegion region)

namespace Scene

/-- That a document is at home in its region: it holds lists of the region only, and so do these. -/
structure AtHome (scene : Scene F M) : Prop where
  /-- Lists of the region hold lists of the region only. -/
  closed : scene.heap.Closed (InRegion scene.document.home)
  /-- The document holds lists of the region only. -/
  document : scene.document.Within (InRegion scene.document.home)

/-- That two scenes are the same in a region, in which their document is at home. -/
structure Alike (region : Nat) (first second : Scene F M) : Prop where
  /-- They have the same document. -/
  document : second.document = first.document
  /-- The document is at home in the region. -/
  home : first.document.home = region
  /-- The lists of the region hold the same. -/
  items : Heap.SameOn (InRegion region) first.heap second.heap
  /-- The region has as many lists in both. -/
  used : second.heap.used region = first.heap.used region
  /-- The document holds lists of the region only, and so do these. -/
  atHome : first.AtHome

/-- That two scenes are the same in a region, in which their document is at home, and that in the
first one the other regions are as they were before. -/
structure Beside (region : Nat) (before : Heap F) (first second : Scene F M) : Prop
    extends first.Alike region second where
  /-- Other lists hold what they held. -/
  elsewhere : ∀ address, ¬ InRegion region address →
    first.heap.items address = before.items address
  /-- Other regions have as many lists as they had. -/
  unused : ∀ other ≠ region, first.heap.used other = before.used other

/-- Scenes that are the same in a region are so beside what the first one has elsewhere. -/
theorem Alike.beside {region : Nat} {first second : Scene F M} (alike : first.Alike region second) :
    Beside region first.heap first second := ⟨alike, fun _ _ => rfl, fun _ _ => rfl⟩

/-- A scene that is the same as another one in a region is the same as itself there. -/
theorem Alike.refl {region : Nat} {first second : Scene F M} (alike : first.Alike region second) :
    first.Alike region first :=
  ⟨rfl, alike.home, fun _ _ => rfl, rfl, alike.atHome⟩

section Beside

variable {region : Nat} {before : Heap F} {first second : Scene F M}

/-- The next list of the region is the same. -/
theorem Alike.next_eq (alike : first.Alike region second) :
    second.heap.next region = first.heap.next region := by
  rw [Heap.next, Heap.next, alike.used]

/-- A list of the region that is given the same items in both scenes leaves them the same there. -/
theorem Beside.put (beside : Beside region before first second) {address : Address}
    (mine : InRegion region address) {items : List (Value F)}
    (inside : ∀ item ∈ items, item.Within (InRegion region)) :
    Beside region before { first with heap := first.heap.put address items }
      { second with heap := second.heap.put address items } where
  document := beside.document
  home := beside.home
  items := by
    intro other there
    rw [Heap.items_put, Heap.items_put, beside.items other there]
  used := beside.used
  atHome := by
    obtain ⟨closed, document⟩ := beside.atHome
    refine ⟨?_, document⟩
    intro other there item held
    rw [Heap.items_put] at held
    split at held
    · rw [beside.home]
      exact inside item held
    · exact closed other there item held
  elsewhere := by
    intro other foreign
    rw [Heap.items_put, if_neg, beside.elsewhere other foreign]
    rintro rfl
    exact foreign mine
  unused := beside.unused

/-- A list that is made in the region of both scenes leaves them the same there. -/
theorem Beside.make (beside : Beside region before first second) {items : List (Value F)}
    (inside : ∀ item ∈ items, item.Within (InRegion region)) :
    Beside region before { first with heap := first.heap.make region items }
      { second with heap := second.heap.make region items } where
  document := beside.document
  home := beside.home
  items := by
    intro other there
    rw [Heap.items_make, Heap.items_make, beside.next_eq, beside.items other there]
  used := by
    show (if region = region then second.heap.used region + 1 else _) =
      if region = region then first.heap.used region + 1 else _
    rw [if_pos rfl, if_pos rfl, beside.used]
  atHome := by
    obtain ⟨closed, document⟩ := beside.atHome
    refine ⟨?_, document⟩
    intro other there item held
    rw [Heap.items_make] at held
    split at held
    · rw [beside.home]
      exact inside item held
    · exact closed other there item held
  elsewhere := by
    intro other foreign
    rw [Heap.items_make, if_neg, beside.elsewhere other foreign]
    rintro rfl
    exact foreign (inRegion_next first.heap region)
  unused := by
    intro other foreign
    show (if other = region then first.heap.used region + 1 else first.heap.used other) = _
    rw [if_neg foreign, beside.unused other foreign]

/-- A value of the region that is assigned in both scenes leaves them the same there. -/
theorem Beside.assign (beside : Beside region before first second) (key : String)
    {value : Value F} (inside : value.Within (InRegion region)) :
    Beside region before (first.assign key value) (second.assign key value) where
  document := congrArg (Document.assign · key value) beside.document
  home := beside.home
  items := beside.items
  used := beside.used
  atHome := by
    obtain ⟨closed, wellFormed, bad, properties⟩ := beside.atHome
    refine ⟨closed, wellFormed, bad, fun name held found => ?_⟩
    have read := first.document.get?_assign key value name
    rw [show (first.assign key value).document.get? name = _ from read] at found
    split at found
    · obtain rfl := Option.some.inj found
      show value.Within (InRegion first.document.home)
      rw [beside.home]
      exact inside
    · exact properties name held found
  elsewhere := beside.elsewhere
  unused := beside.unused

/-- A tag of the region that is attached in both scenes leaves them the same there. -/
theorem Beside.attach (beside : Beside region before first second) {tag : Tag F}
    (inside : tag.Within (InRegion region)) :
    Beside region before (first.edit (.attach tag)) (second.edit (.attach tag)) where
  document := by
    have marred : tag.isBad second.heap = tag.isBad first.heap :=
      (inside.isBad_eq beside.items).symm
    show second.document.attach second.heap tag = first.document.attach first.heap tag
    rw [beside.document, Document.attach, Document.attach, marred]
  home := (first.document.rest_attach first.heap tag).2.2.2.2.trans beside.home
  items := beside.items
  used := beside.used
  atHome := by
    obtain ⟨closed, wellFormed, bad, properties⟩ := beside.atHome
    obtain ⟨sameProperties, -, -, -, home⟩ := first.document.rest_attach first.heap tag
    have own : tag.Within (InRegion first.document.home) := by
      rw [beside.home]
      exact inside
    have more : ∀ tags : List (Tag F),
        (∀ tag ∈ tags, tag.Within (InRegion first.document.home)) →
        ∀ found ∈ tags ++ [tag], found.Within (InRegion first.document.home) := by
      intro tags all found among
      rcases List.mem_append.mp among with old | new
      · exact all found old
      · rw [List.mem_singleton.mp new]
        exact own
    refine ⟨?_, ?_, ?_, ?_⟩
    · show first.heap.Closed (InRegion (first.document.attach first.heap tag).home)
      rw [home]
      exact closed
    · show ∀ found ∈ (first.document.attach first.heap tag).wellFormed,
        found.Within (InRegion (first.document.attach first.heap tag).home)
      rw [home]
      unfold Document.attach
      split
      · exact wellFormed
      · exact more _ wellFormed
    · show ∀ found ∈ (first.document.attach first.heap tag).bad,
        found.Within (InRegion (first.document.attach first.heap tag).home)
      rw [home]
      unfold Document.attach
      split
      · exact more _ bad
      · exact bad
    · show ∀ key value, (first.document.attach first.heap tag).get? key = some value →
        value.Within (InRegion (first.document.attach first.heap tag).home)
      rw [home]
      intro key value found
      rw [Document.get?, sameProperties] at found
      exact properties key value found
  elsewhere := beside.elsewhere
  unused := beside.unused

/-- Edits of the region that are made to both scenes leave them the same there. -/
theorem Beside.editAll (beside : Beside region before first second) (edits : List (Edit F))
    (inside : ∀ edit ∈ edits, edit.InRegion region) :
    Beside region before (first.editAll edits) (second.editAll edits) := by
  induction edits generalizing first second with
  | nil => exact beside
  | cons edit rest ih =>
    obtain ⟨head, tail⟩ := List.forall_mem_cons.mp inside
    refine ih ?_ tail
    cases edit with
    | assign key value => exact beside.assign key head
    | attach tag => exact beside.attach head
    | make other items =>
      obtain ⟨rfl, items⟩ := head
      exact beside.make items
    | put address items => exact beside.put head.1 head.2

/-- What is remembered makes no difference to what the scenes are. -/
theorem Beside.remember (beside : Beside region before first second) (memory other : M) :
    Beside region before { first with memory := memory } { second with memory := other } :=
  ⟨⟨beside.document, beside.home, beside.items, beside.used,
    ⟨beside.atHome.closed, beside.atHome.document⟩⟩, beside.elsewhere, beside.unused⟩

/-- Replies with the same edits of the region leave the scenes the same there. -/
theorem Beside.after (beside : Beside region before first second) {reply other : Reply F M}
    (same : other.edits = reply.edits) (inside : ∀ edit ∈ reply.edits, edit.InRegion region) :
    Beside region before (first.after reply) (second.after other) := by
  rw [Scene.after, Scene.after, same]
  exact (beside.editAll reply.edits inside).remember reply.memory other.memory

/-- An item of the region that is put into a list of it in both scenes leaves them the same there. -/
theorem Beside.push (beside : Beside region before first second) {address : Address}
    (mine : InRegion region address) {item : Value F} (inside : item.Within (InRegion region)) :
    Beside region before (first.push address item) (second.push address item) := by
  have held : second.heap.items address = first.heap.items address :=
    (beside.items address mine).symm
  have put := beside.put mine (by
    intro found among
    rcases List.mem_append.mp among with old | new
    · have closed := beside.atHome.closed
      rw [beside.home] at closed
      exact closed address mine found old
    · rw [List.mem_singleton.mp new]
      exact inside)
  rw [Scene.push, Scene.push, Heap.push, Heap.push, held]
  exact put

/-- Scenes that are the same in a region have the same report. -/
theorem Alike.messages_report (alike : first.Alike region second) :
    second.report.messages = first.report.messages := by
  obtain ⟨document, home, items, used, closed, wellFormed, bad, properties⟩ := alike
  rw [home] at closed bad properties
  have read : ∀ value : Value F, value.Within (InRegion region) →
      second.heap.read value = first.heap.read value :=
    fun value inside => (Heap.read_congr closed items inside).symm
  have report : second.badTagReport = first.badTagReport := by
    refine badTagReport_congr (by rw [document]) (by rw [document]) ?_ ?_
    · intro key _
      rw [document]
      cases found : first.document.get? key with
      | none => rw [Option.map_none, Option.map_none]
      | some value =>
        rw [Option.map_some, Option.map_some, read value (properties key value found)]
    · rw [document]
      exact List.map_congr_left fun tag among =>
        (Heap.readTag_congr closed items (bad tag among)).symm
  unfold Scene.report
  rw [document, report]
  split <;> rfl

end Beside

end Scene

/-- That a tag that is given to a function, if one is, is within a set. -/
def Tag.Given (kept : Address → Prop) (tag : Option (Tag F)) : Prop :=
  ∀ found ∈ tag, found.Within kept

/-- That a routine is confined to the document that it is given. In scenes that are the same in the
region of the document it replies the same, but for what it remembers, and its edits and its value
are those of the region. -/
structure Routine.Confined (routine : Routine F M) : Prop where
  /-- The reply depends on the region of the document only. -/
  same : ∀ {region first second}, Scene.Alike region first second → ∀ tag value,
    Tag.Given (InRegion region) tag → value.Within (InRegion region) →
    (routine second tag value).edits = (routine first tag value).edits ∧
      (routine second tag value).outcome = (routine first tag value).outcome
  /-- The edits and the value are those of the region of the document. -/
  inside : ∀ {region} {scene : Scene F M}, scene.Alike region scene → ∀ tag value,
    Tag.Given (InRegion region) tag → value.Within (InRegion region) →
    (∀ edit ∈ (routine scene tag value).edits, edit.InRegion region) ∧
      ∀ given, (routine scene tag value).outcome = .ok given → given.Within (InRegion region)

namespace Routine

/-- The identity is confined. -/
theorem confined_identity : (identity : Routine F M).Confined where
  same _ _ _ _ _ := ⟨rfl, rfl⟩
  inside := by
    rintro region scene - tag value - within
    exact ⟨fun edit made => absurd made List.not_mem_nil,
      fun given same => Except.ok.inj same ▸ within⟩

/-- Two confined routines in a row are confined. -/
theorem Confined.andThen {first second : Routine F M} (former : first.Confined)
    (latter : second.Confined) : (first.andThen second).Confined where
  same := by
    intro region one other alike tag value given within
    obtain ⟨edits, outcome⟩ := former.same alike tag value given within
    obtain ⟨mine, results⟩ := former.inside alike.refl tag value given within
    cases came : (first one tag value).outcome with
    | error message =>
      simp only [Routine.andThen, came, outcome.trans came]
      exact ⟨edits, trivial⟩
    | ok middle =>
      have later := latter.same (alike.beside.after edits mine).toAlike tag middle given
        (results middle came)
      simp only [Routine.andThen, came, outcome.trans came]
      exact ⟨by rw [edits, later.1], later.2⟩
  inside := by
    intro region scene alike tag value given within
    obtain ⟨mine, results⟩ := former.inside alike tag value given within
    cases came : (first scene tag value).outcome with
    | error message =>
      simp only [Routine.andThen, came]
      exact ⟨mine, fun _ other => by cases other⟩
    | ok middle =>
      have left := (alike.beside.after rfl mine).toAlike
      obtain ⟨edits, last⟩ := latter.inside left tag middle given (results middle came)
      simp only [Routine.andThen, came]
      exact ⟨List.forall_mem_append.mpr ⟨mine, edits⟩, last⟩

end Routine

/-- That the functions of a binding are confined. -/
structure Binding.Confined (behaviour : Behaviour F M) (binding : Binding F) : Prop where
  /-- Every transform is. -/
  transforms : ∀ function ∈ binding.transforms, (behaviour function).Confined
  /-- Every default function is. -/
  default : ∀ function ∈ binding.definition.defaultFn, (behaviour function).Confined

/-- A binding whose functions are confined keeps scenes the same in the region of their document, and
leaves the other regions as they are. -/
theorem Binding.Confined.kept {behaviour : Behaviour F M} {binding : Binding F}
    (confined : Binding.Confined behaviour binding) (region : Nat) (before : Heap F) :
    Kept behaviour (InRegion region) (Scene.Beside region before) binding where
  named beside := by rw [beside.document]
  inside := by
    intro first second beside tag found
    have within := beside.atHome.document.wellFormed tag (List.mem_filter.mp found).1
    rw [beside.home] at within
    exact within
  place beside := by
    rw [beside.document]
    exact ⟨rfl, rfl⟩
  target beside := by rw [beside.document]
  held := by
    intro first second beside value found
    obtain ⟨closed, -, -, properties⟩ := beside.atHome
    have within := properties binding.target value found
    rw [beside.home] at closed within
    refine ⟨(Heap.read_congr closed beside.items within).symm, ?_⟩
    rintro address rfl
    exact Value.within_list.mp within
  opened := by
    intro first second beside
    have home := beside.home
    have made := beside.make fun item held => absurd held List.not_mem_nil
    have same : second.document.home = region := by rw [beside.document, home]
    dsimp only
    rw [home, same]
    refine ⟨beside.next_eq, inRegion_next first.heap region, ?_⟩
    have list : (Value.list (first.heap.next region) : Value F).Within (InRegion region) :=
      Value.within_list.mpr (inRegion_next first.heap region)
    have assigned := made.assign binding.target list
    rw [Scene.opened, Scene.opened, home, same, beside.next_eq]
    exact assigned
  evaluated := by
    intro first second beside tag within
    have routine : (Routine.ofBinding behaviour binding).Confined :=
      Routine.ofBinding_of_closed Routine.confined_identity Routine.Confined.andThen
        confined.transforms
    have part : tag.part second.heap binding.definition.tagProperty =
        tag.part first.heap binding.definition.tagProperty :=
      (within.part_eq beside.items _).symm
    have given : Tag.Given (InRegion region) (some tag) := by
      rintro found ⟨⟩
      exact within
    have own := within.part first.heap binding.definition.tagProperty
    obtain ⟨edits, outcome⟩ := routine.same beside.toAlike (some tag) _ given own
    obtain ⟨mine, results⟩ := routine.inside beside.toAlike.refl (some tag) _ given own
    dsimp only
    rw [evaluate, evaluate, part]
    exact ⟨outcome, beside.after edits mine, results⟩
  defaulted := by
    intro first second beside function default
    have given : Tag.Given (InRegion region) (none : Option (Tag F)) := by
      rintro found ⟨⟩
    have null : (Value.null : Value F).Within (InRegion region) := Value.within_of_nil rfl
    have routine := confined.default function default
    obtain ⟨edits, outcome⟩ := routine.same beside.toAlike none .null given null
    obtain ⟨mine, results⟩ := routine.inside beside.toAlike.refl none .null given null
    exact ⟨outcome, beside.after edits mine, results⟩
  pushed beside _ _ mine inside := beside.push mine inside
  assigned beside _ inside := beside.assign binding.target inside

/-- Extraction with confined functions comes to the same in scenes that are the same in the region of
their document, whatever the other regions hold, and leaves these as they were. -/
theorem extractPass_beside {behaviour : Behaviour F M} {bindings : List (Binding F)}
    (confined : ∀ binding ∈ bindings, Binding.Confined behaviour binding) {region : Nat}
    {first second : Scene F M} (alike : first.Alike region second) :
    Pass.Related (Scene.Beside region first.heap) (extractPass behaviour bindings first)
        (extractPass behaviour bindings second) ∧
      (extractPass behaviour bindings second).messages =
        (extractPass behaviour bindings first).messages := by
  have keeps := fun binding inside => (confined binding inside).kept region first.heap
  exact ⟨extractPass_related bindings keeps alike.beside,
    messages_extractPass_related bindings keeps (fun beside => beside.toAlike.messages_report)
      alike.beside⟩

end TagBinding.Live
