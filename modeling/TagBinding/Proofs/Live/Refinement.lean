import TagBinding.Proofs.Live.Deliveries
import TagBinding.Proofs.Live.Portrait
import TagBinding.Proofs.Live.Preservation

/-!
# Extraction and its portrait

Plain extraction is the portrait of live extraction as long as no list that may grow is held in a
second place. A live function implements a plain one when, in every scene that has a portrait, it
does to the scene what the plain one does to the portrait, and hands on no list that belongs to a
property alone (`Routine.Implements`). It may make lists, keep lists of its own and remember things,
of which it can rely on what stays true when other lists grow (`Reliance`). If the functions of all
bindings implement plain functions, then so does the whole pass: it ends with a scene whose portrait
is the document that plain extraction ends with, for a like reason, and after as many reports
(`extractPass_portrayed`).

While values are collected, either the target holds the list in which they are put, or no property
does, because a function has assigned the target meanwhile (`Scene.Stands`). In the first case a value
is one more item in the portrait, in the second one the portrait does not change. This is what plain
extraction does by keeping the items as long as the target has not been assigned.
-/
namespace TagBinding.Live

variable {F M : Type}

/-- Something that functions rely on when they are run, which may speak of the lists that they may
hold, of what these hold and of what the functions remember. -/
structure Reliance (F M : Type) where
  /-- What is relied on. -/
  on : (Address → Prop) → Heap F → M → Prop
  /-- It stays true when there are more such lists, and those that there are hold what they held. -/
  stable : ∀ {kept wider heap other memory}, on kept heap memory →
    (∀ address, kept address → wider address) → Heap.SameOn kept heap other →
    on wider other memory

/-- The reliance of functions that rely on nothing. -/
def Reliance.nothing : Reliance F M := ⟨fun _ _ _ => True, fun _ _ _ => trivial⟩

/-- That two faults are the same, but for what is held in place of a list, which is of the same
kind. -/
inductive Fault.Alike : Fault F → Fault F → Prop where
  /-- They are the same. -/
  | same (fault : Fault F) : Alike fault fault
  /-- There is something in place of a list. -/
  | notAList {held other : TagBinding.Value F} (kind : held.kind = other.kind) :
      Alike (.notAList held) (.notAList other)

/-- How the outcome of a live function is read as that of a plain one. -/
inductive Heap.DepictsOutcome (heap : Heap F) (kept : Address → Prop) :
    Except String (Value F) → Except String (TagBinding.Value F) → Prop where
  /-- Its value is read as the value of the other one. -/
  | ok {value : Value F} {shown : TagBinding.Value F} (depicts : heap.Depicts kept value shown) :
      DepictsOutcome heap kept (.ok value) (.ok shown)
  /-- Both fail with the same message. -/
  | error (message : String) : DepictsOutcome heap kept (.error message) (.error message)

/-- Of two outcomes that are read alike, either both fail with the same message or both give a
value. -/
theorem Heap.DepictsOutcome.cases {heap : Heap F} {kept : Address → Prop}
    {live : Except String (Value F)} {plain : Except String (TagBinding.Value F)}
    (depicts : heap.DepictsOutcome kept live plain) :
    (∃ message, live = .error message ∧ plain = .error message) ∨
      ∃ value shown, live = .ok value ∧ plain = .ok shown ∧ heap.Depicts kept value shown := by
  cases depicts with
  | error message => exact .inl ⟨message, rfl, rfl⟩
  | ok depicts => exact .inr ⟨_, _, rfl, rfl, depicts⟩

/-- That a scene has a portrait, and that functions can rely on what they need in it. -/
structure Scene.Ready (reliance : Reliance F M) (collecting : String → Prop)
    (kept : Address → Prop) (scene : Scene F M) (document : TagBinding.Document F) : Prop
    extends Scene.Portrays collecting kept scene document where
  /-- What the functions rely on is true. -/
  relied : reliance.on kept scene.heap scene.memory

/-- That a live reply does to a scene what a plain reply does to its portrait. -/
structure Reply.Matches (reliance : Reliance F M) (collecting : String → Prop)
    (kept : Address → Prop) (scene : Scene F M) (document : TagBinding.Document F)
    (reply : Reply F M) (shown : TagBinding.Reply F) (wider : Address → Prop) : Prop where
  /-- Lists that may be held anywhere may still be. -/
  more : ∀ address, kept address → wider address
  /-- Of the lists that are there no others may be held anywhere. -/
  fresh : ∀ address, wider address → kept address ∨ ¬ scene.heap.Knows address
  /-- All lists are there, with what they held. -/
  larger : scene.heap.Extends (scene.after reply).heap
  /-- The scene afterwards has the portrait that the plain reply leaves. -/
  ready : (scene.after reply).Ready reliance collecting wider (document.editAll shown.edits)
  /-- A property that the plain reply does not assign holds what it held. -/
  untouched : ∀ key, shown.assigns key = false →
    (scene.after reply).document.get? key = scene.document.get? key
  /-- A property that it assigns holds no list that belongs to a property alone. -/
  assigned : ∀ key address, shown.assigns key = true →
    (scene.after reply).document.get? key = some (.list address) → scene.heap.Knows address →
    wider address
  /-- The outcome is read as that of the plain reply. -/
  outcome : (scene.after reply).heap.DepictsOutcome wider reply.outcome shown.outcome

namespace Routine

variable {reliance : Reliance F M} {collecting : String → Prop}

/-- That a live routine, when it is run for a tag in a scene with a portrait, does what a plain
routine does to the portrait. -/
def Implements (reliance : Reliance F M) (collecting : String → Prop) (routine : Routine F M)
    (plain : TagBinding.Routine F) : Prop :=
  ∀ {kept scene document}, scene.Ready reliance collecting kept document →
    ∀ tag shownTag, scene.heap.DepictsTag kept tag shownTag →
    ∀ value shown, scene.heap.Depicts kept value shown →
    ∃ wider, (routine scene (some tag) value).Matches reliance collecting kept scene document
      (plain document (some shownTag) shown) wider

/-- That a live routine, when it is run without a tag in a scene with a portrait, does what a plain
routine does to the portrait. -/
def ImplementsDefault (reliance : Reliance F M) (collecting : String → Prop)
    (routine : Routine F M) (plain : TagBinding.Routine F) : Prop :=
  ∀ {kept scene document}, scene.Ready reliance collecting kept document →
    ∃ wider, (routine scene none .null).Matches reliance collecting kept scene document
      (plain document none .null) wider

end Routine

namespace Reply.Matches

variable {reliance : Reliance F M} {collecting : String → Prop} {kept wider : Address → Prop}
  {scene : Scene F M} {document : TagBinding.Document F}

/-- A value that is given without edits matches the plain value that it is read as. -/
theorem give (ready : scene.Ready reliance collecting kept document) {value : Value F}
    {shown : TagBinding.Value F} (depicts : scene.heap.Depicts kept value shown) :
    (scene.give value).Matches reliance collecting kept scene document (.value shown) kept where
  more _ inside := inside
  fresh _ inside := .inl inside
  larger := .refl _
  ready := ready
  untouched _ _ := rfl
  assigned _ _ assigns := by cases assigns
  outcome := .ok depicts

/-- A failure without edits matches the same failure. -/
theorem fail (ready : scene.Ready reliance collecting kept document) (message : String) :
    (⟨scene.memory, [], .error message⟩ : Reply F M).Matches reliance collecting kept scene document
      ⟨[], .error message⟩ kept where
  more _ inside := inside
  fresh _ inside := .inl inside
  larger := .refl _
  ready := ready
  untouched _ _ := rfl
  assigned _ _ assigns := by cases assigns
  outcome := .error message

variable {reply next : Reply F M} {shown later : TagBinding.Reply F}

/-- A tag that may be held before a reply may be held afterwards, and is read the same. -/
theorem depictsTag (matches_ : reply.Matches reliance collecting kept scene document shown wider)
    (ready : scene.Ready reliance collecting kept document) {tag : Tag F}
    {read : TagBinding.Tag F} (depicts : scene.heap.DepictsTag kept tag read) :
    (scene.after reply).heap.DepictsTag wider tag read :=
  depicts.transfer ready.closed
    (fun address inside => (matches_.larger.items address (ready.known address inside)).symm)
    matches_.more

/-- A reply in the scene that another one leaves matches a plain reply behind another one. -/
theorem append {widest : Address → Prop}
    (first : reply.Matches reliance collecting kept scene document shown wider)
    (second : next.Matches reliance collecting wider (scene.after reply)
      (document.editAll shown.edits) later widest) :
    ({ next with edits := reply.edits ++ next.edits } : Reply F M).Matches reliance collecting kept
      scene document ⟨shown.edits ++ later.edits, later.outcome⟩ widest := by
  have both := scene.after_append reply next
  have assigns : ∀ key, (⟨shown.edits ++ later.edits, later.outcome⟩ :
      TagBinding.Reply F).assigns key = (shown.assigns key || later.assigns key) :=
    fun key => List.any_append
  refine ⟨fun address inside => second.more address (first.more address inside), ?_, ?_, ?_, ?_,
    ?_, ?_⟩
  · intro address inside
    rcases second.fresh address inside with mine | unknown
    · exact first.fresh address mine
    · exact .inr (mt first.larger.knows unknown)
  · rw [both]
    exact first.larger.trans second.larger
  · rw [both, TagBinding.Document.editAll_append]
    exact second.ready
  · intro key free
    rw [assigns, Bool.or_eq_false_iff] at free
    rw [both, second.untouched key free.2, first.untouched key free.1]
  · intro key address bound found known
    rw [both] at found
    cases again : later.assigns key with
    | true => exact second.assigned key address again found (first.larger.knows known)
    | false =>
      rw [assigns, again, Bool.or_false] at bound
      rw [second.untouched key again] at found
      exact second.more address (first.assigned key address bound found known)
  · rw [both]
    exact second.outcome

end Reply.Matches

namespace Routine

variable {reliance : Reliance F M} {collecting : String → Prop}

/-- The live identity implements the plain one. -/
theorem implements_identity : (identity : Routine F M).Implements reliance collecting .identity :=
  fun ready _ _ _ _ _ depicts => ⟨_, .give ready depicts⟩

/-- Two live routines in a row implement two plain routines in a row. -/
theorem Implements.andThen {first second : Routine F M} {plain other : TagBinding.Routine F}
    (former : first.Implements reliance collecting plain)
    (latter : second.Implements reliance collecting other) :
    (first.andThen second).Implements reliance collecting (plain.andThen other) := by
  intro kept scene document ready tag shownTag tags value shown values
  obtain ⟨wider, own⟩ := former ready tag shownTag tags value shown values
  rw [Routine.andThen, TagBinding.Routine.andThen]
  rcases own.outcome.cases with ⟨message, live, given⟩ | ⟨middle, result, live, given, depicts⟩
  · simp only [live, given]
    exact ⟨wider, own⟩
  · simp only [live, given]
    obtain ⟨widest, rest⟩ := latter own.ready tag shownTag (own.depictsTag ready tags) middle result
      depicts
    exact ⟨widest, own.append rest⟩

/-- Live routines in a row implement plain routines in a row. -/
theorem implements_sequence {behaviour : Behaviour F M} {plain : TagBinding.Behaviour F}
    {functions : List F} (each : ∀ function ∈ functions,
      (behaviour function).Implements reliance collecting (plain function)) :
    (sequence (functions.map behaviour)).Implements reliance collecting
      (.sequence (functions.map plain)) := by
  induction functions with
  | nil => exact implements_identity
  | cons function rest ih =>
    obtain ⟨head, tail⟩ := List.forall_mem_cons.mp each
    exact head.andThen (ih tail)

end Routine

/-- That the live functions of a binding implement plain ones. -/
structure Binding.Implements (reliance : Reliance F M) (collecting : String → Prop)
    (behaviour : Behaviour F M) (plain : TagBinding.Behaviour F) (binding : Binding F) : Prop where
  /-- Every transform does, when it is run for a tag. -/
  transforms : ∀ function ∈ binding.transforms,
    (behaviour function).Implements reliance collecting (plain function)
  /-- Every default function does, when it is run without a tag. -/
  default : ∀ function ∈ binding.definition.defaultFn,
    (behaviour function).ImplementsDefault reliance collecting (plain function)

/-- That values are collected in the target of a binding, if it allows several tags, and are not
otherwise. -/
def Binding.Collects (collecting : String → Prop) (binding : Binding F) : Prop :=
  binding.definition.multi = true ↔ collecting binding.target

/-- No values are collected in the target of a binding that allows one tag. -/
theorem Binding.Collects.not_of_single {collecting : String → Prop} {binding : Binding F}
    (collects : Binding.Collects collecting binding) (single : binding.definition.multi = false) :
    ¬ collecting binding.target := fun collected => by
  have multi := collects.mpr collected
  rw [single] at multi
  cases multi

/-- That one of several bindings collects values in a property. -/
def Collecting (bindings : List (Binding F)) (key : String) : Prop :=
  ∃ binding ∈ bindings, binding.definition.multi = true ∧ binding.target = key

/-- Values are collected in the targets of those bindings that allow several tags, and in no other
ones, if no two bindings of different kinds write the same property. -/
theorem collects_of_apart {bindings : List (Binding F)}
    (apart : ∀ first ∈ bindings, ∀ second ∈ bindings, first.target = second.target →
      first.definition.multi = second.definition.multi) :
    ∀ binding ∈ bindings, Binding.Collects (Collecting bindings) binding := by
  intro binding inside
  constructor
  · exact fun multi => ⟨binding, inside, multi, rfl⟩
  · rintro ⟨other, there, multi, same⟩
    exact (apart other there binding inside same).symm.trans multi

section Evaluation

variable {reliance : Reliance F M} {collecting : String → Prop} {behaviour : Behaviour F M}
  {plain : TagBinding.Behaviour F} {binding : Binding F} {kept : Address → Prop}
  {scene : Scene F M} {document : TagBinding.Document F}

/-- Evaluating a tag does to a scene what evaluating the plain tag does to the portrait. -/
theorem Binding.Implements.evaluate
    (implements : Binding.Implements reliance collecting behaviour plain binding)
    (ready : scene.Ready reliance collecting kept document) {tag : Tag F}
    {shown : TagBinding.Tag F} (depicts : scene.heap.DepictsTag kept tag shown) :
    ∃ wider, (evaluate behaviour binding tag scene).Matches reliance collecting kept scene document
      (binding.evaluate plain shown document) wider := by
  obtain ⟨own, shared⟩ := List.forall_mem_append.mp implements.transforms
  have routine : (Routine.ofBinding behaviour binding).Implements reliance collecting
      (binding.routine plain) :=
    Routine.Implements.andThen (Routine.implements_sequence own)
      (Routine.implements_sequence shared)
  exact routine ready tag shown depicts _ _ (depicts.part binding.definition.tagProperty)

end Evaluation

/-- Where a list stands in which the values of a property are collected: the property holds it, and
has its items in the portrait, or no property does. -/
inductive Scene.Stands (scene : Scene F M) (document : TagBinding.Document F) (key : String)
    (address : Address) : Option (List (TagBinding.Value F)) → Prop where
  /-- The property holds it. -/
  | attached {items : List (TagBinding.Value F)}
      (held : scene.document.get? key = some (.list address))
      (read : document.get? key = some (.list items)) : Stands scene document key address (some items)
  /-- No property does. -/
  | stray (unheld : ∀ name, scene.document.get? name ≠ some (.list address)) :
      Stands scene document key address none

/-- A list in which values are collected stays where it stands, until a reply assigns the property;
then no property holds it. -/
theorem Scene.Stands.after {reliance : Reliance F M} {collecting : String → Prop}
    {kept wider : Address → Prop} {scene : Scene F M} {document : TagBinding.Document F}
    {key : String} {address : Address} {items? : Option (List (TagBinding.Value F))}
    (stands : scene.Stands document key address items?)
    (ready : scene.Ready reliance collecting kept document) (outside : ¬ kept address)
    (known : scene.heap.Knows address) {reply : Reply F M} {shown : TagBinding.Reply F}
    (same : reply.Matches reliance collecting kept scene document shown wider) :
    (scene.after reply).Stands (document.editAll shown.edits) key address
      (if shown.assigns key then none else items?) := by
  have missed : ∀ name, shown.assigns name = true →
      (scene.after reply).document.get? name ≠ some (.list address) := by
    intro name bound found
    rcases same.fresh address (same.assigned name address bound found known) with mine | unknown
    · exact outside mine
    · exact unknown known
  cases stands with
  | attached held read =>
    cases bound : shown.assigns key with
    | true =>
      refine .stray fun name found => ?_
      cases own : shown.assigns name with
      | true => exact missed name own found
      | false =>
        have different : name ≠ key := by
          rintro rfl
          rw [bound] at own
          cases own
        rw [same.untouched name own] at found
        exact outside (ready.apart name key address different found held)
    | false =>
      refine .attached ((same.untouched key bound).trans held) ?_
      have none := (TagBinding.lastAssigned_eq_none_iff key shown.edits).mpr bound
      rw [TagBinding.Document.get?_editAll, none, Option.none_or, read]
  | stray unheld =>
    rw [ite_self]
    refine .stray fun name found => ?_
    cases own : shown.assigns name with
    | true => exact missed name own found
    | false => exact unheld name ((same.untouched name own).symm.trans found)

/-- That a live pass, or a part of one, has a plain pass for its portrait: the scene at the end has
the portrait that the plain pass ends with, both end early for a like reason or not at all, with as
many reports and the same debug lines. -/
structure Pass.Portrays (reliance : Reliance F M) (collecting : String → Prop) (pass : Pass F M)
    (shown : TagBinding.Pass F) : Prop where
  /-- The scene at the end has the portrait that the plain pass ends with. -/
  scene : ∃ kept, pass.scene.Ready reliance collecting kept shown.document
  /-- Both end early for a like fault, or neither does. -/
  fault? : Option.Rel Fault.Alike pass.fault? shown.fault?
  /-- They report as often. -/
  reports : pass.messages.length = shown.messages.length
  /-- They have the same debug lines. -/
  debugLines : pass.debugLines = shown.debugLines

namespace Pass.Portrays

variable {reliance : Reliance F M} {collecting : String → Prop} {kept : Address → Prop}
  {scene : Scene F M} {document : TagBinding.Document F} {pass : Pass F M}
  {shown : TagBinding.Pass F}

/-- A pass comes to its end when its portrait does, and only then. -/
theorem fault?_eq_none_iff (parts : Pass.Portrays reliance collecting pass shown) :
    pass.fault? = none ↔ shown.fault? = none := by
  have faults := parts.fault?
  generalize pass.fault? = live at faults
  generalize shown.fault? = plain at faults
  cases faults <;> simp

/-- A fault that does not speak of a list that is missing ends a pass and its portrait alike. -/
theorem fault?_eq_some (parts : Pass.Portrays reliance collecting pass shown) {fault : Fault F}
    (stopped : shown.fault? = some fault) (other : ∀ held, fault ≠ .notAList held) :
    pass.fault? = some fault := by
  have faults := parts.fault?
  rw [stopped] at faults
  generalize pass.fault? = live at faults
  cases faults with
  | some alike =>
    cases alike with
    | same => rfl
    | notAList kind => exact absurd rfl (other _)

/-- Parts that do nothing are portrayed. -/
theorem still (ready : scene.Ready reliance collecting kept document) :
    Pass.Portrays reliance collecting (.still scene) (.still document) :=
  ⟨⟨kept, ready⟩, .none, rfl, rfl⟩

/-- Parts that come to nothing for like faults are portrayed. -/
theorem failed (ready : scene.Ready reliance collecting kept document) {fault other : Fault F}
    (alike : Fault.Alike fault other) :
    Pass.Portrays reliance collecting (.failed scene fault) (.failed document other) :=
  ⟨⟨kept, ready⟩, .some alike, rfl, rfl⟩

/-- Parts stay portrayed when events that are no reports, and have the same debug lines, come before
them. -/
theorem after (parts : Pass.Portrays reliance collecting pass shown) {event : Event F M}
    {plain : TagBinding.Event F} (lines : event.debugLines = plain.debugLines)
    (quiet : event.message? = none) (silent : plain.message? = none) :
    Pass.Portrays reliance collecting (pass.after event) (shown.after plain) where
  scene := parts.scene
  fault? := parts.fault?
  reports := by
    have one : (pass.after event).messages = pass.messages := List.filterMap_cons_none quiet
    have other : (shown.after plain).messages = shown.messages := List.filterMap_cons_none silent
    rw [one, other, parts.reports]
  debugLines := by
    show event.debugLines ++ pass.debugLines = plain.debugLines ++ shown.debugLines
    rw [lines, parts.debugLines]

/-- Parts in a row are portrayed when the first ones are, and the second ones in every scene with its
portrait. -/
theorem andThen (parts : Pass.Portrays reliance collecting pass shown)
    {next : Scene F M → Pass F M} {again : TagBinding.Document F → TagBinding.Pass F}
    (later : ∀ {kept scene document}, scene.Ready reliance collecting kept document →
      Pass.Portrays reliance collecting (next scene) (again document)) :
    Pass.Portrays reliance collecting (pass.andThen next) (shown.andThen again) := by
  obtain ⟨⟨kept, ready⟩, faults, reports, lines⟩ := parts
  cases failed : pass.fault? with
  | some fault =>
    rw [failed] at faults
    cases stopped : shown.fault? with
    | none =>
      rw [stopped] at faults
      cases faults
    | some other =>
      rw [stopped] at faults
      rw [andThen_of_fault _ failed, TagBinding.Pass.andThen_of_fault _ stopped]
      exact ⟨⟨kept, ready⟩, by rwa [failed, stopped], reports, lines⟩
  | none =>
    rw [failed] at faults
    cases stopped : shown.fault? with
    | some other =>
      rw [stopped] at faults
      cases faults
    | none =>
      rw [andThen_of_none _ failed, TagBinding.Pass.andThen_of_none _ stopped]
      obtain ⟨scene, fault?, others, rest⟩ := later ready
      refine ⟨scene, fault?, ?_, ?_⟩
      · simp only [Pass.messages, TagBinding.Pass.messages, List.filterMap_append,
          List.length_append] at reports others ⊢
        rw [reports, others]
      · simp only [Pass.debugLines, TagBinding.Pass.debugLines, List.flatMap_append] at lines rest ⊢
        rw [lines, rest]

end Pass.Portrays

section Engine

variable {reliance : Reliance F M} {collecting : String → Prop} {behaviour : Behaviour F M}
  {plain : TagBinding.Behaviour F} {binding : Binding F}
  (implements : Binding.Implements reliance collecting behaviour plain binding)
  (collects : Binding.Collects collecting binding) {kept : Address → Prop} {scene : Scene F M}
  {document : TagBinding.Document F}

include implements

/-- Collecting values in a list that belongs to a property alone, or is held by none any more, is
portrayed by plain collecting. -/
theorem collect_portrayed (ready : scene.Ready reliance collecting kept document)
    {address : Address} (outside : ¬ kept address) (known : scene.heap.Knows address)
    {items? : Option (List (TagBinding.Value F))}
    (stands : scene.Stands document binding.target address items?) {tags : List (Tag F)}
    {shownTags : List (TagBinding.Tag F)}
    (each : List.Forall₂ (scene.heap.DepictsTag kept) tags shownTags) :
    Pass.Portrays reliance collecting (collect behaviour binding address tags scene)
      (binding.collect plain items? shownTags document) := by
  -- On the tags that are left. What may be held anywhere, and where the list stands, change with
  -- every tag; that it is not of the former stays.
  induction tags generalizing scene document kept items? shownTags with
  | nil =>
    cases each
    exact .still ready
  | cons tag rest ih =>
    cases each with
    | cons head tail =>
      rename_i shown others
      obtain ⟨wider, same⟩ := implements.evaluate ready head
      have moved := stands.after ready outside known same
      have stays : ¬ wider address := fun inside =>
        (same.fresh address inside).elim outside fun unknown => unknown known
      have there := same.larger.knows known
      have left := tail.imp fun _ _ depicts => same.depictsTag ready depicts
      unfold collect TagBinding.Binding.collect
      dsimp only
      refine .after ?_ rfl rfl rfl
      rcases same.outcome.cases with ⟨message, live, given⟩ | ⟨value, result, live, given, depicts⟩
      · simp only [live, given]
        exact .failed same.ready (.same _)
      · simp only [live, given]
        have closed := same.ready.closed
        have pushed : Heap.SameOn wider (scene.after _).heap
            ((scene.after (evaluate behaviour binding tag scene)).push address value).heap :=
          Heap.sameOn_put stays _
        have relied := reliance.stable same.ready.relied (fun _ inside => inside) pushed
        have later := left.imp fun _ _ depicts =>
          depicts.transfer closed pushed fun _ inside => inside
        generalize (if (binding.evaluate plain shown document).assigns binding.target then none
          else items?) = now at moved
        cases moved with
        | attached held read =>
          have grown := same.ready.grow stays held read depicts
          refine ih ⟨grown, relied⟩ stays there (.attached held ?_) later
          rw [TagBinding.Document.get?_assign, if_pos rfl]
        | stray unheld =>
          exact ih ⟨same.ready.push_stray stays unheld value, relied⟩ stays there (.stray unheld)
            later

include collects

/-- Collecting into the target is portrayed by plain collecting. -/
theorem extractAll_portrayed (ready : scene.Ready reliance collecting kept document)
    (multi : binding.definition.multi = true) {tags : List (Tag F)}
    {shownTags : List (TagBinding.Tag F)}
    (each : List.Forall₂ (scene.heap.DepictsTag kept) tags shownTags) :
    Pass.Portrays reliance collecting (extractAll behaviour binding tags scene)
      (binding.extractAll plain shownTags document) := by
  unfold extractAll TagBinding.Binding.extractAll
  rcases ready.toPortrays.collected (collects.mp multi) with refused | found
  · obtain ⟨held, shown, live, given, kind⟩ := refused
    simp only [live, given]
    exact .failed ready (.notAList kind)
  · obtain ⟨address, start, items, live, given, outside, known, held, larger, memory, portrays⟩ :=
      found
    have same : Heap.SameOn kept scene.heap start.heap :=
      fun address inside => (larger.items address (ready.known address inside)).symm
    have relied := reliance.stable ready.relied (fun _ inside => inside) same
    simp only [live, given]
    refine collect_portrayed implements ⟨portrays, memory ▸ relied⟩ outside known
      (.attached held ?_) ?_
    · rw [TagBinding.Document.get?_assign, if_pos rfl]
    · exact each.imp fun _ _ depicts => depicts.transfer ready.closed same fun _ inside => inside

/-- Writing the value of an only tag is portrayed by plain writing. -/
theorem extractOnly_portrayed (ready : scene.Ready reliance collecting kept document)
    (single : binding.definition.multi = false) {tag : Tag F} {shown : TagBinding.Tag F}
    (depicts : scene.heap.DepictsTag kept tag shown) :
    Pass.Portrays reliance collecting (extractOnly behaviour binding tag scene)
      (binding.extractOnly plain shown document) := by
  obtain ⟨wider, same⟩ := implements.evaluate ready depicts
  have outcome := same.outcome
  have uncollected := collects.not_of_single single
  unfold extractOnly TagBinding.Binding.extractOnly
  dsimp only
  refine .after ?_ rfl rfl rfl
  generalize (evaluate behaviour binding tag scene).outcome = live at outcome
  generalize (binding.evaluate plain shown document).outcome = given at outcome
  cases outcome with
  | error message => exact .failed same.ready (.same _)
  | ok depicts =>
    exact .still ⟨same.ready.assign_given uncollected depicts, same.ready.relied⟩

omit implements in
/-- Writing a default value is portrayed by plain writing. -/
theorem writeDefault_portrayed (ready : scene.Ready reliance collecting kept document)
    {value : Value F} {shown : TagBinding.Value F} (depicts : scene.heap.Depicts kept value shown) :
    Pass.Portrays reliance collecting (writeDefault binding value scene)
      (binding.writeDefault shown document) := by
  unfold writeDefault TagBinding.Binding.writeDefault
  cases multi : binding.definition.multi with
  | false =>
    have uncollected := collects.not_of_single multi
    rw [if_neg Bool.false_ne_true, if_neg Bool.false_ne_true]
    exact .still ⟨ready.toPortrays.assign_given uncollected depicts, ready.relied⟩
  | true =>
    rw [if_pos rfl, if_pos rfl]
    rcases ready.toPortrays.collected (collects.mp multi) with refused | found
    · obtain ⟨held, plain, live, given, kind⟩ := refused
      simp only [live, given]
      exact .failed ready (.notAList kind)
    · obtain ⟨address, start, items, live, given, outside, known, held, larger, memory, portrays⟩ :=
        found
      have same : Heap.SameOn kept scene.heap start.heap :=
        fun address inside => (larger.items address (ready.known address inside)).symm
      have pushed : Heap.SameOn kept start.heap (start.push address value).heap :=
        Heap.sameOn_put outside _
      have relied := reliance.stable ready.relied (fun _ inside => inside) same
      have read : (document.assign binding.target (.list items)).get? binding.target =
          some (.list items) := by
        rw [TagBinding.Document.get?_assign, if_pos rfl]
      have grown := portrays.grow outside held read
        (depicts.transfer ready.closed same fun _ inside => inside)
      rw [TagBinding.Document.assign_assign] at grown
      simp only [live, given]
      refine .still ⟨grown, ?_⟩
      exact reliance.stable (memory ▸ relied) (fun _ inside => inside) pushed

/-- Doing without a tag is portrayed by plainly doing without one. -/
theorem extractDefault_portrayed (ready : scene.Ready reliance collecting kept document) :
    Pass.Portrays reliance collecting (extractDefault behaviour binding scene)
      (binding.extractDefault plain document) := by
  cases required : binding.definition.required with
  | true =>
    rw [extractDefault_of_required behaviour binding required,
      TagBinding.Binding.extractDefault_of_required plain binding required, ready.file,
      ready.startingLine]
    exact .failed ready (.same _)
  | false =>
    cases default : binding.definition.defaultFn with
    | none =>
      rw [extractDefault_of_none behaviour binding required default,
        TagBinding.Binding.extractDefault_of_none plain binding required default]
      exact .still ready
    | some function =>
      obtain ⟨wider, same⟩ := implements.default function default ready
      rcases same.outcome.cases with ⟨message, live, given⟩ | ⟨value, shown, live, given, depicts⟩
      · rw [extractDefault_of_error behaviour binding required default live,
          TagBinding.Binding.extractDefault_of_error plain binding required default given]
        exact .after (.failed same.ready (.same _)) rfl rfl rfl
      · by_cases null : value = .null
        · have also := depicts.shows.null_iff.mp null
          subst null also
          rw [extractDefault_of_null behaviour binding required default live,
            TagBinding.Binding.extractDefault_of_null plain binding required default given]
          exact .after (.still same.ready) rfl rfl rfl
        · have also := mt depicts.shows.null_iff.mpr null
          rw [extractDefault_of_value behaviour binding required default live null,
            TagBinding.Binding.extractDefault_of_value plain binding required default given also]
          exact .after (writeDefault_portrayed collects same.ready depicts) rfl rfl rfl

/-- The live extraction of a binding is portrayed by its plain extraction. -/
theorem extract_portrayed (ready : scene.Ready reliance collecting kept document) :
    Pass.Portrays reliance collecting (extract behaviour binding scene)
      (binding.extract plain document) := by
  have each := ready.toPortrays.named binding.name
  unfold extract TagBinding.Binding.extract
  refine .after ?_ rfl rfl rfl
  generalize scene.document.named binding.name = tags at each
  generalize document.tags.named binding.name = shownTags at each
  cases each with
  | nil => exact extractDefault_portrayed implements collects ready
  | cons head tail =>
    dsimp only
    cases multi : binding.definition.multi with
    | true =>
      rw [if_pos rfl, if_pos rfl]
      exact extractAll_portrayed implements collects ready multi (.cons head tail)
    | false =>
      rw [if_neg Bool.false_ne_true, if_neg Bool.false_ne_true]
      have count := tail.length_eq
      cases tail with
      | nil => exact extractOnly_portrayed implements collects ready multi head
      | cons second others =>
        rw [if_neg (by simp), if_neg (by simp), count, ready.file, ready.startingLine]
        exact .failed ready (.same _)

end Engine

/-- A report is portrayed by a report. -/
theorem report_portrayed {reliance : Reliance F M} {collecting : String → Prop}
    {kept : Address → Prop} {scene : Scene F M} {document : TagBinding.Document F}
    (ready : scene.Ready reliance collecting kept document) :
    Pass.Portrays reliance collecting scene.report document.report := by
  have each := ready.bad
  unfold Scene.report TagBinding.Document.report
  generalize scene.document.bad = tags at each
  generalize document.tags.bad = shown at each
  cases each with
  | nil => exact .still ready
  | cons head tail => exact ⟨⟨kept, ready⟩, .none, rfl, rfl⟩

/-- A live pass over bindings whose functions implement plain ones is portrayed by the plain pass,
from every scene on that has a portrait. -/
theorem extractPass_portrayed {reliance : Reliance F M} {collecting : String → Prop}
    {behaviour : Behaviour F M} {plain : TagBinding.Behaviour F} {bindings : List (Binding F)}
    (implements : ∀ binding ∈ bindings,
      Binding.Implements reliance collecting behaviour plain binding)
    (collects : ∀ binding ∈ bindings, Binding.Collects collecting binding) {kept : Address → Prop}
    {scene : Scene F M} {document : TagBinding.Document F}
    (ready : scene.Ready reliance collecting kept document) :
    Pass.Portrays reliance collecting (extractPass behaviour bindings scene)
      (TagBinding.extractPass plain bindings document) := by
  induction bindings generalizing kept scene document with
  | nil => exact .still ready
  | cons binding rest ih =>
    obtain ⟨head, tail⟩ := List.forall_mem_cons.mp implements
    obtain ⟨first, others⟩ := List.forall_mem_cons.mp collects
    exact ((extract_portrayed head first ready).andThen report_portrayed).andThen
      fun later => ih tail others later

/-- The extraction of a document of a session leaves a scene with the portrait that the plain pass
leaves, succeeds when that does, and records as many reports. -/
theorem Session.extractWith_portrayed {reliance : Reliance F M} {collecting : String → Prop}
    {behaviour : Behaviour F M} {plain : TagBinding.Behaviour F} {kept : Address → Prop}
    {session : Session F M} {index : Nat} {live : Document F} {document : TagBinding.Document F}
    (present : session.documents[index]? = some live)
    (ready : (session.sceneOf live).Ready reliance collecting kept document)
    (extractor : Extractor F) (implements : ∀ binding ∈ extractor.bindings,
      Binding.Implements reliance collecting behaviour plain binding)
    (collects : ∀ binding ∈ extractor.bindings, Binding.Collects collecting binding)
    (thread : Thread) :
    let step := session.extractWith behaviour thread extractor index
    let pass := TagBinding.extractPass plain extractor.bindings document
    (∃ after wider, step.session.documents[index]? = some after ∧
      (step.session.sceneOf after).Ready reliance collecting wider pass.document) ∧
      (step.answer = .ok () ↔ pass.fault? = none) ∧
      (extractor.sink = .record → step.output.reports.length = pass.messages.length) := by
  intro step pass
  have portrayed := extractPass_portrayed implements collects ready
  obtain ⟨wider, left⟩ := portrayed.scene
  obtain ⟨after, same, ends⟩ := session.extractWith_leaves thread behaviour extractor present
  refine ⟨⟨_, wider, after, ?_⟩, ends.trans portrayed.fault?_eq_none_iff, fun record => ?_⟩
  · rw [same]
    exact left
  · obtain ⟨bindings, sink⟩ := extractor
    obtain rfl : sink = .record := record
    have reports := session.reports_extractWith_record thread behaviour bindings present
    rw [show step.output.reports = _ from reports, List.length_map]
    exact portrayed.reports

end TagBinding.Live
