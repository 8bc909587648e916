import TagBinding.Proofs.Live.Deliveries
import TagBinding.Proofs.Warnings
import TagBinding.Stock.Standard

/-!
# The warnings of a live pass

A pass over a document with bad tags reports it behind every binding that is done, whatever the
functions do: no tag is ever dropped. When the reports go to a reporter that drops repetitions, it
writes those that differ from the one before. What a report says is decided by the identifier, the
name and the bad tags of the document, and by the lists that these hold. So if the bindings behind
the first one write neither of the two properties, collect in none of these lists, and have functions
that leave all of this alone (`Scene.Spares`), the pass writes a single warning
(`Session.warnings_of_pass`). That the lists are left alone has to be asked for: the identifier may
be the list in which a later binding collects (`warnings_sharing`).
-/
namespace TagBinding.Live

variable {F M : Type}

/-- That an edit leaves the properties, the tags and the lists of a set alone. It may make lists, and
give items to lists that are not of the set. -/
def Edit.Spares (kept : Address → Prop) : Edit F → Prop
  | .assign _ _ | .attach _ => False
  | .make _ _ => True
  | .put address _ => ¬ kept address

namespace Scene

/-- That nothing a report on bad tags says has changed from one scene to another one: neither the
identifier, the name, the bad tags and the place of the document, nor the lists of a set. -/
structure Spares (kept : Address → Prop) (before after : Scene F M) : Prop where
  /-- The lists that there were are there. -/
  known : ∀ address, before.heap.Knows address → after.heap.Knows address
  /-- The lists of the set that there were hold the same. -/
  items : ∀ address, kept address → before.heap.Knows address →
    after.heap.items address = before.heap.items address
  /-- The identifier and the name are the same. -/
  label : ∀ key, key = "id" ∨ key = "name" →
    after.document.get? key = before.document.get? key
  /-- The bad tags are the same. -/
  bad : after.document.bad = before.document.bad
  /-- The file is the same. -/
  file : after.document.file = before.document.file
  /-- The line is the same. -/
  startingLine : after.document.startingLine = before.document.startingLine

/-- That the lists of a closed set are there, and that the identifier, the name and the bad tags of
the document hold no other ones. -/
structure Labelled (kept : Address → Prop) (scene : Scene F M) : Prop where
  /-- The set is closed. -/
  closed : scene.heap.Closed kept
  /-- Its lists are there. -/
  known : ∀ address, kept address → scene.heap.Knows address
  /-- The identifier and the name are within the set. -/
  label : ∀ key, key = "id" ∨ key = "name" → ∀ value, scene.document.get? key = some value →
    value.Within kept
  /-- The bad tags are within the set. -/
  bad : ∀ tag ∈ scene.document.bad, tag.Within kept

namespace Spares

variable {kept : Address → Prop} {first second third scene : Scene F M}

/-- A scene spares itself. -/
@[refl] theorem refl (scene : Scene F M) : scene.Spares kept scene :=
  ⟨fun _ => id, fun _ _ _ => rfl, fun _ _ => rfl, rfl, rfl, rfl⟩

/-- What is spared twice is spared. -/
theorem trans (former : first.Spares kept second) (latter : second.Spares kept third) :
    first.Spares kept third where
  known address there := latter.known address (former.known address there)
  items address inside there :=
    (latter.items address inside (former.known address there)).trans
      (former.items address inside there)
  label key named := (latter.label key named).trans (former.label key named)
  bad := latter.bad.trans former.bad
  file := latter.file.trans former.file
  startingLine := latter.startingLine.trans former.startingLine

/-- Lists that are made spare what there is. -/
theorem of_extends {after : Scene F M} (larger : scene.heap.Extends after.heap)
    (document : after.document = scene.document) : scene.Spares kept after where
  known _ := larger.knows
  items address _ there := larger.items address there
  label key _ := by rw [document]
  bad := by rw [document]
  file := by rw [document]
  startingLine := by rw [document]

/-- Other items for a list outside of the set spare the set. -/
theorem put {address : Address} (outside : ¬ kept address) (items : List (Value F)) :
    scene.Spares kept { scene with heap := scene.heap.put address items } where
  known _ := id
  items _ inside _ := (Heap.sameOn_put outside items _ inside).symm
  label _ _ := rfl
  bad := rfl
  file := rfl
  startingLine := rfl

/-- A value at the end of a list outside of the set spares the set. -/
theorem push {address : Address} (outside : ¬ kept address) (value : Value F) :
    scene.Spares kept (scene.push address value) := .put outside _

/-- An assignment to another property spares the identifier and the name. -/
theorem assign {key : String} (other : key ≠ "id" ∧ key ≠ "name") (value : Value F) :
    scene.Spares kept (scene.assign key value) where
  known _ := id
  items _ _ _ := rfl
  label name named := by
    have different : name ≠ key := by
      rcases named with rfl | rfl
      · exact other.1.symm
      · exact other.2.symm
    exact (scene.document.get?_assign key value name).trans (if_neg different)
  bad := rfl
  file := rfl
  startingLine := rfl

/-- Edits that spare a set lead to a scene in which it is spared. -/
theorem editAll {edits : List (Edit F)} (each : ∀ edit ∈ edits, edit.Spares kept) :
    scene.Spares kept (scene.editAll edits) := by
  induction edits generalizing scene with
  | nil => rfl
  | cons edit rest ih =>
    obtain ⟨head, tail⟩ := List.forall_mem_cons.mp each
    refine trans ?_ (ih tail)
    cases edit with
    | assign key value => exact head.elim
    | attach tag => exact head.elim
    | make region items => exact of_extends (scene.heap.extends_make region items) rfl
    | put address items => exact put head items

/-- A reply whose edits spare a set leads to a scene in which it is spared. -/
theorem after {reply : Reply F M} (each : ∀ edit ∈ reply.edits, edit.Spares kept) :
    scene.Spares kept (scene.after reply) := by
  have spared : scene.Spares kept (scene.editAll reply.edits) := editAll each
  exact ⟨spared.known, spared.items, spared.label, spared.bad, spared.file, spared.startingLine⟩

/-- What a report says stays within the set. -/
theorem labelled (spares : first.Spares kept second) (labelled : first.Labelled kept) :
    second.Labelled kept where
  closed := labelled.closed.of_sameOn fun address inside =>
    (spares.items address inside (labelled.known address inside)).symm
  known address inside := spares.known address (labelled.known address inside)
  label key named value held := labelled.label key named value (spares.label key named ▸ held)
  bad := spares.bad ▸ labelled.bad

/-- A report says the same in a scene in which everything is spared that it says. -/
theorem badTagReport_eq (spares : first.Spares kept second) (labelled : first.Labelled kept) :
    second.badTagReport = first.badTagReport := by
  have same : Heap.SameOn kept first.heap second.heap := fun address inside =>
    (spares.items address inside (labelled.known address inside)).symm
  refine (badTagReport_congr spares.file.symm spares.startingLine.symm ?_ ?_).symm
  · intro key named
    rw [spares.label key named]
    cases held : first.document.get? key with
    | none => rw [Option.map_none, Option.map_none]
    | some value =>
      have within := labelled.label key named value held
      rw [Option.map_some, Option.map_some, Heap.read_congr labelled.closed same within]
  · rw [spares.bad]
    exact List.map_congr_left fun tag inside =>
      Heap.readTag_congr labelled.closed same (labelled.bad tag inside)

end Spares

end Scene

section Extraction

variable {behaviour : Behaviour F M} {kept : Address → Prop} {binding : Binding F}
  {scene : Scene F M}

/-- That the functions of a binding spare a set of lists, and that its target is neither the identifier
nor the name. -/
structure Binding.Spares (behaviour : Behaviour F M) (kept : Address → Prop)
    (binding : Binding F) : Prop where
  /-- The transforms do. -/
  transforms : ∀ function ∈ binding.transforms, (behaviour function).Only (Edit.Spares kept)
  /-- The default function does. -/
  default : ∀ function ∈ binding.definition.defaultFn,
    (behaviour function).Only (Edit.Spares kept)
  /-- The target is another property. -/
  target : binding.target ≠ "id" ∧ binding.target ≠ "name"

/-- That the list that a property holds, if it holds one, is outside of a set. -/
def Scene.HoldsOutside (kept : Address → Prop) (scene : Scene F M) (key : String) : Prop :=
  ∀ address, scene.document.get? key = some (.list address) → ¬ kept address

/-- The list in which values are collected is outside of the set, and making it spares the set. -/
theorem Scene.CollectsIn.spares {key : String} {address : Address} {start : Scene F M}
    (collects : scene.CollectsIn key address start) (other : key ≠ "id" ∧ key ≠ "name")
    (known : ∀ address, kept address → scene.heap.Knows address)
    (outside : scene.HoldsOutside kept key) : ¬ kept address ∧ scene.Spares kept start := by
  cases collects with
  | found held => exact ⟨outside address held, .refl scene⟩
  | made absent =>
    refine ⟨fun inside => scene.heap.not_knows_next scene.document.home (known _ inside), ?_⟩
    let made : Scene F M := { scene with heap := scene.heap.make scene.document.home [] }
    have larger : scene.Spares kept made :=
      .of_extends (scene.heap.extends_make scene.document.home []) rfl
    exact larger.trans (.assign other _)

variable (spares : Binding.Spares behaviour kept binding)

include spares

/-- Collecting into a list outside of the set spares the set. -/
theorem collect_spares {address : Address} (outside : ¬ kept address) (tags : List (Tag F))
    (scene : Scene F M) :
    scene.Spares kept (collect behaviour binding address tags scene).scene := by
  induction tags generalizing scene with
  | nil => exact .refl scene
  | cons tag rest ih =>
    have edited : scene.Spares kept (scene.after (evaluate behaviour binding tag scene)) :=
      .after (only_evaluate spares.transforms tag scene)
    simp only [collect, Pass.scene_after]
    cases (evaluate behaviour binding tag scene).outcome with
    | error message => exact edited
    | ok value => exact (edited.trans (.push outside value)).trans (ih _)

variable (known : ∀ address, kept address → scene.heap.Knows address)
  (outside : binding.definition.multi = true → scene.HoldsOutside kept binding.target)

include known outside

/-- Collecting into the target spares the set. -/
theorem extractAll_spares (multi : binding.definition.multi = true) (tags : List (Tag F)) :
    scene.Spares kept (extractAll behaviour binding tags scene).scene := by
  by_cases growable : scene.CanCollect binding.target
  · obtain ⟨address, start, opened, collects⟩ := Scene.collected_of_canCollect growable
    obtain ⟨apart, made⟩ := collects.spares spares.target known (outside multi)
    simp only [extractAll, opened]
    exact made.trans (collect_spares spares apart tags start)
  · obtain ⟨held, -, -, -, refused⟩ := extractAll_of_fixed behaviour binding growable tags
    rw [refused]
    rfl

/-- Writing a default value spares the set. -/
theorem writeDefault_spares (value : Value F) :
    scene.Spares kept (writeDefault binding value scene).scene := by
  cases multi : binding.definition.multi with
  | false =>
    rw [writeDefault_of_single binding multi]
    exact .assign spares.target value
  | true =>
    by_cases growable : scene.CanCollect binding.target
    · obtain ⟨address, start, collects, written⟩ :=
        writeDefault_of_growable binding multi growable value
      obtain ⟨apart, made⟩ := collects.spares spares.target known (outside multi)
      rw [written]
      exact made.trans (.push apart value)
    · obtain ⟨held, -, -, -, refused⟩ := writeDefault_of_fixed binding multi growable value
      rw [refused]
      rfl

/-- Doing without a tag spares the set. -/
theorem extractDefault_spares :
    scene.Spares kept (extractDefault behaviour binding scene).scene := by
  cases required : binding.definition.required with
  | true =>
    rw [extractDefault_of_required behaviour binding required]
    rfl
  | false =>
    cases default : binding.definition.defaultFn with
    | none =>
      rw [extractDefault_of_none behaviour binding required default]
      rfl
    | some function =>
      have sparing := spares.default function default scene none .null
      have edited : scene.Spares kept (scene.after (behaviour function scene none .null)) :=
        .after sparing
      cases given : (behaviour function scene none .null).outcome with
      | error message =>
        rw [extractDefault_of_error behaviour binding required default given]
        exact edited
      | ok value =>
        by_cases null : value = .null
        · subst null
          rw [extractDefault_of_null behaviour binding required default given]
          exact edited
        · -- The function assigns nothing, so that the target holds what it held.
          have free : ∀ edit ∈ (behaviour function scene none .null).edits, ∀ key,
              edit.assigns key = false := by
            intro edit made key
            cases edit with
            | assign assigned value => exact (sparing _ made).elim
            | _ => rfl
          have same := scene.properties_editAll_of_free _ free
          have still : binding.definition.multi = true →
              (scene.after (behaviour function scene none .null)).HoldsOutside kept
                binding.target :=
            fun multi address held => outside multi address
              ((congrArg (Table.get? · binding.target) same).symm.trans held)
          rw [extractDefault_of_value behaviour binding required default given null,
            Pass.scene_after]
          exact edited.trans (writeDefault_spares spares
            (fun address inside => edited.known address (known address inside)) still value)

/-- The extraction of a binding spares the set, if the target holds no list of the set in which
values are collected. -/
theorem extract_spares : scene.Spares kept (extract behaviour binding scene).scene := by
  cases found : scene.document.named binding.name with
  | nil =>
    rw [extract_of_nil behaviour binding found]
    exact extractDefault_spares spares known outside
  | cons tag rest =>
    cases multi : binding.definition.multi with
    | true =>
      rw [extract_of_multi behaviour binding (by simp [found]) multi, found]
      exact extractAll_spares spares known outside multi (tag :: rest)
    | false =>
      cases rest with
      | nil =>
        rw [extract_of_only behaviour binding found multi]
        have edited : scene.Spares kept (scene.after (evaluate behaviour binding tag scene)) :=
          .after (only_evaluate spares.transforms tag scene)
        cases given : (evaluate behaviour binding tag scene).outcome with
        | error message =>
          rw [extractOnly_of_error behaviour binding given]
          exact edited
        | ok value =>
          rw [extractOnly_of_ok behaviour binding given]
          exact edited.trans (.assign spares.target value)
      | cons second others =>
        rw [extract_of_several behaviour binding (by simp [found]) multi]
        exact .refl scene

end Extraction

section Checkpoints

variable {behaviour : Behaviour F M} {kept : Address → Prop}

/-- When all bindings spare what a report says, and collect in no list of it, every checkpoint is
reported like the start. -/
theorem badTagReport_of_mem_checkpoints (bindings : List (Binding F)) (scene : Scene F M)
    (labelled : scene.Labelled kept)
    (spares : ∀ binding ∈ bindings, Binding.Spares behaviour kept binding)
    (outside : ∀ before binding after, bindings = before ++ binding :: after →
      binding.definition.multi = true → (extractPass behaviour before scene).fault? = none →
      (extractPass behaviour before scene).scene.HoldsOutside kept binding.target) :
    ∀ checkpoint ∈ checkpoints behaviour bindings scene,
      checkpoint.badTagReport = scene.badTagReport := by
  induction bindings generalizing scene with
  | nil => simp [checkpoints]
  | cons binding rest ih =>
    obtain ⟨head, tail⟩ := List.forall_mem_cons.mp spares
    cases first : (extract behaviour binding scene).fault? with
    | some fault => simp [checkpoints_cons_of_fault behaviour binding rest scene first]
    | none =>
      have spared := extract_spares head labelled.known fun multi =>
        outside [] binding rest rfl multi rfl
      have same := spared.badTagReport_eq labelled
      rw [checkpoints_cons_of_none behaviour binding rest scene first]
      refine List.forall_mem_cons.mpr ⟨same, fun checkpoint inside => ?_⟩
      refine (ih _ (spared.labelled labelled) tail ?_ checkpoint inside).trans same
      intro before other after split multi done
      obtain ⟨sameScene, sameFault⟩ :=
        extractPass_cons_of_none behaviour binding before scene first
      have there := outside (binding :: before) other after (by rw [split]; rfl) multi
        (sameFault.trans done)
      rwa [sameScene] at there

end Checkpoints

/-- The warnings of messages on a document to a reporter are those that it writes for them. -/
theorem warnings_deliverEach {reporters : List Reporter} (thread : Thread) {place : Nat}
    {reporter : Reporter} (listening : reporters[place]? = some reporter) (index : Nat)
    (messages : List String) :
    (deliverEach reporters thread (.reporter place) index messages).2.warnings =
      reporter.writtenOn thread (messages.map fun message => ⟨thread, some ⟨index, message⟩⟩) := by
  have run : ∀ (messages : List String) (reporter : Reporter) (kept : List Reporter × Output),
      kept.1[place]? = some reporter →
      (messages.foldl (deliverNext thread (.reporter place) index) kept).2.warnings =
        kept.2.warnings ++ reporter.writtenOn thread
          (messages.map fun message => ⟨thread, some ⟨index, message⟩⟩) := by
    intro messages
    induction messages with
    | nil => exact fun reporter kept _ => (List.append_nil _).symm
    | cons message rest ih =>
      intro reporter kept found
      have inside : place < kept.1.length := (List.getElem?_eq_some_iff.mp found).1
      have received : deliver kept.1 thread (.reporter place) ⟨index, message⟩ =
          (kept.1.set place (reporter.receive thread ⟨index, message⟩),
            ⟨[], (reporter.warning? thread ⟨index, message⟩).toList, []⟩) := by
        simp only [deliver, found]
      rw [List.foldl_cons, List.map_cons, reporter.writtenOn_cons_of_eq thread _ _ rfl,
        Option.bind_some, ← List.append_assoc]
      refine (ih (reporter.receive thread ⟨index, message⟩) _ ?_).trans ?_
      · rw [deliverNext, received]
        exact List.getElem?_set_self inside
      · rw [deliverNext, received]
        rfl
  exact run messages reporter _ listening

/-- The warnings of an extraction are those that the reporter writes for the reports of its pass. -/
theorem Session.warnings_extractWith (behaviour : Behaviour F M) (session : Session F M)
    (thread : Thread) (bindings : List (Binding F)) {index place : Nat} {live : Document F}
    {reporter : Reporter} (present : session.documents[index]? = some live)
    (listening : session.reporters[place]? = some reporter) :
    (session.extractWith behaviour thread ⟨bindings, .reporter place⟩ index).output.warnings =
      reporter.writtenOn thread ((extractPass behaviour bindings (session.sceneOf live)).messages.map
        fun message => ⟨thread, some ⟨index, message⟩⟩) := by
  rw [session.extractWith_of_some thread behaviour ⟨bindings, .reporter place⟩ present]
  exact (List.append_nil _).trans (warnings_deliverEach thread listening index _)

/-- A name, titles, which are collected, and an author, who is required. -/
def naming : List (Binding Unit) :=
  [⟨.plain "name", .single (), .identity⟩,
    ⟨((Definition.plain "title").onto "titles").collecting, .single (), .identity⟩,
    ⟨{ Definition.plain "author" with required := true }, .identity, .identity⟩]

/-- A document with a name, a title and a bad tag, but without an author, and with a list of
titles. -/
def anonymous : Scene Unit Unit where
  memory := ()
  heap := Heap.empty.makeAll 0 [[], [.text "unclear"], [], [.text "T"]]
  document := ⟨0, some "a.js", some 1, .empty,
    [⟨"name", .text "A", 2, none, none, ⟨0, 0⟩⟩, ⟨"title", .text "B", 4, none, none, ⟨0, 2⟩⟩],
    [⟨"see", .null, 3, none, none, ⟨0, 1⟩⟩], .ofList [("titles", .list ⟨0, 3⟩)]⟩

/-- A session with that document and a reporter. -/
def Session.anonymous : Session Unit Unit :=
  ⟨(), Live.anonymous.heap, [Live.anonymous.document], [], [.standard]⟩

/-- An identifier and another property that one tag is put into, and values that are collected in the
other property. -/
def labelling : List (Binding Unit) :=
  [⟨(Definition.plain "a").onto "id", .identity, .identity⟩,
    ⟨(Definition.plain "a").onto "x", .identity, .identity⟩,
    ⟨((Definition.plain "b").onto "x").collecting, .identity, .identity⟩]

/-- A session with a reporter and a document that has a bad tag, and a tag that describes a list. -/
def Session.labelled : Session Unit Unit :=
  ⟨(), Heap.empty.makeAll 0 [[.text "q"], [], [], [.text "e"]],
    [⟨0, some "f", some 1, .empty,
      [⟨"a", .list ⟨0, 0⟩, 1, none, none, ⟨0, 1⟩⟩, ⟨"b", .text "B", 2, none, none, ⟨0, 2⟩⟩],
      [⟨"w", .text "bad", 3, none, none, ⟨0, 3⟩⟩], .empty⟩], [], [.standard]⟩

end TagBinding.Live
