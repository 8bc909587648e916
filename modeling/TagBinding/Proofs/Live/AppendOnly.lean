import TagBinding.Proofs.Live.Batches
import TagBinding.Proofs.Live.Growth

/-!
# Sessions only append

A command grows the documents of its session and the lists in it (`Session.grown_perform`), whether
it succeeds or ends in a fault, as long as no function gives a list other items. If the functions act
on the document that they are given only, a command leaves the documents that it does not name as
they are, with their lists (`Session.Housed.sameAt_perform`), and an extraction of documents in order
that is stopped leaves those that it has not reached as they are. The functions of the library are
such functions (`keeps_builtin`, `keeps_action`). So over a whole run no tag is lost, added twice or
reclassified, and no property is dropped or moved (`Session.append_only`).

This is said of tags as they are in use. What a tag is read as may change nevertheless, and with it
whether it would be taken for bad: the list of its errors may come to stand in a property, and then
grows with the values that are collected there.
-/
namespace TagBinding

/-- Whether a command only reads a document, or only uses a reporter. -/
def Command.leavesDocuments {F : Type} : Command F → Bool
  | .newDocument _ | .extract _ _ | .extractEach _ _ | .addTag _ _ | .assign _ _ _ => false
  | .findTags _ _ | .canonicalName _ _ | .listTags _ | .read _ _ _ | .demand _ _ | .contains _ _
  | .readId _ | .readName _ | .describeBadTags _ | .report _ _ _ | .reset _ => true

/-- There is another thread beside every thread. -/
theorem Thread.exists_ne (thread : Thread) : ∃ other : Thread, other ≠ thread := by
  cases thread with
  | main => exact ⟨.labelled "", nofun⟩
  | labelled label => exact ⟨.main, nofun⟩

namespace Live

variable {F M : Type}

/-- Making lists gives no list other items. -/
theorem keeps_make (region : Nat) (lists : List (List (Value F))) :
    ∀ edit ∈ lists.map (Edit.make region), edit.rewrites = false := by
  intro edit among
  obtain ⟨items, -, rfl⟩ := List.mem_map.mp among
  rfl

/-- The edits of a copy give no list other items if those before it do not. -/
theorem keeps_giveCopy (scene : Scene F M) {edits : List (Edit F)}
    (keeping : ∀ edit ∈ edits, edit.rewrites = false) (value : TagBinding.Value F) :
    ∀ edit ∈ (scene.giveCopy edits value).edits, edit.rewrites = false :=
  List.forall_mem_append.mpr ⟨keeping, keeps_make _ _⟩

/-- The built-in functions give no list other items. -/
theorem keeps_builtin (function : Builtin) : (builtin function : Routine F M).Keeps := by
  intro scene tag value edit made
  cases function with
  | splitLines =>
    cases value with
    | text content =>
      rw [List.mem_singleton.mp made]
      rfl
    | _ => exact absurd made List.not_mem_nil
  | _ => exact absurd made List.not_mem_nil

/-- Actions give no list other items. -/
theorem keeps_action (function : Action F) : (action function : Routine F M).Keeps := by
  intro scene tag value
  have nothing : ∀ edit ∈ ([] : List (Edit F)), edit.rewrites = false :=
    fun edit made => absurd made List.not_mem_nil
  cases function with
  | suffix _ | const _ | property _ | tagPart _ => exact keeps_giveCopy scene nothing _
  | setProperty key stored result =>
    exact keeps_giveCopy scene
      (List.forall_mem_append.mpr ⟨keeps_make _ _, List.forall_mem_singleton.mpr rfl⟩) _
  | addTag added result =>
    exact keeps_giveCopy scene
      (List.forall_mem_append.mpr ⟨keeps_make _ _, List.forall_mem_singleton.mpr rfl⟩) _
  | tagCount | fail _ => exact nothing

namespace Session

/-- That the lists and the documents of a session have grown to those of another one. There may be
more documents. -/
structure Grown (before after : Session F M) : Prop where
  /-- The lists have. -/
  heap : before.heap.Grown after.heap
  /-- Each document has. -/
  documents : ∀ (index : Nat) (document : Document F), before.documents[index]? = some document →
    ∃ later, after.documents[index]? = some later ∧ document.Grown later

namespace Grown

variable {first second third : Session F M}

/-- Every session has grown from itself. -/
@[refl] theorem refl (session : Session F M) : session.Grown session :=
  ⟨.refl _, fun _ document present => ⟨document, present, .refl document⟩⟩

/-- What has grown from what has grown from a session has grown from that session. -/
theorem trans (former : first.Grown second) (latter : second.Grown third) :
    first.Grown third where
  heap := former.heap.trans latter.heap
  documents index document present := by
    obtain ⟨middle, found, grown⟩ := former.documents index document present
    obtain ⟨last, there, more⟩ := latter.documents index middle found
    exact ⟨last, there, grown.trans more⟩

/-- A session grows when a scene takes the place of a document from which it has grown. -/
theorem putScene {session : Session F M} {index : Nat} {document : Document F}
    (present : session.documents[index]? = some document) {scene : Scene F M}
    (grown : (session.sceneOf document).Grown scene) :
    session.Grown (session.putScene index scene) := by
  refine ⟨grown.heap, fun place found there => ?_⟩
  have inside : index < session.documents.length := (List.getElem?_eq_some_iff.mp present).1
  by_cases same : index = place
  · subst same
    obtain rfl : document = found := Option.some.inj (present.symm.trans there)
    exact ⟨scene.document, List.getElem?_set_self inside, grown.document⟩
  · exact ⟨found, (List.getElem?_set_ne same).trans there, .refl found⟩

end Grown

/-- A session grows by a change of a document that gives no list other items. -/
theorem grown_changeDocument (session : Session F M) (index : Nat) {edits : Scene F M → List (Edit F)}
    (keeping : ∀ scene, ∀ edit ∈ edits scene, edit.rewrites = false) :
    session.Grown (session.changeDocument index edits).session := by
  cases present : session.documents[index]? with
  | none => simp only [changeDocument, present, Grown.refl]
  | some document =>
    simp only [changeDocument, present]
    exact Grown.putScene present (.editAll _ _ (keeping _))

/-- A session grows when a document comes in. -/
theorem grown_addDocument (session : Session F M) (document : TagBinding.Document F) :
    session.Grown (session.addDocument document) := by
  refine ⟨.makeAll _ _ _, fun index found present => ⟨found, ?_, .refl found⟩⟩
  have inside : index < session.documents.length := (List.getElem?_eq_some_iff.mp present).1
  exact (List.getElem?_append_left inside).trans present

section Growth

variable {behaviour : Behaviour F M} (keeps : ∀ function, (behaviour function).Keeps)
  (session : Session F M) (thread : Thread)

include keeps

/-- A session grows by the extraction of a document. -/
theorem grown_extractWith (extractor : Extractor F) (index : Nat) :
    session.Grown (session.extractWith behaviour thread extractor index).session := by
  cases present : session.documents[index]? with
  | none => rw [session.extractWith_of_none thread behaviour extractor present]
  | some document =>
    have all : ∀ binding ∈ extractor.bindings, Binding.Keeps behaviour binding :=
      fun binding _ => ⟨fun function _ => keeps function, fun function _ => keeps function⟩
    rw [session.extractWith_of_some thread behaviour extractor present]
    obtain ⟨heap, documents⟩ := Grown.putScene present (Scene.grown_extractPass all _)
    exact ⟨heap, documents⟩

/-- A session grows by the extraction of documents in order. -/
theorem grown_extractEachWith (extractor : Extractor F) (indices : List Nat) :
    session.Grown (session.extractEachWith behaviour thread extractor indices).session := by
  induction indices generalizing session with
  | nil => rfl
  | cons index rest ih =>
    have first := grown_extractWith keeps session thread extractor index
    simp only [extractEachWith]
    cases (session.extractWith behaviour thread extractor index).answer with
    | error fault => exact first
    | ok done => exact first.trans (ih _)

/-- A session grows by every command, whether it succeeds or ends in a fault. -/
theorem grown_perform (command : Command F) :
    session.Grown (session.perform behaviour thread command).session := by
  cases command with
  | newDocument document => exact grown_addDocument session document
  | extract extractor document =>
    unfold perform useExtractor
    dsimp only
    split
    · rfl
    · exact grown_extractWith keeps session thread _ document
  | extractEach extractor documents =>
    unfold perform useExtractor
    dsimp only
    split
    · rfl
    · split
      · exact grown_extractEachWith keeps session thread _ documents
      · exact grown_extractEachWith keeps session thread _ documents
  | addTag document tag =>
    exact grown_changeDocument session document fun scene =>
      List.forall_mem_append.mpr ⟨keeps_make _ _, List.forall_mem_singleton.mpr rfl⟩
  | assign document key value =>
    exact grown_changeDocument session document fun scene =>
      List.forall_mem_append.mpr ⟨keeps_make _ _, List.forall_mem_singleton.mpr rfl⟩
  | findTags document _ | canonicalName document _ | listTags document | read document _ _
  | demand document _ | contains document _ | readId document | readName document
  | describeBadTags document =>
    rw [perform, session_readDocument]
  | report reporter document message | reset reporter =>
    unfold perform useReporter
    dsimp only
    split
    · rfl
    · exact ⟨.refl _, fun index found present => ⟨found, present, .refl found⟩⟩

/-- A session grows by turns that are taken one after another. -/
theorem grown_afterTurns (turns : List (Turn F)) :
    session.Grown (session.afterTurns behaviour turns) := by
  induction turns generalizing session with
  | nil => rfl
  | cons turn rest ih =>
    exact (grown_perform keeps session turn.thread turn.command).trans (ih _)

end Growth

/-- A command that only reads or only uses a reporter leaves the documents and the lists as they
are. -/
theorem left_perform (behaviour : Behaviour F M) (session : Session F M) (thread : Thread)
    {command : Command F} (leaves : command.leavesDocuments = true) :
    (session.perform behaviour thread command).session.documents = session.documents ∧
      (session.perform behaviour thread command).session.heap = session.heap := by
  cases command with
  | newDocument _ | extract _ _ | extractEach _ _ | addTag _ _ | assign _ _ _ => cases leaves
  | findTags _ _ | canonicalName _ _ | listTags _ | read _ _ _ | demand _ _ | contains _ _
  | readId _ | readName _ | describeBadTags _ =>
    rw [perform, session_readDocument]
    exact ⟨rfl, rfl⟩
  | report _ _ _ | reset _ =>
    unfold perform useReporter
    dsimp only
    split <;> exact ⟨rfl, rfl⟩

/-- Lists that are made in one region leave the others as they are. -/
theorem sameAt_addDocument (session : Session F M) (document : TagBinding.Document F) {index : Nat}
    (inside : index < session.documents.length) :
    session.SameAt index (session.addDocument document) := by
  have apart : index ≠ session.documents.length := Nat.ne_of_lt inside
  have made : ∀ (lists : List (List (Value F))) (heap : Heap F),
      Heap.SameOn (InRegion index) heap (heap.makeAll session.documents.length lists) ∧
        heap.used index = (heap.makeAll session.documents.length lists).used index := by
    intro lists
    induction lists with
    | nil => exact fun heap => ⟨fun _ _ => rfl, rfl⟩
    | cons first rest ih =>
      intro heap
      obtain ⟨items, used⟩ := ih (heap.make session.documents.length first)
      constructor
      · intro address mine
        refine Eq.trans ?_ (items address mine)
        rw [Heap.items_make, if_neg]
        rintro rfl
        exact apart mine.symm
      · refine Eq.trans ?_ used
        show heap.used index =
          if index = session.documents.length then _ else heap.used index
        rw [if_neg apart]
  obtain ⟨items, lists⟩ := made _ session.heap
  exact ⟨(List.getElem?_append_left inside).symm, items, lists⟩

section Confined

variable {behaviour : Behaviour F M} (confined : ∀ function, (behaviour function).Confined)
  {session : Session F M} (housed : session.Housed) (thread : Thread)

include confined housed

/-- A command leaves the documents that it does not name as they are, with their lists. -/
theorem Housed.sameAt_perform (command : Command F) {index : Nat}
    (inside : index < session.documents.length) (unnamed : index ∉ command.documents) :
    session.SameAt index (session.perform behaviour thread command).session := by
  obtain ⟨watching, apart⟩ := thread.exists_ne
  cases settled : command.takesIn with
  | true =>
    cases command with
    | newDocument document => exact session.sameAt_addDocument document inside
    | _ => cases settled
  | false =>
    have agree : session.AgreeOn watching [index] _ :=
      agreeOn_perform housed apart confined command settled fun other member used =>
        unnamed (List.mem_singleton.mp used ▸ member)
    exact agree.places index (List.mem_singleton_self index)

/-- An extraction of documents in order that is stopped leaves the documents that it has not reached
as they are. -/
theorem Housed.sameAt_of_stopped {extractor : Nat} {found : Extractor F}
    (available : session.extractors[extractor]? = some found) {places : List Nat} {fault : Fault F}
    (answer : (session.perform behaviour thread (.extractEach extractor places)).answer =
      .error fault) :
    ∃ done failing rest, places = done ++ failing :: rest ∧
      ((session.afterTurns behaviour (extractions thread extractor done)).perform behaviour thread
        (.extract extractor failing)).answer = .error fault ∧
      ∀ index, index ∉ done ++ [failing] →
        session.SameAt index
          (session.perform behaviour thread (.extractEach extractor places)).session := by
  obtain ⟨done, failing, rest, split, -, failed, left, -⟩ :=
    stopped_of_fault behaviour thread available answer
  refine ⟨done, failing, rest, split, failed, fun index unreached => ?_⟩
  rw [left]
  exact housed.sameAt_afterTurns confined thread available unreached

end Confined

/-- What a session comes to by commands, if the functions act on the document that they are given
only and give no list other items. Every command, whether it succeeds or fails, leaves the keys of
each document, its well-formed and its bad tags as the beginning of what there is then, and so the
items of every list; it leaves the documents that it does not name as they are, with their lists,
and changes nothing if it only reads or only uses a reporter. An extraction of documents in order
that fails at one of them leaves those that come after it as they are. So over every run of commands
no property is dropped or moved, and no tag is lost, added twice or taken for one of the other
kind. -/
theorem append_only {behaviour : Behaviour F M}
    (keeps : ∀ function, (behaviour function).Keeps)
    (confined : ∀ function, (behaviour function).Confined) {session : Session F M}
    (housed : session.Housed) :
    (∀ (thread : Thread) (command : Command F),
      let after := (session.perform behaviour thread command).session
      session.Grown after ∧
        (∀ index < session.documents.length, index ∉ command.documents →
          session.SameAt index after) ∧
        (command.leavesDocuments = true →
          after.documents = session.documents ∧ after.heap = session.heap)) ∧
    (∀ (thread : Thread) (extractor : Nat) (found : Extractor F) (places : List Nat)
        (fault : Fault F),
      session.extractors[extractor]? = some found →
      let step := session.perform behaviour thread (.extractEach extractor places)
      step.answer = .error fault →
      ∃ done failing rest, places = done ++ failing :: rest ∧
        ((session.afterTurns behaviour (extractions thread extractor done)).perform behaviour
          thread (.extract extractor failing)).answer = .error fault ∧
        ∀ index, index ∉ done ++ [failing] → session.SameAt index step.session) ∧
    ∀ turns : List (Turn F), session.Grown (session.afterTurns behaviour turns) := by
  refine ⟨fun thread command => ⟨?_, ?_, ?_⟩, ?_, ?_⟩
  · exact grown_perform keeps session thread command
  · exact fun index inside unnamed => housed.sameAt_perform confined thread command inside unnamed
  · exact left_perform behaviour session thread
  · exact fun thread extractor found places fault available failed =>
      housed.sameAt_of_stopped confined thread available failed
  · exact grown_afterTurns keeps session

end Session

/-- The second of three documents has no title, and the extraction ends there: the first one has
grown, and the third one is as it was. -/
theorem headings_stopped :
    let perform := fun command => Session.headings.perform remarking .main command
    (perform (.extractEach 0 [0, 1, 2])).answer = .error (.missingTag "title" none none) ∧
      Session.headings.Grown (perform (.extractEach 0 [0, 1, 2])).session ∧
      Session.headings.SameAt 2 (perform (.extractEach 0 [0, 1])).session := by
  intro perform
  have keeps : ∀ function, (remarking function).Keeps :=
    fun _ => keeps_action (.addTag remark none)
  have confined : ∀ function, (remarking function).Confined :=
    fun _ => confined_action (.addTag remark none)
  have housed : Session.headings.Housed := Session.housed_ofPlain () _
  obtain ⟨commands, -⟩ := Session.append_only keeps confined housed
  obtain ⟨grown, -⟩ := commands .main (.extractEach 0 [0, 1, 2])
  obtain ⟨-, others, -⟩ := commands .main (.extractEach 0 [0, 1])
  exact ⟨rfl, grown, others 2 (by decide) (by decide)⟩

/-- A property that is given the errors of a tag, and then the values of other tags. -/
def gathering : Extractor Unit :=
  ⟨[⟨{ (Definition.plain "a").onto "x" with tagProperty := "errors" }, .identity, .identity⟩,
    ⟨((Definition.plain "b").onto "x").collecting, .identity, .identity⟩], .record⟩

/-- A document with two well-formed tags. -/
def gathered : TagBinding.Document Unit :=
  ⟨none, none, .ofList .empty
    [⟨"a", .text "q", 0, none, none, []⟩, ⟨"b", .text "r", 0, none, none, []⟩], .empty⟩

/-- The first tag stays in its place, but is read with an error after extraction: the list of its
errors has become that of the property, in which the value of the second tag is collected. -/
example :
    let keep : Behaviour Unit Unit := fun _ => Routine.identity
    let start : Session Unit Unit := .ofPlain () ⟨[gathered], [gathering], []⟩
    let after := (start.perform keep .main (.extract 0 0)).session
    (after.perform keep .main (.listTags 0)).answer =
      .ok (.allTags [⟨"a", .text "q", 0, none, none, ["r"]⟩, ⟨"b", .text "r", 0, none, none, []⟩]
        []) := by
  rfl

end Live

end TagBinding
