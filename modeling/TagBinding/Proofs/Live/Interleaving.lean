import TagBinding.Proofs.Live.Housing
import TagBinding.Stock.Standard
import Mathlib.Data.List.Forall2

/-!
# Threads that share no document

Two threads may use the same extractors and the same reporters at the same time. Extractors keep
nothing, and of a reporter a thread sees only its own memory (`Reporter.view`), so a thread that
does not share its documents cannot tell whether another one runs beside it. This takes functions
that act on the document that they are given only (`Routine.Confined`): a function that hands the
same list to every document, or that counts its runs, would carry something from one thread to the
other. The documents have no list in common to begin with (`Session.Housed`), as is the case for
every session that documents have come into, and stays so.

`Session.AgreeOn` says that two sessions are the same to one thread: its documents are the same, and
so are the lists in their regions. A command of that thread makes the same of both
(`Session.AgreeOn.perform`), and a command of another thread, on other documents, makes no
difference (`Session.agreeOn_perform`). Over a whole run each thread therefore does what it would do
alone (`Session.interleaved_as_alone`).
-/
namespace TagBinding

/-- The documents that a command uses. One that takes in a document uses none that is there. -/
def Command.documents {F : Type} : Command F → List Nat
  | newDocument _ | reset _ => []
  | extractEach _ documents => documents
  | extract _ document | addTag document _ | findTags document _ | canonicalName document _
  | listTags document | assign document _ _ | read document _ _ | demand document _
  | contains document _ | readId document | readName document | describeBadTags document
  | report _ document _ => [document]

/-- Whether a command takes in a document. -/
def Command.takesIn {F : Type} : Command F → Bool
  | newDocument _ => true
  | _ => false

namespace Live

variable {F M : Type}

namespace Session

/-- That two sessions are the same to a thread that uses some of the documents. What the functions
remember may differ. -/
structure AgreeOn (thread : Thread) (used : List Nat) (one other : Session F M) : Prop where
  /-- The sessions are the same in the places of these documents. -/
  places : ∀ index ∈ used, one.SameAt index other
  /-- The extractors are the same. -/
  extractors : one.extractors = other.extractors
  /-- The thread sees the same of every reporter. -/
  views : views thread one.reporters = views thread other.reporters

end Session

/-- That two steps come to the same for a thread that uses some of the documents. -/
structure Step.AgreeOn {α : Type} (thread : Thread) (used : List Nat) (one other : Step F M α) :
    Prop where
  /-- The answers are the same. -/
  answer : one.answer = other.answer
  /-- The same is put out. -/
  output : one.output = other.output
  /-- The sessions afterwards agree. -/
  session : one.session.AgreeOn thread used other.session

/-- Steps that come to the same still do with another answer in place of their own. -/
theorem Step.AgreeOn.map {α β : Type} {thread : Thread} {used : List Nat} {one other : Step F M α}
    (agree : one.AgreeOn thread used other) (change : α → β) :
    (one.map change).AgreeOn thread used (other.map change) :=
  ⟨congrArg (Except.map change) agree.answer, agree.output, agree.session⟩

namespace Session

variable {thread : Thread} {used : List Nat} {one other third : Session F M}

namespace AgreeOn

/-- Every session is the same as itself. -/
@[refl] theorem refl (thread : Thread) (used : List Nat) (session : Session F M) :
    session.AgreeOn thread used session :=
  ⟨fun index _ => .refl index session, rfl, rfl⟩

/-- The order of the two sessions makes no difference. -/
@[symm] theorem symm (agree : one.AgreeOn thread used other) : other.AgreeOn thread used one :=
  ⟨fun index member => (agree.places index member).symm, agree.extractors.symm, agree.views.symm⟩

/-- Sessions that are the same as a third one are the same. -/
theorem trans (first : one.AgreeOn thread used other) (second : other.AgreeOn thread used third) :
    one.AgreeOn thread used third where
  places index member := (first.places index member).trans (second.places index member)
  extractors := first.extractors.trans second.extractors
  views := first.views.trans second.views

variable (agree : one.AgreeOn thread used other)

include agree

/-- Scenes that are the same in their region, and differ from the sessions there only, may take the
place of a document. -/
theorem putScene {index : Nat} {first second : Scene F M}
    (left : Scene.Beside index one.heap first second)
    (right : Scene.Beside index other.heap second second) :
    (one.putScene index first).AgreeOn thread used (other.putScene index second) :=
  ⟨fun place member => (agree.places place member).putScene left right, agree.extractors,
    agree.views⟩

/-- Reporters of which the thread sees the same may take the place of those that are there. -/
theorem setReporters {former latter : List Reporter}
    (same : Live.views thread former = Live.views thread latter) :
    ({ one with reporters := former } : Session F M).AgreeOn thread used
      { other with reporters := latter } :=
  ⟨fun index member =>
    ⟨(agree.places index member).document, (agree.places index member).items,
      (agree.places index member).lists⟩, agree.extractors, same⟩

/-- What is read from a document that is used is the same if it depends on its region only. -/
theorem readDocument (housed : one.Housed) {index : Nat} (member : index ∈ used)
    {answer again : Document F → Except (Fault F) (Answer F)}
    (same : ∀ document, (one.sceneOf document).Alike index (other.sceneOf document) →
      answer document = again document) :
    (one.readDocument index answer).AgreeOn thread used (other.readDocument index again) := by
  rw [Session.readDocument, Session.readDocument, (agree.places index member).document]
  cases present : other.documents[index]? with
  | none => exact ⟨rfl, rfl, agree⟩
  | some document =>
    have found := ((agree.places index member).document).trans present
    exact ⟨same document (housed.alike_of_sameAt (agree.places index member) found), rfl, agree⟩

section Commands

variable (oneHoused : one.Housed) (otherHoused : other.Housed)

include oneHoused otherHoused

/-- An extraction comes to the same if its document is among those used. -/
theorem extractWith {behaviour : Behaviour F M} (confined : ∀ function, (behaviour function).Confined)
    (extractor : Extractor F) {index : Nat} (member : index ∈ used) :
    (one.extractWith behaviour thread extractor index).AgreeOn thread used
      (other.extractWith behaviour thread extractor index) := by
  have same := (agree.places index member).document
  cases present : other.documents[index]? with
  | none =>
    rw [one.extractWith_of_none thread behaviour extractor (same.trans present),
      other.extractWith_of_none thread behaviour extractor present]
    exact ⟨rfl, rfl, agree⟩
  | some document =>
    have found := same.trans present
    have all := fun binding (_ : binding ∈ extractor.bindings) =>
      Binding.Confined.of_all confined binding
    obtain ⟨passes, messages⟩ := extractPass_beside all (oneHoused.alike_of_sameAt (agree.places index member) found)
    have right := otherHoused.extractPass confined extractor.bindings present
    obtain ⟨output, seen⟩ := deliverEach_of_views agree.views extractor.sink index
      (extractPass behaviour extractor.bindings (one.sceneOf document)).messages
    rw [one.extractWith_of_some thread behaviour extractor found,
      other.extractWith_of_some thread behaviour extractor present, messages, passes.fault?,
      passes.debugLines]
    have put := agree.putScene passes.scene right
    exact ⟨rfl, congrArg (· ++ Output.ofDebug _) output, put.setReporters seen⟩

/-- An extraction of documents in order comes to the same if they are among those used. -/
theorem extractEachWith {behaviour : Behaviour F M}
    (confined : ∀ function, (behaviour function).Confined) (extractor : Extractor F)
    (indices : List Nat) (members : ∀ index ∈ indices, index ∈ used) :
    (one.extractEachWith behaviour thread extractor indices).AgreeOn thread used
      (other.extractEachWith behaviour thread extractor indices) := by
  induction indices generalizing one other with
  | nil => exact ⟨rfl, rfl, agree⟩
  | cons index rest ih =>
    obtain ⟨member, later⟩ := List.forall_mem_cons.mp members
    have first := agree.extractWith oneHoused otherHoused confined extractor member
    have others := ih first.session (oneHoused.extractWith confined thread extractor index)
      (otherHoused.extractWith confined thread extractor index) later
    simp only [Session.extractEachWith, first.answer, first.output]
    cases (other.extractWith behaviour thread extractor index).answer with
    | error fault => exact ⟨rfl, rfl, first.session⟩
    | ok done => exact ⟨others.answer, congrArg (_ ++ ·) others.output, others.session⟩

/-- A confined change of a document that is used comes to the same. -/
theorem changeDocument {index : Nat} (member : index ∈ used)
    {edits : Scene F M → List (Edit F)} (confined : ConfinedEdits edits) :
    (one.changeDocument index edits).AgreeOn thread used (other.changeDocument index edits) := by
  have same := (agree.places index member).document
  cases present : other.documents[index]? with
  | none =>
    simp only [Session.changeDocument, same, present]
    exact ⟨rfl, rfl, agree⟩
  | some document =>
    have alike := oneHoused.alike_of_sameAt (agree.places index member) (same.trans present)
    have again := otherHoused.alike present
    obtain ⟨edited, inside⟩ := confined alike
    have left := alike.beside.editAll _ inside
    have right := again.beside.editAll _ (confined again).2
    simp only [Session.changeDocument, same, present]
    rw [← edited] at left
    refine ⟨rfl, rfl, agree.putScene ?_ right⟩
    rwa [← edited]

end Commands

/-- The use of an extractor comes to the same if every extractor does. -/
theorem useExtractor (index : Nat) {run again : Extractor F → Step F M (Answer F)}
    (each : ∀ extractor, (run extractor).AgreeOn thread used (again extractor)) :
    (one.useExtractor index run).AgreeOn thread used (other.useExtractor index again) := by
  rw [Session.useExtractor, Session.useExtractor, agree.extractors]
  cases other.extractors[index]? with
  | none => exact ⟨rfl, rfl, agree⟩
  | some extractor => exact each extractor

/-- The use of a reporter comes to the same if it does for reporters of which the thread sees the
same. -/
theorem useReporter (index : Nat) {run again : Reporter → Step F M (Answer F)}
    (each : ∀ former latter, former.view thread = latter.view thread →
      (run former).AgreeOn thread used (again latter)) :
    (one.useReporter index run).AgreeOn thread used (other.useReporter index again) := by
  rw [Session.useReporter, Session.useReporter]
  rcases views_cases agree.views index with ⟨absent, alsoAbsent⟩ | found
  · rw [absent, alsoAbsent]
    exact ⟨rfl, rfl, agree⟩
  · obtain ⟨former, latter, present, alsoPresent, same⟩ := found
    rw [present, alsoPresent]
    exact each former latter same

end AgreeOn

end Session

namespace Scene.Alike

variable {region : Nat} {one other : Session F M} {document : Document F}
  (alike : (one.sceneOf document).Alike region (other.sceneOf document))

include alike

/-- Properties of a document are read alike where its region is the same. -/
theorem read_eq {key : String} {value : Value F} (found : document.get? key = some value) :
    one.heap.read value = other.heap.read value := by
  obtain ⟨closed, within⟩ := alike.atHome
  rw [alike.home] at closed within
  exact Heap.read_congr closed alike.items (within.properties key value found)

/-- Properties of a document, or what stands in for them, are read alike where its region is the
same. -/
theorem property_eq (key : String) (otherwise : TagBinding.Value F) :
    one.property document key otherwise = other.property document key otherwise := by
  unfold Session.property
  cases found : document.get? key with
  | none => rw [Option.elim_none, Option.elim_none]
  | some value => rw [Option.elim_some, Option.elim_some, alike.read_eq found]

/-- Tags of a document are read alike where its region is the same. -/
theorem readTags_eq {tags : List (Tag F)}
    (among : ∀ tag ∈ tags, tag ∈ document.wellFormed ∨ tag ∈ document.bad) :
    tags.map one.heap.readTag = tags.map other.heap.readTag := by
  obtain ⟨closed, within⟩ := alike.atHome
  rw [alike.home] at closed within
  refine List.map_congr_left fun tag member => Heap.readTag_congr closed alike.items ?_
  rcases among tag member with sound | marred
  · exact within.wellFormed tag sound
  · exact within.bad tag marred

/-- The report on bad tags is the same where the region of the document is. -/
theorem badTagReport_eq :
    (one.sceneOf document).badTagReport = (other.sceneOf document).badTagReport := by
  refine Scene.badTagReport_congr rfl rfl (fun key _ => ?_) ?_
  · show (document.get? key).map one.heap.read = (document.get? key).map other.heap.read
    cases found : document.get? key with
    | none => rw [Option.map_none, Option.map_none]
    | some value => rw [Option.map_some, Option.map_some, alike.read_eq found]
  · exact alike.readTags_eq fun tag member => .inr member

end Scene.Alike

namespace Session.AgreeOn

variable {thread : Thread} {used : List Nat} {one other : Session F M}

/-- A command with confined functions on documents that are used comes to the same. -/
theorem perform (agree : one.AgreeOn thread used other) (oneHoused : one.Housed)
    (otherHoused : other.Housed) {behaviour : Behaviour F M}
    (confined : ∀ function, (behaviour function).Confined) (command : Command F)
    (settled : command.takesIn = false) (members : ∀ index ∈ command.documents, index ∈ used) :
    (one.perform behaviour thread command).AgreeOn thread used
      (other.perform behaviour thread command) := by
  cases command with
  | newDocument document => cases settled
  | extract extractor document =>
    apply agree.useExtractor
    intro found
    have step := agree.extractWith oneHoused otherHoused confined found
      (members document (List.mem_singleton_self _))
    exact step.map _
  | extractEach extractor documents =>
    apply agree.useExtractor
    intro found
    have step := agree.extractEachWith oneHoused otherHoused confined found documents members
    simp only [step.answer, step.output]
    cases (other.extractEachWith behaviour thread found documents).answer with
    | error fault => exact ⟨rfl, rfl, step.session⟩
    | ok done => exact ⟨rfl, rfl, step.session⟩
  | addTag document tag =>
    exact agree.changeDocument oneHoused otherHoused
      (members document (List.mem_singleton_self _)) (confinedEdits_attach tag)
  | assign document key value =>
    exact agree.changeDocument oneHoused otherHoused
      (members document (List.mem_singleton_self _)) (confinedEdits_assign key value)
  | findTags document name =>
    apply agree.readDocument oneHoused (members document (List.mem_singleton_self _))
    intro found alike
    have tags := alike.readTags_eq fun tag (member : tag ∈ found.named name) =>
      .inl (List.mem_filter.mp member).1
    rw [tags]
  | canonicalName document name =>
    exact agree.readDocument oneHoused (members document (List.mem_singleton_self _))
      fun _ _ => rfl
  | listTags document =>
    apply agree.readDocument oneHoused (members document (List.mem_singleton_self _))
    intro found alike
    have wellFormed := alike.readTags_eq fun tag (member : tag ∈ found.wellFormed) => .inl member
    have bad := alike.readTags_eq fun tag (member : tag ∈ found.bad) => .inr member
    rw [wellFormed, bad]
  | read document key otherwise =>
    apply agree.readDocument oneHoused (members document (List.mem_singleton_self _))
    intro found alike
    rw [alike.property_eq]
  | demand document key =>
    apply agree.readDocument oneHoused (members document (List.mem_singleton_self _))
    intro found alike
    cases held : found.get? key with
    | none => rfl
    | some value =>
      dsimp only
      rw [alike.read_eq held]
  | contains document key =>
    exact agree.readDocument oneHoused (members document (List.mem_singleton_self _))
      fun _ _ => rfl
  | readId document | readName document =>
    apply agree.readDocument oneHoused (members document (List.mem_singleton_self _))
    intro found alike
    rw [alike.property_eq]
  | describeBadTags document =>
    apply agree.readDocument oneHoused (members document (List.mem_singleton_self _))
    intro found alike
    rw [alike.badTagReport_eq]
  | report reporter document message =>
    apply agree.useReporter
    intro _ _ _
    obtain ⟨output, seen⟩ := deliver_of_views agree.views (.reporter reporter) ⟨document, message⟩
    exact ⟨rfl, output, agree.setReporters seen⟩
  | reset reporter =>
    apply agree.useReporter
    intro former latter same
    have seen := views_set agree.views reporter (Reporter.view_remember same none)
    exact ⟨rfl, rfl, agree.setReporters seen⟩

end Session.AgreeOn

namespace Session

/-! Another thread, on other documents, makes no difference. -/

variable {here there : Thread} {used : List Nat} (session : Session F M)

/-- A document that is not used may change in its own region. -/
theorem agreeOn_putScene (here : Thread) {index : Nat} (outside : index ∉ used)
    {scene : Scene F M} (beside : Scene.Beside index session.heap scene scene) :
    session.AgreeOn here used (session.putScene index scene) :=
  ⟨fun place member =>
    have apart : index ≠ place := fun same => outside (same ▸ member)
    session.sameAt_putScene apart beside, rfl, rfl⟩

/-- Reporters may change where the thread does not see it. -/
theorem agreeOn_setReporters (here : Thread) (used : List Nat) {reporters : List Reporter}
    (same : views here reporters = views here session.reporters) :
    session.AgreeOn here used { session with reporters := reporters } :=
  ⟨fun _ _ => ⟨rfl, fun _ _ => rfl, rfl⟩, rfl, same.symm⟩

/-- The use of an extractor makes no difference if it makes none with any extractor. -/
theorem agreeOn_useExtractor (index : Nat) {run : Extractor F → Step F M (Answer F)}
    (each : ∀ extractor, session.AgreeOn here used (run extractor).session) :
    session.AgreeOn here used (session.useExtractor index run).session := by
  rw [useExtractor]
  cases session.extractors[index]? with
  | none => rfl
  | some extractor => exact each extractor

/-- The use of a reporter makes no difference if it makes none with the reporter that is there. -/
theorem agreeOn_useReporter (index : Nat) {run : Reporter → Step F M (Answer F)}
    (each : ∀ reporter, session.reporters[index]? = some reporter →
      session.AgreeOn here used (run reporter).session) :
    session.AgreeOn here used (session.useReporter index run).session := by
  rw [useReporter]
  cases present : session.reporters[index]? with
  | none => rfl
  | some reporter => exact each reporter present

variable {session} (housed : session.Housed)

include housed

/-- The confined change of a document that is not used makes no difference. -/
theorem agreeOn_changeDocument {index : Nat} (outside : index ∉ used)
    {edits : Scene F M → List (Edit F)} (confined : ConfinedEdits edits) :
    session.AgreeOn here used (session.changeDocument index edits).session := by
  cases present : session.documents[index]? with
  | none => simp only [changeDocument, present, AgreeOn.refl]
  | some document =>
    have alike := housed.alike present
    have beside := alike.beside.editAll _ (confined alike).2
    simp only [changeDocument, present]
    exact session.agreeOn_putScene here outside beside

variable (apart : here ≠ there) {behaviour : Behaviour F M}
  (confined : ∀ function, (behaviour function).Confined)

include apart confined

/-- A thread does not notice the extraction of a document that it does not use. -/
theorem agreeOn_extractWith (extractor : Extractor F) {index : Nat} (outside : index ∉ used) :
    session.AgreeOn here used (session.extractWith behaviour there extractor index).session := by
  cases present : session.documents[index]? with
  | none => rw [session.extractWith_of_none there behaviour extractor present]
  | some document =>
    rw [session.extractWith_of_some there behaviour extractor present]
    have beside := housed.extractPass confined extractor.bindings present
    have put := session.agreeOn_putScene here outside beside
    exact put.trans (agreeOn_setReporters _ here used (views_deliverEach_of_ne _ apart _ _ _))

/-- A thread does not notice the extraction of documents that it does not use. -/
theorem agreeOn_extractEachWith (extractor : Extractor F) (indices : List Nat)
    (outside : ∀ index ∈ indices, index ∉ used) :
    session.AgreeOn here used
      (session.extractEachWith behaviour there extractor indices).session := by
  induction indices generalizing session with
  | nil => rfl
  | cons index rest ih =>
    obtain ⟨head, tail⟩ := List.forall_mem_cons.mp outside
    have first := agreeOn_extractWith housed apart confined extractor head
    have still := housed.extractWith confined there extractor index
    simp only [extractEachWith]
    cases (session.extractWith behaviour there extractor index).answer with
    | error fault => exact first
    | ok done => exact first.trans (ih still tail)

/-- A thread does not notice a command of another one on documents that it does not use. -/
theorem agreeOn_perform (command : Command F) (settled : command.takesIn = false)
    (outside : ∀ index ∈ command.documents, index ∉ used) :
    session.AgreeOn here used (session.perform behaviour there command).session := by
  cases command with
  | newDocument document => cases settled
  | extract extractor document =>
    apply session.agreeOn_useExtractor
    intro found
    exact agreeOn_extractWith housed apart confined found
      (outside document (List.mem_singleton_self _))
  | extractEach extractor documents =>
    apply session.agreeOn_useExtractor
    intro found
    have step := agreeOn_extractEachWith housed apart confined found documents outside
    dsimp only
    split <;> exact step
  | addTag document tag =>
    exact agreeOn_changeDocument housed (outside document (List.mem_singleton_self _))
      (confinedEdits_attach tag)
  | assign document key value =>
    exact agreeOn_changeDocument housed (outside document (List.mem_singleton_self _))
      (confinedEdits_assign key value)
  | findTags document _ | canonicalName document _ | listTags document | read document _ _
  | demand document _ | contains document _ | readId document | readName document
  | describeBadTags document =>
    rw [perform, session_readDocument]
  | report reporter document message =>
    apply session.agreeOn_useReporter
    intro _ _
    exact session.agreeOn_setReporters here used
      (views_deliver_of_ne session.reporters apart (.reporter reporter) ⟨document, message⟩)
  | reset reporter =>
    apply session.agreeOn_useReporter
    intro found present
    exact session.agreeOn_setReporters here used
      (views_set_of_view present (found.view_remember_of_ne apart none))

end Session

/-- A command with the thread that carries it out. -/
structure Turn (F : Type) where
  /-- The thread. -/
  thread : Thread
  /-- The command. -/
  command : Command F

/-- A turn with what comes of it. -/
structure Entry (F M : Type) where
  /-- The turn. -/
  turn : Turn F
  /-- What comes of it. -/
  step : Step F M (Answer F)

/-- That a thread may count on a turn: the documents in it are used by the thread if the turn is its
own, and are not if it is not. -/
structure Turn.Respects (thread : Thread) (used : List Nat) (turn : Turn F) : Prop where
  /-- No document is taken in. -/
  settled : turn.command.takesIn = false
  /-- The documents are those of the thread or others. -/
  documents : ∀ index ∈ turn.command.documents, index ∈ used ↔ turn.thread = thread

/-- That the same turn comes to the same for a thread that uses some of the documents. -/
structure Entry.AgreeOn (thread : Thread) (used : List Nat) (one other : Entry F M) : Prop where
  /-- The turns are the same. -/
  turn : one.turn = other.turn
  /-- They come to the same. -/
  step : one.step.AgreeOn thread used other.step

namespace Session

/-- Take turns one after another: what comes of each. -/
def transcript (behaviour : Behaviour F M) (session : Session F M) : List (Turn F) → List (Entry F M)
  | [] => []
  | turn :: rest =>
    let step := session.perform behaviour turn.thread turn.command
    ⟨turn, step⟩ :: step.session.transcript behaviour rest

/-- Take turns one after another: the session afterwards. -/
def afterTurns (behaviour : Behaviour F M) (session : Session F M) : List (Turn F) → Session F M
  | [] => session
  | turn :: rest =>
    (session.perform behaviour turn.thread turn.command).session.afterTurns behaviour rest

/-- Turns with confined functions leave a session housed. -/
theorem Housed.afterTurns {behaviour : Behaviour F M}
    (confined : ∀ function, (behaviour function).Confined) {session : Session F M}
    (housed : session.Housed) (turns : List (Turn F)) :
    (session.afterTurns behaviour turns).Housed := by
  induction turns generalizing session with
  | nil => exact housed
  | cons turn rest ih => exact ih (housed.perform confined turn.thread turn.command)

/-- The turns of a thread come to the same with the turns of others between them and without. -/
theorem AgreeOn.transcript {thread : Thread} {used : List Nat} {one other : Session F M}
    (agree : one.AgreeOn thread used other) (oneHoused : one.Housed) (otherHoused : other.Housed)
    {behaviour : Behaviour F M} (confined : ∀ function, (behaviour function).Confined)
    (turns : List (Turn F)) (respects : ∀ turn ∈ turns, turn.Respects thread used) :
    List.Forall₂ (Entry.AgreeOn thread used)
        ((one.transcript behaviour turns).filter (·.turn.thread = thread))
        (other.transcript behaviour (turns.filter (·.thread = thread))) ∧
      (one.afterTurns behaviour turns).AgreeOn thread used
        (other.afterTurns behaviour (turns.filter (·.thread = thread))) := by
  induction turns generalizing one other with
  | nil => exact ⟨.nil, agree⟩
  | cons turn rest ih =>
    obtain ⟨⟨settled, documents⟩, later⟩ := List.forall_mem_cons.mp respects
    have next := oneHoused.perform confined turn.thread turn.command
    rw [Session.transcript, Session.afterTurns]
    -- An own turn is taken in both sessions, a turn of another thread in the first one only.
    by_cases own : turn.thread = thread
    · have step := agree.perform oneHoused otherHoused confined turn.command settled
        fun index member => (documents index member).mpr own
      have otherNext := otherHoused.perform confined thread turn.command
      rw [own] at next
      obtain ⟨entries, last⟩ := ih step.session next otherNext later
      rw [List.filter_cons_of_pos (by simpa using own),
        List.filter_cons_of_pos (by simpa using own), Session.transcript, Session.afterTurns, own]
      exact ⟨.cons ⟨rfl, step⟩ entries, last⟩
    · have unnoticed := agreeOn_perform oneHoused (Ne.symm own) confined turn.command settled
        fun index member used => own ((documents index member).mp used)
      obtain ⟨entries, last⟩ := ih (unnoticed.symm.trans agree) next otherHoused later
      rw [List.filter_cons_of_neg (by simpa using own),
        List.filter_cons_of_neg (by simpa using own)]
      exact ⟨entries, last⟩

/-- That the commands of a thread come to the same among turns as they would alone: each of them has
the same answer and puts out the same, and leaves the documents that they use the same. -/
structure AsAlone (behaviour : Behaviour F M) (session : Session F M) (turns : List (Turn F))
    (thread : Thread) (commands : List (Command F)) : Prop where
  /-- Each command comes to the same. -/
  entries : List.Forall₂ (Entry.AgreeOn thread (commands.flatMap Command.documents))
    ((session.transcript behaviour turns).filter (·.turn.thread = thread))
    (session.transcript behaviour (commands.map (Turn.mk thread)))
  /-- The sessions at the end agree. -/
  session : (session.afterTurns behaviour turns).AgreeOn thread
    (commands.flatMap Command.documents)
    (session.afterTurns behaviour (commands.map (Turn.mk thread)))

end Session

/-- That a list is put together from two others, each of which keeps its order. -/
inductive Interleaving {α : Type} : List α → List α → List α → Prop where
  /-- Nothing is put together from nothing. -/
  | nil : Interleaving [] [] []
  /-- The first list has its turn. -/
  | left {first second merged : List α} (head : α) :
    Interleaving first second merged → Interleaving (head :: first) second (head :: merged)
  /-- The second list has its turn. -/
  | right {first second merged : List α} (head : α) :
    Interleaving first second merged → Interleaving first (head :: second) (head :: merged)

namespace Interleaving

variable {α : Type} {first second merged : List α}

/-- The order of the two lists makes no difference. -/
theorem symm (interleaved : Interleaving first second merged) :
    Interleaving second first merged := by
  induction interleaved with
  | nil => exact .nil
  | left head _ ih => exact .right head ih
  | right head _ ih => exact .left head ih

/-- What is in neither list is not in their interleaving. -/
theorem mem_or_mem (interleaved : Interleaving first second merged) :
    ∀ item ∈ merged, item ∈ first ∨ item ∈ second := by
  induction interleaved with
  | nil => exact fun item member => .inl member
  | left head _ ih => grind
  | right head _ ih => grind

/-- A list is what is left of an interleaving without the items of the other list. -/
theorem filter_eq (interleaved : Interleaving first second merged) {keep : α → Bool}
    (kept : ∀ item ∈ first, keep item = true) (dropped : ∀ item ∈ second, keep item = false) :
    merged.filter keep = first := by
  induction interleaved with
  | nil => rfl
  | left head _ ih =>
    obtain ⟨here, later⟩ := List.forall_mem_cons.mp kept
    rw [List.filter_cons_of_pos here, ih later dropped]
  | right head _ ih =>
    obtain ⟨here, later⟩ := List.forall_mem_cons.mp dropped
    rw [List.filter_cons_of_neg (by simp [here]), ih kept later]

end Interleaving

namespace Session.Housed

variable {session : Session F M} (housed : session.Housed) {behaviour : Behaviour F M}
  (confined : ∀ function, (behaviour function).Confined)

include housed confined

/-- Of two threads that use different documents, the first one does what it would do alone. -/
theorem asAlone_left {here there : Thread} (apart : here ≠ there) {mine yours : List (Command F)}
    (mineSettled : ∀ command ∈ mine, command.takesIn = false)
    (yoursSettled : ∀ command ∈ yours, command.takesIn = false)
    (disjoint : List.Disjoint (mine.flatMap Command.documents) (yours.flatMap Command.documents))
    {turns : List (Turn F)}
    (interleaved : Interleaving (mine.map (Turn.mk here)) (yours.map (Turn.mk there)) turns) :
    session.AsAlone behaviour turns here mine := by
  have respects : ∀ turn ∈ turns, turn.Respects here (mine.flatMap Command.documents) := by
    intro turn member
    rcases interleaved.mem_or_mem turn member with own | foreign
    · obtain ⟨command, among, rfl⟩ := List.mem_map.mp own
      refine ⟨mineSettled command among, fun index used => ?_⟩
      have known := List.mem_flatMap.mpr ⟨command, among, used⟩
      exact iff_of_true known rfl
    · obtain ⟨command, among, rfl⟩ := List.mem_map.mp foreign
      refine ⟨yoursSettled command among, fun index used => ?_⟩
      have known := List.mem_flatMap.mpr ⟨command, among, used⟩
      exact iff_of_false (fun both => disjoint both known) apart.symm
  have own : turns.filter (·.thread = here) = mine.map (Turn.mk here) := by
    apply interleaved.filter_eq
    · simp
    · simp [apart.symm]
  obtain ⟨entries, last⟩ :=
    (AgreeOn.refl here _ session).transcript housed housed confined turns respects
  rw [own] at entries last
  exact ⟨entries, last⟩

end Session.Housed

/-- A document with a bad tag. -/
def unclear : TagBinding.Document Unit :=
  ⟨none, none, .ofList .empty [⟨"see", .null, 2, none, none, ["unclear"]⟩], .empty⟩

/-- Two such documents, and an extractor that reports to a reporter. -/
def Session.reporting : Session Unit Unit :=
  .ofPlain ()
    ⟨[unclear, unclear], [⟨[⟨.plain "title", .identity, .identity⟩], .reporter 0⟩], [.standard]⟩

end Live

end TagBinding
